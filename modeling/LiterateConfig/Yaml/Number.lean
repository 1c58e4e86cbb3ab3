import LiterateConfig.Number.Binary64
import LiterateConfig.Text.Case
import LiterateConfig.Text.Hex
import LiterateConfig.Text.Lines
import LiterateConfig.Text.Numeral
import LiterateConfig.Yaml.Basic

/-!
# Numbers in a document

Whole numbers are binary behind `0b`, hexadecimal behind `0x`, octal behind `0`
and otherwise decimal. Numbers in parts with colons between them are counted in
sixties. Underscores do not count.
-/
namespace LiterateConfig.Yaml

open LiterateConfig.Text

/-- A text without the spaces around it. -/
def withoutSpace (l : List Char) : List Char := dropEndWhile isNumeralSpace (l.dropWhile isNumeralSpace)

def withoutUnderscores (l : List Char) : List Char := l.filter (· != '_')

/-- A sign in front, and the rest. -/
def splitSign (l : List Char) : Bool × List Char :=
  match l with
  | '-' :: r => (true, r)
  | '+' :: r => (false, r)
  | r => (false, r)

/-! ## Whole numbers -/

/-- The value of a digit or letter in a base. -/
def digitIn? (base : Nat) (c : Char) : Option Nat :=
  (digitValue? c <|> hexValue? c).filter fun d => d < base

/-- What stands behind the letter of a base in front of its digits. -/
def withoutBase (base : Nat) (l : List Char) : List Char :=
  match l with
  | '0' :: c :: r =>
    let letter := if base = 2 then 'b' else if base = 8 then 'o' else if base = 16 then 'x' else '0'
    if c.toLower = letter && base != 10 && !r.isEmpty then r else l
  | l => l

/-- A whole number in a base, perhaps with a sign and the letter of the base. -/
def readIn (base : Nat) (l : List Char) : Except Problem Int :=
  let (negative, r) := splitSign (withoutSpace l)
  let ds := withoutBase base r
  match ds.mapM (digitIn? base) with
  | none => .error .badValue
  | some values =>
    if values.isEmpty || (base == 10 && decide (digitLimit < values.length)) then .error .badValue
    else
      let n : Int := ofDigits base values
      .ok (if negative then -n else n)

/-- Parts as a number counted in sixties. -/
def inSixties (parts : List Int) : Int := parts.foldl (fun n d => n * 60 + d) 0

/-- A whole number without its sign. -/
def readUnsigned (l : List Char) : Except Problem Int :=
  match l with
  | [] => .error .emptyNumber
  | ['0'] => .ok 0
  | '0' :: 'b' :: r => readIn 2 r
  | '0' :: 'x' :: r => readIn 16 r
  | '0' :: _ => readIn 8 l
  | l =>
    if l.contains ':' then (splitOn ':' l |>.mapM (readIn 10)).map inSixties
    else readIn 10 l

/-- The whole number that a text spells. -/
def readInt (text : String) : Except Problem Int :=
  match withoutUnderscores text.toList with
  | [] => .error .emptyNumber
  | l =>
    let (negative, r) := splitSign l
    (readUnsigned r).map fun n => if negative then -n else n

/-! ## Doubles -/

/-- Digits of any script. -/
def takeDigits : List Char → List Nat × List Char
  | [] => ([], [])
  | c :: r => match digitValue? c with
    | some d => let (ds, rest) := takeDigits r; (d :: ds, rest)
    | none => ([], c :: r)

/-- An exponent behind its letter, up to the end. -/
def readExponent (l : List Char) : Option Int :=
  match l with
  | [] => some 0
  | c :: r =>
    if c = 'e' || c = 'E' then
      let (negative, r) := splitSign r
      match takeDigits r with
      | (d :: ds, []) =>
        let n : Int := ofDigits 10 (d :: ds)
        some (if negative then -n else n)
      | _ => none
    else none

/-- A decimal number without sign. -/
def readDecimal? (negative : Bool) (l : List Char) : Option Float := do
  let (whole, r) := takeDigits l
  let (fraction, r) := match r with
    | '.' :: r => takeDigits r
    | r => ([], r)
  let e ← readExponent r
  if whole.isEmpty && fraction.isEmpty then none
  else some (Number.ofDecimal negative (ofDigits 10 (whole ++ fraction)) (e - fraction.length))

def infinite (negative : Bool) : Float := if negative then -(1.0 / 0.0) else 1.0 / 0.0

def notANumber : Float := 0.0 / 0.0

/-- The double that a text spells, also by name. -/
def readFloat? (l : List Char) : Option Float :=
  let (negative, r) := splitSign (withoutSpace l)
  let name := String.ofList (r.map Char.toLower)
  if name = "inf" || name = "infinity" then some (infinite negative)
  else if name = "nan" then some notANumber
  else readDecimal? negative r

def orBadValue {α : Type} : Option α → Except Problem α
  | some a => .ok a
  | none => .error .badValue

/-- The parts of a number counted in sixties, added from the last on. -/
def addSixties (base : Nat) (sum : Float) : List Float → Except Problem Float
  | [] => .ok sum
  | d :: ds =>
    let unit := Number.ofNat base
    if unit.isInf then .error .tooLarge else addSixties (base * 60) (sum + d * unit) ds

/-- The double that a text spells. -/
def readFloat (text : String) : Except Problem Float :=
  match withoutUnderscores (Text.lower text).toList with
  | [] => .error .emptyNumber
  | l => do
    let (negative, r) := splitSign l
    let sign : Float := if negative then -1 else 1
    if r = ['.', 'i', 'n', 'f'] then return sign * infinite false
    else if r = ['.', 'n', 'a', 'n'] then return notANumber
    else if r.contains ':' then
      let parts ← orBadValue ((splitOn ':' r).mapM readFloat?)
      return sign * (← addSixties 1 0 parts.reverse)
    else return sign * (← orBadValue (readFloat? r))

end LiterateConfig.Yaml
