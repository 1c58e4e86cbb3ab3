import LiterateConfig.Text.Blank
import LiterateConfig.Text.Word

/-!
# Whole numbers as text

`readInt?` accepts what a person may write for a whole number: spaces around
it, a sign, digits of any script, and single underscores between digits.
`digitLimit` bounds the digits on both ways; longer numbers are refused.
-/
namespace LiterateConfig.Text

/-- The most decimal digits that are converted to or from text. -/
def digitLimit : Nat := 4300

/-- Space around a number: ASCII space and U+0009 to U+000D, or any blank beyond ASCII. -/
def isNumeralSpace (c : Char) : Bool :=
  if c.toNat < 128 then c == ' ' || (9 ≤ c.toNat && c.toNat ≤ 13) else isBlank c

/-- The values of digits, a single underscore being allowed between two. -/
def readDigits? : List Char → Option (List Nat)
  | [] => none
  | [c] => (digitValue? c).map fun d => [d]
  | c :: '_' :: r => do
    let d ← digitValue? c
    let ds ← readDigits? r
    some (d :: ds)
  | c :: r => do
    let d ← digitValue? c
    let ds ← readDigits? r
    some (d :: ds)

def ofDigits (base : Nat) (ds : List Nat) : Nat := ds.foldl (fun n d => n * base + d) 0

/-- The whole number that a text spells. -/
def readInt? (s : String) : Option Int :=
  let l := dropEndWhile isNumeralSpace (s.toList.dropWhile isNumeralSpace)
  let (negative, digits) := match l with
    | '-' :: r => (true, r)
    | '+' :: r => (false, r)
    | r => (false, r)
  match readDigits? digits with
  | none => none
  | some ds =>
    if digitLimit < ds.length then none
    else if negative then some (-(ofDigits 10 ds : Nat)) else some (ofDigits 10 ds : Nat)

/-- Decimal digits of `n`. -/
def natText (n : Nat) : String := toString n

def intText : Int → String
  | .ofNat n => natText n
  | .negSucc n => "-" ++ natText (n + 1)

/-- Decimal text of a number that is within the digit limit. -/
def intText? (n : Int) : Option String :=
  let t := natText n.natAbs
  if digitLimit < t.length then none else some (intText n)

end LiterateConfig.Text
