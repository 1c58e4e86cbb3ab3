import LiterateConfig.Json.Basic
import LiterateConfig.Number.Binary64
import LiterateConfig.Text.Hex
import LiterateConfig.Text.Numeral

/-!
# Reading JSON

`read` accepts one JSON value with blanks around it. Beyond the standard it
reads `NaN`, `Infinity` and `-Infinity`; a whole number of more than
`Text.digitLimit` digits and a control character inside a text are refused,
and so are values nested deeper than `depthLimit`.
-/
namespace LiterateConfig.Json

/-- Why a text is not read. -/
inductive Problem where
  | malformed
  | tooDeep
  deriving DecidableEq, Repr

/-- The most lists and records that may be open at once. -/
def depthLimit : Nat := 990

def isSpace (c : Char) : Bool := c == ' ' || c == '\t' || c == '\n' || c == '\r'

def skipSpace (l : List Char) : List Char := l.dropWhile isSpace

/-! ## Texts -/

/-- Four hexadecimal digits. -/
def readUnit : List Char → Option (Nat × List Char)
  | a :: b :: c :: d :: r => (Text.readHex? [a, b, c, d]).map fun n => (n, r)
  | _ => none

/-- The character of an escape, behind its backslash. A high surrogate takes the
low one behind it; a surrogate on its own stands for no character and is replaced. -/
def readEscape : List Char → Option (Char × List Char)
  | '"' :: r => some ('"', r)
  | '\\' :: r => some ('\\', r)
  | '/' :: r => some ('/', r)
  | 'b' :: r => some (Char.ofNat 8, r)
  | 'f' :: r => some (Char.ofNat 12, r)
  | 'n' :: r => some ('\n', r)
  | 'r' :: r => some ('\r', r)
  | 't' :: r => some ('\t', r)
  | 'u' :: r => do
    let (n, rest) ← readUnit r
    if 0xd800 ≤ n ∧ n < 0xdc00 then
      match rest with
      | '\\' :: 'u' :: r2 =>
        match readUnit r2 with
        | some (m, rest2) =>
          if 0xdc00 ≤ m ∧ m < 0xe000 then
            some (Char.ofNat (0x10000 + (n - 0xd800) * 0x400 + (m - 0xdc00)), rest2)
          else some (Char.ofNat 0xfffd, rest)
        | none => none
      | _ => some (Char.ofNat 0xfffd, rest)
    else if 0xdc00 ≤ n ∧ n < 0xe000 then some (Char.ofNat 0xfffd, rest)
    else some (Char.ofNat n, rest)
  | _ => none

/-- The characters of a text behind its opening quote. -/
def readChars : Nat → List Char → Option (List Char × List Char)
  | 0, _ => none
  | _ + 1, [] => none
  | _ + 1, '"' :: r => some ([], r)
  | fuel + 1, '\\' :: r => do
    let (c, rest) ← readEscape r
    let (cs, rest) ← readChars fuel rest
    some (c :: cs, rest)
  | fuel + 1, c :: r =>
    if c.toNat < 32 then none
    else do
      let (cs, rest) ← readChars fuel r
      some (c :: cs, rest)

def readText (l : List Char) : Option (String × List Char) :=
  (readChars (l.length + 1) l).map fun (cs, r) => (String.ofList cs, r)

/-! ## Numbers -/

def digitsValue (l : List Char) : Nat := Text.ofDigits 10 (l.map fun c => c.toNat - 48)

/-- The digits behind a point, at least one. -/
def readFraction : List Char → Option (List Char × List Char)
  | '.' :: r => match r.takeWhile Char.isDigit with
    | [] => none
    | ds => some (ds, r.dropWhile Char.isDigit)
  | _ => none

/-- The exponent, with at least one digit. -/
def readExponent : List Char → Option (Int × List Char)
  | c :: r =>
    if c = 'e' || c = 'E' then
      let (sign, r) : Int × List Char := match r with
        | '-' :: r => (-1, r)
        | '+' :: r => (1, r)
        | r => (1, r)
      match r.takeWhile Char.isDigit with
      | [] => none
      | ds => some (sign * digitsValue ds, r.dropWhile Char.isDigit)
    else none
  | [] => none

/-- The digits of a whole part: a zero in front stands alone. -/
def readWhole : List Char → List Char × List Char
  | '0' :: r => (['0'], r)
  | l => (l.takeWhile Char.isDigit, l.dropWhile Char.isDigit)

/-- A number, its sign already read: a whole part without leading zeros, then
perhaps a fraction and an exponent, which make it a double. -/
def readNumber (negative : Bool) (l : List Char) : Option (Data × List Char) :=
  let (whole, r) := readWhole l
  if whole.isEmpty then none
  else
    let (fraction, r1) := (readFraction r).getD ([], r)
    let (exponent, r2) := match readExponent r1 with
      | some (e, r2) => (some e, r2)
      | none => (none, r1)
    if fraction.isEmpty && exponent.isNone then
      if Text.digitLimit < whole.length then none
      else
        let n : Int := digitsValue whole
        some (.int (if negative then -n else n), r)
    else
      let e : Int := exponent.getD 0 - fraction.length
      some (.float (Number.ofDecimal negative (digitsValue (whole ++ fraction)) e), r2)

/-! ## Values -/

/-- A value that starts with neither a bracket nor a quote. -/
def readWordOrNumber : List Char → Option (Data × List Char)
  | 'n' :: 'u' :: 'l' :: 'l' :: r => some (.null, r)
  | 't' :: 'r' :: 'u' :: 'e' :: r => some (.bool true, r)
  | 'f' :: 'a' :: 'l' :: 's' :: 'e' :: r => some (.bool false, r)
  | 'N' :: 'a' :: 'N' :: r => some (.float (0.0 / 0.0), r)
  | 'I' :: 'n' :: 'f' :: 'i' :: 'n' :: 'i' :: 't' :: 'y' :: r => some (.float (1.0 / 0.0), r)
  | '-' :: 'I' :: 'n' :: 'f' :: 'i' :: 'n' :: 'i' :: 't' :: 'y' :: r => some (.float (-1.0 / 0.0), r)
  | '-' :: r => readNumber true r
  | l => readNumber false l

def orMalformed {α : Type} : Option α → Except Problem α
  | some x => .ok x
  | none => .error .malformed

mutual

/-- A value at the front of `l`, inside `depth` open lists and records. -/
def readValue : Nat → Nat → List Char → Except Problem (Data × List Char)
  | 0, _, _ => .error .malformed
  | _ + 1, _, '"' :: r => do
    let (s, rest) ← orMalformed (readText r)
    return (.text s, rest)
  | fuel + 1, depth, '[' :: r =>
    if depthLimit ≤ depth then .error .tooDeep
    else match skipSpace r with
      | ']' :: rest => .ok (.list [], rest)
      | r => do
        let (items, rest) ← readItems fuel (depth + 1) r
        return (.list items, rest)
  | fuel + 1, depth, '{' :: r =>
    if depthLimit ≤ depth then .error .tooDeep
    else match skipSpace r with
      | '}' :: rest => .ok (.record [], rest)
      | r => do
        let (members, rest) ← readMembers fuel (depth + 1) [] r
        return (.record members, rest)
  | _ + 1, _, l => orMalformed (readWordOrNumber l)

/-- The items of a list up to its closing bracket. -/
def readItems : Nat → Nat → List Char → Except Problem (List Data × List Char)
  | 0, _, _ => .error .malformed
  | fuel + 1, depth, l => do
    let (x, rest) ← readValue fuel depth l
    match skipSpace rest with
    | ',' :: r => do
      let (xs, rest) ← readItems fuel depth (skipSpace r)
      return (x :: xs, rest)
    | ']' :: r => return ([x], r)
    | _ => .error .malformed

/-- The members of a record up to its closing brace, put behind `seen`. -/
def readMembers : Nat → Nat → List (String × Data) → List Char →
    Except Problem (List (String × Data) × List Char)
  | 0, _, _, _ => .error .malformed
  | fuel + 1, depth, seen, '"' :: l => do
    let (name, rest) ← orMalformed (readText l)
    match skipSpace rest with
    | ':' :: r => do
      let (v, rest) ← readValue fuel depth (skipSpace r)
      let seen := Keyed.put name v seen
      match skipSpace rest with
      | ',' :: r => readMembers fuel depth seen (skipSpace r)
      | '}' :: r => return (seen, r)
      | _ => .error .malformed
    | _ => .error .malformed
  | _ + 1, _, _, _ => .error .malformed

end

/-- The value that a JSON text spells. -/
def read (text : String) : Except Problem Data := do
  let l := skipSpace text.toList
  let (d, rest) ← readValue (2 * l.length + 2) 0 l
  if (skipSpace rest).isEmpty then return d else .error .malformed

end LiterateConfig.Json
