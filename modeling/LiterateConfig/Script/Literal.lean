import LiterateConfig.Number.Binary64
import LiterateConfig.Script.Token
import LiterateConfig.Text.Composed
import LiterateConfig.Text.Numeral

/-!
# Literals of the block language

Reading the names, numbers and texts at the front of a line. Every reader gives
back what it did not use, or nothing when the literal is malformed.

Results:
* `length_readEscape`, `length_readByteEscape`: behind an escape stands no more
  than stood behind its backslash.
-/
namespace LiterateConfig.Script

open LiterateConfig.Text

/-! ## Names -/

/-- A character that a name can be suspected to hold; whether it really may is
decided for the name as a whole. -/
def mayBeInName (c : Char) : Bool := c.isAlphanum || c == '_' || 128 ≤ c.toNat

def mayStartName (c : Char) : Bool := c.isAlpha || c == '_' || 128 ≤ c.toNat

/-- The token of a word: a reserved word as it stands, otherwise a name, in
composed form. -/
def wordToken? (w : List Char) : Option Token :=
  let s := String.ofList w
  if reservedWords.contains s then some (.word s)
  else if isNameChars w then some (.name (composeName s))
  else none

/-! ## Numbers -/

/-- Digits of a base, single underscores allowed between them. -/
def takeDigits (p : Char → Bool) : List Char → Option (List Char × List Char)
  | [] => none
  | c :: r =>
    if !p c then none
    else match r with
      | '_' :: d :: r' => if p d then (takeDigits p (d :: r')).map fun (ds, t) => (c :: ds, t) else none
      | '_' :: [] => none
      | d :: r' => if p d then (takeDigits p (d :: r')).map fun (ds, t) => (c :: ds, t) else some ([c], r)
      | [] => some ([c], [])
termination_by l => l.length

def isHexDigit (c : Char) : Bool := (hexValue? c).isSome

/-- Whether a number may end here: not in front of a name, except for the words
that can follow a number without a blank. -/
def mayEndNumber (l : List Char) : Bool :=
  match l with
  | 'a' :: 'n' :: 'd' :: _ | 'e' :: 'l' :: 's' :: 'e' :: _ | 'f' :: 'o' :: 'r' :: _
  | 'i' :: 'f' :: _ | 'i' :: 'n' :: _ | 'i' :: 's' :: _ | 'o' :: 'r' :: _
  | 'n' :: 'o' :: 't' :: _ => true
  | c :: _ => !mayBeInName c
  | [] => true

def ended (t : Token) (l : List Char) : Option (Token × List Char) :=
  if mayEndNumber l then some (t, l) else none

def digitsNumber (base : Nat) (ds : List Char) : Nat :=
  ofDigits base (ds.map fun c => (hexValue? c).getD 0)

/-- A number in a base other than ten, behind its `0` and letter. -/
def readBased (base : Nat) (p : Char → Bool) (l : List Char) : Option (Token × List Char) := do
  let l := match l with
    | '_' :: r => r
    | l => l
  let (ds, r) ← takeDigits p l
  ended (.int (digitsNumber base ds)) r

/-- The exponent of a double with the given digits in front, if there is one. -/
def readPower (whole fraction : List Char) (pointed : Bool) (l : List Char) :
    Option (Token × List Char) :=
  let value (e : Int) : Token :=
    .float (Number.ofDecimal false (digitsNumber 10 (whole ++ fraction)) (e - fraction.length))
  let plain : Option (Token × List Char) :=
    if pointed then ended (value 0) l
    else if 1 < whole.length && whole.head? == some '0' && whole.any (· != '0') then none
    else if digitLimit < whole.length then none
    else ended (.int (digitsNumber 10 whole)) l
  match l with
  | c :: r =>
    if c = 'e' || c = 'E' then
      let (sign, digits) : Int × List Char := match r with
        | '-' :: t => (-1, t)
        | '+' :: t => (1, t)
        | t => (1, t)
      match digits with
      | d :: _ =>
        if d.isDigit then do
          let (ds, rest) ← takeDigits Char.isDigit digits
          ended (value (sign * digitsNumber 10 ds)) rest
        else if digits.length < r.length then none else plain
      | [] => if digits.length < r.length then none else plain
    else plain
  | [] => plain

/-- What follows the whole part of a number. -/
def readTail (whole : List Char) : List Char → Option (Token × List Char)
  | '.' :: d :: r =>
    if d.isDigit then do
      let (ds, rest) ← takeDigits Char.isDigit (d :: r)
      readPower whole ds true rest
    else if d = '_' then none else readPower whole [] true (d :: r)
  | '.' :: [] => readPower whole [] true []
  | l => readPower whole [] false l

/-- A number; `l` starts with a digit, or with a point and a digit. -/
def readNumber : List Char → Option (Token × List Char)
  | '0' :: 'x' :: r | '0' :: 'X' :: r => readBased 16 isHexDigit r
  | '0' :: 'o' :: r | '0' :: 'O' :: r => readBased 8 (fun c => '0' ≤ c && c ≤ '7') r
  | '0' :: 'b' :: r | '0' :: 'B' :: r => readBased 2 (fun c => c == '0' || c == '1') r
  | '.' :: r => readTail [] ('.' :: r)
  | l => do
    let (ds, r) ← takeDigits Char.isDigit l
    readTail ds r

/-! ## Texts -/

/-- The letters in front of a quote. -/
structure TextKind where
  raw : Bool := false
  bytes : Bool := false

/-- The kind that letters in front of a quote stand for. -/
def textKind? (letters : List Char) : Option TextKind :=
  match letters.map Char.toLower with
  | [] | ['u'] => some {}
  | ['r'] => some { raw := true }
  | ['b'] => some { bytes := true }
  | ['b', 'r'] | ['r', 'b'] => some { raw := true, bytes := true }
  | _ => none

/-- The characters up to a closing quote on the same line, escapes untouched. -/
def takeShort (q : Char) : List Char → Option (List Char × List Char)
  | [] => none
  | '\n' :: _ => none
  | '\\' :: c :: r => (takeShort q r).map fun (cs, t) => ('\\' :: c :: cs, t)
  | c :: r => if c = q then some ([], r) else (takeShort q r).map fun (cs, t) => (c :: cs, t)

/-- The characters up to three closing quotes, escapes untouched. -/
def takeLong (q : Char) : List Char → Option (List Char × List Char)
  | '\\' :: c :: r => (takeLong q r).map fun (cs, t) => ('\\' :: c :: cs, t)
  | a :: b :: c :: t =>
    if a = q && b = q && c = q then some ([], t)
    else (takeLong q (b :: c :: t)).map fun (cs, u) => (a :: cs, u)
  | _ => none
termination_by l => l.length

/-- The body of a text behind its opening quote `q`; two more quotes open a long text. -/
def takeBody (q : Char) : List Char → Option (List Char × List Char)
  | a :: b :: r =>
    if a = q && b = q then takeLong q r
    else if a = q then some ([], b :: r)
    else takeShort q (a :: b :: r)
  | l => takeShort q l

/-- The character with a code point; a surrogate stands for no character and is replaced. -/
def scalar? (n : Nat) : Option Char :=
  if 0x10ffff < n then none
  else if 0xd800 ≤ n && n < 0xe000 then some (Char.ofNat 0xfffd)
  else some (Char.ofNat n)

/-- The character that a letter behind a backslash stands for. -/
def simpleEscape? (c : Char) : Option Char :=
  if c = '\\' || c = '\'' || c = '"' then some c
  else if c = 'n' then some '\n'
  else if c = 't' then some '\t'
  else if c = 'r' then some '\r'
  else if c = 'a' then some (Char.ofNat 7)
  else if c = 'b' then some (Char.ofNat 8)
  else if c = 'v' then some (Char.ofNat 11)
  else if c = 'f' then some (Char.ofNat 12)
  else none

def isOctal (c : Char) : Bool := '0' ≤ c && c ≤ '7'

/-- Up to three octal digits at the front. -/
def takeOctal (l : List Char) : List Char := (l.take 3).takeWhile isOctal

/-- The number that `n` hexadecimal digits at the front spell, and what follows. -/
def takeHex? (n : Nat) (l : List Char) : Option (Nat × List Char) :=
  if l.length < n then none else (readHex? (l.take n)).map fun v => (v, l.drop n)

/-- The character whose code point `n` hexadecimal digits spell. -/
def takeScalar? (n : Nat) (l : List Char) : Option (List Char × List Char) := do
  let (v, rest) ← takeHex? n l
  let c ← scalar? v
  return ([c], rest)

/-- What an escape stands for and what follows it; `c` is the character behind
the backslash. An unknown escape keeps its backslash; one that is cut short or
names no character is malformed. -/
def readEscape? (c : Char) (r : List Char) : Option (List Char × List Char) :=
  if c = '\n' then some ([], r)
  else if c = 'x' then takeScalar? 2 r
  else if c = 'u' then takeScalar? 4 r
  else if c = 'U' then takeScalar? 8 r
  else if c = 'N' then none
  else if isOctal c then
    let ds := takeOctal (c :: r)
    (scalar? (digitsNumber 8 ds)).map fun ch => ([ch], r.drop (ds.length - 1))
  else match simpleEscape? c with
    | some ch => some ([ch], r)
    | none => some (['\\', c], r)

/-- What an escape among bytes stands for; there are none by code point. -/
def readByteEscape? (c : Char) (r : List Char) : Option (List UInt8 × List Char) :=
  if c = '\n' then some ([], r)
  else if c = 'x' then (takeHex? 2 r).map fun (v, rest) => ([UInt8.ofNat v], rest)
  else if isOctal c then
    let ds := takeOctal (c :: r)
    some ([UInt8.ofNat (digitsNumber 8 ds)], r.drop (ds.length - 1))
  else match simpleEscape? c with
    | some ch => some ([UInt8.ofNat ch.toNat], r)
    | none => if c.toNat < 128 then some ([92, UInt8.ofNat c.toNat], r) else none

theorem length_takeHex {n v : Nat} {l rest : List Char} (h : takeHex? n l = some (v, rest)) :
    rest.length ≤ l.length := by
  simp only [takeHex?] at h
  split at h
  · simp at h
  · obtain ⟨w, _, hw⟩ := Option.map_eq_some_iff.1 h
    cases hw
    simp

theorem length_takeScalar {n : Nat} {l cs rest : List Char}
    (h : takeScalar? n l = some (cs, rest)) : rest.length ≤ l.length := by
  simp only [takeScalar?] at h
  cases hx : takeHex? n l with
  | none => simp [hx] at h
  | some p =>
    obtain ⟨v, r⟩ := p
    cases hs : scalar? v with
    | none => simp [hx, hs] at h
    | some c =>
      simp [hx, hs] at h
      rw [← h.2]
      exact length_takeHex hx

theorem length_readEscape {c : Char} {r cs rest : List Char}
    (h : readEscape? c r = some (cs, rest)) : rest.length ≤ r.length := by
  unfold readEscape? at h
  split at h
  · cases h
    exact Nat.le_refl _
  split at h
  · exact length_takeScalar h
  split at h
  · exact length_takeScalar h
  split at h
  · exact length_takeScalar h
  split at h
  · cases h
  split at h
  · obtain ⟨ch, _, hc⟩ := Option.map_eq_some_iff.1 h
    cases hc
    simp
  split at h <;> (cases h; exact Nat.le_refl _)

theorem length_readByteEscape {c : Char} {r rest : List Char} {bs : List UInt8}
    (h : readByteEscape? c r = some (bs, rest)) : rest.length ≤ r.length := by
  unfold readByteEscape? at h
  split at h
  · cases h
    exact Nat.le_refl _
  split at h
  · obtain ⟨p, hp, hc⟩ := Option.map_eq_some_iff.1 h
    cases hc
    exact length_takeHex hp
  split at h
  · cases h
    simp
  split at h
  · cases h
    exact Nat.le_refl _
  split at h
  · cases h
    exact Nat.le_refl _
  · cases h

/-- Replaces the escapes of a text. -/
def unescape : List Char → Option (List Char)
  | [] => some []
  | '\\' :: c :: r =>
    match h : readEscape? c r with
    | none => none
    | some (cs, rest) =>
      have := length_readEscape h
      (unescape rest).map fun t => cs ++ t
  | c :: r => (unescape r).map fun t => c :: t
termination_by l => l.length
decreasing_by all_goals simp only [List.length_cons]; omega

/-- Replaces the escapes of bytes, which hold ASCII characters only. -/
def unescapeBytes : List Char → Option (List UInt8)
  | [] => some []
  | '\\' :: c :: r =>
    match h : readByteEscape? c r with
    | none => none
    | some (bs, rest) =>
      have := length_readByteEscape h
      (unescapeBytes rest).map fun t => bs ++ t
  | c :: r =>
    if c.toNat < 128 then (unescapeBytes r).map fun t => UInt8.ofNat c.toNat :: t else none
termination_by l => l.length
decreasing_by all_goals simp only [List.length_cons]; omega

/-- The token of a text literal, its kind and body given. -/
def textToken? (kind : TextKind) (body : List Char) : Option Token :=
  if kind.bytes then
    if kind.raw then
      if body.all fun c => c.toNat < 128 then some (.bytes (body.map fun c => UInt8.ofNat c.toNat))
      else none
    else (unescapeBytes body).map .bytes
  else if kind.raw then some (.text (String.ofList body))
  else (unescape body).map fun cs => .text (String.ofList cs)

end LiterateConfig.Script
