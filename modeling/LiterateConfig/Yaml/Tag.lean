import LiterateConfig.Text.Hex
import LiterateConfig.Text.Numeral
import LiterateConfig.Yaml.Cursor

/-!
# Names in a document

Anchors and aliases are named by letters, digits, hyphens and underscores. A tag
is a handle between exclamation marks and a suffix, in which characters can be
written as bytes behind percent signs. Directives stand on lines of their own.
-/
namespace LiterateConfig.Yaml

/-! ## Anchors -/

/-- What may stand behind the name of an anchor. -/
def endsName (c : Option Char) : Bool :=
  atBlank c || c.any fun c => c ∈ ['?', ':', ',', ']', '}', '%', '@', '\x60']

/-- The name of an anchor or alias, its indicator being next. -/
def readName (c : Cursor) : Except Problem (String × Cursor) :=
  let (name, c) := c.advance.span isHandleChar
  if name.isEmpty || !endsName c.peek then .error .malformed else .ok (String.ofList name, c)

/-! ## Tags -/

/-- A character that stands for itself in the suffix of a tag. -/
def isSuffixChar (c : Char) : Bool :=
  c.isAlphanum || c ∈ ['-', ';', '/', '?', ':', '@', '&', '=', '+', '$', ',', '_', '.', '!', '~', '*',
    '\'', '(', ')', '[', ']']

/-- Bytes behind percent signs. -/
def readBytes : Nat → Cursor → List UInt8 → Except Problem (List UInt8 × Cursor)
  | 0, _, _ => .error .malformed
  | fuel + 1, c, seen =>
    if c.peek = some '%' then
      let ds := (c.rest.drop 1).take 2
      match Text.readHex? ds with
      | some b =>
        if ds.length < 2 then .error .malformed
        else readBytes fuel (c.advanceBy 3) (seen ++ [UInt8.ofNat b])
      | none => .error .malformed
    else .ok (seen, c)

/-- The suffix of a tag. -/
def suffixChars : Nat → Cursor → List Char → Except Problem (List Char × Cursor)
  | 0, _, _ => .error .malformed
  | fuel + 1, c, seen =>
    match c.peek with
    | some x =>
      if x == '%' then do
        let (bytes, c) ← readBytes (c.rest.length + 1) c []
        match String.fromUTF8? ⟨bytes.toArray⟩ with
        | some s => suffixChars fuel c (seen ++ s.toList)
        | none => .error .malformed
      else if isSuffixChar x then suffixChars fuel c.advance (seen ++ [x])
      else .ok (seen, c)
    | none => .ok (seen, c)

def readSuffix (c : Cursor) : Except Problem (String × Cursor) := do
  let start := c.index
  let (suffix, c) ← suffixChars (c.rest.length + 1) c []
  if c.index = start then .error .malformed else return (String.ofList suffix, c)

/-- The handle of a tag; a lone exclamation mark in front of a space is one. -/
def readHandle (c : Cursor) : Except Problem (String × Cursor) :=
  if c.peek != some '!' then .error .malformed
  else if c.peekAt 1 = some ' ' then .ok ("!", c.advance)
  else
    let (name, d) := c.advance.span isHandleChar
    if d.peek = some '!' then .ok (String.ofList ('!' :: name ++ ['!']), d.advance) else .error .malformed

/-- Whether another exclamation mark stands behind the first of a tag. -/
def hasHandle (c : Cursor) : Bool :=
  (c.rest.drop 1).takeWhile (fun x => x != ' ' && !isBreak x) |>.contains '!'

/-- A tag, its exclamation mark being next. -/
def readTag (c : Cursor) : Except Problem (TagName × Cursor) := do
  let (t, c) : TagName × Cursor ←
    if c.peekAt 1 = some '<' then do
      let (suffix, c) ← readSuffix (c.advanceBy 2)
      if c.peek = some '>' then pure (⟨none, suffix⟩, c.advance) else .error .malformed
    else if atBlank (c.peekAt 1) then pure (⟨none, "!"⟩, c.advance)
    else if hasHandle c then do
      let (handle, c) ← readHandle c
      let (suffix, c) ← readSuffix c
      pure (⟨some handle, suffix⟩, c)
    else do
      let (suffix, c) ← readSuffix c.advance
      pure (⟨some "!", suffix⟩, c)
  if atSpace c.peek then return (t, c) else .error .malformed

/-! ## Directives -/

/-- A number of the version that a document asks for. -/
def readVersionNumber (c : Cursor) : Except Problem (Nat × Cursor) :=
  let (ds, c) := c.span Char.isDigit
  if ds.isEmpty then .error .malformed
  else if Text.digitLimit < ds.length then .error .badValue
  else .ok (Text.ofDigits 10 (ds.map fun d => d.toNat - 48), c)

def readVersion (c : Cursor) : Except Problem (Directive × Cursor) := do
  let (major, c) ← readVersionNumber c.skipSpaces
  if c.peek != some '.' then .error .malformed
  let (_, c) ← readVersionNumber c.advance
  if atSpace c.peek then return (.version major, c) else .error .malformed

def readHandleDirective (c : Cursor) : Except Problem (Directive × Cursor) := do
  let (name, c) ← readHandle c.skipSpaces
  if c.peek != some ' ' then .error .malformed
  let (target, c) ← readSuffix c.skipSpaces
  if atSpace c.peek then return (.handle name target, c) else .error .malformed

/-- A directive, its percent sign being next. -/
def readDirective (c : Cursor) : Except Problem (Directive × Cursor) := do
  let (name, c) := c.advance.span isHandleChar
  if name.isEmpty || !atSpace c.peek then .error .malformed
  let (d, c) ←
    if name = ['Y', 'A', 'M', 'L'] then readVersion c
    else if name = ['T', 'A', 'G'] then readHandleDirective c
    else pure (.other, c.skipWhile fun x => !isBreak x)
  return (d, ← c.endLine)

end LiterateConfig.Yaml
