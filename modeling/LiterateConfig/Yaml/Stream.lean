import LiterateConfig.Yaml.Scalar
import LiterateConfig.Yaml.Tag

/-!
# The tokens of a document

Tokens are made one after the other, as far as they are asked for. A key needs
no mark in front: it is recognised by the colon behind it, so a token that may
start a key is held back until its line shows whether it does.

In block context, indentation opens and closes collections. `Stream.indent` is
the column of the innermost one, -1 outside of all.
-/
namespace LiterateConfig.Yaml

/-- A place where a key may have started. -/
structure KeyStart where
  /-- The number of the first token of the key. -/
  number : Nat
  /-- Whether a key has to be here. -/
  required : Bool
  index : Nat
  line : Nat
  column : Nat

structure Stream where
  cursor : Cursor
  done : Bool
  /-- The number of brackets and braces that are open. -/
  flow : Nat
  /-- Tokens made and not yet taken. -/
  tokens : List Token
  /-- The number of tokens taken. -/
  taken : Nat
  indent : Int
  indents : List Int
  /-- Whether a key may start here. -/
  keyAllowed : Bool
  /-- Where keys may have started, by the number of brackets around. -/
  keys : List (Nat × KeyStart)

namespace Stream

/-- The longest key that needs no mark. -/
def keyLimit : Nat := 1024

def start (text : List Char) : Stream := ⟨.start text, false, 0, [], 0, -1, [], true, []⟩

def push (s : Stream) (t : Token) : Stream := { s with tokens := s.tokens ++ [t] }

/-- Puts a token at a place among those not yet taken. -/
def insertAt (s : Stream) (n : Nat) (t : Token) : Stream :=
  { s with tokens := s.tokens.take n ++ t :: s.tokens.drop n }

/-- Behind as many characters, with a token. -/
def step (s : Stream) (n : Nat) (t : Token) : Stream :=
  { s with cursor := s.cursor.advanceBy n }.push t

/-! ## Keys without a mark -/

/-- Whether a line has ended since, or the key is too long. -/
def isStale (c : Cursor) (k : KeyStart) : Bool :=
  k.line != c.line || decide (keyLimit < c.index - k.index)

/-- Gives up keys that cannot be any more. -/
def dropStale (s : Stream) : Except Problem Stream :=
  if s.keys.any fun k => isStale s.cursor k.2 && k.2.required then .error .malformed
  else .ok { s with keys := s.keys.filter fun k => !isStale s.cursor k.2 }

/-- Gives up the key at the current level. -/
def dropKey (s : Stream) : Except Problem Stream :=
  match s.keys.lookup s.flow with
  | some k =>
    if k.required then .error .malformed
    else .ok { s with keys := s.keys.filter fun k => k.1 != s.flow }
  | none => .ok s

/-- Notes that the next token may start a key. -/
def saveKey (s : Stream) : Except Problem Stream := do
  if s.keyAllowed then
    let c := s.cursor
    let required := s.flow == 0 && decide (s.indent = (c.column : Int))
    let s ← s.dropKey
    let k : KeyStart := ⟨s.taken + s.tokens.length, required, c.index, c.line, c.column⟩
    return { s with keys := (s.flow, k) :: s.keys }
  else return s

/-! ## Indentation -/

/-- The indentations left open when those beyond a column are closed, and how
many are closed. -/
def closeBeyond (column : Int) : Int → List Int → Nat × Int × List Int
  | indent, [] => (0, indent, [])
  | indent, outer :: rest =>
    if column < indent then
      let (n, indent, rest) := closeBeyond column outer rest
      (n + 1, indent, rest)
    else (0, indent, outer :: rest)

/-- Closes the block collections beyond a column. -/
def unwind (s : Stream) (column : Int) : Stream :=
  if s.flow != 0 then s
  else
    let (n, indent, indents) := closeBeyond column s.indent s.indents
    { s with indent, indents, tokens := s.tokens ++ List.replicate n .blockEnd }

/-- Opens a block collection at a column, if that is further in. -/
def openAt (s : Stream) (column : Int) : Option Stream :=
  if s.indent < column then some { s with indents := s.indent :: s.indents, indent := column } else none

/-! ## Between tokens -/

/-- Behind spaces, comments and line ends. A line end allows a key in block context. -/
def skipGap : Nat → Stream → Stream
  | 0, s => s
  | fuel + 1, s =>
    let c := s.cursor.skipSpaces.skipComment
    if c.peek.any isBreak then
      skipGap fuel { s with cursor := c.advance, keyAllowed := s.keyAllowed || s.flow == 0 }
    else { s with cursor := c }

/-- The place of the next token; a byte-order mark at the very start is passed over. -/
def toNext (s : Stream) : Stream :=
  let c := s.cursor
  let isMark := c.index = 0 && c.peek.any fun x => x.toNat == 0xfeff
  let s := if isMark then { s with cursor := c.advance } else s
  skipGap (s.cursor.rest.length + 1) s

/-! ## Single tokens -/

def fetchEnd (s : Stream) : Except Problem Stream := do
  let s ← (s.unwind (-1)).dropKey
  return { s with keyAllowed := false, keys := [], done := true }.push .streamEnd

def fetchDirective (s : Stream) : Except Problem Stream := do
  let s ← (s.unwind (-1)).dropKey
  let (d, c) ← readDirective s.cursor
  return { s with keyAllowed := false, cursor := c }.push (.directive d)

def fetchMark (t : Token) (s : Stream) : Except Problem Stream := do
  let s ← (s.unwind (-1)).dropKey
  return { s with keyAllowed := false }.step 3 t

def fetchOpening (t : Token) (s : Stream) : Except Problem Stream := do
  let s ← s.saveKey
  return { s with flow := s.flow + 1, keyAllowed := true }.step 1 t

def fetchClosing (t : Token) (s : Stream) : Except Problem Stream := do
  let s ← s.dropKey
  return { s with flow := s.flow - 1, keyAllowed := false }.step 1 t

def fetchFlowEntry (s : Stream) : Except Problem Stream := do
  let s ← s.dropKey
  return { s with keyAllowed := true }.step 1 .flowEntry

/-- Opens a collection at the current column in block context, where a key must be allowed. -/
def openHere (s : Stream) (t : Token) : Except Problem Stream :=
  if s.flow != 0 then .ok s
  else if !s.keyAllowed then .error .malformed
  else match s.openAt s.cursor.column with
    | some s => .ok (s.push t)
    | none => .ok s

def fetchBlockEntry (s : Stream) : Except Problem Stream := do
  let s ← s.openHere .blockSequence
  let s ← { s with keyAllowed := true }.dropKey
  return s.step 1 .blockEntry

def fetchKey (s : Stream) : Except Problem Stream := do
  let s ← s.openHere .blockMapping
  let s ← { s with keyAllowed := s.flow == 0 }.dropKey
  return s.step 1 .key

/-- A colon. A key that may have started before is one now. -/
def fetchValue (s : Stream) : Except Problem Stream := do
  match s.keys.lookup s.flow with
  | some k =>
    let s := { s with keys := s.keys.filter fun k => k.1 != s.flow }
    let n := k.number - s.taken
    let s := s.insertAt n .key
    let s := if s.flow != 0 then s else match s.openAt k.column with
      | some s => s.insertAt n .blockMapping
      | none => s
    return { s with keyAllowed := false }.step 1 .value
  | none =>
    let s ← s.openHere .blockMapping
    let s ← { s with keyAllowed := s.flow == 0 }.dropKey
    return s.step 1 .value

/-- A token that may start a key, and behind which none can start. -/
def fetchWith (read : Cursor → Except Problem (Token × Cursor)) (s : Stream) : Except Problem Stream := do
  let s ← s.saveKey
  let (t, c) ← read s.cursor
  return { s with keyAllowed := false, cursor := c }.push t

def named (t : String → Token) (c : Cursor) : Except Problem (Token × Cursor) :=
  (readName c).map fun (name, c) => (t name, c)

def tagged (c : Cursor) : Except Problem (Token × Cursor) := (readTag c).map fun (t, c) => (.tag t, c)

def quoted (double : Bool) (c : Cursor) : Except Problem (Token × Cursor) :=
  (readQuoted double c).map fun (text, c) => (.scalar text false, c)

def fetchBlockScalar (fold : Bool) (s : Stream) : Except Problem Stream := do
  let s ← { s with keyAllowed := true }.dropKey
  let (text, c) ← readBlock fold s.indent s.cursor.advance
  return { s with cursor := c }.push (.scalar text false)

def fetchPlain (s : Stream) : Except Problem Stream := do
  let s ← s.saveKey
  let (text, broken, c) := readPlain (s.flow != 0) (s.indent + 1) s.cursor
  return { s with keyAllowed := broken, cursor := c }.push (.scalar text true)

/-- Whether a plain text can start with a character, `next` being behind it. -/
def startsPlain (flow : Bool) (c : Char) (next : Option Char) : Bool :=
  !(atBlank (some c) || c ∈ ['-', '?', ':', ',', '[', ']', '{', '}', '#', '&', '*', '!', '|', '>', '\'', '"',
      '%', '@', '\x60']) ||
    (!atBlank next && (c == '-' || (!flow && (c == '?' || c == ':'))))

/-- The token that starts with a character. -/
def fetchAt (s : Stream) (x : Char) : Except Problem Stream :=
  let c := s.cursor
  let flow := s.flow != 0
  let alone := atBlank (c.peekAt 1)
  if x == '%' && c.column == 0 then s.fetchDirective
  else if c.column == 0 && c.atMark '-' then s.fetchMark .documentStart
  else if c.column == 0 && c.atMark '.' then s.fetchMark .documentEnd
  else if x == '[' then s.fetchOpening .flowSequence
  else if x == '{' then s.fetchOpening .flowMapping
  else if x == ']' then s.fetchClosing .flowSequenceEnd
  else if x == '}' then s.fetchClosing .flowMappingEnd
  else if x == ',' then s.fetchFlowEntry
  else if x == '-' && alone then s.fetchBlockEntry
  else if x == '?' && (flow || alone) then s.fetchKey
  else if x == ':' && (flow || alone) then s.fetchValue
  else if x == '*' then s.fetchWith (named .alias)
  else if x == '&' then s.fetchWith (named .anchor)
  else if x == '!' then s.fetchWith tagged
  else if x == '|' && !flow then s.fetchBlockScalar false
  else if x == '>' && !flow then s.fetchBlockScalar true
  else if x == '\'' then s.fetchWith (quoted false)
  else if x == '"' then s.fetchWith (quoted true)
  else if startsPlain flow x (c.peekAt 1) then s.fetchPlain
  else .error .malformed

/-- Makes the next token, and those that indentation puts in front. -/
def fetch (s : Stream) : Except Problem Stream := do
  let s ← s.toNext.dropStale
  let s := s.unwind s.cursor.column
  match s.cursor.peek with
  | none => s.fetchEnd
  | some x => s.fetchAt x

/-! ## Taking tokens -/

/-- Makes tokens until the next one is certain. -/
def settle : Nat → Stream → Except Problem Stream
  | 0, _ => .error .malformed
  | fuel + 1, s =>
    if s.done then .ok s
    else if s.tokens.isEmpty then do settle fuel (← s.fetch)
    else do
      let s ← s.dropStale
      if s.keys.any fun k => k.2.number == s.taken then settle fuel (← s.fetch) else return s

/-- The next token, which stays. -/
def next (s : Stream) : Except Problem (Token × Stream) := do
  let s ← settle (s.cursor.rest.length + 3) s
  match s.tokens with
  | t :: _ => return (t, s)
  | [] => .error .malformed

/-- Takes the next token away. -/
def drop (s : Stream) : Stream := { s with tokens := s.tokens.tail, taken := s.taken + 1 }

end Stream

end LiterateConfig.Yaml
