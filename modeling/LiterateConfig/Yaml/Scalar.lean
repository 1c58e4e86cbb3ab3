import LiterateConfig.Text.Hex
import LiterateConfig.Yaml.Cursor

/-!
# Texts in a document

A text is plain, in single or double quotes, or a block of lines behind `|` or
`>`. Where a text goes on to the next line, a single line end counts as a space
and every further one as itself.
-/
namespace LiterateConfig.Yaml

/-! ## Line ends between words -/

/-- Line ends in a row as they count in a text: a lone one is a space. -/
def folded (first : Char) (more : List Char) : List Char :=
  if first != '\n' then first :: more
  else if more.isEmpty then [' ']
  else more

/-! ## Plain texts -/

/-- Whether a plain text ends in front of a character, `next` being behind it. -/
def endsPlain (flow : Bool) (c : Char) (next : Option Char) : Bool :=
  c == ' ' || c == '\t' || isBreak c ||
    (c == ':' && (atBlank next || (flow && next.any fun n => n ∈ [',', '[', ']', '{', '}']))) ||
    (flow && c ∈ [',', '?', '[', ']', '{', '}'])

/-- The number of characters of a plain text on one line. -/
def plainLength (flow : Bool) : List Char → Nat
  | [] => 0
  | c :: r => if endsPlain flow c r.head? then 0 else plainLength flow r + 1

/-- Line ends and spaces in front of the next word of a plain text; nothing if
the document ends there. -/
def plainBreaks : Nat → Cursor → List Char → Option (List Char) × Cursor
  | 0, c, seen => (some seen, c)
  | fuel + 1, c, seen =>
    if c.peek = some ' ' then plainBreaks fuel c.advance seen
    else match c.lineBreak? with
      | none => (some seen, c)
      | some (b, c) => if c.atSeparator then (none, c) else plainBreaks fuel c (seen ++ [b])

/-- What stands between two words of a plain text. -/
structure Gap where
  /-- How it counts in the text; nothing if the text cannot go on. -/
  chars : Option (List Char)
  /-- Whether it crosses a line. -/
  broken : Bool

/-- The gap behind a word. -/
def plainGap (c : Cursor) : Gap × Cursor :=
  let (spaces, c) := c.span (· == ' ')
  match c.lineBreak? with
  | some (b, c) =>
    if c.atSeparator then (⟨none, true⟩, c)
    else match plainBreaks (c.rest.length + 1) c [] with
      | (some more, c) => (⟨some (folded b more), true⟩, c)
      | (none, c) => (⟨none, true⟩, c)
  | none => (⟨if spaces.isEmpty then none else some spaces, false⟩, c)

/-- The words of a plain text with the gaps between them, and whether the last
gap crosses a line. The text ends where a line is indented less than `indent`. -/
def plainWords (flow : Bool) (indent : Int) :
    Nat → Cursor → List Char → Bool → List Char → List Char × Bool × Cursor
  | 0, c, _, broken, text => (text, broken, c)
  | fuel + 1, c, gap, broken, text =>
    if c.peek = some '#' then (text, broken, c)
    else
      let n := plainLength flow c.rest
      if n = 0 then (text, broken, c)
      else
        let text := text ++ gap ++ c.rest.take n
        let (g, c) := plainGap (c.advanceBy n)
        match g.chars with
        | none => (text, g.broken, c)
        | some chars =>
          if c.peek = some '#' || (!flow && decide ((c.column : Int) < indent)) then (text, g.broken, c)
          else plainWords flow indent fuel c chars g.broken text

/-- A plain text, and whether a line ends behind it. -/
def readPlain (flow : Bool) (indent : Int) (c : Cursor) : String × Bool × Cursor :=
  let (text, broken, c) := plainWords flow indent (c.rest.length + 1) c [] false []
  (String.ofList text, broken, c)

/-! ## Quoted texts -/

/-- What an escape stands for, if it stands for one character always. -/
def escaped? (c : Char) : Option Char :=
  match c with
  | '0' => some (Char.ofNat 0)
  | 'a' => some (Char.ofNat 7)
  | 'b' => some (Char.ofNat 8)
  | 't' | '\t' => some '\t'
  | 'n' => some '\n'
  | 'v' => some (Char.ofNat 11)
  | 'f' => some (Char.ofNat 12)
  | 'r' => some '\r'
  | 'e' => some (Char.ofNat 27)
  | ' ' => some ' '
  | '"' => some '"'
  | '\\' => some '\\'
  | '/' => some '/'
  | 'N' => some (Char.ofNat 0x85)
  | '_' => some (Char.ofNat 0xa0)
  | 'L' => some (Char.ofNat 0x2028)
  | 'P' => some (Char.ofNat 0x2029)
  | _ => none

/-- The number of hexadecimal digits behind an escape. -/
def hexDigits? (c : Char) : Option Nat :=
  match c with
  | 'x' => some 2
  | 'u' => some 4
  | 'U' => some 8
  | _ => none

/-- The character of `n` hexadecimal digits. -/
def hexChar (n : Nat) (c : Cursor) : Except Problem (Char × Cursor) :=
  let ds := c.rest.take n
  match Text.readHex? ds with
  | some code =>
    if ds.length < n then .error .malformed
    else if 0x80000000 ≤ code then .error .tooLarge
    else if 0x110000 ≤ code then .error .badValue
    else if 0xd800 ≤ code ∧ code < 0xe000 then .ok (Char.ofNat 0xfffd, c.advanceBy n)
    else .ok (Char.ofNat code, c.advanceBy n)
  | none => .error .malformed

/-- The line ends in a row within a quoted text; no document can end there. -/
def quotedBreaks : Nat → Cursor → List Char → Except Problem (List Char × Cursor)
  | 0, _, _ => .error .malformed
  | fuel + 1, c, seen =>
    if c.atSeparator then .error .malformed
    else
      let c := c.skipWhile fun x => x == ' ' || x == '\t'
      match c.lineBreak? with
      | some (b, c) => quotedBreaks fuel c (seen ++ [b])
      | none => .ok (seen, c)

def breaksFrom (c : Cursor) : Except Problem (List Char × Cursor) := quotedBreaks (c.rest.length + 1) c []

/-- An escape, behind its backslash. -/
def readEscape (c : Cursor) : Except Problem (List Char × Cursor) := do
  match c.peek with
  | none => .error .malformed
  | some x =>
    match escaped? x, hexDigits? x with
    | some y, _ => return ([y], c.advance)
    | none, some n => do
      let (y, c) ← hexChar n c.advance
      return ([y], c)
    | none, none => if isBreak x then breaksFrom c.advance else .error .malformed

/-- Blanks within a quoted text: a line end folds those around it. -/
def quotedGap (c : Cursor) : Except Problem (List Char × Cursor) := do
  let (blanks, c) := c.span fun x => x == ' ' || x == '\t'
  if c.rest.isEmpty then .error .malformed
  else match c.lineBreak? with
    | some (b, c) => do
      let (more, c) ← breaksFrom c
      return (folded b more, c)
    | none => return (blanks, c)

/-- A quoted text up to its closing quote. -/
def quotedChars (double : Bool) : Nat → Cursor → List Char → Except Problem (List Char × Cursor)
  | 0, _, _ => .error .malformed
  | fuel + 1, c, text =>
    match c.peek with
    | none => .error .malformed
    | some x =>
      if double && x == '"' then .ok (text, c.advance)
      else if double && x == '\\' then do
        let (y, c) ← readEscape c.advance
        quotedChars double fuel c (text ++ y)
      else if !double && x == '\'' then
        if c.peekAt 1 = some '\'' then quotedChars double fuel (c.advanceBy 2) (text ++ ['\''])
        else .ok (text, c.advance)
      else if x == ' ' || x == '\t' || isBreak x then do
        let (y, c) ← quotedGap c
        quotedChars double fuel c (text ++ y)
      else quotedChars double fuel c.advance (text ++ [x])

/-- A quoted text, its opening quote being next. -/
def readQuoted (double : Bool) (c : Cursor) : Except Problem (String × Cursor) := do
  let (text, c) ← quotedChars double (c.rest.length + 1) c.advance []
  return (String.ofList text, c)

/-! ## Blocks of lines -/

/-- What becomes of the line ends at the end of a block. -/
inductive Chomping where
  | strip
  | clip
  | keep
  deriving DecidableEq, Repr

def chomping? (c : Option Char) : Option Chomping :=
  match c with
  | some '+' => some .keep
  | some '-' => some .strip
  | _ => none

/-- The indentation that a digit asks for. -/
def increment? (c : Option Char) : Option Nat :=
  match c with
  | some d => if d.isDigit then some (d.toNat - 48) else none
  | none => none

/-- The indicators of a block: chomping and indentation in either order. -/
def readIndicators (c : Cursor) : Except Problem (Chomping × Option Nat × Cursor) :=
  let (chomping, increment, c) : Option Chomping × Option Nat × Cursor :=
    match chomping? c.peek, increment? c.peek with
    | some k, _ => match increment? (c.peekAt 1) with
      | some n => (some k, some n, c.advanceBy 2)
      | none => (some k, none, c.advance)
    | none, some n => match chomping? (c.peekAt 1) with
      | some k => (some k, some n, c.advanceBy 2)
      | none => (none, some n, c.advance)
    | none, none => (none, none, c)
  if increment = some 0 || !atSpace c.peek then .error .malformed
  else .ok (chomping.getD .clip, increment, c)

/-- The blank lines at the start of a block, and the widest indentation among
them and the line behind. -/
def leadingBreaks : Nat → Cursor → List Char → Nat → List Char × Nat × Cursor
  | 0, c, seen, widest => (seen, widest, c)
  | fuel + 1, c, seen, widest =>
    if c.peek = some ' ' then
      let c := c.advance
      leadingBreaks fuel c seen (max widest c.column)
    else match c.lineBreak? with
      | some (b, c) => leadingBreaks fuel c (seen ++ [b]) widest
      | none => (seen, widest, c)

/-- Spaces up to a column. -/
def skipIndent (indent : Nat) (c : Cursor) : Cursor :=
  c.advanceBy (min (indent - c.column) (c.rest.takeWhile (· == ' ')).length)

/-- Blank lines within a block, and the indentation of the line behind. -/
def blockBreaks (indent : Nat) : Nat → Cursor → List Char → List Char × Cursor
  | 0, c, seen => (seen, c)
  | fuel + 1, c, seen =>
    let c := skipIndent indent c
    match c.lineBreak? with
    | some (b, c) => blockBreaks indent fuel c (seen ++ [b])
    | none => (seen, c)

/-- The lines of a block: the text, the last line end and the blank lines behind. -/
def blockLines (fold : Bool) (indent : Nat) : Nat → Cursor → List Char → List Char →
    List Char × List Char × List Char × Cursor
  | 0, c, breaks, text => (text, [], breaks, c)
  | fuel + 1, c, breaks, text =>
    let (line, c') := c.span fun x => !isBreak x
    let (ending, c') := match c'.lineBreak? with
      | some (b, d) => ([b], d)
      | none => ([], c')
    let text := text ++ breaks ++ line
    let (breaks, d) := blockBreaks indent (c'.rest.length + 1) c' []
    if d.column = indent && !d.rest.isEmpty then
      let isText (x : Option Char) : Bool := x.all fun x => x != ' ' && x != '\t'
      let joins := fold && ending == ['\n'] && isText c.peek && isText d.peek
      let between := if joins then (if breaks.isEmpty then [' '] else []) else ending
      blockLines fold indent fuel d breaks (text ++ between)
    else (text, ending, breaks, d)

/-- A block of lines behind its indicator, within a collection at indentation
`around`. -/
def readBlock (fold : Bool) (around : Int) (c : Cursor) : Except Problem (String × Cursor) := do
  let (chomping, increment, c) ← readIndicators c
  let c ← c.endLine
  let least := max (around + 1).toNat 1
  let (indent, breaks, c) : Nat × List Char × Cursor :=
    match increment with
    | some n =>
      let indent := least + n - 1
      let (breaks, c) := blockBreaks indent (c.rest.length + 1) c []
      (indent, breaks, c)
    | none =>
      let (breaks, widest, c) := leadingBreaks (c.rest.length + 1) c [] 0
      (max least widest, breaks, c)
  let (text, ending, more, c) :=
    if c.column = indent && !c.rest.isEmpty then blockLines fold indent (c.rest.length + 1) c breaks []
    else ([], [], breaks, c)
  let tail := match chomping with
    | .strip => []
    | .clip => ending
    | .keep => ending ++ more
  return (String.ofList (text ++ tail), c)

end LiterateConfig.Yaml
