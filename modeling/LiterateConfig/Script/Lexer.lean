import LiterateConfig.Script.Literal
import LiterateConfig.Text.Lines

/-!
# Reading a block as tokens

`tokens?` cuts a block into tokens. Line ends count as tokens outside brackets,
and so does a change of indentation at the start of a line that holds more
than a comment. Indentation is measured twice, a tab reaching the next multiple
of eight columns or counting as one; lines whose two measures disagree about
their nesting are malformed.
-/
namespace LiterateConfig.Script

open LiterateConfig.Text

/-- The most brackets that may be open at once. -/
def bracketLimit : Nat := 200

/-- The most indentations that may be open at once. -/
def indentLimit : Nat := 100

/-- Two measures of an indentation: tabs reaching multiples of eight, tabs as one. -/
structure Indentation where
  wide : Nat
  narrow : Nat
  deriving DecidableEq, Repr

/-- What the tokens so far have opened. -/
structure Reading where
  /-- The indentations around the line, innermost first, the margin excluded. -/
  indents : List Indentation
  /-- The brackets around the place, innermost first. -/
  brackets : List Mark
  line : Nat

/-- The indentation of a line, the line ends joined within it, and the rest. A
joined line is measured where its first part breaks off. -/
def measure (joinedAt : Option Nat) (i : Indentation) (joins : Nat) :
    List Char → Option (Indentation × Nat × List Char)
  | ' ' :: r => measure joinedAt ⟨i.wide + 1, i.narrow + 1⟩ joins r
  | '\t' :: r => measure joinedAt ⟨(i.wide / 8 + 1) * 8, i.narrow + 1⟩ joins r
  | '\x0c' :: r => measure joinedAt ⟨0, 0⟩ joins r
  | '\\' :: '\n' :: r =>
    if r.isEmpty then none
    else measure (joinedAt <|> if i.wide = 0 then none else some i.wide) i (joins + 1) r
  | '\\' :: _ => none
  | l => some ((joinedAt.map fun w => ⟨w, w⟩).getD i, joins, l)

/-- Whether one indentation lies within another by both measures. -/
def Indentation.within (inner outer : Indentation) : Bool :=
  outer.wide < inner.wide && outer.narrow < inner.narrow

/-- Leaves the indentations that are wider than `i`, counting them. -/
def leave (i : Indentation) : List Indentation → Nat × List Indentation
  | [] => (0, [])
  | top :: rest =>
    if i.wide < top.wide then
      let (n, left) := leave i rest
      (n + 1, left)
    else (0, top :: rest)

/-- The tokens for a change to indentation `i`, and the indentations then open. -/
def shift (i : Indentation) (open' : List Indentation) : Option (List Token × List Indentation) :=
  let top := open'.headD ⟨0, 0⟩
  if i.wide = top.wide then if i.narrow = top.narrow then some ([], open') else none
  else if top.wide < i.wide then
    if i.within top && open'.length + 1 < indentLimit then some ([.indent], i :: open') else none
  else
    let (n, left) := leave i open'
    if left.headD ⟨0, 0⟩ = i then some (List.replicate n .dedent, left) else none

/-! ## Marks -/

/-- The mark at the front. -/
def markAt? : List Char → Option (Mark × List Char)
  | '=' :: '=' :: r => some (.equals, r)
  | c :: r =>
    match c with
    | '(' => some (.openRound, r)
    | ')' => some (.closeRound, r)
    | '[' => some (.openSquare, r)
    | ']' => some (.closeSquare, r)
    | '{' => some (.openCurly, r)
    | '}' => some (.closeCurly, r)
    | ',' => some (.comma, r)
    | ':' => some (.colon, r)
    | ';' => some (.semicolon, r)
    | '.' => some (.dot, r)
    | '=' => some (.assign, r)
    | '+' => some (.plus, r)
    | '-' => some (.minus, r)
    | '*' => some (.star, r)
    | '/' => some (.slash, r)
    | '@' => some (.decorate, r)
    | _ => none
  | [] => none

/-- The bracket that closes an opening one. -/
def closing? : Mark → Option Mark
  | .openRound => some .closeRound
  | .openSquare => some .closeSquare
  | .openCurly => some .closeCurly
  | _ => none

def isClosing (m : Mark) : Bool := m == .closeRound || m == .closeSquare || m == .closeCurly

/-- The brackets open behind a mark; a closing one must match the innermost. -/
def nest? (brackets : List Mark) (m : Mark) : Option (List Mark) :=
  if (closing? m).isSome then
    if brackets.length < bracketLimit then some (m :: brackets) else none
  else if isClosing m then
    match brackets with
    | b :: rest => if closing? b = some m then some rest else none
    | [] => none
  else some brackets

/-! ## Tokens -/

def isSkipped (c : Char) : Bool := c == ' ' || c == '\t' || c == '\x0c'

/-- A text literal at the front: letters, a quote, the body. -/
def textAt? (l : List Char) : Option (Token × List Char) :=
  let letters := l.takeWhile Char.isAlpha
  match l.dropWhile Char.isAlpha with
  | q :: r =>
    if q = '\'' || q = '"' then do
      let kind ← textKind? letters
      let (body, rest) ← takeBody q r
      let t ← textToken? kind body
      return (t, rest)
    else none
  | [] => none

/-- Whether a text literal starts here, well formed or not. Other letters in
front of a quote are a name of their own. -/
def startsText (l : List Char) : Bool :=
  match l.dropWhile Char.isAlpha with
  | q :: _ => (q == '\'' || q == '"') && (textKind? (l.takeWhile Char.isAlpha)).isSome
  | [] => false

def startsNumber : List Char → Bool
  | '.' :: d :: _ => d.isDigit
  | d :: _ => d.isDigit
  | [] => false

/-- A name, a number or a text at the front. -/
def literalAt? (l : List Char) : Option (Token × List Char) :=
  if startsText l then textAt? l
  else if startsNumber l then readNumber l
  else match l with
    | c :: _ =>
      if mayStartName c then
        (wordToken? (l.takeWhile mayBeInName)).map fun t => (t, l.dropWhile mayBeInName)
      else none
    | [] => none

/-- The line ends in the part of `l` that was read before `rest`. -/
def linesRead (l rest : List Char) : Nat := (l.take (l.length - rest.length)).count '\n'

/-- The lexemes of `l`; `start` says that a line begins here. Each step uses up a
character or ends a line's start, so twice the length of `l` is fuel enough. -/
def lex : Nat → Reading → Bool → List Char → Option (List Lexeme)
  | 0, _, _, _ => none
  | fuel + 1, st, true, l => do
    let (i, joins, rest) ← measure none ⟨0, 0⟩ 0 l
    let st := { st with line := st.line + joins }
    let blank := match rest with
      | '#' :: _ | '\n' :: _ => true
      | _ => false
    if blank then
      match rest.dropWhile (· != '\n') with
      | _ :: r => lex fuel { st with line := st.line + 1 } true r
      | [] => if st.brackets.isEmpty then some [] else none
    else if !st.brackets.isEmpty then lex fuel st false rest
    else
      let (changes, indents) ← shift i st.indents
      let more ← if rest.isEmpty then some [] else lex fuel { st with indents } false rest
      return changes.map (⟨·, st.line⟩) ++ more
  | fuel + 1, st, false, l =>
    match l.dropWhile isSkipped with
    | [] => if st.brackets.isEmpty then some [⟨.newline, st.line⟩] else none
    | '#' :: r => lex fuel st false (r.dropWhile (· != '\n'))
    | '\n' :: r =>
      let next := { st with line := st.line + 1 }
      if st.brackets.isEmpty then (lex fuel next true r).map (⟨.newline, st.line⟩ :: ·)
      else lex fuel next true r
    | '\\' :: '\n' :: r => if r.isEmpty then none else lex fuel { st with line := st.line + 1 } false r
    | l =>
      match literalAt? l with
      | some (t, rest) =>
        (lex fuel { st with line := st.line + linesRead l rest } false rest).map (⟨t, st.line⟩ :: ·)
      | none => do
        let (m, rest) ← if startsText l || startsNumber l then none else markAt? l
        let brackets ← nest? st.brackets m
        let more ← lex fuel { st with brackets } false rest
        return ⟨.mark m, st.line⟩ :: more

/-- The lexemes of characters, which hold no null character. -/
def lexemes? (l : List Char) : Option (List Lexeme) :=
  if l.contains (Char.ofNat 0) then none else lex (2 * l.length + 2) ⟨[], [], 1⟩ true l

/-- The lexemes of a block, whose last line counts as ended. -/
def tokens? (source : String) : Option (List Lexeme) :=
  let l := unifyBreaks source.toList
  lexemes? (if l.isEmpty || l.getLast? = some '\n' then l else l ++ ['\n'])

/-- The lexemes of a block as it stands: in a last line without end, mere blanks
are an indentation. -/
def tokensAsGiven? (source : String) : Option (List Lexeme) := lexemes? (unifyBreaks source.toList)

end LiterateConfig.Script
