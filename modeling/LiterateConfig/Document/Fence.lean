import LiterateConfig.Text.Blank
import LiterateConfig.Text.Lines

/-!
# Fences

A fence is a region of a document between two marker lines: an opening line of
at least three backticks or tildes with some information behind them, and a
closing line of at least as many of the same mark and nothing else. With
backticks, a fence can also open and close on a single line.

The first word of the information, up to a blank, a fence mark or a brace, is
the language of the fence.
-/
namespace LiterateConfig.Document

open LiterateConfig.Text

/-- The two characters that fences are made of. -/
inductive FenceMark where
  | backtick
  | tilde
  deriving DecidableEq, Repr

def FenceMark.char : FenceMark → Char
  | .backtick => '`'
  | .tilde => '~'

/-- The opening of a fence: its mark, how often it stands there, and the
information behind. -/
structure Opening where
  mark : FenceMark
  width : Nat
  info : List Char
  deriving DecidableEq, Repr

/-- The marks that open or close the fence. -/
def Opening.marks (o : Opening) : List Char := List.replicate o.width o.mark.char

/-- The least number of marks that opens a fence. -/
def leastWidth : Nat := 3

/-- A stripped line as the opening of a fence with a mark. -/
def openingWith? (mark : FenceMark) (stripped : List Char) : Option Opening :=
  let width := (stripped.takeWhile (· == mark.char)).length
  let info := stripped.dropWhile (· == mark.char)
  if leastWidth ≤ width && !info.contains '\n' then some ⟨mark, width, info⟩ else none

/-- A stripped line as the opening of a fence. -/
def opening? (stripped : List Char) : Option Opening :=
  openingWith? .backtick stripped <|> openingWith? .tilde stripped

/-- A character of a language's name. -/
def isLanguageChar (c : Char) : Bool := !isBlank c && c != '`' && c != '~' && c != '{'

/-- The language that the information names. -/
def language? (info : List Char) : Option (List Char) :=
  match (strip info).takeWhile isLanguageChar with
  | [] => none
  | l => some l

/-- Whether three backticks stand next to each other. -/
def hasThreeBackticks : List Char → Bool
  | '`' :: '`' :: '`' :: _ => true
  | _ :: r => hasThreeBackticks r
  | [] => false

/-- Whether the fence closes on its own line. -/
def Opening.isOneLine (o : Opening) : Bool := o.mark == .backtick && hasThreeBackticks o.info

/-- The text of a fence on one line: what stands between the language and the
closing backticks at the end of the line, or all that stands behind the
language when the line does not end that way. -/
def oneLineText (info language : List Char) : List Char :=
  let rest := (stripStart info).drop language.length
  let closing := rest.reverse.takeWhile (· == '`')
  if leastWidth ≤ closing.length then strip (rest.take (rest.length - closing.length)) else strip rest

/-- Whether a line closes a fence. -/
def closes (o : Opening) (line : List Char) : Bool :=
  let stripped := strip line
  o.width ≤ stripped.length && stripped.all (· == o.mark.char)

/-- The text of a fence over several lines: its body with the shared indentation
and the blanks at its ends removed. -/
def bodyText (body : List (List Char)) : List Char := strip (dedent (joinWith ['\n'] body))

end LiterateConfig.Document
