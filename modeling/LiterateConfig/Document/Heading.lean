import LiterateConfig.Text.Blank
import LiterateConfig.Text.Word

/-!
# Headings and sections

A heading is a line that starts with one to six hash signs behind at most three
blanks, and a title behind at least one blank. Hash signs at its end belong to
its frame. A heading whose title has the word `main` opens the main section,
one with the word `plugin` or `plugins` the plugins section, whatever the case
of the letters; other headings open none.
-/
namespace LiterateConfig.Document

open LiterateConfig.Text

/-- The section of a document that a block stands in. -/
inductive Section where
  | main
  | plugins
  | unspecified
  deriving DecidableEq, Repr

def Section.name : Section → String
  | .main => "main"
  | .plugins => "plugins"
  | .unspecified => "unspecified"

/-- A line without the blanks in front of it, at most three. -/
def dropShortMargin (line : List Char) : List Char :=
  let margin := line.takeWhile isBlank
  if margin.length ≤ 3 then line.drop margin.length else line.drop 3

/-- What stands behind one to six hash signs. -/
def behindHashes? (l : List Char) : Option (List Char) :=
  let hashes := (l.takeWhile (· == '#')).length
  if 1 ≤ hashes && hashes ≤ 6 then some (l.drop hashes) else none

/-- The title of a heading. -/
def title? (line : List Char) : Option (List Char) := do
  let rest ← behindHashes? (dropShortMargin line)
  match rest with
  | [] => none
  | c :: _ =>
    if isBlank c then
      let title := stripEnd (dropEndWhile (· == '#') (stripEnd (stripStart rest)))
      if title.contains '\n' then none else some title
    else none

/-- Whether `c` is the small letter `k` in some case. -/
def isLetter (k c : Char) : Bool :=
  c == k || c == k.toUpper ||
    (k == 'i' && (c.toNat == 0x130 || c.toNat == 0x131)) || (k == 's' && c.toNat == 0x17f)

/-- What follows a word at the front, whatever its case. -/
def dropWord? : List Char → List Char → Option (List Char)
  | [], l => some l
  | _ :: _, [] => none
  | k :: ks, c :: r => if isLetter k c then dropWord? ks r else none

/-- Whether one of the words stands at the front and ends there. -/
def startsWithWord (words : List (List Char)) (l : List Char) : Bool :=
  words.any fun w => match dropWord? w l with
    | some rest => atWordEdge (l.take w.length).getLast? rest.head?
    | none => false

/-- Whether one of the words stands somewhere in the text, `before` being the
character in front of it. -/
def hasWord (words : List (List Char)) (before : Option Char) : List Char → Bool
  | [] => false
  | c :: r =>
    (atWordEdge before (some c) && startsWithWord words (c :: r)) || hasWord words (some c) r

def mainWords : List (List Char) := [['m', 'a', 'i', 'n']]

def pluginWords : List (List Char) := [
  ['p', 'l', 'u', 'g', 'i', 'n', 's'], ['p', 'l', 'u', 'g', 'i', 'n']]

/-- The section that a title opens. -/
def titleSection? (title : List Char) : Option Section :=
  if hasWord mainWords none title then some .main
  else if hasWord pluginWords none title then some .plugins
  else none

/-- The section behind a line outside fences. -/
def sectionAfter (current : Section) (line : List Char) : Section :=
  ((title? line).bind titleSection?).getD current

end LiterateConfig.Document
