import LiterateConfig.Text.Search
import LiterateConfig.Text.Word

/-!
# Words on a command line

A word is plain, the divider `--`, or names an option. An option has a long name
of two hyphens, which may be cut short as long as no other option begins that
way, and perhaps a short one of a hyphen and a letter. Behind a long name an
equals sign joins a value; short names may be written in one word. Behind the
divider all words are plain, and so are a single hyphen and negative numbers.

Results:
* `ofText_of_plain`: a text that does not begin with a hyphen is a plain word.
-/
namespace LiterateConfig.CommandLine

open LiterateConfig.Text

inductive Flag where
  | help
  | verbose
  | document
  deriving DecidableEq, Repr

namespace Flag

def longName : Flag → List Char
  | .help => ['-', '-', 'h', 'e', 'l', 'p']
  | .verbose => ['-', '-', 'v', 'e', 'r', 'b', 'o', 's', 'e']
  | .document => ['-', '-', 'd', 'o', 'c', 'u', 'm', 'e', 'n', 't']

def letter? : Flag → Option Char
  | .help => some 'h'
  | .verbose => some 'v'
  | .document => none

/-- Whether the option has a value. -/
def takesValue : Flag → Bool
  | .document => true
  | _ => false

/-- The option with a letter. -/
def ofLetter? (flags : List Flag) (c : Char) : Option Flag := flags.find? fun f => f.letter? == some c

/-- The options whose long names begin in a way. -/
def beginningWith (flags : List Flag) (l : List Char) : List Flag :=
  flags.filter fun f => l.isPrefixOf f.longName

end Flag

/-- How a command line ends before any command is carried out. -/
inductive Refusal where
  /-- Help was asked for. -/
  | help
  | misuse
  deriving DecidableEq, Repr

inductive Word where
  | plain (s : String)
  | divider
  /-- A long name, and the value joined to it. -/
  | long (f : Flag) (value : Option (List Char))
  /-- Short names in one word: the first, and what stands behind it. -/
  | short (f : Flag) (behind : List Char)
  /-- Like an option, but there is no such option. -/
  | unknown
  deriving DecidableEq, Repr

/-- Digits with nothing behind them, or only a line feed. -/
def isDigits (l : List Char) : Bool :=
  let rest := l.dropWhile isDecimal
  rest.length < l.length && (rest.isEmpty || rest == ['\n'])

/-- Whether a text behind a hyphen makes a negative number of it. -/
def isNumberBehindHyphen (l : List Char) : Bool :=
  isDigits l || match l.dropWhile isDecimal with
    | '.' :: r => isDigits r
    | _ => false

/-- A text behind two hyphens; `name` is all of it up to an equals sign. -/
def longWord? (flags : List Flag) (l : List Char) : Except Refusal (Option Word) :=
  let (name, rest) := splitAtFirst (· == '=') l
  let value := match rest with
    | _ :: r => some r
    | [] => none
  match Flag.beginningWith flags name with
  | [] => .ok none
  | [f] => .ok (some (.long f value))
  | _ => .error .misuse

/-- A text that begins with a hyphen but names no option. -/
def otherWord (l : List Char) : Word :=
  if isNumberBehindHyphen (l.drop 1) || l.contains ' ' then .plain (String.ofList l) else .unknown

/-- A text as a word; a beginning that several options share is an error. -/
def Word.ofText (flags : List Flag) (s : String) : Except Refusal Word :=
  match s.toList with
  | ['-', '-'] => .ok .divider
  | '-' :: '-' :: r => do
    return (← longWord? flags ('-' :: '-' :: r)).getD (otherWord ('-' :: '-' :: r))
  | '-' :: c :: r =>
    match Flag.ofLetter? flags c with
    | some f => .ok (.short f r)
    | none => .ok (otherWord ('-' :: c :: r))
  | _ => .ok (.plain s)

/-- Texts as words, the divider making those behind it plain. -/
def words (flags : List Flag) : List String → Except Refusal (List Word)
  | [] => .ok []
  | s :: rest => do
    match ← Word.ofText flags s with
    | .divider => return .divider :: rest.map .plain
    | w => return w :: (← words flags rest)

/-- The options that short names in one word stand for, and whether an unknown
letter ends them. No value can be joined to them. -/
def letters (flags : List Flag) (f : Flag) : List Char → Except Refusal (List Flag × Bool)
  | [] => .ok ([f], false)
  | '=' :: _ | '-' :: _ => .error .misuse
  | c :: r =>
    match Flag.ofLetter? flags c with
    | none => .ok ([f], true)
    | some g => do
      let (more, stray) ← letters flags g r
      return (f :: more, stray)

/-! ## Lemmas -/

theorem ofText_of_plain {flags : List Flag} {s : String} (h : s.toList.head? ≠ some '-') :
    Word.ofText flags s = .ok (.plain s) := by
  unfold Word.ofText
  split
  · next e => simp [e] at h
  · next e => simp [e] at h
  · next e => simp [e] at h
  · rfl

end LiterateConfig.CommandLine
