import LiterateConfig.Component.Spec
import LiterateConfig.Block.Basic
import LiterateConfig.Text.Search
import LiterateConfig.Text.Word

/-!
# Associating entries with components

An entry of code belongs to the component whose module it loads by name, or
else to the first component whose identifier it mentions. A mention can be
asked to stand apart: neither behind nor in front of a word character, a dot, a
slash or a hyphen.
-/
namespace LiterateConfig.Association

open LiterateConfig.Text
open LiterateConfig.Component (Spec)

/-! ## Modules loaded by name -/

def isQuote (c : Char) : Bool := c == '"' || c == '\''

/-- The functions that load a module. -/
def loaders : List (List Char) := [
  ['r', 'e', 'q', 'u', 'i', 'r', 'e'],
  ['i', 'm', 'p', 'o', 'r', 't', '_', 'm', 'o', 'd', 'u', 'l', 'e'],
  ['_', '_', 'i', 'm', 'p', 'o', 'r', 't', '_', '_']]

/-- What follows a character behind blanks. -/
def behind? (p : Char → Bool) (l : List Char) : Option (List Char) :=
  match stripStart l with
  | c :: r => if p c then some r else none
  | [] => none

/-- The name in brackets and quotes at the front. -/
def quotedArgument? (l : List Char) : Option (List Char) := do
  let r ← behind? (· == '(') l
  let r ← behind? isQuote r
  let (name, r) := splitAtFirst isQuote r
  let r ← (match r with
    | _ :: r => some r
    | [] => none)
  let _ ← behind? (· == ')') r
  if name.isEmpty then none else some name

/-- The module that a call at the front loads. -/
def loadAt? (l : List Char) : Option (List Char) :=
  loaders.findSome? fun w => (dropLead? w l).bind quotedArgument?

/-- The first module loaded by name, `before` being the character in front. -/
def loadedFrom? (before : Option Char) : List Char → Option (List Char)
  | [] => none
  | c :: r =>
    (if atWordEdge before (some c) then loadAt? (c :: r) else none) <|> loadedFrom? (some c) r

/-- The first module that a text loads by name. -/
def guessModule (text : String) : Option String := (loadedFrom? none text.toList).map String.ofList

/-! ## Mentions -/

/-- A character that a mention standing apart cannot touch. -/
def joinsMention (c : Char) : Bool := isWord c || c == '.' || c == '/' || c == '-'

/-- Whether an identifier stands somewhere in the text, touching no character
that would lengthen it; `before` is the character in front. -/
def standsApart (identifier : List Char) (before : Option Char) (l : List Char) : Bool :=
  (!before.any joinsMention &&
    match dropLead? identifier l with
    | some rest => !rest.head?.any joinsMention
    | none => false) ||
  match l with
  | [] => false
  | c :: r => standsApart identifier (some c) r

/-- Whether a text mentions an identifier. -/
def mentions (apart : Bool) (text identifier : String) : Bool :=
  if apart then standsApart identifier.toList none text.toList
  else occursIn identifier.toList text.toList

/-! ## The map of associations -/

/-- Identifiers by the index of the entry, in the order in which they were found. -/
abbrev Map := Keyed Int String

/-- One association that was made, and whether by guessing the module. -/
structure Found where
  index : Int
  identifier : String
  guessed : Bool
  deriving DecidableEq, Repr

/-- The entries that load a module by name. -/
def guesses (entries : List Entry) : List Found :=
  entries.filterMap fun e => do
    let text ← e.text?
    let m ← guessModule text
    return ⟨e.index, m, true⟩

/-- The entries without an association that mention an identifier, made in
order; an index that has got one is passed over from then on. -/
def mentioning (apart : Bool) (identifier : String) (m : Map) : List Entry → List Found × Map
  | [] => ([], m)
  | e :: rest =>
    match e.text? with
    | none => mentioning apart identifier m rest
    | some text =>
      if (m.get? e.index).isNone && mentions apart text identifier then
        let (found, m) := mentioning apart identifier (m.put e.index identifier) rest
        (⟨e.index, identifier, false⟩ :: found, m)
      else mentioning apart identifier m rest

/-- The associations by mention, spec by spec. -/
def mentioned (apart : Bool) (entries : List Entry) (m : Map) : List Spec → List Found × Map
  | [] => ([], m)
  | s :: rest =>
    match s.identifier? with
    | none => mentioned apart entries m rest
    | some identifier =>
      let (found, m) := mentioning apart identifier m entries
      let (more, m) := mentioned apart entries m rest
      (found ++ more, m)

/-- All associations, with what was found in order. -/
def find (specs : List Spec) (entries : List Entry) (apart : Bool) : List Found × Map :=
  let first := guesses entries
  let m : Map := Keyed.putAll (first.map fun f => (f.index, f.identifier)) []
  let (more, m) := mentioned apart entries m specs
  (first ++ more, m)

def logSource : Log.Source := "associator"

def noteFound : List Found → Act Unit
  | [] => return ()
  | f :: rest => do
    if f.guessed then
      note .debug logSource s!"Guessed component association for config block #{f.index}: {f.identifier}"
    else
      note .debug logSource s!"Associated config block #{f.index} with component spec: {f.identifier}"
    noteFound rest

/-- Maps the indices of entries to the identifiers of components. -/
def associate (specs : List Spec) (entries : List Entry) (apart : Bool) : Act Map := do
  let (found, m) := find specs entries apart
  noteFound found
  return m

/-! ## The record -/

/-- Writes the associations to a file, for inspection only. -/
def save (m : Map) (path : Files.Path) : Try Files.Problem Bool :=
  saveJson logSource "component-config associations to" (some "component-config associations") path
    (.numbered m)

end LiterateConfig.Association
