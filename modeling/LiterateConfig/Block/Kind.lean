import LiterateConfig.Block.Basic
import LiterateConfig.Block.Marker
import LiterateConfig.Text.Word

/-!
# What a block is

A block is told by its markers and the shape of its body; the first rule that
applies decides:

1. a block with a `disable` marker is disabled;
2. a single token with a slash in it is a bare reference to a component;
3. a body that returns a list or dictionary, or assigns one to the name of the
   convention, specifies components;
4. a definition of the function `config` is an external setup;
5. all else is free-form code.
-/
namespace LiterateConfig.Block

open LiterateConfig.Text

inductive Kind where
  | disabled
  | bareReference
  | componentSpec
  | externalSetup
  | freeForm
  deriving DecidableEq, Repr

def Kind.name : Kind → String
  | .disabled => "disabled"
  | .bareReference => "bare-reference"
  | .componentSpec => "component-spec"
  | .externalSetup => "external-setup"
  | .freeForm => "free-form"

def returnWord : List Char := ['r', 'e', 't', 'u', 'r', 'n']

def defWord : List Char := ['d', 'e', 'f']

def configWord : List Char := ['c', 'o', 'n', 'f', 'i', 'g']

/-- Whether a word stands at the front and ends there; it ends in a word character. -/
def startsWithWhole (word l : List Char) : Bool :=
  match dropLead? word l with
  | some rest => !rest.head?.any isWord
  | none => false

/-- What stands behind the name of the convention, blanks and an equals sign. -/
def behindAssignment? (convention l : List Char) : Option (List Char) := do
  let rest ← dropLead? convention l
  match stripStart rest with
  | '=' :: r => some r
  | _ => none

/-- Whether a list or dictionary opens behind blanks. -/
def opensCollection (l : List Char) : Bool :=
  match stripStart l with
  | '[' :: _ | '{' :: _ => true
  | _ => false

/-- Whether a body starts like code: with `return`, `def` or an assignment to
the name of the convention. -/
def startsReserved (convention l : List Char) : Bool :=
  startsWithWhole returnWord l || startsWithWhole defWord l || (behindAssignment? convention l).isSome

/-- A character that a bare reference cannot have. -/
def isBareBreak (c : Char) : Bool := isBlank c || c == '\'' || c == '"'

def isBareReference (convention l : List Char) : Bool :=
  !l.contains '\n' && !startsReserved convention l && l.contains '/' && !l.any isBareBreak

def isSpecShape (convention l : List Char) : Bool :=
  (match dropLead? returnWord l with
    | some rest => opensCollection rest
    | none => false) ||
  (match behindAssignment? convention l with
    | some rest => opensCollection rest
    | none => false)

def isExternalSetup (l : List Char) : Bool :=
  match dropLead? defWord l with
  | some (c :: r) =>
    isBlank c && match dropLead? configWord (stripStart (c :: r)) with
      | some rest => (stripStart rest).head? == some '('
      | none => false
  | _ => false

/-- The kind of a body that is not disabled. -/
def bodyKind (convention body : List Char) : Kind :=
  if isBareReference convention body then .bareReference
  else if isSpecShape convention body then .componentSpec
  else if isExternalSetup body then .externalSetup
  else .freeForm

/-- A block with its kind and the text that is evaluated. -/
structure Classified where
  block : Block
  kind : Kind
  body : String
  deriving DecidableEq, Repr

def Classified.index (c : Classified) : Int := c.block.index

/-- Reads the markers of a block and tells its kind. -/
def classify (convention : String) (b : Block) : Classified :=
  let (markers, body) := readMarkers (normalize b.normalized)
  let disabled := markers.contains .disable
  let manual := markers.contains .manual
  let kind := if disabled then .disabled else bodyKind convention.toList body.toList
  ⟨{ b with disabled, manual }, kind, body⟩

def kindSource : Log.Source := "classifier"

/-- Writes what a block is. -/
def noteKind (c : Classified) : Act Unit :=
  match c.kind with
  | .disabled => note .info kindSource s!"Skipping disabled code block #{c.index}"
  | kind => note .debug kindSource s!"Block #{c.index} classified as {kind.name}"

def noteKinds : List Classified → Act Unit
  | [] => return ()
  | c :: rest => do
    noteKind c
    noteKinds rest

def classifyAll (convention : String) (blocks : List Block) : Act (List Classified) := do
  let classified := blocks.map (classify convention)
  noteKinds classified
  return classified

end LiterateConfig.Block
