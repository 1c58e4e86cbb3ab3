import LiterateConfig.World

/-!
# Component specs and setup entries

A component spec declares one installable component: where it comes from, how
it is set up, and which further actions wait for it to be loaded. A setup entry
is configuration that declares no component.

Results:
* `desiredKey_of_source`: a component with a source is called by it.
-/
namespace LiterateConfig

open LiterateConfig.Script (Value Raised Eval)

/-- Something to run: a compiled block, or the call of a value. -/
inductive Action where
  | compiled (c : Script.Compiled)
  | call (v : Value)

/-- Runs an action with arguments; a compiled block takes none. -/
def Action.run (a : Action) (args : List Value) : Eval Value :=
  match a with
  | .compiled c => c.run
  | .call v => Script.callTop v args

/-- Configuration that is not a component of its own. -/
inductive EntryBody where
  /-- A function to call. -/
  | callable (v : Value)
  /-- A block of code. -/
  | source (text : String)
  /-- A dictionary or record with a part named `setup`. -/
  | table (v : Value)
  /-- A value that sets nothing up. -/
  | inert (v : Value)

def EntryBody.kindName : EntryBody → String
  | .callable _ => "callable"
  | .source _ => "source"
  | .table _ => "table"
  | .inert _ => "opaque"

structure Entry where
  index : Int
  body : EntryBody
  blockIndex : Option Int

/-- The code of an entry that is code. -/
def Entry.text? (e : Entry) : Option String :=
  match e.body with
  | .source text => some text
  | _ => none

namespace Component

structure Spec where
  source : Option String
  path : Option String
  importName : Option String
  attributes : List (Value × Value)
  /-- Managed by hand: never installed or removed. -/
  manual : Bool
  config : Option Value
  deferred : List Action
  blockIndex : Option Int

namespace Spec

def empty : Spec := ⟨none, none, none, [], false, none, [], none⟩

/-- A text that is there and not empty. -/
def given (s : Option String) : Option String := s.filter fun t => !t.isEmpty

/-- What the component is called: its source, otherwise its path, otherwise its import. -/
def identifier (s : Spec) : Option String := given s.source <|> given s.path <|> s.importName

/-- The identifier, if it is not empty. -/
def identifier? (s : Spec) : Option String := given s.identifier

/-- What the component is called in the set of installed ones. -/
def desiredKey (s : Spec) : Option String :=
  match given s.source, given s.importName, given s.path with
  | some t, _, _ => some t
  | none, some t, _ => some ("(import) " ++ t)
  | none, none, some t => some ("(dir) " ++ t)
  | none, none, none => none

theorem desiredKey_of_source {s : Spec} {t : String} (h : given s.source = some t) :
    s.desiredKey = some t := by
  simp [desiredKey, h]

/-! ## Running the setup -/

def logSource : Log.Source := "models"

/-- The name of a spec in messages. -/
def label (s : Spec) : String := s.identifier?.getD "<anonymous>"

/-- Whether each of the actions so far ended well. -/
abbrev Attempts := List Bool

/-- Runs the waiting actions in order, `position` counting them. -/
def runDeferred (label : String) (position : Nat) : List Action → Try Raised Attempts
  | [] => return []
  | a :: rest => do
    match ← attempt (a.run []) with
    | .ok _ =>
      note .debug logSource s!"Deferred config #{position} for {label} executed successfully"
      return true :: (← runDeferred label (position + 1) rest)
    | .error e =>
      noteRaised logSource s!"Error executing deferred config #{position} for {label}" e
      return false :: (← runDeferred label (position + 1) rest)

/-- Runs the hook of the spec on the arguments, if there is one. -/
def runConfig (s : Spec) (args : List Value) : Try Raised Attempts := do
  match s.config with
  | none => return []
  | some hook =>
    match ← attempt (Script.callTop hook args) with
    | .ok _ => return [true]
    | .error e =>
      noteRaised logSource s!"Error in original config for {s.label}" e
      return [false]

/-- Runs the hook and then every waiting action. A failure is noted and the
others still run. -/
def runSetup (s : Spec) (args : List Value) : Try Raised Attempts := do
  let first ← s.runConfig args
  let rest ← runDeferred s.label 1 s.deferred
  return first ++ rest

end Spec

end Component

end LiterateConfig
