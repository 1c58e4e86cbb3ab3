import LiterateConfig.Component.Spec
import LiterateConfig.Install.NameSet

/-!
# Removing components

Components that are installed but no longer declared are removed, in order of
their names. A removal that fails is noted and tried once more when all have
had their turn. Where nothing is declared nothing is removed: the declaration
may still be missing. How a component is removed is a parameter.

Results:
* `plan_nil`: without declared components nothing is planned.
-/
namespace LiterateConfig.Removal

open LiterateConfig.Component (Spec)
open LiterateConfig.Install (NameSet)
open LiterateConfig.Script (Raised)

/-- What became of the removal of a component. -/
structure Outcome where
  identifier : String
  removed : Bool
  /-- The message of the last failure, if that is how it ended. -/
  error : Option String
  attempts : Nat
  deriving DecidableEq, Repr

def logSource : Log.Source := "reconciler"

/-! ## What to remove -/

/-- The name under which a component has to stay installed; those managed by
hand have none. -/
def desiredName? (s : Spec) : Option String := if s.manual then none else s.desiredKey

/-- The name that keeps a component from being removed; an empty one keeps none. -/
def keptName? (s : Spec) : Option String := Spec.given (desiredName? s)

/-- The names of the declared components. -/
def desired (specs : List Spec) : NameSet := .ofList (specs.filterMap keptName?)

def noteManual : List Spec → Act Unit
  | [] => return ()
  | s :: rest => do
    if s.manual then
      let shown := s.identifier?.getD "unknown"
      note .debug logSource s!"Skipping cleanup for manual component spec: {shown}"
    noteManual rest

/-- The names of the declared components, with a note of those left to their users. -/
def desiredSet (specs : List Spec) : Act NameSet := do
  noteManual specs
  return desired specs

/-- The installed components that are not declared. -/
def plan (installed declared : NameSet) : List String :=
  if declared.isEmpty then [] else installed.filter fun n => !declared.contains n

/-- The plan, with a note if nothing is declared. -/
def planRemovals (installed declared : NameSet) : Act (List String) := do
  if declared.isEmpty then note .info logSource "Desired component set is empty; skipping cleanup"
  return plan installed declared

/-! ## Removing -/

/-- How a component is removed, on a state of its own. -/
abbrev Remover (σ : Type) := String → Using σ Raised Unit

/-- Removes a component; `attempt` counts the tries. A failure that has no text is
not recovered from. -/
def removeOne {σ : Type} (remove : Remover σ) (identifier : String) (attempt : Nat) :
    Using σ Raised Outcome := do
  match ← recovered (remove identifier) with
  | .ok () =>
    note .info logSource s!"Removed unused component: {identifier}"
    return ⟨identifier, true, none, attempt⟩
  | .error e =>
    noteRaised logSource s!"Failed to remove unused component {identifier}" e
    let text ← onMachine e.text
    return ⟨identifier, false, some text, attempt⟩

/-- The first try of each removal. -/
def firstPass {σ : Type} (remove : Remover σ) : List String → Using σ Raised (List Outcome)
  | [] => return []
  | i :: rest => do
    let o ← removeOne remove i 1
    return o :: (← firstPass remove rest)

/-- The second try of those that failed. -/
def secondPass {σ : Type} (remove : Remover σ) : List Outcome → Using σ Raised (List Outcome)
  | [] => return []
  | o :: rest => do
    if o.removed then return o :: (← secondPass remove rest)
    else
      note .info logSource s!"Retrying removal of component: {o.identifier}"
      let again ← removeOne remove o.identifier 2
      return again :: (← secondPass remove rest)

/-- Names in a message. -/
def shownNames (names : List String) : String :=
  "[" ++ Script.commaJoined (names.map Text.quoted) ++ "]"

/-- Removes the installed components that the specs do not declare. -/
def cleanup {σ : Type} (remove : Remover σ) (specs : List Spec) (installed : NameSet) :
    Using σ Raised (List Outcome) := do
  let declared ← desiredSet specs
  note .debug logSource ("Desired component set: " ++ shownNames declared)
  note .debug logSource ("Installed components: " ++ shownNames installed)
  let names ← planRemovals installed declared
  secondPass remove (← firstPass remove names)

theorem plan_nil (installed : NameSet) : plan installed [] = [] := rfl

end LiterateConfig.Removal
