import LiterateConfig.Block.Basic
import LiterateConfig.Json.Reader
import LiterateConfig.Removal

/-!
# Sessions with an installer

An installer keeps the set of managed components in a state file and calls back
when its first load is complete. A session is an installer with what the
callbacks of runs have done.

Results:
* `readState_of_other`: a file that is no record has no components.
-/
namespace LiterateConfig.Install

open LiterateConfig.Component (Spec)
open LiterateConfig.Files (Path)
open LiterateConfig.Script (Value Raised)

/-- What an installer calls back. -/
inductive Callback where
  /-- Calls a function. -/
  | call (v : Value)
  | both (first second : Callback)
  /-- Has the installer call back once more. -/
  | register (c : Callback)
  /-- Has the installer load components. -/
  | load (specs : List Spec)
  /-- Goes on as it finds the world. -/
  | depending (f : World → Callback)
  /-- Removes what a run does not declare, if that has not been done. -/
  | cleanup (run : Nat) (specs : List Spec) (installed : NameSet)

/-- The state of an installer. -/
structure State where
  /-- The state file; without one the state is not kept. -/
  path : Option Path
  installed : NameSet
  /-- What waits for the first load, in order. -/
  pending : List Callback
  /-- Whether the first load is complete. -/
  loaded : Bool

structure Session where
  installer : State
  /-- The number of runs so far. -/
  runs : Nat
  /-- What the cleanup of runs has done, latest first. -/
  cleanups : List (Nat × List Removal.Outcome)
  /-- The components whose removal was asked for, latest first. -/
  asked : List String

/-- An action on a session. -/
abbrev Task (ε : Type) := Using Session ε

namespace Session

/-- What the cleanup of a run has done, if it is done. -/
def cleanup? (s : Session) (run : Nat) : Option (List Removal.Outcome) := s.cleanups.lookup run

def withInstaller (s : Session) (f : State → State) : Session := { s with installer := f s.installer }

end Session

def logSource : Log.Source := "installer"

/-! ## The state file -/

/-- The only version of the state file that is understood. -/
def isKnownVersion : Json.Data → Bool
  | .int n => n == 1
  | .float x => x == 1
  | .bool b => b
  | _ => false

def text? : Json.Data → Option String
  | .text s => some s
  | _ => none

/-- The components that the content of a state file names. -/
def readState : Json.Data → NameSet
  | .record ms =>
    if ((Keyed.get? "version" ms).any isKnownVersion) then
      match Keyed.get? "installed" ms with
      | some (.list items) => .ofList (items.filterMap text?)
      | _ => []
    else []
  | _ => []

def stateData (installed : NameSet) : Json.Data :=
  .record [("version", .int 1), ("installed", .list (installed.map .text))]

/-- The components that a state file names; a file that cannot be read names none. -/
def load (path : Path) : Try Raised NameSet := do
  let unreadable : Try Raised NameSet := do
    note .warning logSource s!"Ignoring unreadable install state {path.toString}"
    return []
  match (← getThe World).disk.readText path with
  | .error .notFound => return []
  | .error _ => unreadable
  | .ok text =>
    match Json.read text with
    | .ok d => return readState d
    | .error .malformed => unreadable
    | .error .tooDeep =>
      throw ⟨.recursionError, [.text "maximum recursion depth exceeded while decoding a JSON array"]⟩

/-- A new installer, which knows what its state file names. -/
def State.new (path : Option Path) : Try Raised State := do
  match path with
  | none => return ⟨none, [], [], false⟩
  | some p => return ⟨path, ← load p, [], false⟩

/-- Writes the state file. A failure is only noted, unless no file can have the path. -/
def persist : Task Raised Unit := do
  let s := (← getThe Session).installer
  match s.path with
  | none => return ()
  | some p =>
    let save : Try Raised Bool := ExceptT.adapt (fun _ => ⟨.valueError, [.text "embedded null byte"]⟩)
      (saveJson logSource "install state" none p (stateData s.installed))
    let _ ← save

/-! ## Lemmas -/

theorem readState_of_other {d : Json.Data} (h : ∀ ms, d ≠ .record ms) : readState d = [] := by
  cases d <;> simp_all [readState]

end LiterateConfig.Install
