import LiterateConfig.Files.Disk
import LiterateConfig.Log
import LiterateConfig.Script.Compiled

/-!
# What a run acts on

A world holds the machine that runs blocks, the disk, and the log. `Act` is an
action on a world that always ends well; `Try` may end with a fault instead,
keeping what it did before.
-/
namespace LiterateConfig

structure World where
  machine : Script.Machine
  disk : Files.Disk
  /-- The least level that is written. -/
  threshold : Log.Level
  /-- The records written so far, latest first. -/
  records : List Log.Record
  /-- The place of the log file, if records go to one. -/
  logFile : Option (List String)

abbrev Act := StateM World

abbrev Try (ε : Type) := ExceptT ε Act

namespace World

/-- Writes a record. -/
def write (w : World) (r : Log.Record) : World :=
  let disk := match w.logFile with
    | none => w.disk
    | some place =>
      match w.disk.node? place with
      | some (.file content) => w.disk.put place (.file (content ++ r.fileText.toUTF8))
      | _ => w.disk.put place (.file r.fileText.toUTF8)
  { w with records := r :: w.records, disk }

def debugging (w : World) : Bool := w.threshold == .debug

def heap (w : World) : Script.Heap := w.machine.heap

end World

/-! ## Actions with a state of their own -/

/-- An action that also reads and changes a state of its own. -/
abbrev Using (σ ε : Type) := ExceptT ε (StateT σ Act)

instance {σ ε : Type} : MonadLift (Try ε) (Using σ ε) where
  monadLift x := fun s => do
    let r ← x
    return (r, s)

/-- Runs an action on a state of its own and gives the state that is left. -/
def startingFrom {σ ε α : Type} (s : σ) (x : Using σ ε α) : Try ε (α × σ) := ExceptT.mk do
  let (r, s) ← x s
  return r.map fun a => (a, s)

/-- Runs an action and gives its outcome; an error without `p` goes on. -/
def recoveredIf {σ α : Type} (p : Script.Raised → Bool) (x : Using σ Script.Raised α) :
    Using σ Script.Raised (Except Script.Raised α) := fun s => do
  match ← x s with
  | (.ok a, s) => return (.ok (.ok a), s)
  | (.error e, s) => if p e then return (.ok (.error e), s) else return (.error e, s)

/-- Runs an action and gives its outcome; an error that cannot be recovered
from goes on. -/
def recovered {σ α : Type} (x : Using σ Script.Raised α) :
    Using σ Script.Raised (Except Script.Raised α) := recoveredIf Script.Raised.recoverable x

/-! ## Writing to the log -/

/-- Writes a message if its level reaches the threshold. -/
def note (level : Log.Level) (source : Log.Source) (message : String) (traced : Bool := false) :
    Act Unit :=
  modify fun w => if w.threshold.rank ≤ level.rank then w.write ⟨level, source, message, traced⟩ else w

/-- Writes that something failed but is recovered from: what failed, the source
text that is to blame if there is one, and the error. -/
def noteFailure (source : Log.Source) (what : String) (error : String)
    (text : Option String := none) : Act Unit := do
  let what := match text with
    | some t => s!"{what}\nSource:\n{t}"
    | none => what
  note .error source s!"{what}\nError: {error}" (← get).debugging

/-! ## Running blocks -/

/-- A computation of the machine as an action on the world. -/
def onMachine {α : Type} (x : Script.Eval α) : Try Script.Raised α := fun w =>
  let (r, machine) := x w.machine
  (r, { w with machine })

/-- Runs a computation of the machine and gives its outcome; an error that
cannot be recovered from goes on. -/
def attempt {α : Type} (x : Script.Eval α) : Try Script.Raised (Except Script.Raised α) :=
  onMachine (Script.attempt x)

/-- Writes that a computation failed with an error of a block. -/
def noteRaised (source : Log.Source) (what : String) (e : Script.Raised)
    (text : Option String := none) : Act Unit := do
  noteFailure source what (e.message (← get).heap) text

end LiterateConfig
