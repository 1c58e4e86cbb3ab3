import LiterateConfig.Project.Basic
import LiterateConfig.Schedule.Immediate

/-!
# Runs

A run extracts the blocks of a project, compares them with the last run, builds
components and entries, installs the components and runs the entries that wait
for none. What an installer fails in is noted and the run goes on; removing what
is no longer declared is left to the end of the first load.
-/
namespace LiterateConfig.Project

open LiterateConfig.Component (Spec)
open LiterateConfig.Files (Path)
open LiterateConfig.Install (Installer NameSet Session)
open LiterateConfig.Script (Raised)

/-- Part of a run. -/
abbrev Stage := Using Session Fault

/-- A block or an installer that may raise an error, as part of a run. -/
def raising {α : Type} (x : Using Session Raised α) : Stage α := ExceptT.adapt .raised x

/-- Writing files as part of a run. -/
def writing {α : Type} (x : Try Files.Problem α) : Stage α :=
  liftM (ExceptT.adapt .files x : Try Fault α)

/-- Whether a failure of an installer is only noted; a request to exit is none. -/
def isNoted (e : Raised) : Bool := e.recoverable && e.kind != .systemExit

/-- Installs components; if that fails none count as installed. -/
def install (i : Installer) (specs : List Spec) : Stage NameSet := do
  match ← raising (recoveredIf isNoted (i.reconcile specs)) with
  | .ok names => return names
  | .error e =>
    noteRaised logSource "Installer failed to reconcile component specs" e
    return []

/-- Has what is no longer declared removed at the end of the first load. -/
def registerCleanup (i : Installer) (number : Nat) (specs : List Spec) (installed : NameSet) :
    Stage Unit := do
  match ← raising (recoveredIf isNoted (i.register (.cleanup number specs installed))) with
  | .ok () => return ()
  | .error e => noteRaised logSource "Installer failed to register the cleanup callback" e

/-- The number of a new run. -/
def newNumber : Stage Nat := do
  let number := (← getThe Session).runs
  modifyThe Session fun t => { t with runs := number + 1 }
  return number

/-! ## The stages -/

/-- What the documents of a project declare. -/
structure Declaration where
  documents : List Path
  blocks : List Block
  classified : List Block.Classified
  changes : Ledger.Changes
  specs : List Spec
  entries : List Entry

/-- Writes the blocks to a file if they are asked for. -/
def saveBlocks (s : Settings) (blocks : List Block) : Stage Unit := do
  if s.saveBlocks || (← getThe World).debugging then
    let _ ← writing (Block.save blocks s.blocksPath)

/-- Reads the documents and evaluates their blocks. -/
def declare (p : Project) : Stage Declaration := do
  let s := p.settings
  note .info logSource s!"Starting {Log.toolName} run for {s.root.toString}"
  let (documents, blocks) ← extract s
  saveBlocks s blocks
  let changes ← (ExceptT.adapt .ledger (Ledger.detect s.ledgerPath blocks) : Try Fault Ledger.Changes)
  let classified ← Block.classifyAll s.convention blocks
  let (specs, entries) ← raising (Component.build p.host s.convention classified)
  note .info logSource s!"Scanned {specs.length} component specs and {entries.length} config blocks"
  return ⟨documents, blocks, classified, changes, specs, entries⟩

/-- Decides which entries run at once and which wait for a component. -/
def arrange (p : Project) (d : Declaration) : Stage (Association.Map × Schedule.Plan) := do
  let s := p.settings
  let associations ← Association.associate d.specs d.entries s.apart
  let _ ← writing (Association.save associations s.associationsPath)
  let plan ← raising (Schedule.plan p.host p.keys d.specs d.entries associations)
  return (associations, plan)

/-- Applies the documents of a project. -/
def run (p : Project) : Stage Context := do
  let number ← newNumber
  let d ← declare p
  let (associations, plan) ← arrange p d
  let desired ← Removal.desiredSet plan.specs
  let installed ← install p.installer plan.specs
  registerCleanup p.installer number plan.specs installed
  let _ ← raising (Schedule.execute p.host plan.immediate)
  note .info logSource "Done loading config"
  return {
    number, associations, installed, desired
    documents := d.documents
    blocks := d.blocks
    classified := d.classified
    changes := d.changes
    entries := d.entries
    specs := plan.specs
    immediate := plan.immediate }

/-- The removals of a run so far. -/
def removals (c : Context) (s : Session) : List Removal.Outcome := (s.cleanup? c.number).getD []

end LiterateConfig.Project
