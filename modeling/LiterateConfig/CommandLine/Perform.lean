import LiterateConfig.CommandLine.Request
import LiterateConfig.Project.Run

/-!
# Carrying out requests

A command prints what it has to tell and ends with an exit code, and with a
message if it failed for a reason that its user can mend: settings or documents
that are missing or cannot be read. Other faults go on.

Results:
* `indexText_nil`: no indices are spelled out.
-/
namespace LiterateConfig.CommandLine

open LiterateConfig.Files (Path)
open LiterateConfig.Install (Session)

/-- How a command ends. -/
structure Ending where
  exit : Nat
  /-- What is said of a failure. -/
  message : String
  deriving DecidableEq, Repr

namespace Ending

def success : Ending := ⟨0, ""⟩

def failure (message : String) : Ending := ⟨1, message ++ "\n"⟩

end Ending

/-- Prints a line. -/
def say (line : String) : Act Unit :=
  modify fun w => { w with machine.printed := w.machine.printed ++ line ++ "\n" }

/-! ## Failures -/

/-- The message of a fault that a user can mend. -/
def mendable? : Fault → Option String
  | .documents p => p.message?
  | _ => none

/-- The outcome of an action, or the message of a fault that a user can mend. -/
def reported {m : Type → Type} [Monad m] {α : Type} (x : ExceptT Fault m α) :
    ExceptT Fault m (Except String α) :=
  tryCatch (do return .ok (← x)) fun e =>
    match mendable? e with
    | some message => return .error message
    | none => throw e

/-- A fault that no user can mend, in a few words. -/
def faultText (h : Script.Heap) : Fault → String
  | .settings _ => "The settings cannot be used"
  | .pattern _ => "The pattern of keys cannot be read"
  | .documents _ => "The documents cannot be read"
  | .ledger _ => "The ledger cannot be used"
  | .files _ => "A file cannot be used"
  | .raised e => e.kind.name ++ ": " ++ e.message h

def failed (c : Command) (message : String) : Ending :=
  .failure s!"{Log.toolName} {c.name} failed: {message}"

/-! ## What is printed -/

/-- Indices in a line. -/
def indexText (is : List Int) : String :=
  if is.isEmpty then "none" else Script.commaJoined (is.map fun i => s!"#{i}")

def removalText (o : Removal.Outcome) : String :=
  let status := match o.error with
    | some e => s!"failed ({e})"
    | none => "removed"
  let attempts := o.attempts
  s!"Cleanup {o.identifier}: {status}" ++ if 1 < attempts then s!" after {attempts} attempts" else ""

def sayEach {α : Type} (f : α → String) : List α → Act Unit
  | [] => return ()
  | x :: rest => do
    say (f x)
    sayEach f rest

def sayApplied (c : Context) (removals : List Removal.Outcome) : Act Unit := do
  say (s!"Applied {c.specs.length} component spec(s) and {c.entries.length} config block(s) " ++
    s!"from {c.documents.length} document(s)")
  if c.changes.any then
    let changed := indexText c.changes.changed
    let removed := indexText c.changes.removed
    say s!"Changed blocks: {changed}; removed blocks: {removed}"
  sayEach removalText removals

/-- A block in the list of blocks, with its first line. -/
def blockText (c : Block.Classified) : String :=
  let mark := if c.block.manual then " [manual]" else ""
  let first := (Text.lines c.body).headD ""
  s!"#{c.index} {c.kind.name} ({c.block.within.name}){mark}: {first}"

def sayStatus (c : Ledger.Changes) : Act Unit := do
  if c.any then
    let changed := indexText c.changed
    let removed := indexText c.removed
    say s!"Changed blocks: {changed}"
    say s!"Removed blocks: {removed}"
  else say "Config blocks unchanged since last apply"

/-! ## Commands -/

/-- Runs a project and loads its components. -/
def applyProject (p : Project) : Project.Stage (Except String Context) := do
  match ← reported p.run with
  | .error message => return .error message
  | .ok c =>
    Project.raising (Install.loadAll Install.remove c.specs)
    return .ok c

def apply (s : Settings) : Try Fault Ending := do
  let session ← Project.newSession s
  match Project.ofSettings s Install.stateFile [] with
  | .error e => throw e
  | .ok p =>
    match ← startingFrom session (applyProject p) with
    | (.error message, _) => return failed .apply message
    | (.ok c, session) =>
      sayApplied c (Project.removals c session)
      return .success

/-- Looks at a project without running its blocks; the installer and the pattern
of keys must be sound all the same. -/
def look {α : Type} (c : Command) (s : Settings) (x : Try Fault α) (tell : α → Act Unit) :
    Try Fault Ending := do
  let _ ← Project.newSession s
  match Project.ofSettings s Install.stateFile [] with
  | .error e => throw e
  | .ok _ =>
    match ← reported x with
    | .error message => return failed c message
    | .ok a =>
      tell a
      return .success

def run (c : Command) (s : Settings) : Try Fault Ending :=
  match c with
  | .apply => apply s
  | .blocks => look .blocks s (Project.scan s) fun ctx => sayEach blockText ctx.classified
  | .status => look .status s (Project.status s) sayStatus

/-- Opens the log. -/
def openLog (verbose : Bool) (file : Option Path) : Try Fault Unit := do
  modifyThe World fun w => { w with threshold := if verbose then .debug else .info, logFile := none }
  match file with
  | none => return ()
  | some p =>
    let disk := (← getThe World).disk
    match do (← disk.makeDirectories p.parent).openAtEnd (p.resolve disk.here) with
    | .error e => throw (.files e)
    | .ok (place, disk) => modifyThe World fun w => { w with disk, logFile := some place }

/-- Carries out a request. -/
def perform (r : Request) : Try Fault Ending := do
  match Settings.load (← getThe World).disk (Path.ofString r.path) with
  | .error e =>
    match e.message? with
    | some message => return .failure message
    | none => throw (.settings e)
  | .ok s =>
    let s := { s with document := r.document.getD s.document }
    openLog r.verbose s.logFile
    run r.command s

theorem indexText_nil : indexText [] = "none" := rfl

end LiterateConfig.CommandLine
