import LiterateConfig.Block.Kind
import LiterateConfig.Component.Build
import LiterateConfig.Install.Trouble
import LiterateConfig.Ledger
import LiterateConfig.Settings.Load

/-!
# Projects

A project is a directory of documents with its settings, an installer, and what
its blocks see of their host. Looking at a project neither runs its blocks nor
writes anything: `status` tells which blocks have changed since the last run,
`scan` what the blocks are.
-/
namespace LiterateConfig

open LiterateConfig.Files (Path)
open LiterateConfig.Install (Installer NameSet Session)
open LiterateConfig.Script (Raised)

/-- Why work on a project ends. -/
inductive Fault where
  | settings (p : Settings.Problem)
  | pattern (p : Pattern.Problem)
  | documents (p : Document.Problem)
  | ledger (p : Ledger.Problem)
  | files (p : Files.Problem)
  /-- An error of a block or an installer that is not recovered from. -/
  | raised (r : Raised)

structure Project where
  settings : Settings
  /-- What code that registers keys looks like. -/
  keys : Pattern.Node
  installer : Installer
  host : Script.Host

/-- What a run has made, stage by stage. -/
structure Context where
  /-- The number of the run in its session. -/
  number : Nat
  documents : List Path
  blocks : List Block
  classified : List Block.Classified
  changes : Ledger.Changes
  specs : List Component.Spec
  entries : List Entry
  associations : Association.Map
  /-- The entries to run at once. -/
  immediate : List Entry
  installed : NameSet
  desired : NameSet

namespace Project

def logSource : Log.Source := "pipeline"

/-- Settings as they are found on the disk. -/
def settingsAt (p : Path) : Try Fault Settings := do
  match Settings.load (← getThe World).disk p with
  | .ok s => return s
  | .error e => throw (.settings e)

/-- A new session with the installer of a directory. -/
def newSession (s : Settings) : Try Fault Session := do
  let state ← (ExceptT.adapt .raised (Install.State.new (some s.installedPath)) :
    Try Fault Install.State)
  return ⟨state, 0, [], []⟩

/-- The project of settings. -/
def ofSettings (s : Settings) (installer : Installer) (host : Script.Host) : Except Fault Project :=
  match Pattern.read s.keyPattern with
  | .ok keys => .ok ⟨s, keys, installer, host⟩
  | .error e => .error (.pattern e)

/-- The documents and their blocks. -/
def extract (s : Settings) : Try Fault (List Path × List Block) := do
  match Document.discover (← getThe World).disk s.root s.document with
  | .error e => throw (.documents e)
  | .ok documents =>
    let texts ← (ExceptT.adapt .documents (Document.read documents) :
      Try Fault (List (Path × String)))
    return (documents, ← Block.extract s.languages texts)

/-- What has changed since the last run. -/
def status (s : Settings) : Try Fault Ledger.Changes := do
  let (_, blocks) ← extract s
  let (changes, _) ← (ExceptT.adapt .ledger (Ledger.compare s.ledgerPath blocks) :
    Try Fault (Ledger.Changes × Ledger.Hashes))
  return changes

/-- The documents and what their blocks are. -/
def scan (s : Settings) : Try Fault Context := do
  let (documents, blocks) ← extract s
  let classified ← Block.classifyAll s.convention blocks
  return ⟨0, documents, blocks, classified, .none, [], [], [], [], [], []⟩

end Project

end LiterateConfig
