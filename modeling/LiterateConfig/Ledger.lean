import LiterateConfig.Block.Basic
import LiterateConfig.Digest.Sha256
import LiterateConfig.Json.Reader
import LiterateConfig.Text.Numeral

/-!
# The ledger of hashes

A ledger holds the hash of each block of the previous run, by index. Comparing
blocks with it tells which have changed and which have gone; detecting changes
also replaces it.

Results:
* `get?_hashes_append`: a later block decides the hash of its index.
-/
namespace LiterateConfig.Ledger

open LiterateConfig.Files (Path)

/-- The hash of a text: its SHA-256 digest in hexadecimal digits. -/
def hash (text : String) : String := Digest.hexDigest text

/-- Hashes by index, in the order in which they came. -/
abbrev Hashes := Keyed Int String

def logSource : Log.Source := "ledger"

/-! ## The file -/

/-- Why a ledger cannot be used at all. -/
inductive Problem where
  | tooDeep
  | unusable (p : Files.Problem)
  deriving DecidableEq, Repr

/-- The hash that a JSON member spells: its name is a whole number and its value a text. -/
def hashOf? : String × Json.Data → Option (Int × String)
  | (name, .text s) => (Text.readInt? name).map fun index => (index, s)
  | _ => none

/-- The hashes that JSON members spell; other members are passed over. -/
def ofMembers (ms : List (String × Json.Data)) : Hashes := Keyed.putAll (ms.filterMap hashOf?) []

/-- Reads the ledger; a file that is missing or of another form counts as empty. -/
def load (path : Path) : Try Problem Hashes := do
  let unreadable : Try Problem Hashes := do
    note .warning logSource s!"Ignoring unreadable hash ledger {path.toString}"
    return []
  match (← getThe World).disk.readText path with
  | .error .notFound => return []
  | .error _ => unreadable
  | .ok text =>
    match Json.read text with
    | .error .malformed => unreadable
    | .error .tooDeep => throw .tooDeep
    | .ok (.record ms) => return ofMembers ms
    | .ok _ =>
      note .warning logSource s!"Ignoring hash ledger {path.toString}: expected a mapping"
      return []

/-- Replaces the ledger; tells whether it was written. -/
def save (path : Path) (hs : Hashes) : Try Problem Bool :=
  ExceptT.adapt .unusable (saveJson logSource "hash ledger" none path (.numbered hs))

/-! ## Changes -/

structure Changes where
  /-- The indices of new and changed blocks, ascending. -/
  changed : List Int
  /-- The indices beyond the blocks that are left, ascending. -/
  removed : List Int
  deriving DecidableEq, Repr

namespace Changes

def none : Changes := ⟨[], []⟩

def any (c : Changes) : Bool := !c.changed.isEmpty || !c.removed.isEmpty

end Changes

/-- The hashes of blocks; of blocks with one index the last counts. -/
def hashes (blocks : List Block) : Hashes :=
  Keyed.putAll (blocks.map fun b => (b.index, hash b.normalized)) []

/-- What is different between two ledgers, the second being the newer. -/
def differences (previous current : Hashes) : Changes :=
  ⟨Keyed.keys (current.ascending.filter fun p => previous.get? p.1 != some p.2),
    previous.ascending.keys.filter fun i => decide ((current.length : Int) < i)⟩

/-- Compares blocks with the ledger. -/
def compare (path : Path) (blocks : List Block) : Try Problem (Changes × Hashes) := do
  let current := hashes blocks
  return (differences (← load path) current, current)

def noteIndices (f : Int → String) : List Int → Act Unit
  | [] => return ()
  | i :: rest => do
    note .info logSource (f i)
    noteIndices f rest

/-- Compares blocks with the ledger and replaces it by their hashes. -/
def detect (path : Path) (blocks : List Block) : Try Problem Changes := do
  let (changes, current) ← compare path blocks
  noteIndices (fun i => s!"Config block {i} has changed") changes.changed
  noteIndices (fun i => s!"Config block {i} has been removed") changes.removed
  let _ ← save path current
  return changes

/-! ## Lemmas -/

theorem get?_hashes_append (blocks : List Block) (b : Block) :
    Keyed.get? b.index (hashes (blocks ++ [b])) = some (hash b.normalized) := by
  simp [hashes, Keyed.putAll, Keyed.get?_put_self]

end LiterateConfig.Ledger
