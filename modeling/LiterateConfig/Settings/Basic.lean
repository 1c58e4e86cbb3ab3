import LiterateConfig.Files.Path
import LiterateConfig.Schedule.Basic

/-!
# Settings

The settings of a directory of documents, with those that hold where none are
given. Files that a run keeps stand in the state directory.

Results:
* `stateDirectory_of_none`: the usual state directory is below the root.
-/
namespace LiterateConfig

open LiterateConfig.Files (Path)

structure Settings where
  /-- The directory of the documents. -/
  root : Path
  /-- The only document to scan; empty for all. -/
  document : String
  /-- The languages of the fences that count, in small letters. -/
  languages : List String
  stateDirectory? : Option Path
  /-- The name that a block assigns its components to. -/
  convention : String
  /-- What code that registers keys looks like. -/
  keyPattern : String
  /-- Whether mentions of components must stand apart. -/
  apart : Bool
  logFile : Option Path
  /-- Whether blocks are written to a file for inspection. -/
  saveBlocks : Bool

namespace Settings

/-- The settings of a directory without a settings file. -/
def usual (root : Path) : Settings :=
  ⟨root, "", ["python"], none, "spec", Schedule.keyPattern, false, none, false⟩

def stateDirectory (s : Settings) : Path := s.stateDirectory?.getD (s.root.child ".mdconf")

def ledgerPath (s : Settings) : Path := s.stateDirectory.child "block_hashes.json"

def associationsPath (s : Settings) : Path := s.stateDirectory.child "config_associations.json"

def blocksPath (s : Settings) : Path := s.stateDirectory.child "detected_blocks.json"

def installedPath (s : Settings) : Path := s.stateDirectory.child "installed.json"

theorem stateDirectory_of_none {s : Settings} (h : s.stateDirectory? = none) :
    s.stateDirectory = s.root.child ".mdconf" := by
  simp [stateDirectory, h]

end Settings

end LiterateConfig
