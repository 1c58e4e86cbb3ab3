import LiterateConfig.CommandLine.Perform

/-!
# The places of a command

A command only looks at some places of a disk: those of the settings for its
path, and those that the settings name. A disk that has these places, and the
directories above them, is as good as the whole.

Results:
* `above_length`: a path has as many directories above it as names.
-/
namespace LiterateConfig.CommandLine

open LiterateConfig.Files (Path Disk)

/-- The directories above a path, outermost first. -/
def above (p : Path) : List Path := (List.range p.parts.length).map fun n => ⟨p.slashes, p.parts.take n⟩

/-- Where the settings for a path can be. -/
def settingsPlaces (disk : Disk) (p : Path) : List Path :=
  let p := disk.here.join ((p.expandHome? disk.home).getD p)
  [p, p.child Settings.fileName, p.parent.child Settings.fileName].map fun q => q.resolve disk.here

/-- The files that settings name, besides the documents of the root. -/
def namedPlaces (disk : Disk) (s : Settings) : List Path :=
  let document := Path.ofString s.document
  let documents :=
    if s.document.isEmpty then [] else [s.root.join ((document.expandHome? disk.home).getD document)]
  ([s.ledgerPath, s.associationsPath, s.blocksPath, s.installedPath] ++ documents ++ s.logFile.toList).map
    fun p => p.resolve disk.here

theorem above_length (p : Path) : (above p).length = p.parts.length := by simp [above]

end LiterateConfig.CommandLine
