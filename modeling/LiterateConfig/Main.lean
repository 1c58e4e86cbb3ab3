import LiterateConfig.CommandLine.Places

/-!
# The program

Reads the command line, takes the places that the command looks at from the file
system, carries the command out on them, and writes back what has changed.
-/
namespace LiterateConfig.Main

open LiterateConfig.CommandLine
open LiterateConfig.Files (Path Disk Node)

/-- What stands at a path of the file system. -/
def nodeAt (p : Path) : IO (Option Node) := do
  let place := (← IO.currentDir) / p.toString
  if ← place.isDir then return some .directory
  else if ← place.pathExists then return some (.file (← IO.FS.readBinFile place))
  else return none

/-- Takes a path over into a disk, with the directories above it. -/
def takePath (d : Disk) (p : Path) : IO Disk := do
  let mut d := d
  for q in above p ++ [p] do
    if !q.parts.isEmpty then
      match ← nodeAt q with
      | some node => d := d.put q.parts node
      | none => pure ()
  return d

def takePaths (d : Disk) (ps : List Path) : IO Disk := ps.foldlM takePath d

/-- Takes the documents of a directory over. -/
def takeDocuments (d : Disk) (root : Path) : IO Disk := do
  let place := (← IO.currentDir) / root.toString
  if ← place.isDir then
    let names := (← place.readDir).toList.map IO.FS.DirEntry.fileName
    takePaths d ((names.filter Document.isDocumentName).map root.child)
  else return d

/-- Writes what is new or has changed. -/
def writeBack (before after : Disk) : IO Unit := do
  for (place, node) in after.entries do
    let target := "/" ++ "/".intercalate place
    match node, before.node? place with
    | .directory, none => IO.FS.createDirAll target
    | .file content, some (.file old) => if content != old then IO.FS.writeBinFile target content
    | .file content, _ => IO.FS.writeBinFile target content
    | .directory, some _ => pure ()

/-- A disk that has what a request looks at. -/
def diskFor (r : Request) : IO Disk := do
  let here := Path.ofString (← IO.currentDir).toString
  let home := Path.ofString ((← IO.getEnv "HOME").getD "/")
  let p := Path.ofString r.path
  let d ← takePaths ⟨[], here, home⟩ ([here, home] ++ settingsPlaces ⟨[], here, home⟩ p)
  match Settings.load d p with
  | .error _ => return d
  | .ok s =>
    let s := { s with document := r.document.getD s.document }
    takeDocuments (← takePaths d (s.root :: namedPlaces d s)) s.root

/-- Carries a request out and gives the exit code. -/
def carryOut (r : Request) : IO UInt32 := do
  let d ← diskFor r
  let (outcome, w) := perform r ⟨⟨.empty, ""⟩, d, .info, [], none⟩
  writeBack d w.disk
  IO.print w.machine.printed
  IO.eprint (String.join (w.records.reverse.map Log.Record.consoleText))
  match outcome with
  | .ok e =>
    IO.eprint e.message
    return UInt32.ofNat e.exit
  | .error e =>
    IO.eprintln (faultText w.heap e)
    return 1

end LiterateConfig.Main

def main (arguments : List String) : IO UInt32 := do
  match LiterateConfig.CommandLine.read arguments with
  | .error .help =>
    IO.println LiterateConfig.CommandLine.usage
    return 0
  | .error .misuse =>
    IO.eprintln LiterateConfig.CommandLine.usage
    return 2
  | .ok r => LiterateConfig.Main.carryOut r
