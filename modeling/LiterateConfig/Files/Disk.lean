import LiterateConfig.Files.Path
import LiterateConfig.Keyed

/-!
# A disk

The files and directories that a run can see, as a value: where a text is read
or written is part of the argument, and the disk after a write is a result.
`here` is the directory from which relative paths are seen, `home` what `~`
stands for.

A path is walked name by name: each name but the last must be a directory, and
`..` leads to the directory above the one reached. A name may have 255 bytes, a
path as it is spelled 4095.

Results:
* `decode_toUTF8`: the bytes of a text are read back as that text, its line ends unified;
* `node?_put_of_ne`: a write leaves all other places alone.
-/
namespace LiterateConfig.Files

/-- What stands at a place. -/
inductive Node where
  | file (content : ByteArray)
  | directory

/-- Why a place cannot be used. -/
inductive Problem where
  | notFound
  | notDirectory
  | isDirectory
  | exists
  | nameTooLong
  /-- No name holds a null character. -/
  | nullInName
  | undecodable
  deriving DecidableEq, Repr

structure Disk where
  /-- The nodes below the root, by the names that lead to them. -/
  entries : Keyed (List String) Node
  here : Path
  home : Path

namespace Disk

/-- The node at a place; the root is a directory. -/
def node? (d : Disk) (place : List String) : Option Node :=
  if place = [] then some .directory else d.entries.get? place

def put (d : Disk) (place : List String) (node : Node) : Disk :=
  { d with entries := d.entries.put place node }

def nameLimit : Nat := 255

def pathLimit : Nat := 4095

/-- The place that names lead to from a place, which the last name need not fill. -/
def walk (d : Disk) (place : List String) : List String → Except Problem (List String)
  | [] => .ok place
  | n :: rest =>
    match d.node? place with
    | none => .error .notFound
    | some (.file _) => .error .notDirectory
    | some .directory =>
      if n = ".." then walk d place.dropLast rest
      else if nameLimit < n.utf8ByteSize then .error .nameTooLong
      else walk d (place ++ [n]) rest

/-- The place of a path. -/
def locate (d : Disk) (p : Path) : Except Problem (List String) :=
  let q := d.here.join p
  if q.parts.any fun n => n.toList.contains (Char.ofNat 0) then .error .nullInName
  else if pathLimit < p.toString.utf8ByteSize then .error .nameTooLong
  else walk d [] q.parts

/-- What stands at a path, if anything. A path that leads through a missing
name or a file has nothing; other problems are passed on. -/
def find (d : Disk) (p : Path) : Except Problem (Option Node) :=
  match d.locate p with
  | .ok place => .ok (d.node? place)
  | .error .nameTooLong => .error .nameTooLong
  | .error _ => .ok none

def isFile (d : Disk) (p : Path) : Except Problem Bool :=
  (d.find p).map fun
    | some (.file _) => true
    | _ => false

def isDirectory (d : Disk) (p : Path) : Except Problem Bool :=
  (d.find p).map fun
    | some .directory => true
    | _ => false

def fileExists (d : Disk) (p : Path) : Except Problem Bool := (d.find p).map Option.isSome

/-- The names of what stands directly in a directory, as far as they satisfy `p`, in order. -/
def names (d : Disk) (dir : Path) (p : String → Bool) : List String :=
  match d.locate dir with
  | .error _ => []
  | .ok place =>
    (d.entries.filterMap fun (k, _) => if k.dropLast = place then k.getLast? else none).filter p
      |>.mergeSort (· ≤ ·)

/-- Those of some paths at which there are files. -/
def filesAmong (d : Disk) : List Path → Except Problem (List Path)
  | [] => .ok []
  | p :: rest => do
    let there ← d.isFile p
    let others ← d.filesAmong rest
    return if there then p :: others else others

/-- The files directly in a directory whose names satisfy `p`, in order. -/
def files (d : Disk) (dir : Path) (p : String → Bool) : Except Problem (List Path) :=
  d.filesAmong ((d.names dir p).map dir.child)

/-! ## Reading and writing -/

def readBytes (d : Disk) (p : Path) : Except Problem ByteArray := do
  match d.node? (← d.locate p) with
  | some (.file content) => .ok content
  | some .directory => .error .isDirectory
  | none => .error .notFound

/-- Bytes as text: strict UTF-8, every line end becoming a line feed. -/
def decode (bytes : ByteArray) : Except Problem String :=
  match String.fromUTF8? bytes with
  | some s => .ok (String.ofList (Text.unifyBreaks s.toList))
  | none => .error .undecodable

def readText (d : Disk) (p : Path) : Except Problem String := do decode (← d.readBytes p)

def writeBytes (d : Disk) (p : Path) (content : ByteArray) : Except Problem Disk := do
  let place ← d.locate p
  match d.node? place with
  | some .directory => .error .isDirectory
  | some (.file _) => .ok (d.put place (.file content))
  | none =>
    match d.node? place.dropLast with
    | some .directory => .ok (d.put place (.file content))
    | some (.file _) => .error .notDirectory
    | none => .error .notFound

def writeText (d : Disk) (p : Path) (text : String) : Except Problem Disk :=
  d.writeBytes p text.toUTF8

/-- The place of a file that is written at its end, an empty one being made
where there is none. -/
def openAtEnd (d : Disk) (p : Path) : Except Problem (List String × Disk) := do
  let place ← d.locate p
  match d.node? place with
  | some (.file _) => .ok (place, d)
  | _ => .ok (place, ← d.writeBytes p .empty)

/-- Makes the one directory `p`. -/
def makeDirectory (d : Disk) (p : Path) : Except Problem Disk := do
  let place ← d.locate p
  match d.node? place with
  | some _ => .error .exists
  | none => .ok (d.put place .directory)

/-- `makeDirectories` for the path with `parts` behind `slashes`, last name first. -/
def makeFrom (d : Disk) (slashes : Nat) : List String → Except Problem Disk
  | [] =>
    match d.makeDirectory ⟨slashes, []⟩ with
    | .error .exists => .ok d
    | r => r
  | n :: above =>
    let p : Path := ⟨slashes, (n :: above).reverse⟩
    let settle (r : Except Problem Disk) (d : Disk) : Except Problem Disk :=
      match r with
      | .error .exists => if d.isDirectory p matches .ok true then .ok d else .error .exists
      | r => r
    match d.makeDirectory p with
    | .error .notFound => do
      let d ← d.makeFrom slashes above
      settle (d.makeDirectory p) d
    | r => settle r d

/-- Makes the directory `p` and what is missing above it; an existing one is fine. -/
def makeDirectories (d : Disk) (p : Path) : Except Problem Disk :=
  d.makeFrom p.slashes p.parts.reverse

/-- Writes a text, making the directories above it; on failure the disk keeps
the directories that were made. -/
def saveText (d : Disk) (p : Path) (text : String) : Except Problem Unit × Disk :=
  match d.makeDirectories p.parent with
  | .error e => (.error e, d)
  | .ok d => match d.writeText p text with
    | .error e => (.error e, d)
    | .ok d => (.ok (), d)

/-- Removes the file at a path. -/
def remove (d : Disk) (p : Path) : Except Problem Disk := do
  let place ← d.locate p
  match d.node? place with
  | some (.file _) => .ok { d with entries := d.entries.filter fun (k, _) => k != place }
  | some .directory => .error .isDirectory
  | none => .error .notFound

/-! ## Lemmas -/

theorem node?_put_of_ne {place other : List String} (h : other ≠ place) (d : Disk) (node : Node) :
    (d.put place node).node? other = d.node? other := by
  simp [node?, put, Keyed.get?_put_of_ne h]

theorem node?_put_self {place : List String} (h : place ≠ []) (d : Disk) (node : Node) :
    (d.put place node).node? place = some node := by
  simp [node?, put, Keyed.get?_put_self, h]

theorem decode_toUTF8 (s : String) :
    decode s.toUTF8 = .ok (String.ofList (Text.unifyBreaks s.toList)) := by
  have h : String.fromUTF8? s.toUTF8 = some s := by
    unfold String.fromUTF8?
    rw [dif_pos (show s.toUTF8.IsValidUTF8 from s.isValidUTF8)]
    rfl
  unfold decode
  rw [h]

end Disk

end LiterateConfig.Files
