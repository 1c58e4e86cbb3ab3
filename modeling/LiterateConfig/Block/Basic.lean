import LiterateConfig.Document.Discovery
import LiterateConfig.Document.Extraction
import LiterateConfig.Json.Printer

/-!
# Blocks

A block is one fence of a document, numbered from 1 over all documents of a
run. Its normalized text, without byte-order marks, carriage returns and blanks
at the ends, is what is classified, evaluated and compared between runs.

Results:
* `numberFrom_raw`: the texts of numbered blocks are the extracted ones;
* `numberFrom_index`: blocks are numbered without gaps.
-/
namespace LiterateConfig

open LiterateConfig.Document (Section)
open LiterateConfig.Files (Path)

structure Block where
  index : Int
  raw : String
  normalized : String
  within : Section
  disabled : Bool
  manual : Bool
  document : Option Path
  deriving DecidableEq, Repr

namespace Block

/-- A character that normalizing drops wherever it stands. -/
def isDropped (c : Char) : Bool := c.toNat == 0xfeff || c == '\r'

/-- A text without byte-order marks, carriage returns and blanks at the ends. -/
def normalizeChars (l : List Char) : List Char := Text.strip (l.filter fun c => !isDropped c)

def normalize (text : String) : String := String.ofList (normalizeChars text.toList)

/-- A block as it is extracted, before its markers are read. -/
def extracted (index : Nat) (raw : String) (within : Section) (document : Path) : Block :=
  ⟨index, raw, normalize raw, within, false, false, some document⟩

/-- Fences as blocks, numbered from `next`. -/
def numberFrom (next : Nat) (document : Path) : List (String × Section) → List Block
  | [] => []
  | (raw, within) :: rest => extracted next raw within document :: numberFrom (next + 1) document rest

/-- The blocks of documents, numbered from `next`; each document starts outside
any section. -/
def fromDocuments (languages : List String) (next : Nat) : List (Path × String) → List Block
  | [] => []
  | (p, text) :: rest =>
    let found := Document.extractLines languages (Text.lines text)
    numberFrom next p found ++ fromDocuments languages (next + found.length) rest

def logSource : Log.Source := "extractor"

/-- Writes how many blocks each document has. -/
def noteEach (languages : List String) : List (Path × String) → Act Unit
  | [] => return ()
  | (p, text) :: rest => do
    let count := (Document.extractLines languages (Text.lines text)).length
    note .debug logSource s!"Found {count} code block(s) in {p.toString}"
    noteEach languages rest

/-- The blocks of documents, numbered from 1. -/
def extract (languages : List String) (documents : List (Path × String)) : Act (List Block) := do
  noteEach languages documents
  let blocks := fromDocuments languages 1 documents
  note .info logSource s!"Found {blocks.length} code blocks across {documents.length} document(s)"
  return blocks

/-! ## Saving blocks for inspection -/

def toData (b : Block) : Json.Data :=
  .record [
    ("index", .int b.index),
    ("section", .text b.within.name),
    ("document", match b.document with
      | some p => .text p.toString
      | none => .null),
    ("text", .text b.raw)]

end Block

/-- Writes a JSON file; `what` and `told` are its names in the log. A path that
no file can have is passed on, other failures are only noted. -/
def saveJson (source : Log.Source) (what : String) (told : Option String) (path : Path)
    (data : Json.Data) : Try Files.Problem Bool := do
  let (result, disk) := (← getThe World).disk.saveText path (Json.print data)
  modifyThe World fun w => { w with disk }
  match result with
  | .ok () =>
    match told with
    | some s => note .debug source s!"Saved {s} to {path.toString}"
    | none => pure ()
    return true
  | .error .nullInName => throw .nullInName
  | .error _ =>
    note .error source s!"Unable to write {what} {path.toString}"
    return false

/-- Writes all blocks to a file. -/
def Block.save (blocks : List Block) (path : Path) : Try Files.Problem Bool :=
  saveJson Block.logSource "detected blocks to" (some "detected code blocks") path
    (.list (blocks.map Block.toData))

/-! ## Lemmas -/

namespace Block

theorem numberFrom_index (next : Nat) (document : Path) (found : List (String × Section)) :
    (numberFrom next document found).map Block.index =
      (List.range' next found.length).map Int.ofNat := by
  induction found generalizing next with
  | nil => rfl
  | cons f rest ih =>
    obtain ⟨raw, within⟩ := f
    simp [numberFrom, extracted, ih, List.range'_succ]

theorem numberFrom_raw (next : Nat) (document : Path) (found : List (String × Section)) :
    (numberFrom next document found).map Block.raw = found.map Prod.fst := by
  induction found generalizing next with
  | nil => rfl
  | cons f rest ih =>
    obtain ⟨raw, within⟩ := f
    simp [numberFrom, extracted, ih]

end Block

end LiterateConfig
