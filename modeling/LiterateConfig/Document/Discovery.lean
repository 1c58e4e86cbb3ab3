import LiterateConfig.Text.Blank
import LiterateConfig.World

/-!
# Finding and reading documents

The documents of a directory are its files whose names end in `.md`, in order
of their names, unless a single document is named. Blank documents are passed
over; if all are blank, or there are none, the search fails.
-/
namespace LiterateConfig.Document

open LiterateConfig.Files

/-- Why there are no documents to work on. -/
inductive Problem where
  | documentNotFound (path : Path)
  | directoryNotFound (path : Path)
  | noDocuments (directory : Path)
  | allEmpty (count : Nat)
  /-- A path starts with the home of someone unknown. -/
  | homeUnknown
  | unusable (p : Files.Problem)
  deriving DecidableEq, Repr

/-- The text of a problem with the documents themselves. -/
def Problem.message? : Problem → Option String
  | .documentNotFound p => some s!"Configured document not found: {p.toString}"
  | .directoryNotFound p => some s!"Documents directory not found: {p.toString}"
  | .noDocuments p => some s!"No .md documents found in {p.toString}"
  | .allEmpty count => some s!"All {count} document(s) are empty"
  | .homeUnknown | .unusable _ => none

/-- Whether a name is that of a document. -/
def isDocumentName (name : String) : Bool := ".md".toList.isSuffixOf name.toList

/-- Problems with files as problems with documents. -/
def orUnusable {α : Type} (x : Except Files.Problem α) : Except Problem α := x.mapError .unusable

/-- The documents to scan: the named one, or all of the directory. -/
def discover (disk : Disk) (root : Path) (document : String) : Except Problem (List Path) := do
  match root.expandHome? disk.home with
  | none => .error .homeUnknown
  | some root =>
    if document.isEmpty then
      if ← orUnusable (disk.isDirectory root) then
        match ← orUnusable (disk.files root isDocumentName) with
        | [] => .error (.noDocuments root)
        | documents => .ok documents
      else .error (.directoryNotFound root)
    else
      match (Path.ofString document).expandHome? disk.home with
      | none => .error .homeUnknown
      | some p =>
        let candidate := root.join p
        if ← orUnusable (disk.isFile candidate) then .ok [candidate]
        else .error (.documentNotFound candidate)

/-- Whether a document has nothing but blanks. -/
def isBlankText (text : String) : Bool := (Text.strip text.toList).isEmpty

/-- Reads the documents that are not blank. -/
def readEach : List Path → Try Problem (List (Path × String))
  | [] => return []
  | p :: rest => do
    match (← getThe World).disk.readText p with
    | .error e => throw (.unusable e)
    | .ok text =>
      if isBlankText text then
        note .warning "extractor" s!"Skipping empty document {p.toString}"
        readEach rest
      else return (p, text) :: (← readEach rest)

/-- Reads documents; at least one of them must not be blank. -/
def read (paths : List Path) : Try Problem (List (Path × String)) := do
  let loaded ← readEach paths
  if loaded.isEmpty && !paths.isEmpty then throw (.allEmpty paths.length) else return loaded

end LiterateConfig.Document
