import LiterateConfig.Files.Disk
import LiterateConfig.Settings.Basic
import LiterateConfig.Text.Name
import LiterateConfig.Yaml.Datum

/-!
# Loading settings

The settings file of a directory is a YAML mapping. Values of another kind than
a setting needs are passed over, and so are unknown keys; a text that cannot be
read, another root than a mapping and a convention that is no name are errors.
-/
namespace LiterateConfig.Settings

open LiterateConfig.Files (Path Disk)
open LiterateConfig.Yaml (Datum Content Document)

/-- Why settings cannot be loaded. -/
inductive Problem where
  | unparsable
  | notMapping
  | badConvention (name : String)
  /-- A path starts with the home of someone unknown. -/
  | homeUnknown
  /-- A number too long to be written. -/
  | numberTooLong
  /-- A value that does not exist. -/
  | badDatum (p : Yaml.Problem)
  | unusable (p : Files.Problem)
  deriving DecidableEq, Repr

/-- The name of the settings file. -/
def fileName : String := ".mdconf.yml"

/-- The text of an error in the settings themselves. -/
def Problem.message? : Problem → Option String
  | .unparsable => some s!"Failed to parse {fileName}"
  | .notMapping => some s!"{fileName} must contain a mapping at the root"
  | .badConvention name => some ("convention must be a valid identifier, got " ++ Text.quoted name)
  | _ => none

/-! ## Values of settings -/

/-- A text, number or truth value as text; other data have none. -/
def textOf (d : Datum) : Except Problem (Option String) :=
  match d with
  | .text s => .ok (some s)
  | .bool b => .ok (some (if b then "True" else "False"))
  | .int n => match Text.intText? n with
    | some s => .ok (some s)
    | none => .error .numberTooLong
  | .float x => .ok (some (Number.floatText x))
  | _ => .ok none

/-- A truth value, or a text that names one. -/
def truthOf (d : Datum) : Option Bool :=
  match d with
  | .bool b => some b
  | .text s =>
    let word := Text.lower (Text.trimmed s)
    if word ∈ ["true", "yes", "1"] then some true
    else if word ∈ ["false", "no", "0"] then some false
    else none
  | _ => none

def textsOf : List Datum → Except Problem (List String)
  | [] => .ok []
  | d :: rest => do
    let first ← textOf d
    let more ← textsOf rest
    return first.toList ++ more

/-- A list of texts: a lone text is a list of one, and bytes are numbers. -/
def listOf (doc : Document) (d : Datum) : Except Problem (List String) :=
  match d with
  | .text s => .ok [s]
  | .bytes b => .ok (b.map fun x => Text.natText x.toNat)
  | d => match doc.content? d with
    | some (.list items) => textsOf items
    | _ => .ok []

/-- A text that is there and not empty. -/
def filled (s : Option String) : Option String := s.filter fun t => !t.isEmpty

/-! ## The file -/

/-- A path with the home in place of a leading tilde. -/
def expanded (disk : Disk) (p : Path) : Except Problem Path :=
  match p.expandHome? disk.home with
  | some p => .ok p
  | none => .error .homeUnknown

/-- The absolute form of a path; no file has a null character in its name. -/
def resolved (disk : Disk) (p : Path) : Except Problem Path :=
  if p.parts.any fun n => n.toList.contains (Char.ofNat 0) then .error (.unusable .nullInName)
  else .ok (p.resolve disk.here)

def orUnusable {α : Type} (x : Except Files.Problem α) : Except Problem α := x.mapError .unusable

/-- The settings file for a path: that of a directory, the path itself if it has
the name, or the one beside it. -/
def filePath (disk : Disk) (p : Path) : Except Problem Path := do
  let p ← expanded disk p
  if ← orUnusable (disk.isDirectory p) then resolved disk (p.child fileName)
  else if p.name = fileName then resolved disk p
  else resolved disk (p.parent.child fileName)

def ofYaml : Except Yaml.Problem Document → Except Problem Document
  | .ok d => .ok d
  | .error .malformed => .error .unparsable
  | .error p => .error (.badDatum p)

/-- The settings in a text, by key; a blank text has none. -/
def pairsOf (text : String) : Except Problem (Document × List (Datum × Datum)) := do
  if (Text.strip text.toList).isEmpty then return (.empty, [])
  else
    let doc ← ofYaml (Yaml.read text)
    match doc.root, doc.content? doc.root with
    | .nothing, _ => return (doc, [])
    | _, some (.record pairs) => return (doc, pairs)
    | _, _ => .error .notMapping

/-- The value of a key; a missing one counts as nothing. -/
def valueOf (key : String) (pairs : List (Datum × Datum)) : Datum :=
  (Document.lastValue? key pairs).getD .nothing

/-- A path in the settings, seen from the root. -/
def pathFrom (disk : Disk) (root : Path) (s : String) : Except Problem Path := do
  return root.join (← expanded disk (Path.ofString s))

/-- The convention must be a name. -/
def requireName (s : String) : Except Problem String :=
  if Text.isName s then .ok s else .error (.badConvention s)

/-- The text of a key, if it is there and not empty. -/
def textAt (key : String) (pairs : List (Datum × Datum)) : Except Problem (Option String) :=
  filled <$> textOf (valueOf key pairs)

/-- What `use` makes of the text of a key, if there is one. -/
def readAt {α : Type} (key : String) (pairs : List (Datum × Datum))
    (use : String → Except Problem α) : Except Problem (Option α) := do
  match ← textAt key pairs with
  | some s => some <$> use s
  | none => return none

/-- The state directory, without detours. -/
def stateDirectoryFrom (disk : Disk) (root : Path) (s : String) : Except Problem Path := do
  resolved disk (← pathFrom disk root s)

/-- The settings that the pairs of a mapping spell. -/
def ofPairs (disk : Disk) (root : Path) (doc : Document) (pairs : List (Datum × Datum)) :
    Except Problem Settings := do
  let usual := Settings.usual root
  let document ← textOf (valueOf "document" pairs)
  let languages ← listOf doc (valueOf "languages" pairs)
  let stateDirectory? ← readAt "state_dir" pairs (stateDirectoryFrom disk root)
  let convention ← readAt "convention" pairs requireName
  let keyPattern ← textAt "keymap_pattern" pairs
  let logFile ← readAt "log_file" pairs (pathFrom disk root)
  return {
    root
    document := document.getD usual.document
    languages := if languages.isEmpty then usual.languages else languages.map Text.lower
    stateDirectory?
    convention := convention.getD usual.convention
    keyPattern := keyPattern.getD usual.keyPattern
    apart := (truthOf (valueOf "word_boundary" pairs)).getD usual.apart
    logFile
    saveBlocks := (truthOf (valueOf "dump_blocks" pairs)).getD usual.saveBlocks }

/-- The settings that the text of a settings file spells. -/
def ofText (disk : Disk) (root : Path) (text : String) : Except Problem Settings := do
  let (doc, pairs) ← pairsOf text
  ofPairs disk root doc pairs

/-- The settings for a path; a missing file gives the usual ones. -/
def load (disk : Disk) (p : Path) : Except Problem Settings := do
  let file ← filePath disk p
  let root ← resolved disk file.parent
  if ← orUnusable (disk.fileExists file) then
    ofText disk root (← orUnusable (disk.readText file))
  else return Settings.usual root

end LiterateConfig.Settings
