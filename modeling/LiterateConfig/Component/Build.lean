import LiterateConfig.Block.Kind
import LiterateConfig.Component.Shape

/-!
# Building components and entries

Each classified block contributes parts: component specs and entry bodies, in
order. A block that is disabled, cannot be compiled, raises an error or has an
invalid value contributes nothing; the others are built all the same. The
entries of all blocks are numbered from 1.

Results:
* `entriesOf_append`: entries of later blocks are numbered behind those of earlier ones;
* `specsOf_append`: the specs of blocks stand one behind the other.
-/
namespace LiterateConfig.Component

open LiterateConfig.Block (Classified)
open LiterateConfig.Script (Value Raised)

/-- What a block contributes. -/
inductive Part where
  | spec (s : Spec)
  | entry (body : EntryBody) (blockIndex : Int)

def buildSource : Log.Source := "builder"

/-- A value in a message. -/
def shownIn (h : Script.Heap) (v : Value) : String := (h.shown? v).getD "..."

/-- Compiles a text of the block with an index and runs it; `what` names it in
the log. A failure is noted. -/
def evaluate (host : Script.Host) (what : String) (index : Int) (exported source : String) :
    Try Raised (Option Value) := do
  match Script.compile source with
  | .error e =>
    noteFailure buildSource s!"Error compiling {what} block #{index}" (e.message s!"<block {index}>")
      (some source)
    return none
  | .ok code =>
    match ← attempt (Script.Compiled.run ⟨code, some exported, host⟩) with
    | .ok v => return some v
    | .error e =>
      noteRaised buildSource s!"Error running {what} block #{index}" e (some source)
      return none

/-! ## Blocks of components -/

/-- The items with their texts, by ascending text. -/
def sortedByText (items : List (String × Value)) : List Value :=
  (items.mergeSort fun a b => decide (a.1 ≤ b.1)).map Prod.snd

/-- Items of a collection in the order in which they are taken: items without an
order by their texts. -/
def inOrder (items : List Value) (ordered : Bool) : Try Raised (List Value) := do
  if ordered then return items
  else
    let texts ← onMachine (Script.plainTexts items)
    return sortedByText (texts.zip items)

/-- The part that an item of a collection becomes. -/
def itemPart (c : Classified) (v : Value) : Try Raised Part := do
  let h := (← getThe World).heap
  if isSpecLike h v then
    let s ← onMachine (Spec.ofValue v c.block.manual (some c.index))
    note .info buildSource s!"Component spec added from nested item in block #{c.index}"
    return .spec s
  else
    note .debug buildSource s!"Nested item in block #{c.index} treated as standalone config"
    return .entry (entryBody h v) c.index

def itemParts (c : Classified) : List Value → Try Raised (List Part)
  | [] => return []
  | v :: vs => do
    let p ← itemPart c v
    return p :: (← itemParts c vs)

/-- The parts that the value of a block declares; `source` is what was run. -/
def valueParts (c : Classified) (source : String) (v : Value) : Try Raised (List Part) := do
  let h := (← getThe World).heap
  match shapeOf h v with
  | .list =>
    let (items, ordered) := (items? h v).getD ([], true)
    itemParts c (← inOrder items ordered)
  | .specLike =>
    let s ← onMachine (Spec.ofValue v c.block.manual (some c.index))
    note .info buildSource s!"Component spec added from block #{c.index}"
    return [.spec s]
  | .setupCallable =>
    note .info buildSource s!"Extracted config function from block #{c.index}"
    return [.entry (.callable (.hook ((setupPart? h v).getD .nothing))) c.index]
  | .inert =>
    note .warning buildSource
      (s!"Unrecognized component spec in block #{c.index}; keeping it as standalone config: " ++ shownIn h v)
    return [.entry (.inert v) c.index]
  | .invalid =>
    note .error buildSource
      (s!"Component spec block #{c.index} evaluated to " ++ shownIn h v ++
        s!", expected a list or mapping\nSource:\n{source}")
    return []

/-- Runs a text that declares components. -/
def specParts (host : Script.Host) (convention : String) (c : Classified) (source : String) :
    Try Raised (List Part) := do
  match ← evaluate host "component spec" c.index convention source with
  | none => return []
  | some v => valueParts c source v

/-- The text that declares the one component a bare reference names. -/
def wrapReference (reference : String) : String :=
  "[\x7b'source': " ++ Text.quoted reference ++ "\x7d]"

/-! ## Setup functions -/

/-- The name that a block with a setup function defines. -/
def setupName : String := "config"

/-- Runs a block that defines a setup function. -/
def setupParts (host : Script.Host) (c : Classified) : Try Raised (List Part) := do
  match ← evaluate host "external config" c.index setupName c.body with
  | none => return []
  | some v =>
    let h := (← getThe World).heap
    if v.isCallable h then
      note .info buildSource s!"External config function added from block #{c.index}"
      return [.entry (.callable v) c.index]
    else
      note .error buildSource
        (s!"Error processing external config block #{c.index}: expected a callable, got " ++
          shownIn h v ++ s!"\nSource:\n{c.body}")
      return []

/-! ## All blocks -/

/-- What a block contributes. -/
def blockParts (host : Script.Host) (convention : String) (c : Classified) :
    Try Raised (List Part) := do
  match c.kind with
  | .disabled => return []
  | .bareReference =>
    note .debug buildSource s!"Auto-wrapping bare component reference: {c.body}"
    specParts host convention c (wrapReference c.body)
  | .componentSpec => specParts host convention c c.body
  | .externalSetup => setupParts host c
  | .freeForm =>
    note .debug buildSource s!"Standalone config added from block #{c.index}"
    return [.entry (.source c.body) c.index]

def allParts (host : Script.Host) (convention : String) : List Classified → Try Raised (List Part)
  | [] => return []
  | c :: cs => do
    let ps ← blockParts host convention c
    return ps ++ (← allParts host convention cs)

def specsOf (ps : List Part) : List Spec :=
  ps.filterMap fun
    | .spec s => some s
    | .entry .. => none

/-- The entries of parts, numbered from `next`. -/
def entriesOf (next : Nat) : List Part → List Entry
  | [] => []
  | .spec _ :: ps => entriesOf next ps
  | .entry body blockIndex :: ps => ⟨next, body, some blockIndex⟩ :: entriesOf (next + 1) ps

/-- The specs and entries of all blocks. -/
def build (host : Script.Host) (convention : String) (cs : List Classified) :
    Try Raised (List Spec × List Entry) := do
  let ps ← allParts host convention cs
  let specs := specsOf ps
  let entries := entriesOf 1 ps
  note .info buildSource
    s!"Extracted {specs.length} component specs and {entries.length} config blocks"
  return (specs, entries)

/-! ## Lemmas -/

theorem specsOf_append (ps qs : List Part) : specsOf (ps ++ qs) = specsOf ps ++ specsOf qs := by
  simp [specsOf]

theorem entriesOf_append (next : Nat) (ps qs : List Part) :
    entriesOf next (ps ++ qs) =
      entriesOf next ps ++ entriesOf (next + (entriesOf next ps).length) qs := by
  induction ps generalizing next with
  | nil => simp [entriesOf]
  | cons p ps ih =>
    cases p with
    | spec s => simp [entriesOf, ih]
    | entry body blockIndex => simp [entriesOf, ih, Nat.add_assoc, Nat.add_comm 1]

end LiterateConfig.Component
