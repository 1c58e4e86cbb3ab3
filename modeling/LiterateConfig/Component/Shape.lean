import LiterateConfig.Component.Spec

/-!
# What a block's value declares

A block of components has a collection of them, a single one, or a dictionary
or record with a function named `setup`. A component is a text that is not
empty, or a dictionary with a source, a path, an import or a hook.

Results:
* `isSpecLike_text`: a text is a component unless it is empty.
-/
namespace LiterateConfig.Component

open LiterateConfig.Script (Value Raised Eval Heap)

/-- How the value of a block of components is understood. -/
inductive Shape where
  | list
  | specLike
  | setupCallable
  /-- A dictionary that declares nothing. -/
  | inert
  | invalid
  deriving DecidableEq, Repr

def Shape.name : Shape → String
  | .list => "list"
  | .specLike => "spec-like"
  | .setupCallable => "setup-callable"
  | .inert => "opaque"
  | .invalid => "invalid"

/-- The pairs of a dictionary. -/
def pairs? (h : Heap) (v : Value) : Option (List (Value × Value)) :=
  match h.object? v with
  | some (.dict pairs) => some pairs
  | _ => none

/-- The value of a key of a dictionary; a missing one counts as nothing. -/
def valueOf (key : String) (pairs : List (Value × Value)) : Value :=
  (Script.textPair? key pairs).getD .nothing

/-- A text that is not empty. -/
def filledText? : Value → Option String
  | .text s => if s.isEmpty then none else some s
  | _ => none

/-- Whether a dictionary describes a component. -/
def describesComponent (h : Heap) (pairs : List (Value × Value)) : Bool :=
  (filledText? (valueOf "source" pairs)).isSome || (valueOf "path" pairs).isTrue h ||
    (valueOf "import" pairs).isTrue h || (valueOf "config" pairs).isTrue h

/-- Whether a value describes a component. -/
def isSpecLike (h : Heap) (v : Value) : Bool :=
  match v with
  | .text s => !s.isEmpty
  | v => match pairs? h v with
    | some pairs => describesComponent h pairs
    | none => false

/-- The part of a dictionary or record that is named `setup`. -/
def setupPart? (h : Heap) (v : Value) : Option Value :=
  match h.object? v with
  | some (.dict pairs) => Script.textPair? "setup" pairs
  | some (.record parts) => parts.get? "setup"
  | _ => none

/-- Whether a value has a function named `setup`. -/
def hasSetup (h : Heap) (v : Value) : Bool := (setupPart? h v).any fun s => s.isCallable h

/-- The items of a collection, and whether they have an order. -/
def items? (h : Heap) (v : Value) : Option (List Value × Bool) :=
  match v with
  | .tuple items => some (items, true)
  | .frozen items => some (items, false)
  | v => match h.object? v with
    | some (.list items) => some (items, true)
    | some (.set items) => some (items, false)
    | _ => none

/-- How a value is understood. -/
def shapeOf (h : Heap) (v : Value) : Shape :=
  if (items? h v).isSome then .list
  else match pairs? h v with
    | some _ =>
      if isSpecLike h v then .specLike else if hasSetup h v then .setupCallable else .inert
    | none => if hasSetup h v then .setupCallable else .invalid

/-- The entry that a value becomes when it is no component. -/
def entryBody (h : Heap) (v : Value) : EntryBody :=
  if v.isCallable h then .callable v else if hasSetup h v then .table v else .inert v

/-! ## Components from values -/

/-- The keys of a dictionary that are not attributes of the component. -/
def reservedKeys : List String := ["source", "path", "import", "config", "manual"]

def isReserved : Value → Bool
  | .text s => reservedKeys.contains s
  | _ => false

/-- A value as text if it counts as true. -/
def textIfTrue (v : Value) : Eval (Option String) := do
  if v.isTrue (← Script.heap) then return some (← Script.plainText v) else return none

/-- The component that a dictionary describes. A `config` that cannot be called
is an attribute like others. -/
def Spec.ofPairs (pairs : List (Value × Value)) (manual : Bool) (blockIndex : Option Int) :
    Eval Spec := do
  let h ← Script.heap
  let config := valueOf "config" pairs
  let hook := if config.isCallable h then some config else none
  let attributes := pairs.filter fun p => !isReserved p.1
  let extra := match hook, config with
    | some _, _ | none, .nothing => []
    | none, config => [(Value.text "config", config)]
  let path ← textIfTrue (valueOf "path" pairs)
  let importName ← textIfTrue (valueOf "import" pairs)
  return {
    source := filledText? (valueOf "source" pairs)
    path
    importName
    attributes := attributes ++ extra
    manual := manual || (valueOf "manual" pairs).isTrue h
    config := hook
    deferred := []
    blockIndex }

/-- The component that a value describes. -/
def Spec.ofValue (v : Value) (manual : Bool) (blockIndex : Option Int) : Eval Spec := do
  match v with
  | .text s => return { Spec.empty with source := some s, manual, blockIndex }
  | v =>
    let h ← Script.heap
    match pairs? h v with
    | some pairs => Spec.ofPairs pairs manual blockIndex
    | none => Script.fail .attributeError s!"'{v.typeName h}' object has no attribute 'get'"

/-! ## Lemmas -/

theorem isSpecLike_text (h : Heap) (s : String) : isSpecLike h (.text s) = !s.isEmpty := rfl

end LiterateConfig.Component
