import LiterateConfig.Script.Machine

/-!
# Operations on values

Arithmetic, comparison and access to parts. Whole numbers are exact; a whole
number next to a double is rounded to the nearest double first. `+` joins
texts, bytes, lists and tuples, `*` repeats them, `-` subtracts sets.
-/
namespace LiterateConfig.Script

/-! ## Equality -/

/-- The items of a set, fixed or not. -/
def setItems? (h : Heap) : Value → Option (List Value)
  | .frozen items => some items
  | .ref a => match h.get? a with
    | some (.set items) => some items
    | _ => none
  | _ => none

/-- `f` on corresponding items, stopping at the first that is not true. -/
def allPairs (f : Value → Value → Option Bool) : List Value → List Value → Option Bool
  | [], [] => some true
  | a :: as, b :: bs =>
    match f a b with
    | some true => allPairs f as bs
    | r => r
  | _, _ => some false

/-- Whether each pair of a dictionary has an equal value in the other. -/
def allEntries (f : Value → Value → Option Bool) (other : List (Value × Value)) :
    List (Value × Value) → Option Bool
  | [] => some true
  | (k, v) :: rest =>
    match pair? k other with
    | none => some false
    | some w => match f v w with
      | some true => allEntries f other rest
      | r => r

/-- Whether two values are equal, nested at most `fuel` deep; nothing when they
are nested deeper. -/
def equalTo (h : Heap) : Nat → Value → Value → Option Bool
  | 0, _, _ => none
  | fuel + 1, v, w =>
    match setItems? h v, setItems? h w with
    | some as, some bs => some (as.length == bs.length && allAmong as bs)
    | _, _ =>
      match v, w with
      | .tuple as, .tuple bs => allPairs (equalTo h fuel) as bs
      | .ref a, .ref b =>
        if a = b then some true
        else match h.get? a, h.get? b with
          | some (.list as), some (.list bs) => allPairs (equalTo h fuel) as bs
          | some (.dict as), some (.dict bs) =>
            if as.length = bs.length then allEntries (equalTo h fuel) bs as else some false
          | _, _ => some false
      | v, w => some (v.isSame w)

/-- The deepest nesting that is compared. -/
def compareLimit : Nat := 900

def equal (v w : Value) : Eval Bool := do
  match equalTo (← heap) compareLimit v w with
  | some b => return b
  | none => fail .recursionError "maximum recursion depth exceeded in comparison"

/-! ## Arithmetic -/

def asFloat : Numeral → Eval Float
  | .float x => return x
  | .int n =>
    let x := Number.ofInt n
    if x.isInf then fail .overflowError "int too large to convert to float" else return x

def BinaryOp.symbol : BinaryOp → String
  | .add => "+"
  | .subtract => "-"
  | .multiply => "*"
  | .divide => "/"

/-- The quotient of whole numbers, rounded once. -/
def divideInts (a b : Int) : Eval Value :=
  if b = 0 then fail .zeroDivisionError "division by zero"
  else
    let x := Number.ofRatio (decide (a < 0) != decide (b < 0)) a.natAbs b.natAbs
    if x.isInf then fail .overflowError "integer division result too large for a float"
    else return .float x

def combineNumbers (op : BinaryOp) (a b : Numeral) : Eval Value :=
  match op, a, b with
  | .add, .int a, .int b => return .int (a + b)
  | .subtract, .int a, .int b => return .int (a - b)
  | .multiply, .int a, .int b => return .int (a * b)
  | .divide, .int a, .int b => divideInts a b
  | op, a, b => do
    let x ← asFloat a
    let y ← asFloat b
    match op with
    | .add => return .float (x + y)
    | .subtract => return .float (x - y)
    | .multiply => return .float (x * y)
    | .divide =>
      if y == 0 then fail .zeroDivisionError "float division by zero" else return .float (x / y)

/-- The most items that repetition makes. -/
def repeatLimit : Nat := 0x4000000

/-- The counts that repetition can have at all lie below this one and not below
its negative. -/
def countBound : Int := 0x8000000000000000

/-- `items` one after the other `n` times. -/
def repeated {α : Type} (items : List α) (n : Int) : Eval (List α) :=
  if countBound ≤ n ∨ n < -countBound then
    fail .overflowError "cannot fit 'int' into an index-sized integer"
  else if repeatLimit < items.length * n.toNat then throw ⟨.memoryError, []⟩
  else return (List.replicate n.toNat items).flatten

/-- What can be joined and repeated. -/
inductive Sequence where
  | text (s : String)
  | bytes (b : List UInt8)
  | tuple (items : List Value)
  | list (items : List Value)

def sequence? (h : Heap) : Value → Option Sequence
  | .text s => some (.text s)
  | .bytes b => some (.bytes b)
  | .tuple items => some (.tuple items)
  | .ref a => match h.get? a with
    | some (.list items) => some (.list items)
    | _ => none
  | _ => none

def Sequence.repeat (s : Sequence) (n : Int) : Eval Value := do
  match s with
  | .text s => return .text (String.ofList (← repeated s.toList n))
  | .bytes b => return .bytes (← repeated b n)
  | .tuple items => return .tuple (← repeated items n)
  | .list items => alloc (.list (← repeated items n))

/-- The whole number that repeats a sequence. -/
def count? : Value → Option Int
  | .int n => some n
  | .bool b => some (if b then 1 else 0)
  | _ => none

def noOperation (op : BinaryOp) (h : Heap) (v w : Value) : Eval Value :=
  fail .typeError
    (s!"unsupported operand type(s) for {op.symbol}: '" ++ v.typeName h ++ "' and '" ++ w.typeName h ++ "'")

def join (h : Heap) (s : Sequence) (v w : Value) : Eval Value :=
  let other := w.typeName h
  match s, sequence? h w with
  | .text a, some (.text b) => return .text (a ++ b)
  | .bytes a, some (.bytes b) => return .bytes (a ++ b)
  | .tuple a, some (.tuple b) => return .tuple (a ++ b)
  | .list a, some (.list b) => alloc (.list (a ++ b))
  | .bytes _, _ => fail .typeError s!"can't concat {other} to bytes"
  | _, _ => fail .typeError
      ("can only concatenate " ++ v.typeName h ++ " (not \"" ++ other ++ "\") to " ++ v.typeName h)

/-- Repetition, the sequence standing on either side. -/
def multiplySequence (h : Heap) (s : Sequence) (other : Value) : Eval Value :=
  match count? other with
  | some n => s.repeat n
  | none => fail .typeError s!"can't multiply sequence by non-int of type '{other.typeName h}'"

def subtractSets (h : Heap) (v : Value) (as bs : List Value) : Eval Value :=
  let left := as.filter fun a => !anySame a bs
  match v, h with
  | .frozen _, _ => return .frozen left
  | _, _ => alloc (.set left)

def combine (op : BinaryOp) (v w : Value) : Eval Value := do
  let h ← heap
  match v.numeral?, w.numeral? with
  | some a, some b => combineNumbers op a b
  | _, _ =>
    match op, sequence? h v, sequence? h w with
    | .add, some s, _ => join h s v w
    | .multiply, some s, _ => multiplySequence h s w
    | .multiply, none, some s => multiplySequence h s v
    | .subtract, _, _ =>
      match setItems? h v, setItems? h w with
      | some as, some bs => subtractSets h v as bs
      | _, _ => noOperation op h v w
    | _, _, _ => noOperation op h v w

def negated (v : Value) : Eval Value := do
  match v.numeral? with
  | some (.int n) => return .int (-n)
  | some (.float x) => return .float (-x)
  | none => fail .typeError s!"bad operand type for unary -: '{v.typeName (← heap)}'"

/-! ## Parts -/

/-- The place of an index, counted from the end when it is negative. -/
def place? (size : Nat) (i : Int) : Option Nat :=
  let j := if i < 0 then i + size else i
  if 0 ≤ j ∧ j < size then some j.toNat else none

/-- The item of a sequence at an index that `v` spells. -/
def itemAt {α : Type} (what range : String) (items : List α) (v : Value) : Eval α := do
  match count? v with
  | none => fail .typeError s!"{what}, not '{v.typeName (← heap)}'"
  | some i => match (place? items.length i).bind (items[·]?) with
    | some x => return x
    | none => fail .indexError range

/-- `e[i]` -/
def getItem (v i : Value) : Eval Value := do
  let h ← heap
  match v with
  | .text s => do
    let c ← itemAt "string indices must be integers" "string index out of range" s.toList i
    return .text (String.ofList [c])
  | .bytes b => do
    let n ← itemAt "byte indices must be integers or slices" "index out of range" b i
    return .int n.toNat
  | .tuple items => itemAt "tuple indices must be integers or slices" "tuple index out of range" items i
  | .ref a =>
    match h.get? a with
    | some (.list items) => itemAt "list indices must be integers or slices" "list index out of range" items i
    | some (.dict pairs) => do
      requireKey i
      match pair? i pairs with
      | some w => return w
      | none => throw ⟨.keyError, [i]⟩
    | _ => fail .typeError s!"'{v.typeName h}' object is not subscriptable"
  | .errorClass k => fail .typeError s!"type '{k.name}' is not subscriptable"
  | v => fail .typeError s!"'{v.typeName h}' object is not subscriptable"

/-- `e[i] = v` -/
def setItem (e i v : Value) : Eval Unit := do
  let h ← heap
  match e with
  | .ref a =>
    match h.get? a with
    | some (.list items) =>
      match count? i with
      | none => fail .typeError s!"list indices must be integers or slices, not {i.typeName h}"
      | some n => match place? items.length n with
        | some j => update a (.list (items.set j v))
        | none => fail .indexError "list assignment index out of range"
    | some (.dict pairs) => do
      requireKey i
      update a (.dict (putPair i v pairs))
    | _ => fail .typeError s!"'{e.typeName h}' object does not support item assignment"
  | e => fail .typeError s!"'{e.typeName h}' object does not support item assignment"

/-- `e.name`: lists can be appended to, the module `sys` can exit, and records
have their parts. -/
def getAttribute (v : Value) (name : String) : Eval Value := do
  let h ← heap
  let missing : Eval Value := match v with
    | .module m => fail .attributeError s!"module '{m}' has no attribute '{name}'"
    | .errorClass k => fail .attributeError s!"type object '{k.name}' has no attribute '{name}'"
    | v => fail .attributeError s!"'{v.typeName h}' object has no attribute '{name}'"
  match v with
  | .ref a =>
    match h.get? a with
    | some (.list _) => if name = "append" then return .append a else missing
    | some (.record parts) => match parts.get? name with
      | some w => return w
      | none => missing
    | _ => missing
  | .module m => if m = "sys" ∧ name = "exit" then return .builtin .exit else missing
  | _ => missing

end LiterateConfig.Script
