import LiterateConfig.Keyed
import LiterateConfig.Number.Binary64
import LiterateConfig.Script.Error
import LiterateConfig.Script.Syntax

/-!
# Values and objects

A value is either complete in itself or the address of an object. Objects live
on a heap and can be shared: lists, dictionaries and sets, records that the
host provides, functions and the names they see. An address never moves.

Results:
* `get?_alloc_old`, `get?_set_of_ne`: what allocation and update leave alone.
-/
namespace LiterateConfig.Script

/-- The functions that every block can call. -/
inductive Builtin where
  | print
  /-- Loads a module by name. -/
  | require
  /-- Loads a module by name, giving the outermost package. -/
  | load
  /-- Ends the run by raising a request to exit. -/
  | exit
  /-- A function or type that a block can name; no block may call it. -/
  | named (name : String) (isType : Bool)
  deriving DecidableEq, Repr

inductive Value where
  | nothing
  | bool (b : Bool)
  | int (n : Int)
  | float (x : Float)
  | text (s : String)
  | bytes (b : List UInt8)
  | tuple (items : List Value)
  /-- A set that cannot change. -/
  | frozen (items : List Value)
  | ref (address : Nat)
  | errorClass (kind : ErrorKind)
  | builtin (b : Builtin)
  | module (name : String)
  /-- The function that appends to the list at an address. -/
  | append (list : Nat)
  /-- A function that calls `target` and gives nothing. -/
  | hook (target : Value)
  deriving Inhabited

/-- A function that a block defines, with what it sees from where it stands. -/
structure Closure where
  name : String
  /-- The name with the functions around it. -/
  path : String
  params : List String
  /-- The names that the body binds; they are the function's own. -/
  own : List String
  body : List Stmt
  /-- Addresses of the names of the functions around it, innermost first. -/
  scopes : List Nat
  /-- Address of the names of the block. -/
  globals : Nat

/-- Names with the values they are bound to. -/
abbrev Names := Keyed String Value

/-- A host function that notes its calls in a list: it appends its label, or a
list of the label and the arguments when there are any or `always` is set, and
then raises or gives a result. -/
structure Recorder where
  journal : Nat
  label : String
  always : Bool
  fault : Option (ErrorKind × List Value)
  result : Value

inductive Object where
  | list (items : List Value)
  | dict (pairs : List (Value × Value))
  | set (items : List Value)
  /-- Named parts and nothing else. -/
  | record (parts : Names)
  | function (f : Closure)
  | recorder (r : Recorder)
  | error (kind : ErrorKind) (args : List Value)
  /-- The own names of a running function, bound or not. -/
  | scope (own : List String) (bound : Names)
  /-- The names of a block. -/
  | globals (bound : Names)

/-! ## The heap -/

structure Heap where
  objects : Array Object

namespace Heap

def empty : Heap := ⟨#[]⟩

def get? (h : Heap) (address : Nat) : Option Object := h.objects[address]?

def alloc (h : Heap) (o : Object) : Nat × Heap := (h.objects.size, ⟨h.objects.push o⟩)

def set (h : Heap) (address : Nat) (o : Object) : Heap := ⟨h.objects.setIfInBounds address o⟩

def size (h : Heap) : Nat := h.objects.size

theorem get?_alloc_new (h : Heap) (o : Object) : (h.alloc o).2.get? (h.alloc o).1 = some o := by
  simp [alloc, get?]

theorem get?_alloc_old {h : Heap} {a : Nat} (ha : a < h.size) (o : Object) :
    (h.alloc o).2.get? a = h.get? a := by
  simp only [size] at ha
  simp [alloc, get?, Array.getElem?_push, Nat.ne_of_lt ha]

theorem get?_set_of_ne {a b : Nat} (hab : a ≠ b) (h : Heap) (o : Object) :
    (h.set a o).get? b = h.get? b := by
  simp [set, get?, hab]

/-- The object that a value is the address of. -/
def object? (h : Heap) : Value → Option Object
  | .ref a => h.get? a
  | _ => none

end Heap

/-! ## Sameness

Two values that may be keys are the same key when they are equal; objects are
the same when their addresses are. Numbers are compared by what they count, so
`1`, `1.0` and `True` are the same key. -/

/-- The number that a value is. -/
inductive Numeral where
  | int (n : Int)
  | float (x : Float)

def Value.numeral? : Value → Option Numeral
  | .bool b => some (.int (if b then 1 else 0))
  | .int n => some (.int n)
  | .float x => some (.float x)
  | _ => none

def Numeral.equals : Numeral → Numeral → Bool
  | .int a, .int b => a == b
  | .int a, .float y => Number.equalsInt y a
  | .float x, .int b => Number.equalsInt x b
  | .float x, .float y => x == y

mutual

/-- Whether two values are one and the same key. -/
def Value.isSame : Value → Value → Bool
  | .nothing, .nothing => true
  | .text a, .text b => a == b
  | .bytes a, .bytes b => a == b
  | .tuple as, .tuple bs => allSame as bs
  | .frozen as, .frozen bs => as.length == bs.length && allAmong as bs
  | .ref a, .ref b => a == b
  | .errorClass a, .errorClass b => a == b
  | .builtin a, .builtin b => a == b
  | .module a, .module b => a == b
  | .append a, .append b => a == b
  | .hook a, .hook b => a.isSame b
  | .bool a, b => (b.numeral?.map fun m => Numeral.equals (.int (if a then 1 else 0)) m).getD false
  | .int a, b => (b.numeral?.map fun m => Numeral.equals (.int a) m).getD false
  | .float a, b => (b.numeral?.map fun m => Numeral.equals (.float a) m).getD false
  | _, _ => false

def allSame : List Value → List Value → Bool
  | [], [] => true
  | a :: as, b :: bs => a.isSame b && allSame as bs
  | _, _ => false

/-- Whether every value of the first list is the same as one of the second. -/
def allAmong : List Value → List Value → Bool
  | [], _ => true
  | a :: as, bs => anySame a bs && allAmong as bs

def anySame (a : Value) : List Value → Bool
  | [] => false
  | b :: bs => a.isSame b || anySame a bs

end

/-- Adds a value to the items of a set. -/
def insertItem (items : List Value) (v : Value) : List Value :=
  if items.any fun w => w.isSame v then items else items ++ [v]

/-- Sets the value of a key, in place when the key is known. -/
def putPair (key v : Value) : List (Value × Value) → List (Value × Value)
  | [] => [(key, v)]
  | (k, w) :: rest => if k.isSame key then (k, v) :: rest else (k, w) :: putPair key v rest

def pair? (key : Value) : List (Value × Value) → Option Value
  | [] => none
  | (k, v) :: rest => if k.isSame key then some v else pair? key rest

/-- The value of a key that is a text. -/
def textPair? (key : String) (pairs : List (Value × Value)) : Option Value := pair? (.text key) pairs

/-! ## What a value is -/

/-- The name of a value's type. -/
def Value.typeName (h : Heap) : Value → String
  | .nothing => "NoneType"
  | .bool _ => "bool"
  | .int _ => "int"
  | .float _ => "float"
  | .text _ => "str"
  | .bytes _ => "bytes"
  | .tuple _ => "tuple"
  | .frozen _ => "frozenset"
  | .errorClass _ => "type"
  | .builtin .require => "function"
  | .builtin (.named _ true) => "type"
  | .builtin _ => "builtin_function_or_method"
  | .module _ => "module"
  | .append _ => "builtin_function_or_method"
  | .hook _ => "function"
  | .ref a =>
    match h.get? a with
    | some (.list _) => "list"
    | some (.dict _) => "dict"
    | some (.set _) => "set"
    | some (.function _) => "function"
    | some (.recorder _) => "function"
    | some (.error k _) => k.name
    | _ => "object"

/-- Whether a value can be called. -/
def Value.isCallable (h : Heap) : Value → Bool
  | .errorClass _ | .builtin _ | .append _ | .hook _ => true
  | .ref a =>
    match h.get? a with
    | some (.function _) | some (.recorder _) => true
    | _ => false
  | _ => false

/-- Whether a value counts as true. -/
def Value.isTrue (h : Heap) : Value → Bool
  | .nothing => false
  | .bool b => b
  | .int n => n != 0
  | .float x => !(x == 0)
  | .text s => !s.isEmpty
  | .bytes b => !b.isEmpty
  | .tuple items => !items.isEmpty
  | .frozen items => !items.isEmpty
  | .ref a =>
    match h.get? a with
    | some (.list items) => !items.isEmpty
    | some (.dict pairs) => !pairs.isEmpty
    | some (.set items) => !items.isEmpty
    | _ => true
  | _ => true

mutual

/-- The type of a part that keeps a value from being a key, if there is one. -/
def Value.unhashable? (h : Heap) : Value → Option String
  | .tuple items => anyUnhashable h items
  | .ref a =>
    match h.get? a with
    | some (.list _) => some "list"
    | some (.dict _) => some "dict"
    | some (.set _) => some "set"
    | _ => none
  | _ => none

def anyUnhashable (h : Heap) : List Value → Option String
  | [] => none
  | v :: vs => match v.unhashable? h with
    | some t => some t
    | none => anyUnhashable h vs

end

end LiterateConfig.Script
