import LiterateConfig.Script.Shown

/-!
# The machine that runs blocks

A machine holds the objects and what has been printed. `Eval` is a computation
on a machine that ends with a result or with an error that was raised.
-/
namespace LiterateConfig.Script

structure Machine where
  heap : Heap
  printed : String

/-- An error on its way up. -/
structure Raised where
  kind : ErrorKind
  args : List Value

abbrev Eval := ExceptT Raised (StateM Machine)

namespace Raised

def recoverable (r : Raised) : Bool := r.kind.recoverable

/-- The text of an error, if it can be shown. -/
def shown (r : Raised) (h : Heap) : Except Unshown String :=
  errorMessage h showLimit h.plain r.kind r.args

/-- The text of an error; one that cannot be written is shown as dots. -/
def message (r : Raised) (h : Heap) : String := (r.shown h).toOption.getD "..."

end Raised

/-- Raises an error with a text. -/
def fail {α : Type} (kind : ErrorKind) (message : String) : Eval α := throw ⟨kind, [.text message]⟩

def heap : Eval Heap := return (← get).heap

/-- Puts a new object on the heap. -/
def alloc (o : Object) : Eval Value :=
  modifyGet fun m => let (a, h) := m.heap.alloc o; (.ref a, { m with heap := h })

/-- Replaces the object at an address. -/
def update (address : Nat) (o : Object) : Eval Unit :=
  modify fun m => { m with heap := m.heap.set address o }

/-- What is shown; it is an error if that cannot be done. -/
def ofShown : Except Unshown String → Eval String
  | .ok s => return s
  | .error .tooLong =>
    fail .valueError "Exceeds the limit (4300 digits) for integer string conversion"
  | .error .tooDeep =>
    fail .recursionError "maximum recursion depth exceeded while getting the repr of an object"

/-- A value as text; one that cannot be shown raises an error. -/
def plainText (v : Value) : Eval String := do ofShown ((← heap).plain v)

/-- The text of an error; one that has no text raises another error. -/
def Raised.text (r : Raised) : Eval String := do ofShown (r.shown (← heap))

/-- Raises an error unless the value can be a key. -/
def requireKey (v : Value) : Eval Unit := do
  match v.unhashable? (← heap) with
  | some t => fail .typeError s!"unhashable type: '{t}'"
  | none => return ()

end LiterateConfig.Script
