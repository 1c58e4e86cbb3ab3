import LiterateConfig.Number.Shortest
import LiterateConfig.Script.Value
import LiterateConfig.Text.Numeral
import LiterateConfig.Text.Quoted

/-!
# How values are shown

`Heap.shown` writes a value the way a message quotes it: texts in quotes,
collections with their items, functions by their path. An object that contains
itself is shown as dots where it comes round again. `Heap.plain` leaves a text
as it is and shows an error by its message. A whole number beyond
`Text.digitLimit` digits cannot be shown, and neither can values that are nested
deeper than `showLimit`.
-/
namespace LiterateConfig.Script

/-- Parts with commas between them. -/
def commaJoined (parts : List String) : String := ", ".intercalate parts

/-- A tuple of shown items; a single item keeps a comma. -/
def shownTuple : List String → String
  | [part] => "(" ++ part ++ ",)"
  | parts => "(" ++ commaJoined parts ++ ")"

def shownFrozen (parts : List String) : String :=
  if parts.isEmpty then "frozenset()" else "frozenset(\x7b" ++ commaJoined parts ++ "\x7d)"

def Builtin.shown : Builtin → String
  | .print => "<built-in function print>"
  | .require => "<function import_module at 0x>"
  | .load => "<built-in function __import__>"
  | .exit => "<built-in function exit>"
  | .named name true => "<class '" ++ name ++ "'>"
  | .named name false => "<built-in function " ++ name ++ ">"

/-- Why a value cannot be shown. -/
inductive Unshown where
  /-- A whole number has too many digits. -/
  | tooLong
  | tooDeep
  deriving DecidableEq, Repr

/-- The deepest nesting that is shown. -/
def showLimit : Nat := 990

def shownInt (n : Int) : Except Unshown String :=
  match Text.intText? n with
  | some s => .ok s
  | none => .error .tooLong

mutual

/-- A value shown in so much room for nesting, given how the object at an address is. -/
def Value.shownWith (deref : Nat → Nat → Except Unshown String) :
    Nat → Value → Except Unshown String
  | 0, _ => .error .tooDeep
  | _ + 1, .nothing => .ok "None"
  | _ + 1, .bool true => .ok "True"
  | _ + 1, .bool false => .ok "False"
  | _ + 1, .int n => shownInt n
  | _ + 1, .float x => .ok (Number.floatText x)
  | _ + 1, .text s => .ok (Text.quoted s)
  | _ + 1, .bytes b => .ok (Text.quotedBytes b)
  | room + 1, .tuple items => (shownItems deref room items).map shownTuple
  | room + 1, .frozen items => (shownItems deref room items).map shownFrozen
  | room + 1, .ref a => deref room a
  | _ + 1, .errorClass k => .ok ("<class '" ++ k.name ++ "'>")
  | _ + 1, .builtin b => .ok b.shown
  | _ + 1, .module name =>
    .ok (if name = "sys" then "<module 'sys' (built-in)>" else "<module '" ++ name ++ "'>")
  | _ + 1, .append _ => .ok "<built-in method append of list object at 0x>"
  | _ + 1, .hook _ => .ok "<function hook at 0x>"

def shownItems (deref : Nat → Nat → Except Unshown String) (room : Nat) :
    List Value → Except Unshown (List String)
  | [] => .ok []
  | v :: vs => do
    let s ← v.shownWith deref room
    let rest ← shownItems deref room vs
    return s :: rest

end

def shownPairs (deref : Nat → Nat → Except Unshown String) (room : Nat) :
    List (Value × Value) → Except Unshown (List String)
  | [] => .ok []
  | (k, v) :: rest => do
    let sk ← k.shownWith deref room
    let sv ← v.shownWith deref room
    let more ← shownPairs deref room rest
    return (sk ++ ": " ++ sv) :: more

/-- The object at an address shown in so much room, inside the objects at `around`. Each
step into an object takes some of the room, so the room at first is fuel enough. -/
def Heap.shownAt (h : Heap) : Nat → List Nat → Nat → Nat → Except Unshown String
  | 0, _, _, _ => .ok "..."
  | fuel + 1, around, room, a =>
    let inner := h.shownAt fuel (a :: around)
    let again := around.contains a
    match h.get? a with
    | some (.list items) =>
      if again then .ok "[...]"
      else (shownItems inner room items).map fun ps => "[" ++ commaJoined ps ++ "]"
    | some (.dict pairs) =>
      if again then .ok "\x7b...\x7d"
      else (shownPairs inner room pairs).map fun ps => "\x7b" ++ commaJoined ps ++ "\x7d"
    | some (.set items) =>
      if items.isEmpty then .ok "set()"
      else (shownItems inner room items).map fun ps => "\x7b" ++ commaJoined ps ++ "\x7d"
    | some (.error k args) =>
      (shownItems inner room args).map fun ps => k.name ++ "(" ++ commaJoined ps ++ ")"
    | some (.function f) => .ok ("<function " ++ f.path ++ " at 0x>")
    | some (.recorder _) => .ok "<function recorder at 0x>"
    | _ => .ok "<object at 0x>"

/-- A value as a message quotes it, in so much room for nesting. -/
def Heap.shownIn (h : Heap) (room : Nat) (v : Value) : Except Unshown String :=
  v.shownWith (h.shownAt (room + 1) []) room

/-- A value as a message quotes it. -/
def Heap.shown (h : Heap) (v : Value) : Except Unshown String := h.shownIn showLimit v

/-- A value as a message quotes it, if it can be shown. -/
def Heap.shown? (h : Heap) (v : Value) : Option String := (h.shown v).toOption

/-- The message of an error with the given kind and arguments, `plain` giving
the text of its arguments: nothing without arguments, the text of a single one,
a tuple of several. A missing key is quoted, and a system failure with a number
shows the number first. -/
def errorMessage (h : Heap) (room : Nat) (plain : Value → Except Unshown String) (k : ErrorKind) :
    List Value → Except Unshown String
  | [] =>
    .ok (if ["SyntaxError", "IndentationError", "TabError"].contains k.name then "None" else "")
  | [v] => if k = .keyError then h.shownIn room v else plain v
  | [n, m] =>
    if k.ofSystem then do
      let n ← plain n
      let m ← plain m
      return "[Errno " ++ n ++ "] " ++ m
    else h.shownIn room (.tuple [n, m])
  | vs => h.shownIn room (.tuple vs)

/-- A value as text in so much room: errors within errors are followed. -/
def Heap.plainIn (h : Heap) : Nat → Value → Except Unshown String
  | _, .text s => .ok s
  | room + 1, .ref a =>
    match h.get? a with
    | some (.error k args) => errorMessage h room (h.plainIn room) k args
    | _ => h.shownIn (room + 1) (.ref a)
  | room, v => h.shownIn room v

/-- A value as text. -/
def Heap.plain (h : Heap) (v : Value) : Except Unshown String := h.plainIn showLimit v

/-- A value as text, if it has one. -/
def Heap.plain? (h : Heap) (v : Value) : Option String := (h.plain v).toOption

end LiterateConfig.Script
