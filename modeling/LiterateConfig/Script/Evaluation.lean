import LiterateConfig.Script.Operation

/-!
# Running blocks

Expressions and statements are evaluated against the names they see: a running
function has its own names, sees those of the functions around it, then the
names of its block and the built-in ones. A name that a function binds anywhere
is its own everywhere in it.

Evaluation is by recursion on the syntax; what a call does is a parameter of
it, tied at a depth: `callAt n` can nest `n` calls, and one call deeper raises
an error. So every run ends.
-/
namespace LiterateConfig.Script

/-- Where a piece of code stands. -/
structure Place where
  /-- Addresses of the own names of the functions around, innermost first. -/
  scopes : List Nat
  /-- Address of the names of the block. -/
  globals : Nat
  /-- What stands in front of the paths of functions defined here. -/
  path : String

/-! ## Names -/

/-- The types that have built-in names. -/
def typeNames : List String := [
  "bool", "bytearray", "bytes", "classmethod", "complex", "dict", "enumerate", "filter", "float",
  "frozenset", "int", "list", "map", "memoryview", "object", "property", "range", "reversed", "set",
  "slice", "staticmethod", "str", "super", "tuple", "type", "zip"]

/-- The functions that have built-in names, those apart that blocks can call. -/
def functionNames : List String := [
  "__build_class__", "abs", "aiter", "all", "anext", "any", "ascii", "bin", "breakpoint",
  "callable", "chr", "compile", "delattr", "dir", "divmod", "eval", "exec", "exit", "format",
  "getattr", "globals", "hasattr", "hash", "help", "hex", "id", "input", "isinstance",
  "issubclass", "iter", "len", "locals", "max", "min", "next", "oct", "open", "ord", "pow",
  "quit", "repr", "round", "setattr", "sorted", "sum", "vars"]

/-- The value of a built-in name. -/
def builtinName? (s : String) : Option Value :=
  if s = "print" then some (.builtin .print)
  else if s = "__import__" then some (.builtin .load)
  else if s = "__debug__" then some (.bool true)
  else if typeNames.contains s then some (.builtin (.named s true))
  else if functionNames.contains s then some (.builtin (.named s false))
  else (ErrorKind.ofName? s).map .errorClass

/-- The nearest function around that owns a name, with the value it is bound to. -/
def ownName? (h : Heap) (name : String) : List Nat → Option (Nat × Option Value)
  | [] => none
  | a :: rest =>
    match h.get? a with
    | some (.scope own names) =>
      if own.contains name then some (a, names.get? name) else ownName? h name rest
    | _ => ownName? h name rest

def globalName? (h : Heap) (globals : Nat) (name : String) : Option Value :=
  match h.get? globals with
  | some (.globals names) => names.get? name
  | _ => none

def lookUp (at' : Place) (name : String) : Eval Value := do
  let h ← heap
  match ownName? h name at'.scopes with
  | some (_, some v) => return v
  | some (a, none) =>
    if at'.scopes.head? = some a then
      fail .unboundLocalError
        s!"cannot access local variable '{name}' where it is not associated with a value"
    else
      fail .nameError
        s!"cannot access free variable '{name}' where it is not associated with a value in enclosing scope"
  | none =>
    match globalName? h at'.globals name <|> builtinName? name with
    | some v => return v
    | none => fail .nameError s!"name '{name}' is not defined"

/-- Binds a name: a function's own, or a name of the block. -/
def assignName (at' : Place) (name : String) (v : Value) : Eval Unit := do
  let h ← heap
  let address := at'.scopes.headD at'.globals
  match h.get? address with
  | some (.scope own names) => update address (.scope own (names.put name v))
  | some (.globals names) => update address (.globals (names.put name v))
  | _ => return ()

/-! ## Modules -/

/-- The modules that exist. -/
def moduleNames : List String := ["json", "sys"]

/-- The error that a module does not exist. -/
def noModule (name : String) (why : String) : Eval Value :=
  fail .moduleNotFoundError ("No module named " ++ Text.quoted name ++ why)

/-- Loads a module by its dotted name; the modules that exist have no parts. -/
def loadModule (name : String) : Eval Value :=
  let outer := String.ofList (name.toList.takeWhile (· != '.'))
  if name.isEmpty then fail .valueError "Empty module name"
  else if !moduleNames.contains outer then noModule outer ""
  else if outer = name then return .module name
  else noModule name (if outer = "sys" then "; 'sys' is not a package" else "")

/-! ## Calls of what blocks do not define -/

/-- A new error of a kind; a system failure with a number has the kind of its number. -/
def newError (kind : ErrorKind) (args : List Value) : Object :=
  match args with
  | [.int n, _] => .error (if kind.name = "OSError" then .ofErrorNumber n else kind) args
  | args => .error kind args

def plainTexts : List Value → Eval (List String)
  | [] => return []
  | v :: vs => return (← plainText v) :: (← plainTexts vs)

def callBuiltin (b : Builtin) (args : List Value) : Eval Value := do
  match b, args with
  | .print, args => do
    let parts ← plainTexts args
    modify fun m => { m with printed := m.printed ++ " ".intercalate parts ++ "\n" }
    return .nothing
  | .require, [.text s] | .require, [.text s, _] =>
    if s.toList.head? = some '.' then
      fail .typeError s!"the 'package' argument is required to perform a relative import for '{s}'"
    else loadModule s
  | .load, [.text s] => loadModule s
  | .require, [v] | .require, [v, _] =>
    fail .attributeError s!"'{v.typeName (← heap)}' object has no attribute 'startswith'"
  | .load, [v] => fail .typeError s!"__import__() argument 1 must be str, not {v.typeName (← heap)}"
  | .require, [] => fail .typeError "import_module() missing 1 required positional argument: 'name'"
  | .load, [] => fail .typeError "__import__() missing required argument 'name' (pos 1)"
  | .require, _ => fail .typeError "import_module() takes from 1 to 2 positional arguments"
  | .load, _ => fail .typeError "__import__() takes at most 5 arguments"
  | .named name _, _ => fail .typeError s!"{name}() cannot be called by a block"
  | .exit, [] => throw ⟨.systemExit, []⟩
  | .exit, [v] => throw ⟨.systemExit, [v]⟩
  | .exit, args => fail .typeError s!"exit expected at most 1 argument, got {args.length}"

/-- Appends to the list at an address. -/
def appendTo (list : Nat) (v : Value) : Eval Unit := do
  match (← heap).get? list with
  | some (.list items) => update list (.list (items ++ [v]))
  | _ => return ()

/-- A call of a host function: a note of it, then its fault or its result. -/
def callRecorder (r : Recorder) (args : List Value) : Eval Value := do
  if args.isEmpty && !r.always then appendTo r.journal (.text r.label)
  else do
    let note ← alloc (.list (.text r.label :: args))
    appendTo r.journal note
  match r.fault with
  | some (kind, faultArgs) => throw ⟨kind, faultArgs⟩
  | none => return r.result

/-- Names as a message lists them. -/
def listed : List String → String
  | [] => ""
  | [a] => s!"'{a}'"
  | [a, b] => s!"'{a}' and '{b}'"
  | names =>
    let quotedNames := names.map fun n => s!"'{n}'"
    ", ".intercalate quotedNames.dropLast ++ ", and " ++ quotedNames.getLast?.getD ""

/-- Raises an error unless the number of arguments fits. -/
def requireArity (f : Closure) (args : List Value) : Eval Unit :=
  let expected := f.params.length
  let given := args.length
  if expected < given then
    let arguments := if expected = 1 then "argument" else "arguments"
    let were := if given = 1 then "was" else "were"
    fail .typeError s!"{f.path}() takes {expected} positional {arguments} but {given} {were} given"
  else if given < expected then
    let absent := f.params.drop given
    let arguments := if absent.length = 1 then "argument" else "arguments"
    fail .typeError
      (s!"{f.path}() missing {absent.length} required positional {arguments}: " ++ listed absent)
  else return ()

/-! ## Expressions -/

/-- What a call does. -/
abbrev Call := Value → List Value → Eval Value

mutual

def evalExpr (call : Call) (at' : Place) : Expr → Eval Value
  | .nothing => return .nothing
  | .bool b => return .bool b
  | .int n => return .int n
  | .float x => return .float x
  | .text s => return .text s
  | .bytes b => return .bytes b
  | .name s => lookUp at' s
  | .list items => do alloc (.list (← evalAll call at' items))
  | .tuple items => do return .tuple (← evalAll call at' items)
  | .set items => do
    let vs ← evalAll call at' items
    vs.forM requireKey
    alloc (.set (vs.foldl insertItem []))
  | .dict pairs => do
    let ps ← evalPairs call at' pairs
    ps.forM fun p => requireKey p.1
    alloc (.dict (ps.foldl (fun d p => putPair p.1 p.2 d) []))
  | .call f args => do
    let fv ← evalExpr call at' f
    let vs ← evalAll call at' args
    call fv vs
  | .attribute e name => do getAttribute (← evalExpr call at' e) name
  | .index e i => do
    let v ← evalExpr call at' e
    let w ← evalExpr call at' i
    getItem v w
  | .function body =>
    alloc (.function
      ⟨"<lambda>", at'.path ++ "<lambda>", [], [], [.return (some body)], at'.scopes, at'.globals⟩)
  | .binary op l r => do
    let v ← evalExpr call at' l
    let w ← evalExpr call at' r
    combine op v w
  | .negate e => do negated (← evalExpr call at' e)
  | .not e => do
    let v ← evalExpr call at' e
    return .bool (!v.isTrue (← heap))
  | .and l r => do
    let v ← evalExpr call at' l
    if v.isTrue (← heap) then evalExpr call at' r else return v
  | .or l r => do
    let v ← evalExpr call at' l
    if v.isTrue (← heap) then return v else evalExpr call at' r
  | .equal first rest => do
    let v ← evalExpr call at' first
    evalEqual call at' v rest

def evalAll (call : Call) (at' : Place) : List Expr → Eval (List Value)
  | [] => return []
  | e :: rest => do
    let v ← evalExpr call at' e
    let vs ← evalAll call at' rest
    return v :: vs

def evalPairs (call : Call) (at' : Place) : List (Expr × Expr) → Eval (List (Value × Value))
  | [] => return []
  | (k, e) :: rest => do
    let kv ← evalExpr call at' k
    let v ← evalExpr call at' e
    let more ← evalPairs call at' rest
    return (kv, v) :: more

/-- A chain of comparisons, each operand evaluated once and only if it is reached. -/
def evalEqual (call : Call) (at' : Place) (v : Value) : List Expr → Eval Value
  | [] => return .bool true
  | e :: rest => do
    let w ← evalExpr call at' e
    if ← equal v w then
      if rest.isEmpty then return .bool true else evalEqual call at' w rest
    else return .bool false

end

/-! ## Statements -/

/-- How statements end: at their end, or by returning a value. -/
inductive Outcome where
  | done
  | returned (v : Value)

def assignTarget (call : Call) (at' : Place) (v : Value) : Target → Eval Unit
  | .name s => assignName at' s v
  | .index e i => do
    let o ← evalExpr call at' e
    let w ← evalExpr call at' i
    setItem o w v

def assignAll (call : Call) (at' : Place) (v : Value) : List Target → Eval Unit
  | [] => return ()
  | t :: rest => do
    assignTarget call at' v t
    assignAll call at' v rest

/-- Raises the error that a value stands for: an instance, or a class, which is
called without arguments. -/
def raiseValue (v : Value) : Eval Unit := do
  match v, (← heap).object? v with
  | .errorClass k, _ => throw ⟨k, []⟩
  | _, some (.error k args) => throw ⟨k, args⟩
  | _, _ => fail .typeError "exceptions must derive from BaseException"

/-- Applies decorators, the nearest first. -/
def decorate (call : Call) (v : Value) : List Value → Eval Value
  | [] => return v
  | d :: rest => do
    let w ← call d [v]
    decorate call w rest

mutual

def execStmt (call : Call) (at' : Place) : Stmt → Eval Outcome
  | .expr _ e => do
    let _ ← evalExpr call at' e
    return .done
  | .starred _ _ => return .done
  | .assign targets e => do
    let v ← evalExpr call at' e
    assignAll call at' v targets
    return .done
  | .return none => return .returned .nothing
  | .return (some e) => return .returned (← evalExpr call at' e)
  | .raise e => do
    raiseValue (← evalExpr call at' e)
    return .done
  | .pass => return .done
  | .load m => do
    let v ← loadModule m
    assignName at' m v
    return .done
  | .define decorators name params body => do
    let ds ← evalAll call at' decorators.reverse
    let f ← alloc (.function
      ⟨name, at'.path ++ name, params, params ++ boundBy body, body, at'.scopes, at'.globals⟩)
    let v ← decorate call f ds.reverse
    assignName at' name v
    return .done
  | .branch cond yes no => do
    let v ← evalExpr call at' cond
    if v.isTrue (← heap) then execAll call at' yes else execAll call at' no

def execAll (call : Call) (at' : Place) : List Stmt → Eval Outcome
  | [] => return .done
  | s :: rest => do
    match ← execStmt call at' s with
    | .done => execAll call at' rest
    | .returned v => return .returned v

end

/-! ## Calls -/

/-- Runs the body of a function on its arguments. -/
def enter (call : Call) (f : Closure) (args : List Value) : Eval Value := do
  requireArity f args
  let m ← get
  let (a, h) := m.heap.alloc (.scope f.own (f.params.zip args))
  set { m with heap := h }
  match ← execAll call ⟨a :: f.scopes, f.globals, f.path ++ ".<locals>."⟩ f.body with
  | .returned v => return v
  | .done => return .nothing

/-- The deepest nesting of calls. -/
def callLimit : Nat := 960

/-- A call, given what calls within it do. -/
def callWith (inner : Call) : Call
  | .builtin b, args => callBuiltin b args
  | .errorClass k, args => alloc (newError k args)
  | .append list, [v] => do
    appendTo list v
    return .nothing
  | .append _, args => fail .typeError s!"list.append() takes exactly one argument ({args.length} given)"
  | .hook target, [] => do
    let _ ← inner target []
    return .nothing
  | .hook _, args => fail .typeError s!"hook() takes 0 positional arguments but {args.length} were given"
  | v, args => do
    let h ← heap
    match h.object? v with
    | some (.function f) => enter inner f args
    | some (.recorder r) => callRecorder r args
    | _ => fail .typeError s!"'{v.typeName h}' object is not callable"

/-- A call with room for `n` more calls within it. -/
def callAt : Nat → Call
  | 0 => fun _ _ => fail .recursionError "maximum recursion depth exceeded"
  | n + 1 => callWith (callAt n)

/-- A call from outside any block. -/
def callTop : Call := callAt callLimit

end LiterateConfig.Script
