/-!
# The syntax of blocks

Expressions have values; statements bind names, change things or decide what
runs. A module is the list of statements of a block. `Stmt.bound` tells which
names a body binds: inside a function these are its own names.
-/
namespace LiterateConfig.Script

inductive BinaryOp where
  | add | subtract | multiply | divide
  deriving DecidableEq, Repr

inductive Expr where
  | nothing
  | bool (b : Bool)
  | int (n : Nat)
  | float (x : Float)
  | text (s : String)
  | bytes (b : List UInt8)
  | name (s : String)
  | list (items : List Expr)
  | tuple (items : List Expr)
  | set (items : List Expr)
  | dict (pairs : List (Expr × Expr))
  | call (f : Expr) (args : List Expr)
  | attribute (e : Expr) (name : String)
  | index (e i : Expr)
  | function (body : Expr)
  | binary (op : BinaryOp) (l r : Expr)
  | negate (e : Expr)
  | not (e : Expr)
  | and (l r : Expr)
  | or (l r : Expr)
  /-- `first == r₁ == r₂ …`, at least one comparison. -/
  | equal (first : Expr) (rest : List Expr)

/-- What a value can be assigned to. -/
inductive Target where
  | name (s : String)
  | index (e i : Expr)

inductive Stmt where
  /-- An expression and the line it starts on. -/
  | expr (line : Nat) (e : Expr)
  /-- A lone `*e`, which can be read but has no meaning. -/
  | starred (line : Nat) (e : Expr)
  | assign (targets : List Target) (e : Expr)
  | return (e : Option Expr)
  | raise (e : Expr)
  | pass
  | load (module : String)
  | define (decorators : List Expr) (name : String) (params : List String) (body : List Stmt)
  | branch (cond : Expr) (yes no : List Stmt)

def Expr.isCall : Expr → Bool
  | .call _ _ => true
  | _ => false

def Target.bound : Target → List String
  | .name s => [s]
  | .index _ _ => []

mutual

/-- The names that a statement binds where it stands. -/
def Stmt.bound : Stmt → List String
  | .assign targets _ => targets.flatMap Target.bound
  | .load m => [m]
  | .define _ name _ _ => [name]
  | .branch _ yes no => boundBy yes ++ boundBy no
  | _ => []

/-- The names that statements bind where they stand. -/
def boundBy : List Stmt → List String
  | [] => []
  | s :: rest => s.bound ++ boundBy rest

end

/-! ## Meaningful bodies

Some bodies can be read but cannot run: a `return` outside a function, a lone
starred expression, a parameter named twice, and a binding of `__debug__`. -/

def canBind (name : String) : Bool := name != "__debug__"

def noneTwice : List String → Bool
  | [] => true
  | x :: xs => !xs.contains x && noneTwice xs

mutual

/-- Whether a statement can run, inside a function or not. -/
def Stmt.runnable (inFunction : Bool) : Stmt → Bool
  | .starred _ _ => false
  | .return _ => inFunction
  | .define _ name params body =>
    canBind name && params.all canBind && noneTwice params && allRunnable true body
  | .branch _ yes no => allRunnable inFunction yes && allRunnable inFunction no
  | .assign targets _ => (targets.flatMap Target.bound).all canBind
  | .load m => canBind m
  | _ => true

def allRunnable (inFunction : Bool) : List Stmt → Bool
  | [] => true
  | s :: rest => s.runnable inFunction && allRunnable inFunction rest

end

end LiterateConfig.Script
