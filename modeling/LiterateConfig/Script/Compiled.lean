import LiterateConfig.Script.Evaluation
import LiterateConfig.Script.Reader

/-!
# Compiled blocks

A block is compiled by the first of three strategies that accepts it:

* as it stands, as the statements of a module; its value is that of an exported
  name. A lone expression other than a call is not accepted;
* as one expression, whose value it has;
* as the body of a function, whose result it has.

Every run of a compiled block starts from names of its own: the host's names
over the two that every block has.

Results:
* `compile_ok_iff`: the code is settled by what the block reads as.
-/
namespace LiterateConfig.Script

inductive Strategy where
  | asIs
  | expression
  | block
  deriving DecidableEq, Repr

def Strategy.name : Strategy → String
  | .asIs => "as-is"
  | .expression => "expression"
  | .block => "block"

inductive Code where
  | statements (body : List Stmt)
  | value (e : Expr)
  | function (body : List Stmt)

def Code.strategy : Code → Strategy
  | .statements _ => .asIs
  | .value _ => .expression
  | .function _ => .block

/-- What the first strategy has against a block. -/
inductive Refusal where
  | malformed
  /-- A lone expression that starts on a line. -/
  | notAStatement (line : Nat)
  deriving DecidableEq, Repr

/-- A block that is not compiled: its text, and why the first strategy refuses it. -/
structure CompileError where
  source : String
  cause : Refusal
  deriving DecidableEq, Repr

/-- The text of an error in a block that messages call `label`; the wording of
malformed blocks is left open. -/
def CompileError.message (label : String) (e : CompileError) : String :=
  match e.cause with
  | .malformed => "SyntaxError"
  | .notAStatement line => s!"SyntaxError: expression is not a statement ({label}, line {line})"

/-- The line of a body that is nothing but an expression other than a call. -/
def loneExpression? : List Stmt → Option Nat
  | [.expr line e] => if e.isCall then none else some line
  | [.starred line _] => some line
  | _ => none

/-- The first strategy: the statements of a module. -/
def compileAsIs (body : Option (List Stmt)) : Except Refusal Code :=
  match body with
  | none => .error .malformed
  | some body =>
    match loneExpression? body with
    | some line => .error (.notAStatement line)
    | none => if allRunnable false body then .ok (.statements body) else .error .malformed

/-- The third strategy: the body of a function. -/
def compileAsBlock? (body : Option (List Stmt)) : Option Code :=
  match body with
  | some body => if allRunnable true body then some (.function body) else none
  | none => none

/-- The code of the first strategy that accepts the block; otherwise an error with
the block and what the first strategy has against it. -/
def compile (source : String) : Except CompileError Code :=
  let body := module? source
  match compileAsIs body with
  | .ok code => .ok code
  | .error e =>
    match (expression? source).map .value <|> compileAsBlock? body with
    | some code => .ok code
    | none => .error ⟨source, e⟩

/-- The names that the host gives to every block. -/
abbrev Host := Names

/-- A compiled block, the name it exports, and the host's names. -/
structure Compiled where
  code : Code
  exported : Option String
  host : Host

/-- How a compiled block is shown. -/
def Compiled.shown (c : Compiled) : String :=
  let exported := match c.exported with
    | some name => Text.quoted name
    | none => "None"
  "CompiledUnit(strategy=" ++ Text.quoted c.code.strategy.name ++ ", export=" ++ exported ++ ")"

/-! ## Running -/

/-- The names that a run starts from: the host's names win. -/
def startNames (host : Host) : Names :=
  Keyed.putAll host [("__name__", .text "__mdconf__"), ("require", .builtin .require)]

/-- The name of the function that a block becomes. -/
def blockName : String := "__mdconf_block__"

/-- The value of the exported name after a run. -/
def exportedValue (globals : Nat) (exported : Option String) : Eval Value := do
  match exported with
  | none => return .nothing
  | some name =>
    if name.isEmpty then return .nothing
    else return (globalName? (← heap) globals name).getD .nothing

/-- Puts the names that a run starts from on the heap. -/
def newGlobals (host : Host) : Eval Nat :=
  modifyGet fun m =>
    let (a, h) := m.heap.alloc (.globals (startNames host))
    (a, { m with heap := h })

/-- Runs the code of a block whose names stand at an address. -/
def Compiled.runAt (c : Compiled) (globals : Nat) : Eval Value := do
  let at' : Place := ⟨[], globals, ""⟩
  match c.code with
  | .statements body =>
    let _ ← execAll callTop at' body
    exportedValue globals c.exported
  | .value e => evalExpr callTop at' e
  | .function body =>
    let f ← alloc (.function ⟨blockName, blockName, [], boundBy body, body, [], globals⟩)
    assignName at' blockName f
    callTop f []

/-- Runs a block on names of its own. -/
def Compiled.run (c : Compiled) : Eval Value := do c.runAt (← newGlobals c.host)

/-- Runs a computation and gives its outcome; an error that cannot be recovered
from goes on. -/
def attempt {α : Type} (x : Eval α) : Eval (Except Raised α) := fun m =>
  match x m with
  | (.ok a, m) => (.ok (.ok a), m)
  | (.error e, m) => if e.recoverable then (.ok (.error e), m) else (.error e, m)

/-! ## Lemmas -/

/-- Which code a block compiles to, said of what it reads as. -/
theorem compile_ok_iff {source : String} {code : Code} :
    compile source = .ok code ↔
      compileAsIs (module? source) = .ok code ∨
      (∃ e, compileAsIs (module? source) = .error e) ∧
        ((expression? source).map .value <|> compileAsBlock? (module? source)) = some code := by
  simp only [compile]
  generalize compileAsIs (module? source) = first
  generalize ((expression? source).map Code.value <|> compileAsBlock? (module? source)) = later
  cases first <;> cases later <;> simp

end LiterateConfig.Script
