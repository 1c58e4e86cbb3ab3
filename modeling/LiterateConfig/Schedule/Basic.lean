import LiterateConfig.Association
import LiterateConfig.Pattern.Reader

/-!
# Scheduling entries

An entry that is associated with a component waits until the component is
loaded, unless its code registers keys: then it runs at once. The actions that
wait for a component are given to the first spec it is called by; entries whose
component has no spec run at once after all.

Results:
* `hand_length`: handing out actions neither adds nor removes specs.
-/
namespace LiterateConfig.Schedule

open LiterateConfig.Component (Spec)
open LiterateConfig.Script (Value Raised)

def logSource : Log.Source := "scheduler"

/-- What code that registers keys looks like, unless settings say otherwise. -/
def keyPattern : String := "\\bkeymap\\.set\\s*\\("

/-- Whether an entry registers keys. -/
def registersKeys (p : Pattern.Node) (e : Entry) : Bool :=
  match e.text? with
  | some text => p.found text.toList
  | none => false

/-- The component that an entry waits for. -/
def component? (p : Pattern.Node) (m : Association.Map) (e : Entry) : Option String :=
  match m.get? e.index with
  | some identifier =>
    if identifier.isEmpty || registersKeys p e then none else some identifier
  | none => none

/-! ## Actions of entries -/

/-- The part named `setup` of a value; it is an error if there is none. -/
def setupPart (v : Value) : Script.Eval Value := do
  match (← Script.heap).object? v with
  | some (.dict _) => Script.getItem v (.text "setup")
  | _ => Script.getAttribute v "setup"

/-- How messages call the code of an entry. -/
def codeLabel (index : Int) : String := s!"<config {index}>"

/-- A value as an action; nothing is no action. -/
def actionOf? : Value → Option Action
  | .nothing => none
  | v => some (.call v)

/-- The action of an entry that waits for a component, if it has one. -/
def waitingAction (host : Script.Host) (e : Entry) (identifier : String) :
    Try Raised (Option Action) := do
  match e.body with
  | .source text =>
    match Script.compile text with
    | .ok code => return some (.compiled ⟨code, none, host⟩)
    | .error err =>
      noteFailure logSource s!"Failed to compile deferred config for component: {identifier}"
        (err.message (codeLabel e.index)) (some text)
      return none
  | .callable v => return actionOf? v
  | .table v => return actionOf? (← onMachine (setupPart v))
  | .inert _ =>
    note .warning logSource
      (s!"Skipping deferred config block #{e.index} (unexpected " ++ e.body.kindName ++ " value)")
    return none

/-! ## Sorting out entries -/

/-- An entry with the action that waits for its component. -/
structure Waiting where
  identifier : String
  entry : Entry
  action : Action

/-- Where the entries go: to run at once, or to wait. -/
structure Sorted where
  immediate : List Entry
  waiting : List Waiting

def sortOut (host : Script.Host) (p : Pattern.Node) (m : Association.Map) :
    List Entry → Try Raised Sorted
  | [] => return ⟨[], []⟩
  | e :: rest => do
    match component? p m e with
    | none =>
      let s ← sortOut host p m rest
      return { s with immediate := e :: s.immediate }
    | some identifier =>
      match ← waitingAction host e identifier with
      | none => sortOut host p m rest
      | some action =>
        note .debug logSource s!"Deferred config block #{e.index} registered for component: {identifier}"
        let s ← sortOut host p m rest
        return { s with waiting := ⟨identifier, e, action⟩ :: s.waiting }

/-- The identifiers that something waits for, in the order of their first entries. -/
def identifiers (ws : List Waiting) : List String :=
  ws.foldl (fun seen w => if seen.contains w.identifier then seen else seen ++ [w.identifier]) []

def waitingFor (identifier : String) (ws : List Waiting) : List Waiting :=
  ws.filter fun w => w.identifier == identifier

def actionsFor (identifier : String) (ws : List Waiting) : List Action :=
  (waitingFor identifier ws).map Waiting.action

/-! ## Handing out actions -/

/-- The identifier by which a spec takes actions, given those taken already. -/
def takes? (ws : List Waiting) (taken : List String) (s : Spec) : Option String :=
  s.identifier?.filter fun i => !taken.contains i && !(waitingFor i ws).isEmpty

/-- Gives each first spec its actions, and the identifiers taken in order. -/
def hand (ws : List Waiting) (taken : List String) : List Spec → List Spec × List String
  | [] => ([], taken)
  | s :: rest =>
    match takes? ws taken s with
    | none =>
      let (specs, taken) := hand ws taken rest
      (s :: specs, taken)
    | some i =>
      let (specs, taken) := hand ws (taken ++ [i]) rest
      ({ s with deferred := s.deferred ++ actionsFor i ws } :: specs, taken)

def noteEach (f : String → Log.Level × String) : List String → Act Unit
  | [] => return ()
  | s :: rest => do
    note (f s).1 logSource (f s).2
    noteEach f rest

/-- Entries by ascending index. -/
def byIndex (entries : List Entry) : List Entry :=
  entries.mergeSort fun a b => decide (a.index ≤ b.index)

/-! ## The plan -/

/-- What runs at once and what waits. -/
structure Plan where
  /-- The entries to run at once, by ascending index. -/
  immediate : List Entry
  /-- The actions that wait, by component. -/
  deferred : List (String × List Action)
  /-- The specs with the actions they were given. -/
  specs : List Spec

/-- Decides what runs at once and what waits for which component. -/
def plan (host : Script.Host) (p : Pattern.Node) (specs : List Spec) (entries : List Entry)
    (m : Association.Map) : Try Raised Plan := do
  let s ← sortOut host p m entries
  let (specs, taken) := hand s.waiting [] specs
  noteEach (fun i => (.info, s!"Injected deferred config into component spec: {i}")) taken
  let known := identifiers s.waiting
  let orphaned := known.filter fun i => !taken.contains i
  noteEach (fun i =>
    let count := (waitingFor i s.waiting).length
    (.warning,
      s!"No component spec matches {i}; running its {count} deferred config block(s) immediately"))
    orphaned
  let late := orphaned.flatMap fun i => (waitingFor i s.waiting).map Waiting.entry
  return {
    immediate := byIndex (s.immediate ++ late)
    deferred := (known.filter taken.contains).map fun i => (i, actionsFor i s.waiting)
    specs }

/-! ## Lemmas -/

theorem hand_length (ws : List Waiting) (taken : List String) (specs : List Spec) :
    (hand ws taken specs).1.length = specs.length := by
  induction specs generalizing taken with
  | nil => rfl
  | cons s rest ih =>
    simp only [hand]
    split <;> simp [ih]

end LiterateConfig.Schedule
