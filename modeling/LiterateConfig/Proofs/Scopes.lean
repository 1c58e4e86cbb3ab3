import LiterateConfig.Proofs.HeapGrowth
import Mathlib.Logic.Relation

/-!
# Blocks run in scopes of their own

An evaluator keeps the names of its host. It is asked to run blocks, in any order and any
number of times, and functions that blocks have left behind are called in between; any of
this may end with an error. Each run gets names of its own, made afresh from the host's.

**Sparing.** `Heap.Spares own h h'` says that from `h` to `h'` objects are only mutated,
except that names may also be bound at `own`. Evaluation that binds names at `own` does
no more (`changes_spares`), and a call or a run, whose names are new, has no such `own`:
everything that was there before is at most mutated (`Heap.Mutated`). Objects that hold
names cannot be mutated, so they stay as they are.

Results:
* `spares_execStmt`: a statement binds names where it stands, in any nesting of calls;
* `mutated_callAt`, `Compiled.mutated_run`: calls and runs bind no name that was there before;
* `invocations_isolated`: every run starts from the same names and leaves the host's
  names and those of all other runs alone.
-/
namespace LiterateConfig.Script

variable {α : Type}

/-! ## Heaps -/

namespace Object

/-- An object changes in place: it is mutated, or a name is bound in it if that is
allowed. -/
def Alters (binding : Prop) (o o' : Object) : Prop := o.Mutates o' ∨ binding ∧ o.Binds o'

/-- An object is mutated any number of times. -/
abbrev MutatesTo : Object → Object → Prop := Relation.ReflTransGen Mutates

/-- Names cannot be mutated. -/
theorem eq_of_globals_mutatesTo {names : Names} {o : Object} (h : (globals names).MutatesTo o) :
    o = .globals names := by
  induction h with
  | refl => rfl
  | tail _ ho ih =>
    subst ih
    cases ho

/-- Names stay names. -/
theorem globals_of_alters {binding : Prop} {names : Names} {o : Object}
    (h : Relation.ReflTransGen (Alters binding) (.globals names) o) :
    ∃ names', o = .globals names' := by
  induction h with
  | refl => exact ⟨names, rfl⟩
  | tail _ ho ih =>
    obtain ⟨names', rfl⟩ := ih
    rcases ho with ho | ⟨-, ho⟩
    · cases ho
    · cases ho
      exact ⟨_, rfl⟩

end Object

namespace Heap

/-- Objects are only mutated, except that names may also be bound at `own`. -/
def Spares (own : Nat) (h h' : Heap) : Prop :=
  ∀ a o, h.get? a = some o →
    ∃ o', h'.get? a = some o' ∧ Relation.ReflTransGen (Object.Alters (a = own)) o o'

/-- Objects are only mutated. -/
def Mutated (h h' : Heap) : Prop :=
  ∀ a o, h.get? a = some o → ∃ o', h'.get? a = some o' ∧ o.MutatesTo o'

theorem Spares.refl (own : Nat) (h : Heap) : h.Spares own h := fun _ o ha => ⟨o, ha, .refl⟩

theorem Spares.trans {own : Nat} {h₁ h₂ h₃ : Heap} (h : h₁.Spares own h₂)
    (h' : h₂.Spares own h₃) : h₁.Spares own h₃ := by
  intro a o ha
  obtain ⟨o₂, ha₂, h₁₂⟩ := h a o ha
  obtain ⟨o₃, ha₃, h₂₃⟩ := h' a o₂ ha₂
  exact ⟨o₃, ha₃, h₁₂.trans h₂₃⟩

theorem Mutated.refl (h : Heap) : h.Mutated h := fun _ o ha => ⟨o, ha, .refl⟩

theorem Mutated.trans {h₁ h₂ h₃ : Heap} (h : h₁.Mutated h₂) (h' : h₂.Mutated h₃) :
    h₁.Mutated h₃ := by
  intro a o ha
  obtain ⟨o₂, ha₂, h₁₂⟩ := h a o ha
  obtain ⟨o₃, ha₃, h₂₃⟩ := h' a o₂ ha₂
  exact ⟨o₃, ha₃, h₁₂.trans h₂₃⟩

/-- Where an object is altered, the others stay as they are. -/
theorem spares_set {own a : Nat} {h : Heap} {o o' : Object} (ha : h.get? a = some o)
    (ho : o.Alters (a = own) o') : h.Spares own (h.set a o') := by
  intro b o₂ hb
  by_cases hab : a = b
  · subst hab
    rw [ha] at hb
    cases hb
    exact ⟨o', get?_set_self (lt_size_of_get? ha) o', .single ho⟩
  · exact ⟨o₂, by rw [get?_set_of_ne hab, hb], .refl⟩

/-- Binding names in a new object alters none of the others. -/
theorem spares_of_fresh (own : Nat) {h h' : Heap} {o : Object}
    (hn : (h.alloc o).2.Spares h.size h') : h.Spares own h' := by
  intro a o₂ ha
  have hlt := lt_size_of_get? ha
  obtain ⟨o₃, ha₃, hs⟩ := hn a o₂ (by rw [get?_alloc_old hlt, ha])
  refine ⟨o₃, ha₃, Relation.ReflTransGen.mono (fun x y hxy => ?_) _ _ hs⟩
  exact hxy.imp_right fun hb => absurd hb.1 (Nat.ne_of_lt hlt)

/-- Where names could have been bound at any address they were bound at none. -/
theorem mutated_of_spares {h h' : Heap} (hs : ∀ own, h.Spares own h') : h.Mutated h' := by
  intro a o ha
  obtain ⟨o', ha', ho⟩ := hs (a + 1) a o ha
  refine ⟨o', ha', Relation.ReflTransGen.mono (fun x y hxy => ?_) _ _ ho⟩
  exact hxy.resolve_right fun hb => absurd hb.1 (Nat.ne_of_lt a.lt_succ_self)

/-- Names stay as they are where objects are only mutated. -/
theorem Mutated.globals {h h' : Heap} (hm : h.Mutated h') {a : Nat} {names : Names}
    (ha : h.get? a = some (.globals names)) : h'.get? a = some (.globals names) := by
  obtain ⟨o, ho, hmo⟩ := hm a _ ha
  rw [ho, Object.eq_of_globals_mutatesTo hmo]

end Heap

/-! ## Evaluation -/

/-- Sparing allows for everything that evaluation does to the heap. -/
theorem changes_spares : Changes Heap.Spares where
  refl := Heap.Spares.refl
  trans := Heap.Spares.trans
  mutate _ _ _ _ _ ha ho := Heap.spares_set ha (.inl ho)
  bindName ha ho := Heap.spares_set ha (.inr ⟨rfl, ho⟩)
  fresh own _ _ _ := Heap.spares_of_fresh own

/-- A statement binds names where it stands, whatever it calls and however deep. -/
theorem spares_execStmt (room : Nat) (at' : Place) (s : Stmt) (m : Machine) :
    m.heap.Spares at'.own (execStmt (callAt room) at' s m).2.heap :=
  changes_spares.within_execStmt (changes_spares.changing_callAt room) at' s m

/-- A call binds no name that is there when it begins, whatever is called. -/
theorem mutated_callAt (room : Nat) (v : Value) (args : List Value) (m : Machine) :
    m.heap.Mutated (callAt room v args m).2.heap :=
  Heap.mutated_of_spares fun own => changes_spares.changing_callAt room own v args m

theorem Compiled.mutated_run (c : Compiled) (m : Machine) : m.heap.Mutated (c.run m).2.heap :=
  Heap.mutated_of_spares fun _ => changes_spares.within_run c m

/-- A block keeps its names at their address. -/
theorem Compiled.globals_runAt (c : Compiled) {a : Nat} {names : Names} {m : Machine}
    (ha : m.heap.get? a = some (.globals names)) :
    ∃ names', (c.runAt a m).2.heap.get? a = some (.globals names') := by
  obtain ⟨o, ho, hs⟩ := changes_spares.within_runAt c a m a _ ha
  obtain ⟨names', rfl⟩ := Object.globals_of_alters hs
  exact ⟨names', ho⟩

/-! ## Evaluators -/

/-- A run starts from the host's names, over two that every block has. -/
theorem get?_startNames {host : Host} (h : (Keyed.keys host).Nodup) (n : String) :
    (startNames host).get? n = (host.get? n).or
      (if n = "__name__" then some (.text "__mdconf__")
        else if n = "require" then some (.builtin .require) else none) := by
  unfold startNames
  rw [Keyed.get?_putAll h]
  simp only [Keyed.get?, eq_comm]

/-- The names that stand at an address. -/
def Heap.names (h : Heap) (address : Nat) : Names :=
  match h.get? address with
  | some (.globals names) => names
  | _ => []

/-- A new evaluator, as the address of its host's names. -/
def newEvaluator (host : List (String × Value)) : Eval Nat :=
  modifyGet fun m =>
    let (a, h) := m.heap.alloc (.globals (Keyed.putAll host []))
    (a, { m with heap := h })

/-- What is asked of an evaluator and of the functions that its blocks leave behind. -/
inductive Request where
  /-- Runs a compiled block, which may export a name. -/
  | invoke (code : Code) (exported : Option String)
  | call (f : Value) (args : List Value)

/-- Does what is asked; a run starts from the names that the host has then. -/
def Request.perform (evaluator : Nat) : Request → Eval Value
  | .invoke code exported => do
    Compiled.run ⟨code, exported, (← heap).names evaluator⟩
  | .call f args => callTop f args

/-- The machine after requests, each made whether or not the ones before it failed. -/
def after (evaluator : Nat) (requests : List Request) (m : Machine) : Machine :=
  requests.foldl (fun m r => (r.perform evaluator m).2) m

theorem Request.mutated_perform (evaluator : Nat) (r : Request) (m : Machine) :
    m.heap.Mutated (r.perform evaluator m).2.heap := by
  cases r with
  | invoke code exported =>
    exact Compiled.mutated_run ⟨code, exported, m.heap.names evaluator⟩ m
  | call f args => exact mutated_callAt callLimit f args m

theorem mutated_after (evaluator : Nat) (requests : List Request) (m : Machine) :
    m.heap.Mutated (after evaluator requests m).heap := by
  induction requests generalizing m with
  | nil => exact .refl _
  | cons r rest ih => exact (r.mutated_perform evaluator m).trans (ih _)

/-- A run that begins in `m` and ends in `m'`, of an evaluator whose host's names are
`host`, has names of its own, which it does not share with what comes `later`. -/
structure Isolated (host : Names) (evaluator : Nat) (code : Code) (exported : Option String)
    (m m' later : Machine) : Prop where
  /-- The code runs on names at an address that nothing has had before. -/
  begins : ∃ start : Machine,
    start.heap = (m.heap.alloc (.globals (startNames host))).2 ∧ start.printed = m.printed ∧
    (Request.invoke code exported).perform evaluator m =
      Compiled.runAt ⟨code, exported, host⟩ m.heap.size start
  /-- What was there before is only mutated. -/
  mutated : m.heap.Mutated m'.heap
  /-- The names of the host and of all runs before are what they were. -/
  others : ∀ a names, m.heap.get? a = some (.globals names) →
    m'.heap.get? a = some (.globals names)
  /-- Nor does what comes later do more than mutate what is there. -/
  mutatedLater : m'.heap.Mutated later.heap
  /-- It leaves the names of the run as they are. -/
  own : ∃ names, m'.heap.get? m.heap.size = some (.globals names) ∧
    later.heap.get? m.heap.size = some (.globals names)
  host : m.heap.get? evaluator = some (.globals host) ∧
    m'.heap.get? evaluator = some (.globals host) ∧
    later.heap.get? evaluator = some (.globals host)

/-- **Every run has a scope of its own.** A statement binds names where it stands, and a
call binds none that are there when it begins, so a function that one run calls binds none
of its names, wherever it comes from. Whatever an evaluator is asked, in whatever order,
and whether it fails or not: every run of a block starts from the names that the evaluator
was made with, over the two that all blocks have, and nothing but mutations passes from
one run to another or to the host. -/
theorem invocations_isolated (pairs : List (String × Value)) (m₀ : Machine)
    (before later : List Request) (code : Code) (exported : Option String) :
    (∀ (room : Nat) (place : Place) (s : Stmt) (m : Machine),
      m.heap.Spares place.own (execStmt (callAt room) place s m).2.heap) ∧
    (∀ (room : Nat) (f : Value) (args : List Value) (m : Machine),
      m.heap.Mutated (callAt room f args m).2.heap) ∧
    ∃ evaluator m₁, newEvaluator pairs m₀ = (.ok evaluator, m₁) ∧
      let host := Keyed.putAll pairs []
      let m := after evaluator before m₁
      let m' := ((Request.invoke code exported).perform evaluator m).2
      (∀ n, (startNames host).get? n = (host.get? n).or
        (if n = "__name__" then some (.text "__mdconf__")
          else if n = "require" then some (.builtin .require) else none)) ∧
      Isolated host evaluator code exported m m' (after evaluator later m') := by
  let host := Keyed.putAll pairs []
  let m₁ : Machine := { m₀ with heap := (m₀.heap.alloc (.globals host)).2 }
  let m := after m₀.heap.size before m₁
  let m' := ((Request.invoke code exported).perform m₀.heap.size m).2
  have hnil : (Keyed.keys ([] : Names)).Nodup := List.nodup_nil
  have hkeys : (Keyed.keys host).Nodup := Keyed.nodup_keys_putAll hnil pairs
  refine ⟨spares_execStmt, mutated_callAt, m₀.heap.size, m₁, rfl, get?_startNames hkeys, ?_⟩
  have hhost : m.heap.get? m₀.heap.size = some (.globals host) :=
    (mutated_after _ before m₁).globals (Heap.get?_alloc_new m₀.heap _)
  have hrun : m.heap.Mutated m'.heap := Request.mutated_perform _ _ m
  have hlater : m'.heap.Mutated (after m₀.heap.size later m').heap := mutated_after _ later m'
  have hnames : m.heap.names m₀.heap.size = host := by rw [Heap.names, hhost]
  let start : Machine := { m with heap := (m.heap.alloc (.globals (startNames host))).2 }
  have hbegins : (Request.invoke code exported).perform m₀.heap.size m =
      Compiled.runAt ⟨code, exported, host⟩ m.heap.size start := by
    show Compiled.run ⟨code, exported, m.heap.names m₀.heap.size⟩ m = _
    rw [hnames]
    rfl
  have hstart : start.heap.get? m.heap.size = some (.globals (startNames host)) :=
    Heap.get?_alloc_new m.heap _
  obtain ⟨names, hown⟩ := Compiled.globals_runAt ⟨code, exported, host⟩ hstart
  rw [← hbegins] at hown
  exact {
    begins := ⟨start, rfl, rfl, hbegins⟩
    mutated := hrun
    others := fun a names ha => hrun.globals ha
    mutatedLater := hlater
    own := ⟨names, hown, hlater.globals hown⟩
    host := ⟨hhost, hrun.globals hhost, hlater.globals (hrun.globals hhost)⟩ }

end LiterateConfig.Script
