import LiterateConfig.Proofs.Scheduling

/-!
# Three places for entries

A plan is made in three passes: entries are sorted out, actions are handed to specs, and
what nobody took joins the entries that run at once. Seen from one entry it is a choice
between three places, and the entry, its component and the specs decide it alone.

**Places.** An entry that waits for no component runs at once. One that waits is dropped
if it has no action. Otherwise its action goes to the first spec of the component, and if
there is none the entry runs at once after all (`place`).

**What is no action.** A value that sets nothing up and code that does not compile have no
action (`Entry.isUnusable`). Nor has a function, or the setup of a table, that is nothing
(`Entry.lacksAction`).

Results:
* `place_eq_spec`, `place_eq_immediate`: places in terms of what an entry waits with;
* `getElem?_shares`: what waits for a component goes to its first spec;
* `mem_hand_snd`: it is taken if there is one;
* `perm_late`, `perm_immediate`: what nobody takes, and what runs at once;
* `plan_partitions`: every entry is in its place, once, and in order.
-/
namespace LiterateConfig

open LiterateConfig.Component (Spec setupPart?)
open LiterateConfig.Script (Heap Machine Value)

/-! ## No action -/

/-- A value that sets nothing up, or code that does not compile. -/
def Entry.isUnusable (e : Entry) : Bool :=
  match e.body with
  | .source text => (Script.compile text).toOption.isNone
  | .inert _ => true
  | _ => false

/-- Of what is called, nothing is no action either. -/
def Entry.lacksAction (h : Heap) (e : Entry) : Bool :=
  match e.body with
  | .callable .nothing => true
  | .table v => match setupPart? h v with
    | some .nothing => true
    | _ => false
  | _ => e.isUnusable

namespace Schedule

/-- An entry has an action unless it lacks one. -/
theorem isNone_action? (host : Script.Host) {h : Heap} {e : Entry} (hready : e.body.Ready h) :
    (e.action? host h).isNone = e.lacksAction h := by
  unfold Entry.action? Entry.lacksAction Entry.isUnusable
  cases hb : e.body with
  | source text => simp
  | callable v => cases v <;> rfl
  | table v =>
    rw [hb] at hready
    obtain ⟨f, hf⟩ := Option.isSome_iff_exists.1 hready
    simp only [hf, Option.bind_some]
    cases f <;> rfl
  | inert v => rfl

/-! ## Places -/

/-- Where an entry goes. -/
inductive Place where
  | dropped
  /-- To the spec at the position. -/
  | spec (position : Nat)
  | immediate
  deriving DecidableEq, Repr

/-- The position of the first spec of a component. -/
def first? (specs : List Spec) (identifier : String) : Option Nat :=
  specs.findIdx? fun s => s.identifier? == some identifier

/-- Where an entry goes if `drops` says which of those that wait are dropped. -/
def place (drops : Entry → Bool) (keys : Pattern.Node) (m : Association.Map) (specs : List Spec)
    (e : Entry) : Place :=
  match component? keys m e with
  | none => .immediate
  | some identifier =>
    if drops e then .dropped
    else match first? specs identifier with
      | some j => .spec j
      | none => .immediate

/-- Every entry is in its place: at once in order, or behind the actions that the spec
has already, in the order of the entries. What a component is said to wait with is what
its first spec is given. -/
structure Plan.Partitions (place : Entry → Place) (action? : Entry → Option Action)
    (specs : List Spec) (entries : List Entry) (pl : Plan) : Prop where
  inOrder : InOrder pl.immediate
  immediate : pl.immediate.Perm (entries.filter fun e => place e = .immediate)
  length : pl.specs.length = specs.length
  given : ∀ j s, specs[j]? = some s → ∃ as : List Action,
    as.map some = (entries.filter fun e => place e = .spec j).map action? ∧
      pl.specs[j]? = some { s with deferred := s.deferred ++ as } ∧
      (as ≠ [] → ∃ i, (i, as) ∈ pl.deferred)
  nodup : (pl.deferred.map Prod.fst).Nodup
  deferred : ∀ i as, (i, as) ∈ pl.deferred → ∃ j s,
    first? specs i = some j ∧ specs[j]? = some s ∧ s.identifier? = some i ∧
      pl.specs[j]? = some { s with deferred := s.deferred ++ as }

section

variable {host : Script.Host} {keys : Pattern.Node} {m : Association.Map} {h : Heap} {e : Entry}
  (specs : List Spec)

/-- An entry goes to a spec if it waits and the spec is the first of its component. -/
theorem place_eq_spec (hready : e.body.Ready h) (j : Nat) :
    decide (place (Entry.lacksAction h) keys m specs e = .spec j) =
      (waiting? host keys m h e).any fun x => decide (first? specs x.identifier = some j) := by
  unfold place waiting?
  rw [← isNone_action? host hready]
  cases component? keys m e with
  | none => rfl
  | some i =>
    cases e.action? host h with
    | none => rfl
    | some a => cases hj : first? specs i <;> simp [hj]

/-- It runs at once if it waits for nothing, or if there is no such spec. -/
theorem place_eq_immediate (hready : e.body.Ready h) :
    decide (place (Entry.lacksAction h) keys m specs e = .immediate) =
      ((component? keys m e).isNone ||
        (waiting? host keys m h e).any fun x => decide (first? specs x.identifier = none)) := by
  unfold place waiting?
  rw [← isNone_action? host hready]
  cases component? keys m e with
  | none => rfl
  | some i =>
    cases e.action? host h with
    | none => rfl
    | some a => cases hj : first? specs i <;> simp [hj]

end

/-! ## Handing out -/

theorem first?_cons (s : Spec) (rest : List Spec) (i : String) :
    first? (s :: rest) i =
      if s.identifier? = some i then some 0 else (first? rest i).map (· + 1) := by
  simp [first?, List.findIdx?_cons]

theorem first?_cons_eq_zero {s : Spec} {rest : List Spec} {i : String} :
    first? (s :: rest) i = some 0 ↔ s.identifier? = some i := by
  rw [first?_cons]
  split
  · next hs => simp [hs]
  · next hs => simp [hs]

theorem first?_cons_eq_succ {s : Spec} {rest : List Spec} {i : String} {j : Nat} :
    first? (s :: rest) i = some (j + 1) ↔ s.identifier? ≠ some i ∧ first? rest i = some j := by
  rw [first?_cons]
  split
  · next hs => simp [hs]
  · next hs => simp [hs]

theorem first?_cons_eq_none {s : Spec} {rest : List Spec} {i : String} :
    first? (s :: rest) i = none ↔ s.identifier? ≠ some i ∧ first? rest i = none := by
  rw [first?_cons]
  split
  · next hs => simp [hs]
  · next hs => simp [hs]

/-- A spec takes nothing if what waits for its component has been taken. -/
theorem takes?_eq_none {ws : List Waiting} {taken : List String} {s : Spec}
    (h : takes? ws taken s = none) {x : Waiting} (hx : x ∈ ws)
    (hs : s.identifier? = some x.identifier) : x.identifier ∈ taken := by
  refine Decidable.byContradiction fun hnot => ?_
  unfold takes? at h
  rw [hs, Option.filter_eq_none_iff] at h
  have hnone := h x.identifier rfl
  simp only [hnot, List.contains_eq_mem, decide_false, Bool.not_false, Bool.true_and,
    Bool.not_eq_true', Bool.not_eq_false, List.isEmpty_iff] at hnone
  have hin : x ∈ waitingFor x.identifier ws := List.mem_filter.2 ⟨hx, by simp⟩
  rw [hnone] at hin
  cases hin

theorem notMem_taken_append {s : Spec} {i i' : String} {taken : List String}
    (hs : s.identifier? = some i) :
    i' ∉ taken ++ [i] ↔ i' ∉ taken ∧ s.identifier? ≠ some i' := by
  rw [hs]
  simp [eq_comm]

/-- **What waits for a component goes to its first spec**, unless it has been taken. -/
theorem getElem?_shares (ws : List Waiting) (taken : List String) (specs : List Spec) (j : Nat) :
    (shares ws taken specs)[j]? = specs[j]?.map fun _ => ws.filter fun x =>
      decide (x.identifier ∉ taken ∧ first? specs x.identifier = some j) := by
  induction specs generalizing taken j with
  | nil => rfl
  | cons s rest ih =>
    unfold shares
    cases ht : takes? ws taken s with
    | none =>
      have hgone : ∀ x ∈ ws, x.identifier ∉ taken → s.identifier? ≠ some x.identifier :=
        fun x hx hnot hs => hnot (takes?_eq_none ht hx hs)
      cases j with
      | zero =>
        refine congrArg some (List.filter_eq_nil_iff.2 fun x hx h => ?_).symm
        obtain ⟨hnot, hfirst⟩ := of_decide_eq_true h
        exact hgone x hx hnot (first?_cons_eq_zero.1 hfirst)
      | succ j =>
        refine (ih taken j).trans (congrArg (Option.map · rest[j]?) (funext fun _ => ?_))
        refine List.filter_congr fun x hx => decide_eq_decide.2 ?_
        rw [first?_cons_eq_succ]
        exact and_congr_right fun hnot => (and_iff_right (hgone x hx hnot)).symm
    | some i =>
      obtain ⟨hs, hi⟩ := takes?_eq_some ht
      cases j with
      | zero =>
        refine congrArg some (List.filter_congr fun x _ => ?_)
        rw [Bool.beq_eq_decide_eq, decide_eq_decide, first?_cons_eq_zero, hs, Option.some.injEq]
        constructor
        · rintro rfl
          exact ⟨hi, rfl⟩
        · rintro ⟨-, h⟩
          exact h.symm
      | succ j =>
        refine (ih (taken ++ [i]) j).trans (congrArg (Option.map · rest[j]?) (funext fun _ => ?_))
        refine List.filter_congr fun x _ => decide_eq_decide.2 ?_
        rw [first?_cons_eq_succ, notMem_taken_append hs, and_assoc]

/-- **It is taken** if there is such a spec. -/
theorem mem_hand_snd {ws : List Waiting} (taken : List String) (specs : List Spec) {x : Waiting}
    (hx : x ∈ ws) :
    x.identifier ∉ (hand ws taken specs).2 ↔
      x.identifier ∉ taken ∧ first? specs x.identifier = none := by
  induction specs generalizing taken with
  | nil => simp [hand, first?]
  | cons s rest ih =>
    unfold hand
    cases ht : takes? ws taken s with
    | none =>
      rw [first?_cons_eq_none]
      refine (ih taken).trans (and_congr_right fun hnot => (and_iff_right fun hs => ?_).symm)
      exact hnot (takes?_eq_none ht hx hs)
    | some i =>
      refine (ih (taken ++ [i])).trans ?_
      rw [first?_cons_eq_none, notMem_taken_append (takes?_eq_some ht).1, and_assoc]

/-- The identifiers that are taken, of those that something waits for. -/
theorem mem_known_taken {ws : List Waiting} {specs : List Spec} {i : String} :
    i ∈ (identifiers ws).filter (hand ws [] specs).2.contains ↔
      (∃ x ∈ ws, x.identifier = i) ∧ ∃ j, first? specs i = some j := by
  rw [List.mem_filter, (identifiers_spec ws).2]
  refine and_congr_right ?_
  rintro ⟨x, hx, rfl⟩
  have hnone := mem_hand_snd [] specs hx
  rw [and_iff_right List.not_mem_nil] at hnone
  rw [List.contains_eq_mem, decide_eq_true_iff, ← Option.ne_none_iff_exists']
  exact not_iff_not.1 (hnone.trans not_not.symm)

/-- **What nobody takes** is what waits for components without a spec. -/
theorem perm_late (ws : List Waiting) (specs : List Spec) :
    (((identifiers ws).filter fun i => !(hand ws [] specs).2.contains i).flatMap
      (waitingFor · ws)).Perm
        (ws.filter fun x => decide (first? specs x.identifier = none)) := by
  have horphaned : ∀ x ∈ ws,
      x.identifier ∉ (hand ws [] specs).2 ↔ first? specs x.identifier = none := fun x hx =>
    (mem_hand_snd [] specs hx).trans (and_iff_right List.not_mem_nil)
  have hsame : ((identifiers ws).filter fun i => !(hand ws [] specs).2.contains i).flatMap
      (waitingFor · ws) = ((identifiers ws).filter fun i =>
        !(hand ws [] specs).2.contains i).flatMap
          (waitingFor · (ws.filter fun x => decide (first? specs x.identifier = none))) := by
    refine List.flatMap_congr fun i hi => ?_
    unfold waitingFor
    rw [List.filter_filter]
    refine List.filter_congr fun x hx => ?_
    by_cases hxi : x.identifier = i
    · subst hxi
      have hnone := (horphaned x hx).1 (by simpa using (List.mem_filter.1 hi).2)
      simp [hnone]
    · simp [hxi]
  rw [hsame]
  refine perm_waitingFor ((identifiers_spec ws).1.filter _) fun x hx => ?_
  obtain ⟨hx, hnone⟩ := List.mem_filter.1 hx
  refine List.mem_filter.2 ⟨((identifiers_spec ws).2 _).2 ⟨x, hx, rfl⟩, ?_⟩
  simpa using (horphaned x hx).2 (of_decide_eq_true hnone)

theorem first?_spec {specs : List Spec} {i : String} {j : Nat} (h : first? specs i = some j) :
    ∃ s, specs[j]? = some s ∧ s.identifier? = some i := by
  obtain ⟨hj, hs, -⟩ := List.findIdx?_eq_some_iff_getElem.1 h
  exact ⟨specs[j], List.getElem?_eq_getElem hj, eq_of_beq hs⟩

/-- The actions that wait for a component are those that its first spec is given. -/
theorem actionsFor_eq {ws : List Waiting} {specs : List Spec} {i : String} {j : Nat}
    (hj : first? specs i = some j) :
    actionsFor i ws =
      (ws.filter fun x => decide (first? specs x.identifier = some j)).map Waiting.action := by
  refine congrArg (List.map Waiting.action) (List.filter_congr fun x _ => ?_)
  rw [Bool.beq_eq_decide_eq, decide_eq_decide]
  constructor
  · rintro rfl
    exact hj
  · intro hx
    obtain ⟨s, hs, hi⟩ := first?_spec hj
    obtain ⟨s', hs', hi'⟩ := first?_spec hx
    rw [hs] at hs'
    cases hs'
    rw [hi] at hi'
    exact (Option.some.inj hi').symm

/-! ## The plan -/

/-- What a plan is made of. -/
theorem ends_plan (host : Script.Host) {keys : Pattern.Node} {m : Association.Map}
    {mach : Machine} {entries : List Entry}
    (hready : ∀ e ∈ entries, ∀ i, component? keys m e = some i → e.body.Ready mach.heap)
    (specs : List Spec) {ws : List Waiting}
    (hws : ws = entries.filterMap (waiting? host keys m mach.heap)) :
    Ends mach True mach
      (fun pl =>
        pl.immediate = byIndex ((entries.filter fun e => (component? keys m e).isNone) ++
          (((identifiers ws).filter fun i =>
            !(hand ws [] specs).2.contains i).flatMap (waitingFor · ws)).map Waiting.entry) ∧
        pl.deferred = ((identifiers ws).filter (hand ws [] specs).2.contains).map
          (fun i => (i, actionsFor i ws)) ∧
        pl.specs = (hand ws [] specs).1)
      (plan host keys specs entries m) := by
  unfold plan
  refine (ends_sortOut hready).map ?_
  rintro _ rfl
  rw [← hws]
  refine .noted (moves_noteEach quiet_sameMachine _ _)
    (.noted (moves_noteEach quiet_sameMachine _ _) (.pure ⟨?_, rfl, rfl⟩))
  rw [List.map_flatMap]

/-- What satisfies one condition and what satisfies another, if nothing satisfies both. -/
theorem perm_filter_or {α : Type} {p q : α → Bool} {l : List α}
    (h : ∀ a ∈ l, p a = true → q a = false) :
    (l.filter p ++ l.filter q).Perm (l.filter fun a => p a || q a) := by
  have hp : (l.filter fun a => p a || q a).filter p = l.filter p := by
    rw [List.filter_filter]
    refine List.filter_congr fun a _ => ?_
    cases p a <;> simp
  have hq : ((l.filter fun a => p a || q a).filter fun a => !p a) = l.filter q := by
    rw [List.filter_filter]
    refine List.filter_congr fun a ha => ?_
    cases hp : p a with
    | true => simp [h a ha hp]
    | false => simp
  rw [← hp, ← hq]
  exact List.filter_append_perm p _

/-- **What runs at once** is what waits for nothing and what nobody takes. -/
theorem perm_immediate {host : Script.Host} {keys : Pattern.Node} {m : Association.Map} {h : Heap}
    (specs : List Spec) {entries : List Entry} (hready : ∀ e ∈ entries, e.body.Ready h)
    {ws : List Waiting} (hws : ws = entries.filterMap (waiting? host keys m h)) :
    ((entries.filter fun e => (component? keys m e).isNone) ++
      (((identifiers ws).filter fun i =>
        !(hand ws [] specs).2.contains i).flatMap (waitingFor · ws)).map Waiting.entry).Perm
      (entries.filter fun e => place (Entry.lacksAction h) keys m specs e = .immediate) := by
  have hlate := (perm_late ws specs).map Waiting.entry
  rw [hws, map_entry_waiting _ _ fun i => decide (first? specs i = none), ← hws] at hlate
  refine (hlate.append_left _).trans ?_
  rw [List.filter_congr fun e he => place_eq_immediate specs (hready e he)]
  refine perm_filter_or fun e _ hnone => ?_
  simp [waiting?, Option.isNone_iff_eq_none.1 hnone]

/-- **Every entry is in its place.** If entries are told apart by their numbers and tables
have a setup, a plan is made. An entry that waits for a component is dropped exactly if it
lacks an action; otherwise it waits with the first spec of the component, and if there
is none it runs at once, like those that wait for nothing. -/
theorem plan_partitions (host : Script.Host) (keys : Pattern.Node) (m : Association.Map)
    (specs : List Spec) {entries : List Entry}
    (hdiffer : entries.Pairwise fun a b => a.index ≠ b.index) {w : World}
    (hready : ∀ e ∈ entries, e.body.Ready w.machine.heap) :
    ∃ pl w', plan host keys specs entries m w = (.ok pl, w') ∧
      pl.Partitions (place (Entry.lacksAction w.machine.heap) keys m specs)
        (Entry.action? host w.machine.heap) specs entries := by
  obtain ⟨ws, hws⟩ : ∃ ws, ws = entries.filterMap (waiting? host keys m w.machine.heap) := ⟨_, rfl⟩
  obtain ⟨-, pl, w', hpl, -, himmediate, hdeferred, hspecs⟩ | ⟨hq, -⟩ :=
    ends_plan host (fun e he _ _ => hready e he) specs hws w rfl
  swap
  · exact absurd trivial hq
  have hperm := perm_immediate specs hready hws
  have hgiven : ∀ j s, specs[j]? = some s → pl.specs[j]? =
      some (given s (ws.filter fun x => decide (first? specs x.identifier = some j))) := by
    intro j s hs
    rw [hspecs, hand_fst, List.getElem?_zipWith, getElem?_shares, hs]
    simp
  refine ⟨pl, w', hpl, ?inOrder, himmediate ▸ (perm_byIndex _).trans hperm,
    hspecs ▸ hand_length ws [] specs, fun j s hs => ⟨_, ?given, hgiven j s hs, ?told⟩, ?nodup,
    ?deferred⟩
  case inOrder =>
    rw [himmediate]
    exact inOrder_byIndex ((hperm.pairwise_iff fun hab => hab.symm).2 (hdiffer.filter _))
  case given =>
    rw [hws, map_action_waiting _ _ fun i => decide (first? specs i = some j)]
    rw [List.filter_congr fun e he => place_eq_spec specs (hready e he) j]
  case told =>
    intro hne
    obtain ⟨a, ha⟩ := List.exists_mem_of_ne_nil _ hne
    obtain ⟨x, hx, -⟩ := List.mem_map.1 ha
    obtain ⟨hx, hj⟩ := List.mem_filter.1 hx
    replace hj := of_decide_eq_true hj
    refine ⟨x.identifier, ?_⟩
    rw [← actionsFor_eq hj, hdeferred]
    exact List.mem_map.2 ⟨_, mem_known_taken.2 ⟨⟨x, hx, rfl⟩, j, hj⟩, rfl⟩
  case nodup =>
    rw [hdeferred, List.map_map]
    exact ((identifiers_spec ws).1.filter _).map fun _ _ h => h
  case deferred =>
    intro i as hin
    rw [hdeferred] at hin
    obtain ⟨i, hi, h⟩ := List.mem_map.1 hin
    cases h
    obtain ⟨-, j, hj⟩ := mem_known_taken.1 hi
    obtain ⟨s, hs, hi⟩ := first?_spec hj
    exact ⟨j, s, hj, hs, hi, actionsFor_eq hj ▸ hgiven j s hs⟩

/-- A world with a table whose setup prints. -/
def sampleTables : World where
  machine := ⟨⟨#[.record [("setup", .builtin .print)]]⟩, ""⟩
  disk := ⟨[], ⟨1, []⟩, ⟨1, []⟩⟩
  threshold := .info
  records := []
  logFile := none

/-- A function, the table and a value that sets nothing up, not in order. -/
def sampleEntries : List Entry :=
  [⟨2, .callable (.builtin .print), none⟩, ⟨1, .table (.ref 0), none⟩, ⟨3, .inert (.int 5), none⟩]

def sampleSpec : Spec := { Spec.empty with source := some "a/a" }

/-- What runs at once and how much each spec is given, by numbers. -/
def Plan.summary (pl : Plan) : List Int × List Nat × List (String × Nat) :=
  (pl.immediate.map Entry.index, pl.specs.map fun s => s.deferred.length,
    pl.deferred.map fun d => (d.1, d.2.length))

/-- Only the first of two specs is given the function, and nobody takes the table. -/
theorem plan_partitions_sampleEntries :
    ∃ pl w', plan [] .empty [sampleSpec, sampleSpec] sampleEntries
        [(1, "b/b"), (2, "a/a"), (3, "a/a")] sampleTables = (.ok pl, w') ∧
      pl.Partitions (place (Entry.lacksAction sampleTables.machine.heap) .empty
        [(1, "b/b"), (2, "a/a"), (3, "a/a")] [sampleSpec, sampleSpec])
        (Entry.action? [] sampleTables.machine.heap) [sampleSpec, sampleSpec] sampleEntries ∧
      pl.summary = ([1], [1, 0], [("a/a", 1)]) := by
  have hdiffer : sampleEntries.Pairwise fun a b => a.index ≠ b.index := by decide
  have hready : ∀ e ∈ sampleEntries, e.body.Ready sampleTables.machine.heap := by
    unfold sampleEntries
    simp only [List.forall_mem_cons]
    exact ⟨trivial, rfl, trivial, nofun⟩
  obtain ⟨pl, w', hpl, hparts⟩ := plan_partitions [] .empty
    [(1, "b/b"), (2, "a/a"), (3, "a/a")] [sampleSpec, sampleSpec]
    hdiffer hready
  have hsummary : (plan [] .empty [sampleSpec, sampleSpec] sampleEntries
      [(1, "b/b"), (2, "a/a"), (3, "a/a")] sampleTables).1.toOption.map Plan.summary =
        some ([1], [1, 0], [("a/a", 1)]) := by decide +kernel
  rw [hpl] at hsummary
  exact ⟨pl, w', hpl, hparts, Option.some.inj hsummary⟩

/-- A function that is nothing is dropped, although it is no value that sets nothing up and
no code. -/
theorem plan_drops_nothing :
    ∃ pl w', plan [] .empty [sampleSpec] [⟨1, .callable .nothing, none⟩] [(1, "a/a")]
        sampleTables = (.ok pl, w') ∧
      pl.summary = ([], [0], []) ∧
      ¬ pl.Partitions (place Entry.isUnusable .empty [(1, "a/a")] [sampleSpec])
        (Entry.action? [] sampleTables.machine.heap) [sampleSpec]
        [⟨1, .callable .nothing, none⟩] := by
  refine ⟨_, _, rfl, by decide +kernel, fun h => ?_⟩
  obtain ⟨as, has, -⟩ := h.given 0 sampleSpec rfl
  cases as <;> cases has

end Schedule

end LiterateConfig
