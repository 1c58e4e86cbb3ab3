import LiterateConfig.Proofs.Building

/-!
# Entries that wait

Entries are sorted out one after the other. What becomes of one does not depend on the
others: it runs at once if it waits for no component, and otherwise it waits with its action
if it has one. So the entries that run at once are those that pass a test, and the ones that
wait are what is made of each entry (`waiting?`).

An action is found without running anything. A table must have a setup for that
(`EntryBody.Ready`), which those that documents declare have.

Results:
* `ends_sortOut`: what entries are sorted into;
* `map_entry_waiting`, `map_action_waiting`: the entries and the actions of what waits.
-/
namespace LiterateConfig

open LiterateConfig.Component (setupPart?)
open LiterateConfig.Script (Heap Machine Value)

/-- The action of an entry that waits for a component, if it has one. -/
def Entry.action? (host : Script.Host) (h : Heap) (e : Entry) : Option Action :=
  match e.body with
  | .source text => (Script.compile text).toOption.map fun code => .compiled ⟨code, none, host⟩
  | .callable v => Schedule.actionOf? v
  | .table v => (setupPart? h v).bind Schedule.actionOf?
  | .inert _ => none

/-- Code needs no setup. -/
theorem Entry.ready_of_isSome_text? {e : Entry} (ht : e.text?.isSome = true) (h : Heap) :
    e.body.Ready h := by
  unfold Entry.text? at ht
  split at ht
  · next hb =>
    rw [hb]
    trivial
  · cases ht

/-- The action of code is its call. -/
theorem Entry.map_run_action? {e : Entry} (ht : e.text?.isSome = true) (host : Script.Host)
    (h : Heap) : (e.action? host h).map (fun a => a.run []) = e.call? host := by
  unfold Entry.text? at ht
  unfold Entry.action? Entry.call?
  split at ht
  · next hb =>
    rw [hb, Option.map_map]
    rfl
  · cases ht

namespace Schedule

variable {host : Script.Host} {keys : Pattern.Node} {m : Association.Map}

/-! ## Sorting out -/

/-- The setup of a table is found. -/
theorem setupPart_ok {v f : Value} {m : Machine} (h : setupPart? m.heap v = some f) :
    setupPart v m = (.ok f, m) := by
  rw [setupPart_apply]
  unfold setupPart? at h
  split at h
  · next pairs ho =>
    cases v with
    | ref a =>
      rw [ho]
      unfold Script.getItem
      dsimp only
      rw [Script.heap_bind]
      simp only [show m.heap.get? a = some (.dict pairs) from ho]
      have hkey : Script.requireKey (.text "setup") m = (.ok (), m) := rfl
      refine (Try.bind_of_ok hkey _).trans ?_
      rw [show Script.pair? (.text "setup") pairs = some f from h]
      rfl
    | _ => cases ho
  · next parts ho =>
    cases v with
    | ref a =>
      rw [ho]
      unfold Script.getAttribute
      dsimp only
      rw [Script.heap_bind]
      simp only [show m.heap.get? a = some (.record parts) from ho, h]
      rfl
    | _ => cases ho
  · cases h

theorem ends_waitingAction {mach : Machine} {e : Entry} (hready : e.body.Ready mach.heap)
    (identifier : String) :
    Ends mach True mach (· = e.action? host mach.heap) (waitingAction host e identifier) := by
  unfold waitingAction Entry.action?
  cases hb : e.body with
  | source text =>
    dsimp only
    cases Script.compile text with
    | ok code => exact .pure rfl
    | error err => exact .noted quiet_sameMachine.noteFailure (.pure rfl)
  | callable v => exact .pure rfl
  | table v =>
    rw [hb] at hready
    obtain ⟨f, hf⟩ := Option.isSome_iff_exists.1 hready
    refine (Ends.of_runs (runs_onMachine _) (setupPart_ok hf)).map ?_
    rintro _ rfl
    exact .pure (by simp [hf])
  | inert v => exact .noted quiet_sameMachine.note (.pure rfl)

/-- An entry with its action and what it waits for, unless it runs at once or is dropped. -/
def waiting? (host : Script.Host) (keys : Pattern.Node) (m : Association.Map) (h : Heap)
    (e : Entry) : Option Waiting :=
  (component? keys m e).bind fun i => (e.action? host h).map fun a => ⟨i, e, a⟩

/-- **What entries are sorted into**: those that wait for nothing, and those that wait with
an action. -/
theorem ends_sortOut {mach : Machine} {entries : List Entry}
    (hready : ∀ e ∈ entries, ∀ i, component? keys m e = some i → e.body.Ready mach.heap) :
    Ends mach True mach
      (· = ⟨entries.filter fun e => (component? keys m e).isNone,
        entries.filterMap (waiting? host keys m mach.heap)⟩)
      (sortOut host keys m entries) := by
  induction entries with
  | nil => exact .pure rfl
  | cons e rest ih =>
    obtain ⟨he, hrest⟩ := List.forall_mem_cons.1 hready
    unfold sortOut
    cases hc : component? keys m e with
    | none =>
      refine (ih hrest).map ?_
      rintro _ rfl
      exact .pure (by simp [waiting?, hc])
    | some identifier =>
      refine (ends_waitingAction (he identifier hc) identifier).map ?_
      rintro a ha
      cases a with
      | none =>
        refine (ih hrest).mono ?_
        rintro _ rfl
        simp [waiting?, hc, ← ha]
      | some action =>
        refine .noted quiet_sameMachine.note ((ih hrest).map ?_)
        rintro _ rfl
        exact .pure (by simp [waiting?, hc, ← ha])

/-! ## What waits -/

theorem waiting?_eq_some {h : Heap} {e : Entry} {x : Waiting}
    (hx : waiting? host keys m h e = some x) :
    x.entry = e ∧ component? keys m e = some x.identifier ∧ e.action? host h = some x.action := by
  obtain ⟨i, hi, hx⟩ := Option.bind_eq_some_iff.1 hx
  obtain ⟨a, ha, rfl⟩ := Option.map_eq_some_iff.1 hx
  exact ⟨rfl, hi, ha⟩

/-- Those that wait for some components, and their entries. -/
theorem map_entry_waiting (h : Heap) (entries : List Entry) (p : String → Bool) :
    ((entries.filterMap (waiting? host keys m h)).filter fun x => p x.identifier).map
        Waiting.entry =
      entries.filter fun e => (waiting? host keys m h e).any fun x => p x.identifier := by
  induction entries with
  | nil => rfl
  | cons e rest ih =>
    cases hx : waiting? host keys m h e with
    | none => simp [hx, ih]
    | some x =>
      have he := (waiting?_eq_some hx).1
      cases hp : p x.identifier <;> simp [hx, hp, he, ih]

/-- Their actions are those of their entries. -/
theorem map_action_waiting (h : Heap) (entries : List Entry) (p : String → Bool) :
    (((entries.filterMap (waiting? host keys m h)).filter fun x => p x.identifier).map
        Waiting.action).map some =
      (entries.filter fun e => (waiting? host keys m h e).any fun x => p x.identifier).map
        (Entry.action? host h) := by
  rw [← map_entry_waiting, List.map_map, List.map_map]
  refine List.map_congr_left fun x hx => ?_
  obtain ⟨e, -, hx⟩ := List.mem_filterMap.1 (List.mem_filter.1 hx).1
  obtain ⟨rfl, -, ha⟩ := waiting?_eq_some hx
  exact ha.symm

end Schedule

end LiterateConfig
