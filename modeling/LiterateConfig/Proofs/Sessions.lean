import LiterateConfig.Proofs.Execution

/-!
# What sessions go through

Runs and loads change the set of an installer by adding names and by taking names
away. What they do to a session depends neither on the world nor on whether files
can be written: a failure to write changes what is noted, not the set.

Results:
* `keptName?_eq`, `mem_desired`: what is installed and what is kept from removal are
  the same names;
* `addEach_eq`, `reconcile_session`: reconciling adds the declared names;
* `remove_session`, `cleanup_eq`: a cleanup always ends well and takes away what its
  plan names, whatever becomes of the single removals;
* `fireEach_eq`: callbacks that wait take away what all of them plan;
* `mem_plan`: what a cleanup plans to take away.
-/
namespace LiterateConfig

open LiterateConfig.Component (Spec)
open LiterateConfig.Removal (Outcome desired desiredName? plan)
open LiterateConfig.Script (Raised)

/-! ## What is declared -/

namespace Removal

/-- No component is called by an empty name. -/
theorem ne_empty_of_desiredKey {s : Spec} {k : String} (h : s.desiredKey = some k) :
    k.isEmpty = false := by
  have hgiven : ∀ {o : Option String} {t : String}, Spec.given o = some t → t.isEmpty = false := by
    intro o t ht
    simpa using (Option.filter_eq_some_iff.1 ht).2
  unfold Spec.desiredKey at h
  split at h
  · next ht =>
    cases h
    exact hgiven ht
  · cases h
    simp
  · cases h
    simp
  · cases h

/-- Reconciling and removing agree on the name of every spec. -/
theorem keptName?_eq (s : Spec) : keptName? s = desiredName? s := by
  unfold keptName? desiredName?
  split
  · rfl
  · cases h : s.desiredKey with
    | none => rfl
    | some k => simp [Spec.given, ne_empty_of_desiredKey h]

theorem mem_desired {n : String} {specs : List Spec} :
    n ∈ desired specs ↔ n ∈ specs.filterMap desiredName? := by
  unfold desired
  rw [Install.NameSet.mem_ofList, show keptName? = desiredName? from funext keptName?_eq]

/-! ## One removal -/

section

variable {σ : Type} {remove : Remover σ} {n : String} {s s' : σ} {w w' : World}

theorem removeOne_of_ok (h : remove n s w = ((.ok (), s'), w')) (attempt : Nat) :
    removeOne remove n attempt s w = ((.ok ⟨n, true, none, attempt⟩, s'),
      (note .info logSource s!"Removed unused component: {n}" false w').2) := by
  have hr : recovered (remove n) s w = ((.ok (.ok ()), s'), w') := by
    rw [recovered, recoveredIf_apply, h]
  unfold removeOne
  rw [Using.bind_of_ok hr]
  rfl

/-- A removal that fails has an outcome if the error has a text. -/
theorem removeOne_of_error {e : Raised} (h : remove n s w = ((.error e, s'), w'))
    (he : e.recoverable = true) (attempt : Nat) :
    removeOne remove n attempt s w =
      (((e.text w'.machine).1.map fun text => ⟨n, false, some text, attempt⟩, s'),
        (noteRaised logSource s!"Failed to remove unused component {n}" e none w').2) := by
  have hr : recovered (remove n) s w = ((.ok (.error e), s'), w') := by
    rw [recovered, recoveredIf_apply, h]
    simp only [he, if_true]
  have hnote : (noteRaised logSource s!"Failed to remove unused component {n}" e none w').2.machine =
      w'.machine := quiet_sameMachine.noteRaised w'
  unfold removeOne
  rw [Using.bind_of_ok hr]
  dsimp only
  rw [Using.act_bind, Using.bind_apply, Using.lift_apply, e.reads_text.onMachine_apply, hnote]
  cases (e.text w'.machine).1 <;> rfl

end

end Removal

namespace Install

/-! ## Adding names and taking names away -/

namespace NameSet

/-- The set with names added that it lacks. -/
def adding (names : List String) (s : NameSet) : NameSet :=
  names.foldl (fun s n => if n ∈ s then s else insert n s) s

/-- The set without names. -/
def without (names : List String) (s : NameSet) : NameSet := s.filter fun n => n ∉ names

theorem adding_cons (n : String) (names : List String) (s : NameSet) :
    adding (n :: names) s = adding names (if n ∈ s then s else insert n s) := rfl

theorem mem_adding {other : String} {names : List String} {s : NameSet} :
    other ∈ adding names s ↔ other ∈ s ∨ other ∈ names := by
  induction names generalizing s with
  | nil => simp [adding]
  | cons n rest ih =>
    rw [adding_cons, ih, List.mem_cons]
    split
    · next hn =>
      constructor
      · rintro (h | h) <;> simp [h]
      · rintro (h | rfl | h) <;> simp [*]
    · rw [mem_insert]
      constructor
      · rintro ((h | h) | h) <;> simp [h]
      · rintro (h | h | h) <;> simp [h]

theorem mem_without {other : String} {names : List String} {s : NameSet} :
    other ∈ without names s ↔ other ∈ s ∧ other ∉ names := by
  simp [without]

theorem without_nil (s : NameSet) : without [] s = s := by
  simp [without]

theorem without_without (names names' : List String) (s : NameSet) :
    without names' (without names s) = without (names ++ names') s := by
  simp only [without, List.filter_filter]
  refine List.filter_congr fun m _ => ?_
  simp [Bool.and_comm]

theorem without_of_not_mem {n : String} {s : NameSet} (h : n ∉ s) : without [n] s = s := by
  refine List.filter_eq_self.2 fun m hm => ?_
  have : m ≠ n := fun e => h (e ▸ hm)
  simpa using this

theorem erase_eq_without (n : String) (s : NameSet) : erase n s = without [n] s := by
  refine List.filter_congr fun m _ => ?_
  by_cases h : m = n <;> simp [h]

end NameSet

namespace Session

/-- The session with another set in its installer. -/
def holding (names : NameSet) (t : Session) : Session :=
  t.withInstaller fun i => { i with installed := names }

@[simp] theorem installed_holding (names : NameSet) (t : Session) :
    (t.holding names).installer.installed = names := rfl

@[simp] theorem holding_holding (names names' : NameSet) (t : Session) :
    (t.holding names).holding names' = t.holding names' := rfl

@[simp] theorem holding_self (t : Session) : t.holding t.installer.installed = t := rfl

/-- A session with a new installer. -/
def fresh (i : State) : Session := ⟨i, 0, [], []⟩

/-- The session in which a new run has got its number. -/
def numbered (t : Session) : Session := { t with runs := t.runs + 1 }

/-- The session in which components are installed. -/
def supplied (specs : List Spec) (t : Session) : Session :=
  t.holding (t.installer.installed.adding (specs.filterMap desiredName?))

/-- The session in which names are taken away. -/
def without (names : List String) (t : Session) : Session :=
  t.holding (t.installer.installed.without names)

theorem without_nil (t : Session) : t.without [] = t := by
  simp [without, NameSet.without_nil]

theorem without_without (names names' : List String) (t : Session) :
    (t.without names).without names' = t.without (names ++ names') := by
  simp [without, NameSet.without_without]

theorem without_of_not_mem {n : String} {t : Session} (h : n ∉ t.installer.installed) :
    t.without [n] = t := by
  simp [without, NameSet.without_of_not_mem h]

/-- The session with one more callback that waits. -/
def awaiting (c : Callback) (t : Session) : Session :=
  t.withInstaller fun i => { i with pending := i.pending ++ [c] }

/-- The session in which cleanups are done. -/
def settled (done : List (Nat × List Outcome)) (t : Session) : Session :=
  { t with cleanups := done ++ t.cleanups }

/-- The runs whose cleanup is done, latest first. -/
def cleaned (t : Session) : List Nat := t.cleanups.map Prod.fst

end Session

/-! ## Installing -/

theorem addEach_eq (specs : List Spec) (t : Session) (w : World) :
    (addEach specs t w).1 = (.ok (), t.supplied specs) := by
  induction specs generalizing t w with
  | nil => rfl
  | cons s rest ih =>
    unfold addEach
    cases hn : desiredName? s with
    | none =>
      have hs : t.supplied (s :: rest) = t.supplied rest := by simp [Session.supplied, hn]
      rw [hs]
      exact ih t w
    | some key =>
      have hs : t.supplied (s :: rest) = (t.holding (if key ∈ t.installer.installed then
          t.installer.installed else t.installer.installed.insert key)).supplied rest := by
        simp [Session.supplied, hn, NameSet.adding_cons]
      simp only [hs, Using.getState_bind]
      by_cases hk : key ∈ t.installer.installed
      · simpa [hk] using ih t w
      · have hc : t.installer.installed.contains key = false := by simpa using hk
        simp only [hk, hc, if_false, Bool.not_false, if_true, Using.act_bind, Using.modifyState_bind]
        exact ih (t.holding (t.installer.installed.insert key)) _

theorem keeps_persist : Keeps persist := by
  intro t w
  unfold persist
  simp only [Using.getState_bind]
  cases t.installer.path with
  | none => rfl
  | some p => exact (keeps_lift _).bind (fun _ _ _ => rfl) t w

/-- No file can have the path of the state file. -/
def nullByte : Raised := ⟨.valueError, [.text "embedded null byte"]⟩

theorem persist_error {t : Session} {w : World} {e : Raised} (h : (persist t w).1.1 = .error e) :
    e = nullByte := by
  unfold persist at h
  simp only [Using.getState_bind] at h
  cases hp : t.installer.path with
  | none => rw [hp] at h; cases h
  | some p =>
    simp only [hp, Using.bind_apply, Using.lift_apply, Try.adapt_apply] at h
    cases hs : (saveJson logSource "install state" none p (stateData t.installer.installed) w).1 with
    | ok b => rw [hs] at h; cases h
    | error e' => rw [hs] at h; cases h; rfl

/-- Reconciling adds the declared names, whether or not the file can be written. -/
theorem reconcile_session (specs : List Spec) (t : Session) (w : World) :
    (reconcile specs t w).1.2 = t.supplied specs := by
  unfold reconcile
  have h := addEach_eq specs t w
  rcases ha : addEach specs t w with ⟨r, w₁⟩
  rw [ha] at h
  obtain rfl : r = _ := h
  rw [Using.bind_of_ok ha]
  exact keeps_persist.bind (fun _ _ _ => rfl) _ _

/-- The names that reconciling gives are those of the set; it fails only for a
path that no file can have. -/
theorem reconcile_result (specs : List Spec) (t : Session) (w : World) :
    (reconcile specs t w).1.1 =
        .ok (t.installer.installed.adding (specs.filterMap desiredName?)) ∨
      (reconcile specs t w).1.1 = .error nullByte := by
  unfold reconcile
  have h := addEach_eq specs t w
  rcases ha : addEach specs t w with ⟨r, w₁⟩
  rw [ha] at h
  obtain rfl : r = _ := h
  rw [Using.bind_of_ok ha, Using.bind_apply]
  have hk := keeps_persist (t.supplied specs) w₁
  rcases hp : persist (t.supplied specs) w₁ with ⟨⟨e | _, t'⟩, w₂⟩
  · right
    have he := persist_error (congrArg (fun r => r.1.1) hp)
    subst he
    rfl
  · left
    rw [hp] at hk
    obtain rfl : t' = _ := hk
    rfl

/-! ## Removing -/

/-- Whether it ends well or not, a removal takes away the name and nothing else. -/
theorem remove_session (n : String) (t : Session) (w : World) :
    (remove n t w).1.2 = t.without [n] := by
  unfold remove
  simp only [Using.getState_bind]
  by_cases hn : n ∈ t.installer.installed
  · simp only [List.contains_iff_mem, hn, if_true, Using.modifyState_bind]
    rw [keeps_persist, Session.without, ← NameSet.erase_eq_without]
    rfl
  · simp only [List.contains_iff_mem, hn, if_false, Session.without_of_not_mem hn]
    rfl

/-- A removal only fails in ways that are recovered from, with an error that has a text. -/
theorem remove_error {n : String} {t : Session} {w : World} {e : Raised}
    (h : (remove n t w).1.1 = .error e) :
    e.recoverable = true ∧ ∀ heap, ∃ text, e.shown heap = .ok text := by
  unfold remove at h
  simp only [Using.getState_bind] at h
  by_cases hn : n ∈ t.installer.installed
  · simp only [List.contains_iff_mem, hn, if_true, Using.modifyState_bind] at h
    rw [persist_error h]
    exact ⟨by decide, fun _ => ⟨_, rfl⟩⟩
  · simp only [List.contains_iff_mem, hn, if_false] at h
    cases h
    have hk : Script.ErrorKind.keyError.recoverable = true := by decide
    exact ⟨hk, fun _ => ⟨_, rfl⟩⟩

/-- One try to remove a name ends well and takes it away. -/
theorem removeOne_eq (n : String) (attempt : Nat) (t : Session) (w : World) :
    ∃ o : Outcome, (Removal.removeOne remove n attempt t w).1 = (.ok o, t.without [n]) ∧
      o.identifier = n := by
  have hs := remove_session n t w
  rcases hr : remove n t w with ⟨⟨e | _, t'⟩, w'⟩ <;> rw [hr] at hs <;> obtain rfl : t' = _ := hs
  · obtain ⟨he, htext⟩ := remove_error (congrArg (fun r => r.1.1) hr)
    obtain ⟨text, ht⟩ := htext w'.machine.heap
    refine ⟨⟨n, false, some text, attempt⟩, ?_, rfl⟩
    rw [Removal.removeOne_of_error hr he attempt, Script.Raised.text_of_shown ht]
    rfl
  · exact ⟨⟨n, true, none, attempt⟩, by rw [Removal.removeOne_of_ok hr attempt], rfl⟩

theorem firstPass_eq (ns : List String) (t : Session) (w : World) :
    ∃ os : List Outcome, (Removal.firstPass remove ns t w).1 = (.ok os, t.without ns) ∧
      os.map Outcome.identifier = ns := by
  induction ns generalizing t w with
  | nil => exact ⟨[], by rw [Session.without_nil]; rfl, rfl⟩
  | cons n rest ih =>
    obtain ⟨o, ho, hn⟩ := removeOne_eq n 1 t w
    obtain ⟨os, hos, hns⟩ := ih (t.without [n]) (Removal.removeOne remove n 1 t w).2
    refine ⟨o :: os, ?_, by rw [List.map_cons, hn, hns]⟩
    unfold Removal.firstPass
    rw [Using.bind_of_ok (Prod.ext ho rfl), Using.bind_of_ok (Prod.ext hos rfl),
      Session.without_without]
    rfl

/-- What has been taken away already is not changed by a second try. -/
theorem secondPass_eq (os : List Outcome) (t : Session) (w : World)
    (h : ∀ o ∈ os, o.identifier ∉ t.installer.installed) :
    ∃ os' : List Outcome, (Removal.secondPass remove os t w).1 = (.ok os', t) := by
  induction os generalizing w with
  | nil => exact ⟨[], rfl⟩
  | cons o rest ih =>
    have hrest : ∀ o' ∈ rest, o'.identifier ∉ t.installer.installed :=
      fun o' ho' => h o' (List.mem_cons_of_mem _ ho')
    unfold Removal.secondPass
    by_cases hd : o.removed = true
    · obtain ⟨os', hos'⟩ := ih w hrest
      rw [if_pos hd, Using.bind_of_ok (Prod.ext hos' rfl)]
      exact ⟨_, rfl⟩
    · rw [if_neg hd, Using.act_bind]
      obtain ⟨o', ho', -⟩ := removeOne_eq o.identifier 2 t
        (note .info Removal.logSource s!"Retrying removal of component: {o.identifier}" false w).2
      rw [Session.without_of_not_mem (h o List.mem_cons_self)] at ho'
      rw [Using.bind_of_ok (Prod.ext ho' rfl)]
      obtain ⟨os', hos'⟩ := ih _ hrest
      rw [Using.bind_of_ok (Prod.ext hos' rfl)]
      exact ⟨_, rfl⟩

theorem desiredSet_fst (specs : List Spec) (w : World) :
    (Removal.desiredSet specs w).1 = desired specs := rfl

theorem planRemovals_fst (installed declared : NameSet) (w : World) :
    (Removal.planRemovals installed declared w).1 = plan installed declared := by
  unfold Removal.planRemovals
  split <;> rfl

theorem mem_plan {n : String} {installed declared : NameSet} :
    n ∈ plan installed declared ↔ declared ≠ [] ∧ n ∈ installed ∧ n ∉ declared := by
  unfold plan
  by_cases hd : declared = []
  · simp [hd]
  · simp [hd]

/-- **A cleanup always ends well** and takes away what it plans, whether each
removal can be written down or not. -/
theorem cleanup_eq (specs : List Spec) (installed : NameSet) (t : Session) (w : World) :
    ∃ os : List Outcome, (Removal.cleanup remove specs installed t w).1 =
      (.ok os, t.without (plan installed (desired specs))) := by
  unfold Removal.cleanup
  simp only [Using.act_bind, planRemovals_fst, desiredSet_fst]
  obtain ⟨os, hos, hns⟩ := firstPass_eq (plan installed (desired specs)) t _
  have hgone : ∀ o ∈ os, o.identifier ∉
      (t.without (plan installed (desired specs))).installer.installed := by
    intro o ho hin
    have hmem : o.identifier ∈ plan installed (desired specs) := hns ▸ List.mem_map_of_mem ho
    exact (NameSet.mem_without.1 hin).2 hmem
  obtain ⟨os', hos'⟩ := secondPass_eq os _ _ hgone
  refine ⟨os', ?_⟩
  rw [Using.bind_of_ok (Prod.ext hos rfl)]
  exact hos'

/-! ## Calling back -/

namespace Callback

/-- The run whose cleanup a callback is. -/
def run? : Callback → Option Nat
  | .cleanup run _ _ => some run
  | _ => none

/-- The names that a callback plans to take away. -/
def removals : Callback → List String
  | .cleanup _ specs installed => plan installed (desired specs)
  | _ => []

end Callback

/-- The session in which the first load is complete and nothing waits any more. -/
def Session.released (t : Session) : Session :=
  t.withInstaller fun i => { i with loaded := true, pending := [] }

/-- The session in which the first load has called back the cleanups that waited. -/
def Session.completed (done : List (Nat × List Outcome)) (t : Session) : Session :=
  ((t.without (t.installer.pending.flatMap Callback.removals)).settled done).withInstaller
    fun i => { i with loaded := true, pending := [] }

theorem Session.cleaned_completed (done : List (Nat × List Outcome)) (t : Session) :
    (t.completed done).cleaned = done.map Prod.fst ++ t.cleaned := List.map_append

theorem isSome_cleanup? {t : Session} {run : Nat} :
    (t.cleanup? run).isSome = true ↔ run ∈ t.cleaned := by
  rw [Session.cleanup?, List.lookup_isSome_iff, Session.cleaned, List.mem_map]
  constructor
  · rintro ⟨p, hp, h⟩
    exact ⟨p, hp, (eq_of_beq h).symm⟩
  · rintro ⟨p, hp, rfl⟩
    exact ⟨p, hp, beq_self_eq_true _⟩

/-- A run is cleaned up after once. -/
theorem fire_cleanup_of_cleaned {run : Nat} {t : Session} (hrun : run ∈ t.cleaned)
    (specs : List Spec) (installed : NameSet) (w : World) :
    fire remove (.cleanup run specs installed) t w = ((.ok (), t), w) := by
  unfold fire
  rw [Using.getState_bind, if_pos (isSome_cleanup?.2 hrun)]
  rfl

/-- The cleanup of a run that has not had one takes place. -/
theorem fire_cleanup {run : Nat} {t t' : Session} (hrun : run ∉ t.cleaned) {specs : List Spec}
    {installed : NameSet} {w w' : World} {os : List Outcome}
    (h : Removal.cleanup remove specs installed t w = ((.ok os, t'), w')) :
    fire remove (.cleanup run specs installed) t w = ((.ok (), t'.settled [(run, os)]), w') := by
  unfold fire
  have hnone : (t.cleanup? run).isSome = false := by
    simpa using fun h => hrun (isSome_cleanup?.1 h)
  simp only [Using.getState_bind, hnone, Bool.false_eq_true, if_false]
  rw [Using.bind_of_ok h]
  rfl

theorem fire_cleanup_eq {run : Nat} {t : Session} (hrun : run ∉ t.cleaned) (specs : List Spec)
    (installed : NameSet) (w : World) :
    ∃ os : List Outcome, (fire remove (.cleanup run specs installed) t w).1 =
      (.ok (), (t.without (plan installed (desired specs))).settled [(run, os)]) := by
  obtain ⟨os, hos⟩ := cleanup_eq specs installed t w
  exact ⟨os, by rw [fire_cleanup hrun (Prod.ext hos rfl)]⟩

/-- **Cleanups that wait all take place**, and together take away what any of them
plans. -/
theorem fireEach_eq (cs : List Callback) (t : Session) (w : World)
    (hcs : ∀ c ∈ cs, ∃ run, c.run? = some run ∧ run ∉ t.cleaned)
    (hnodup : (cs.filterMap Callback.run?).Nodup) :
    ∃ done : List (Nat × List Outcome), done.map Prod.fst = (cs.filterMap Callback.run?).reverse ∧
      (fireEach remove cs t w).1 =
        (.ok (), (t.without (cs.flatMap Callback.removals)).settled done) := by
  induction cs generalizing t w with
  | nil => exact ⟨[], rfl, by rw [List.flatMap_nil, Session.without_nil]; rfl⟩
  | cons c rest ih =>
    obtain ⟨run, hrun, hnew⟩ := hcs c List.mem_cons_self
    cases c with
    | cleanup n specs installed =>
      obtain rfl : n = run := by simpa [Callback.run?] using hrun
      obtain ⟨os, hos⟩ := fire_cleanup_eq hnew specs installed w
      rw [List.filterMap_cons_some hrun, List.nodup_cons] at hnodup
      obtain ⟨done, hdone, heq⟩ := ih
        ((t.without (plan installed (desired specs))).settled [(n, os)])
        (fire remove (.cleanup n specs installed) t w).2
        (by
          intro c hc
          obtain ⟨m, hm, hmt⟩ := hcs c (List.mem_cons_of_mem _ hc)
          have hne : m ≠ n := by
            rintro rfl
            exact hnodup.1 (List.mem_filterMap.2 ⟨c, hc, hm⟩)
          refine ⟨m, hm, ?_⟩
          have hmt' : m ∉ n :: t.cleaned := by simpa [hne] using hmt
          exact hmt')
        hnodup.2
      refine ⟨done ++ [(n, os)], by simp [hdone, Callback.run?], ?_⟩
      unfold fireEach
      rw [Using.bind_of_ok (Prod.ext hos rfl), heq]
      simp [Session.without, Session.holding, Session.withInstaller, Session.settled,
        Callback.removals, NameSet.without_without]
    | _ => simp [Callback.run?] at hrun

/-! ## Before and after the first load -/

section FirstLoad

variable {t : Session} (w : World)

theorem register_of_loaded (ht : t.installer.loaded = true) (c : Callback) :
    register remove c t w = fire remove c t w := by
  unfold register
  rw [Using.getState_bind, if_pos ht]

theorem register_of_waiting (ht : t.installer.loaded = false) (c : Callback) :
    register remove c t w = ((.ok (), t.awaiting c), w) := by
  unfold register
  rw [Using.getState_bind, if_neg (by rw [ht]; exact Bool.false_ne_true)]
  rfl

theorem completeLoad_of_loaded (ht : t.installer.loaded = true) :
    completeLoad remove t w = ((.ok (), t), w) := by
  unfold completeLoad
  rw [Using.getState_bind, if_pos ht]
  rfl

/-- The end of the first load calls back what waits for it. -/
theorem completeLoad_of_waiting (ht : t.installer.loaded = false) :
    completeLoad remove t w = fireEach remove t.installer.pending t.released w := by
  unfold completeLoad
  rw [Using.getState_bind, if_neg (by rw [ht]; exact Bool.false_ne_true)]
  rfl

/-- Loading components again only runs their setup. -/
theorem loadAll_of_loaded (ht : t.installer.loaded = true) (specs : List Spec) :
    loadAll remove specs t w = (liftM (loadEach specs) : Task Raised Unit) t w := by
  unfold loadAll
  rw [Using.bind_apply, Using.lift_apply]
  rcases loadEach specs w with ⟨e | _, w₁⟩
  · rfl
  · exact completeLoad_of_loaded w₁ ht

end FirstLoad

end Install

end LiterateConfig
