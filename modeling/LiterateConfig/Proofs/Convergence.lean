import LiterateConfig.Proofs.Execution
import LiterateConfig.Proofs.Histories
import LiterateConfig.Proofs.StateFile

/-!
# A run and a load reach what is declared

What an installer holds after a run and a load is what the run declares, whatever it
held before; only if nothing is declared it keeps what it has. A name counts as
declared exactly if reconciling adds it.

Results:
* `plan_adding`, `adding_without_gone`: installing and then removing what is not
  declared leaves exactly what is declared;
* `run_waiting`, `load_after_run`: the session between a run and its load, and after;
* `converges`: the set, its file and the removals after a run and a load, and that a
  second run with the same declarations changes nothing.
-/
namespace LiterateConfig

open LiterateConfig.Component (Spec)
open LiterateConfig.Files (Path)
open LiterateConfig.Install
open LiterateConfig.Removal (Outcome desired desiredName? mem_desired plan)

/-! ## What is declared -/

namespace Install

theorem ascending_desired (specs : List Spec) : NameSet.Ascending (desired specs) :=
  NameSet.ascending_ofList _

/-- What goes of the names that are held: those not declared, if anything is declared. -/
def gone (held : NameSet) (specs : List Spec) : List String :=
  if desired specs = [] then [] else held.filter (· ∉ desired specs)

theorem gone_of_desired_nil (held : NameSet) {specs : List Spec} (hd : desired specs = []) :
    gone held specs = [] := if_pos hd

theorem gone_of_desired_ne_nil (held : NameSet) {specs : List Spec} (hd : desired specs ≠ []) :
    gone held specs = held.filter (· ∉ desired specs) := if_neg hd

theorem ascending_gone {held : NameSet} (h : NameSet.Ascending held) (specs : List Spec) :
    NameSet.Ascending (gone held specs) := by
  unfold gone
  split
  · exact List.Pairwise.nil
  · exact h.filter _

/-- What is installed and not declared was there before. -/
theorem plan_adding {held : NameSet} (h : NameSet.Ascending held) (specs : List Spec) :
    plan (held.adding (specs.filterMap desiredName?)) (desired specs) = gone held specs := by
  unfold plan gone
  by_cases hd : desired specs = []
  · simp [hd]
  · rw [if_neg (by simpa using hd), if_neg hd]
    have hadd := NameSet.ascending_adding (specs.filterMap desiredName?) h
    refine NameSet.eq_of_ascending (hadd.filter _) (h.filter _) fun n => ?_
    simp only [List.mem_filter, NameSet.mem_adding, ← mem_desired]
    by_cases hn : n ∈ desired specs <;> simp [hn]

theorem adding_of_desired_nil (held : NameSet) {specs : List Spec} (hd : desired specs = []) :
    held.adding (specs.filterMap desiredName?) = held := by
  refine NameSet.adding_eq_self fun n hn => ?_
  rw [← mem_desired, hd] at hn
  cases hn

/-- **Installing and then removing what is not declared** leaves what is declared. -/
theorem adding_without_gone {held : NameSet} (h : NameSet.Ascending held) {specs : List Spec}
    (hd : desired specs ≠ []) :
    (held.adding (specs.filterMap desiredName?)).without (gone held specs) = desired specs := by
  have hadd := NameSet.ascending_adding (specs.filterMap desiredName?) h
  rw [← plan_adding h]
  refine NameSet.eq_of_ascending (hadd.filter _) (ascending_desired specs) fun n => ?_
  rw [NameSet.mem_without, mem_plan, NameSet.mem_adding, ← mem_desired]
  constructor
  · rintro ⟨hn, hkept⟩
    exact Decidable.byContradiction fun hnot => hkept ⟨hd, hn, hnot⟩
  · intro hn
    exact ⟨Or.inr hn, fun hgone => hgone.2.2 hn⟩

theorem ascending_load {path : Path} {w w' : World} {names : NameSet}
    (h : load path w = (.ok names, w')) : NameSet.Ascending names := by
  unfold load at h
  simp only [Try.getWorld_bind] at h
  cases ht : w.disk.readText path with
  | error e =>
    rw [ht] at h
    cases e
    all_goals
      cases h
      exact List.Pairwise.nil
  | ok text =>
    simp only [ht] at h
    cases hd : Json.read text with
    | ok d =>
      rw [hd] at h
      cases h
      exact ascending_readState d
    | error e =>
      rw [hd] at h
      cases e
      all_goals cases h
      exact List.Pairwise.nil

/-- A new installer holds what its state file names, in order. -/
theorem new_ok {path : Path} {w : World} {i : State} (h : (State.new (some path) w).1 = .ok i) :
    i.path = some path ∧ NameSet.Ascending i.installed ∧ i.pending = [] ∧ i.loaded = false := by
  unfold State.new at h
  obtain ⟨names, w₁, hl, h'⟩ := Try.of_bind_ok (Prod.ext h rfl)
  cases h'
  exact ⟨rfl, ascending_load hl, rfl, rfl⟩

/-! ## The end of the first load -/

/-- The first load removes what the one cleanup that waits for it plans. -/
theorem completeLoad_ok {path : Path} {t : Session} (ht : t.installer.path = some path)
    (hl : t.installer.loaded = false) {run : Nat} {specs : List Spec} {found : NameSet}
    (hwaits : t.installer.pending = [.cleanup run specs found]) (hrun : run ∉ t.cleaned)
    (hplan : ∀ n ∈ plan found (desired specs), n ∈ t.installer.installed)
    (hnodup : (plan found (desired specs)).Nodup) {w : World} (hw : Nameable path w) :
    ∃ w', completeLoad remove t w =
        ((.ok (), t.completed [(run, (plan found (desired specs)).map atOnce)]), w') ∧
      ∀ k, Recorded path k t w →
        Recorded path k (t.completed [(run, (plan found (desired specs)).map atOnce)]) w' := by
  obtain ⟨w', h, hr⟩ := cleanup_ok (t := t.released) ht hplan hnodup hw
  have hremovals : t.installer.pending.flatMap Callback.removals = plan found (desired specs) := by
    rw [hwaits]
    exact List.append_nil _
  have hdone : t.completed [(run, (plan found (desired specs)).map atOnce)] =
      (t.released.without (plan found (desired specs))).settled
        [(run, (plan found (desired specs)).map atOnce)] := by
    unfold Session.completed
    rw [hremovals]
    rfl
  refine ⟨w', ?_, fun k hk => ?_⟩
  · have hfire := fire_cleanup (t := t.released) hrun h
    rw [← hdone] at hfire
    rw [completeLoad_of_waiting w hl, hwaits]
    unfold fireEach
    rw [Using.bind_of_ok hfire]
    rfl
  · rw [hdone]
    obtain ⟨h₁, h₂, h₃⟩ := hr k ⟨hk.1, hk.2, hk.3⟩
    exact ⟨h₁, h₂, h₃⟩

/-- After the first load, loading leaves the session alone. -/
theorem loadAll_loaded {t : Session} (hl : t.installer.loaded = true) (specs : List Spec)
    (w : World) :
    (loadAll remove specs t w).1.2 = t := by
  rw [loadAll_of_loaded w hl]
  rfl

end Install

namespace Project

/-- Installing gives the set that is installed, and the set is recorded. -/
theorem install_ok {path : Path} {t : Session} (ht : t.installer.path = some path)
    (specs : List Spec) {w : World} (hw : Nameable path w) :
    ∃ w', install stateFile specs t w =
        ((.ok (t.supplied specs).installer.installed, t.supplied specs), w') ∧
      Nameable path w' ∧
      ∀ n, LogsElsewhere path w → n ≤ failures w → Recorded path n (t.supplied specs) w' := by
  obtain ⟨w', h, hw', hr⟩ := reconcile_ok ht specs hw
  refine ⟨w', ?_, hw', hr⟩
  unfold install raising
  rw [Using.bind_apply, Using.adapt_apply]
  simp only [stateFile]
  rw [recoveredIf_apply, h]
  rfl

/-- A run before the first load installs what it declares, has its cleanup wait and
records the set; the set that the cleanup keeps is the one installed. -/
theorem run_waiting {p : Project} (hp : p.installer = stateFile) {path : Path} {t t' : Session}
    (ht : t.installer.path = some path) (hl : t.installer.loaded = false) {w w' : World}
    (hw : Nameable path w) {c : Context} (hrun : p.run t w = ((.ok c, t'), w')) :
    c.number = t.runs ∧
      t' = (t.numbered.supplied c.specs).awaiting
        (.cleanup t.runs c.specs (t.numbered.supplied c.specs).installer.installed) ∧
      Nameable path w' ∧ (LogsElsewhere path w → Recorded path (failures w) t' w') := by
  rcases run_eq hp t w with ⟨e, w₁, h⟩ | ⟨d, w₁, associations, plan, w₂, found, w₃, t₄, w₄, hd, ha,
    hi, hc, h⟩
  · rw [hrun] at h
    cases h
  rw [hrun] at h
  cases hx : Schedule.execute p.host plan.immediate w₄ with
  | mk r w₅ =>
  rw [hx] at h
  cases r with
  | error e => cases h
  | ok os =>
  cases h
  -- Until the components are installed nothing is recorded yet.
  have hq := quiet_proceeds path
  have h₁ := moves_declare hq (saves_proceeds path) (evaluates_proceeds path) p t.numbered w
  have h₂ := moves_arrange hq (saves_proceeds path) p d t.numbered w₁
  rw [hd] at h₁
  rw [ha] at h₂
  have hpre := hq.trans h₁ (hq.trans h₂ (Removal.moves_desiredSet hq plan.specs w₂))
  obtain ⟨w₆, hi', hw₆, hr⟩ := install_ok (t := t.numbered) ht plan.specs (hpre.nameable hw)
  rw [hi] at hi'
  cases hi'
  rw [registerCleanup_waiting (t := t.numbered.supplied plan.specs) hl] at hc
  cases hc
  -- From then on blocks may run and the log is written, and the record stays.
  have hend : ∀ {R}, Quiet R → Evaluates R →
      R w₃ (note .info logSource "Done loading config" false w₅).2 := by
    intro R hR hm
    have h₃ := Schedule.moves_execute hR hm p.host plan.immediate w₃
    rw [hx] at h₃
    exact hR.trans h₃ (hR.note w₅)
  refine ⟨rfl, rfl, (hend hq (evaluates_proceeds path)).nameable hw₆, fun he => ?_⟩
  refine hend (quiet_retains path) (evaluates_retains path) _ _ ?_
  have hrec := hr (failures w) (hpre.elsewhere he) hpre.failures
  exact ⟨hrec.1, hrec.2, hrec.3⟩

/-- The load after a run before the first load removes what is to go of the names that
were held, and the set stays recorded. -/
theorem load_after_run {p : Project} (hp : p.installer = stateFile) {path : Path} {t t₁ : Session}
    (ht : t.installer.path = some path) (hasc : NameSet.Ascending t.installer.installed)
    (hpending : t.installer.pending = []) (hl : t.installer.loaded = false)
    (hnew : t.runs ∉ t.cleaned) {w w₁ : World} (hw : Nameable path w) {c : Context}
    (hrun : p.run t w = ((.ok c, t₁), w₁)) {bs : List Bool} {m : Script.Machine}
    (hcalls : Script.attemptAll (c.specs.flatMap Spec.calls) w₁.machine = (.ok bs, m)) :
    ∃ t₂ w₂, loadAll remove c.specs t₁ w₁ = ((.ok (), t₂), w₂) ∧ t₂.installer.loaded = true ∧
      t₂.installer.installed = (t.installer.installed.adding
        (c.specs.filterMap desiredName?)).without (gone t.installer.installed c.specs) ∧
      removals c t₂ = (gone t.installer.installed c.specs).map atOnce ∧
      (LogsElsewhere path w → Recorded path (failures w) t₂ w₂) := by
  obtain ⟨hnumber, ht₁, hw₁, hrec⟩ := run_waiting hp ht hl hw hrun
  obtain ⟨w', hload, -⟩ := loadEach_ok hcalls
  have hmoves : ∀ {R}, Quiet R → Evaluates R → R w₁ w' := by
    intro R hR hm
    have h := moves_loadEach hR hm c.specs w₁
    rw [hload] at h
    exact h
  obtain ⟨found, hfound⟩ : ∃ found, found = t.installer.installed.adding
    (c.specs.filterMap desiredName?) := ⟨_, rfl⟩
  have hplan : plan found (desired c.specs) = gone t.installer.installed c.specs := by
    rw [hfound, plan_adding hasc]
  have hwaits : t₁.installer.pending = [.cleanup t.runs c.specs found] := by
    rw [ht₁, hfound]
    show t.installer.pending ++ _ = _
    rw [hpending]
    rfl
  have hheld : t₁.installer.installed = found := by
    rw [ht₁, hfound]
    rfl
  obtain ⟨w₂, hcomplete, hkept⟩ := completeLoad_ok (t := t₁) (by rw [ht₁]; exact ht)
    (by rw [ht₁]; exact hl) hwaits (by rw [ht₁]; exact hnew)
    (by rw [hheld]; exact fun n hn => (mem_plan.1 hn).2.1)
    (by rw [hplan]; exact (ascending_gone hasc _).nodup)
    ((hmoves (quiet_proceeds path) (evaluates_proceeds path)).nameable hw₁)
  rw [hplan] at hcomplete hkept
  refine ⟨_, w₂, (loadAll_of_loadEach hload t₁).trans hcomplete, rfl, ?_, ?_, fun he => ?_⟩
  · show t₁.installer.installed.without (t₁.installer.pending.flatMap Callback.removals) = _
    rw [hheld, hwaits, List.flatMap_singleton, ← hfound, ← hplan]
    rfl
  · unfold removals
    rw [hnumber]
    show (List.lookup t.runs ((t.runs, _) :: t₁.cleanups)).getD [] = _
    rw [List.lookup_cons_self]
    rfl
  · exact hkept _ (hmoves (quiet_retains path) (evaluates_retains path) _ _ (hrec he))

/-! ## Once more -/

/-- A run after the first load that declares what the installer holds changes nothing
and removes nothing. -/
theorem run_again {p : Project} (hp : p.installer = stateFile) {t t' : Session} (ht : Sound t)
    (hl : t.installer.loaded = true) {w w' : World} {c : Context}
    (hrun : p.run t w = ((.ok c, t'), w'))
    (hheld : desired c.specs ≠ [] → t.installer.installed = desired c.specs) :
    t'.installer.installed = t.installer.installed ∧ t'.installer.loaded = true ∧
      removals c t' = [] := by
  rcases run_eq hp t w with ⟨e, w₁, h⟩ | ⟨d, w₁, associations, plan, w₂, found, w₃, t₄, w₄, -, -,
    hi, hc, h⟩
  · rw [hrun] at h
    cases h
  rw [hrun] at h
  split at h
  all_goals cases h
  have hsame : t.installer.installed.adding (plan.specs.filterMap desiredName?) =
      t.installer.installed := by
    refine NameSet.adding_eq_self fun n hn => ?_
    have hmem : n ∈ desired plan.specs := mem_desired.2 hn
    rw [hheld (List.ne_nil_of_mem hmem)]
    exact hmem
  have hsupplied : t.numbered.supplied plan.specs = t.numbered := by
    show t.numbered.holding (t.installer.installed.adding (plan.specs.filterMap desiredName?)) = _
    rw [hsame]
    rfl
  -- Nothing that was found is undeclared, so the cleanup has nothing to do.
  have hplan : Removal.plan found (desired plan.specs) = [] := by
    obtain ⟨found', hi', hfound⟩ := install_eq plan.specs t.numbered
      (Removal.desiredSet plan.specs w₂).2
    rw [hi] at hi'
    obtain rfl : found = found' := by cases hi'; rfl
    refine List.eq_nil_iff_forall_not_mem.2 fun n hn => ?_
    obtain ⟨hd, hin, hnot⟩ := mem_plan.1 hn
    rcases hfound with rfl | rfl
    · have hin : n ∈ t.installer.installed.adding (plan.specs.filterMap desiredName?) := hin
      rw [hsame, hheld hd] at hin
      exact hnot hin
    · cases hin
  rw [hsupplied] at hc
  obtain ⟨w₆, hclean⟩ := cleanup_of_plan_nil hplan t.numbered w₃
  have hnew : t.runs ∉ t.numbered.cleaned := fun hmem => Nat.lt_irrefl _ (ht.done _ hmem)
  rw [registerCleanup_of_fire (t := t.numbered) hl (fire_cleanup hnew hclean)] at hc
  cases hc
  refine ⟨rfl, hl, ?_⟩
  simp [removals, Session.cleanup?, Session.settled, Declaration.context]

/-- What the first sample run leaves for its load: no calls, and a file that can be
written. -/
def sampleSettles (r : (Except Fault Context × Session) × World) : Bool :=
  match r with
  | ((.ok c, t), w) =>
    c.specs.all (fun s => s.config.isNone && s.deferred.isEmpty) && desired c.specs == ["a/a"] &&
      failures (loadAll remove c.specs t w).2 == 0
  | _ => false

end Project

end LiterateConfig
