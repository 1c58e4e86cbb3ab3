import LiterateConfig.Proofs.Saving
import LiterateConfig.Proofs.Sessions

/-!
# State files follow their sets

An installer writes its state file whenever its set changes. While these writes
succeed and the log goes to another file, the file names the set that the installer
holds.

**Success.** An installer notes each write that fails as an error, so writes have
succeeded if there are no more `failures` in the log than before. `Recorded` is the
invariant: with no more failures than at first, the file names the set.

Results:
* `NameSet.eq_of_ascending`: a set is determined by its members;
* `readState_stateData`: the names of a set are read back from its state file;
* `persist_ok`: a set that is written down is recorded;
* `removeOne_ok`, `cleanup_ok`: a cleanup removes what it plans at the first attempt,
  in order, and what is left is recorded.
-/
namespace LiterateConfig.Install

open LiterateConfig.Component (Spec)
open LiterateConfig.Files (Path Disk)
open LiterateConfig.Removal (Outcome desired desiredName? plan)

/-! ## Sets in order -/

namespace NameSet

/-- The names stand by ascending code points, none twice. -/
def Ascending (s : NameSet) : Prop := s.Pairwise (· < ·)

theorem lt_of_not_lt {m n : String} (hne : m ≠ n) (h : ¬ m < n) : n < m := by
  refine Decidable.byContradiction fun h' => hne ?_
  exact String.le_antisymm (String.not_lt.1 h') (String.not_lt.1 h)

theorem ascending_insert (name : String) {s : NameSet} (h : Ascending s) :
    Ascending (insert name s) := by
  induction s with
  | nil => exact List.pairwise_singleton _ _
  | cons n rest ih =>
    obtain ⟨hn, hrest⟩ := List.pairwise_cons.1 h
    unfold insert
    by_cases he : name = n
    · rw [if_pos he]
      exact h
    rw [if_neg he]
    by_cases hlt : name < n
    · rw [if_pos hlt]
      refine List.pairwise_cons.2 ⟨fun m hm => ?_, h⟩
      rcases List.mem_cons.1 hm with rfl | hm
      · exact hlt
      · exact String.lt_trans hlt (hn m hm)
    · rw [if_neg hlt]
      refine List.pairwise_cons.2 ⟨fun m hm => ?_, ih hrest⟩
      rcases mem_insert.1 hm with rfl | hm
      · exact lt_of_not_lt he hlt
      · exact hn m hm

theorem ascending_ofList (names : List String) : Ascending (ofList names) := by
  suffices h : ∀ s : NameSet, Ascending s → Ascending (names.foldl (fun s n => insert n s) s) from
    h [] List.Pairwise.nil
  induction names with
  | nil => exact fun _ hs => hs
  | cons n rest ih => exact fun s hs => ih _ (ascending_insert n hs)

theorem ascending_adding (names : List String) {s : NameSet} (h : Ascending s) :
    Ascending (adding names s) := by
  induction names generalizing s with
  | nil => exact h
  | cons n rest ih =>
    rw [adding_cons]
    split
    · exact ih h
    · exact ih (ascending_insert n h)

theorem Ascending.filter {s : NameSet} (h : Ascending s) (p : String → Bool) :
    Ascending (s.filter p) := List.Pairwise.filter p h

theorem Ascending.nodup {s : NameSet} (h : Ascending s) : s.Nodup := by
  refine List.Pairwise.imp (fun {a b} hlt => ?_) h
  rintro rfl
  exact String.lt_irrefl _ hlt

/-- A set is determined by its members. -/
theorem eq_of_ascending {s s' : NameSet} (h : Ascending s) (h' : Ascending s')
    (hmem : ∀ n, n ∈ s ↔ n ∈ s') : s = s' := by
  have hperm := (List.perm_ext_iff_of_nodup h.nodup h'.nodup).2 hmem
  exact hperm.eq_of_pairwise (fun a b _ _ hab hba => absurd hba (String.lt_asymm hab)) h h'

theorem ofList_eq_self {s : NameSet} (h : Ascending s) : ofList s = s :=
  eq_of_ascending (ascending_ofList s) h fun _ => mem_ofList

theorem adding_eq_self {names : List String} {s : NameSet} (h : ∀ n ∈ names, n ∈ s) :
    adding names s = s := by
  induction names with
  | nil => rfl
  | cons n rest ih =>
    rw [adding_cons, if_pos (h n List.mem_cons_self)]
    exact ih fun m hm => h m (List.mem_cons_of_mem _ hm)

end NameSet

/-! ## State files -/

theorem faithful_stateData (names : NameSet) : Json.Faithful Json.depthLimit (stateData names) := by
  refine .record (fun m hm => ?_) (show ["version", "installed"].Nodup by decide)
  rcases List.mem_cons.1 hm with rfl | hm
  · exact .int (by decide)
  · rcases List.mem_cons.1 hm with rfl | hm
    · refine .list fun x hx => ?_
      obtain ⟨n, -, rfl⟩ := List.mem_map.1 hx
      exact .text n
    · cases hm

/-- The names of a set are read back from its state file. -/
theorem readState_stateData {names : NameSet} (h : NameSet.Ascending names) :
    readState (stateData names) = names := by
  have htexts : (names.map Json.Data.text).filterMap text? = names := by
    rw [List.filterMap_map]
    exact List.filterMap_some
  show NameSet.ofList ((names.map Json.Data.text).filterMap text?) = names
  rw [htexts, NameSet.ofList_eq_self h]

theorem ascending_readState (d : Json.Data) : NameSet.Ascending (readState d) := by
  unfold readState
  repeat' split
  all_goals first
    | exact NameSet.ascending_ofList _
    | exact List.Pairwise.nil

/-- A file with a set in it is loaded as that set. -/
theorem load_of_readText {path : Path} {w : World} {names : NameSet} (h : NameSet.Ascending names)
    (hw : w.disk.readText path = .ok (Json.print (stateData names))) :
    load path w = (.ok names, w) := by
  unfold load
  simp only [Try.getWorld_bind, hw, Json.read_print (faithful_stateData names)]
  rw [readState_stateData h]
  rfl

theorem not_mem_print_stateData (names : NameSet) :
    '\r' ∉ (Json.print (stateData names)).toList := by
  unfold Json.print
  rw [String.toList_ofList]
  intro h
  exact absurd (Json.isPlain_write (faithful_stateData names) 0 _ h)
    (show ¬ Json.IsPlain '\r' by decide)

/-! ## What else happens to the world -/

/-- The number of writes of state files that failed. -/
def failures (w : World) : Nat :=
  w.records.countP fun r => r.source == logSource && r.level == .error

/-- A file can have the path. -/
def Nameable (path : Path) (w : World) : Prop := w.disk.locate path ≠ .error .nullInName

/-- The log goes to no file, or to a file that is there, other than the one at a path. -/
def LogsElsewhere (path : Path) (w : World) : Prop :=
  ∀ q, w.logFile = some q →
    (∃ content, w.disk.node? q = some (.file content)) ∧ q ≠ (path.resolve w.disk.here).parts

/-- What stays so whatever else a run writes. -/
structure Proceeds (path : Path) (w w' : World) : Prop where
  nameable : Nameable path w → Nameable path w'
  elsewhere : LogsElsewhere path w → LogsElsewhere path w'
  failures : failures w ≤ failures w'

theorem proceeds_of_grows {path : Path} {w w' : World}
    (hg : LogsElsewhere path w → w.disk.Grows w'.disk)
    (hhere : w'.disk.here = w.disk.here) (hlog : w'.logFile = w.logFile)
    (hf : failures w ≤ failures w') : Proceeds path w w' := by
  refine ⟨fun hn => Disk.locate_ne_nullInName hn hhere rfl fun _ h => h, fun he q hq => ?_, hf⟩
  obtain ⟨⟨content, hfile⟩, hne⟩ := he q (hlog ▸ hq)
  refine ⟨(hg he).file q content hfile, ?_⟩
  rw [hhere]
  exact hne

theorem failures_write (w : World) (r : Log.Record) : failures w ≤ failures (w.write r) := by
  unfold failures World.write
  rw [List.countP_cons]
  omega

theorem failures_write_failure (w : World) (message : String) (traced : Bool) :
    failures (w.write ⟨.error, logSource, message, traced⟩) = failures w + 1 :=
  List.countP_cons_of_pos (by rfl)

theorem here_write (w : World) (r : Log.Record) : (w.write r).disk.here = w.disk.here := by
  unfold World.write
  dsimp only
  repeat' split
  all_goals rfl

/-- A record goes to the log file, which is there already. -/
theorem grows_write {path : Path} {w : World} (h : LogsElsewhere path w) (r : Log.Record) :
    w.disk.Grows (w.write r).disk := by
  unfold World.write
  cases hl : w.logFile with
  | none => exact .refl _
  | some q =>
    obtain ⟨⟨content, hfile⟩, -⟩ := h q hl
    simp only [hfile]
    exact Disk.grows_put_file (by simp [hfile]) _

/-- What is read at a path stays when a record is written elsewhere. -/
theorem readText_write {path : Path} {w : World} {text : String} (h : LogsElsewhere path w)
    (hread : w.disk.readText path = .ok text) (r : Log.Record) :
    (w.write r).disk.readText path = .ok text := by
  have hg := grows_write h r
  unfold World.write at hg ⊢
  cases hl : w.logFile with
  | none => exact hread
  | some q =>
    obtain ⟨⟨content, hfile⟩, hne⟩ := h q hl
    simp only [hl, hfile] at hg ⊢
    exact Disk.readText_put_of_ne hread hg hne

theorem quiet_proceeds (path : Path) : Quiet (Proceeds path) where
  refl _ := ⟨id, id, Nat.le_refl _⟩
  trans h h' :=
    ⟨h'.nameable ∘ h.nameable, h'.elsewhere ∘ h.elsewhere, Nat.le_trans h.failures h'.failures⟩
  write w r := proceeds_of_grows (grows_write · r) (here_write w r) rfl (failures_write w r)

theorem saves_proceeds (path : Path) : Saves (Proceeds path) := fun w p text =>
  have hg := Disk.grows_saveText w.disk p text
  proceeds_of_grows (fun _ => hg) hg.here rfl (Nat.le_refl _)

theorem evaluates_proceeds (path : Path) : Evaluates (Proceeds path) :=
  fun _ _ => ⟨id, id, Nat.le_refl _⟩

/-- With no more than `n` failures, the state file names the set of the session. -/
structure Recorded (path : Path) (n : Nat) (t : Session) (w : World) : Prop where
  elsewhere : LogsElsewhere path w
  failures : n ≤ failures w
  holds : Install.failures w ≤ n →
    w.disk.readText path = .ok (Json.print (stateData t.installer.installed))

/-- What is recorded stays so. -/
def Retains (path : Path) (w w' : World) : Prop :=
  ∀ n t, Recorded path n t w → Recorded path n t w'

theorem quiet_retains (path : Path) : Quiet (Retains path) where
  refl _ _ _ h := h
  trans h h' n t hr := h' n t (h n t hr)
  write w r n t h := by
    have hp := (quiet_proceeds path).write w r
    refine ⟨hp.elsewhere h.elsewhere, Nat.le_trans h.failures hp.failures, fun hn => ?_⟩
    exact readText_write h.elsewhere (h.holds (Nat.le_trans hp.failures hn)) r

theorem evaluates_retains (path : Path) : Evaluates (Retains path) :=
  fun _ _ _ _ h => ⟨h.1, h.2, h.3⟩

/-! ## Writing sets down -/

/-- An error is noted whatever the threshold. -/
theorem note_error (source : Log.Source) (message : String) (traced : Bool) (w : World) :
    note .error source message traced w = ((), w.write ⟨.error, source, message, traced⟩) := by
  show ((), if w.threshold.rank ≤ Log.Level.error.rank then _ else _) = _
  have h : w.threshold.rank ≤ Log.Level.error.rank := by cases w.threshold <;> decide
  rw [if_pos h]

/-- Writing a file either succeeds or is noted as a failure. -/
theorem saveJson_cases {path : Path} {w : World} (hw : Nameable path w) (source : Log.Source)
    (what : String) (data : Json.Data) :
    (∃ d, w.disk.saveText path (Json.print data) = (.ok (), d) ∧
      saveJson source what none path data w = (.ok true, { w with disk := d })) ∨
    ∃ d message, saveJson source what none path data w =
      (.ok false, { w with disk := d }.write ⟨.error, source, message, false⟩) := by
  have hn := Disk.saveText_ne_nullInName hw (Json.print data)
  unfold saveJson
  simp only [Try.getWorld_bind, Try.modifyWorld_bind]
  rcases hs : w.disk.saveText path (Json.print data) with ⟨_ | ⟨⟩, d⟩
  · next e =>
    rw [hs] at hn
    right
    refine ⟨d, s!"Unable to write {what} {path.toString}", ?_⟩
    cases e with
    | nullInName => exact absurd rfl hn
    | _ =>
      dsimp only
      rw [Try.act_bind, note_error]
      rfl
  · exact Or.inl ⟨d, rfl, rfl⟩

/-- A set that is written down is recorded, unless that counts as a failure. -/
theorem persist_ok {path : Path} {t : Session} (ht : t.installer.path = some path) {w : World}
    (hw : Nameable path w) :
    ∃ w', persist t w = ((.ok (), t), w') ∧ Nameable path w' ∧
      ∀ n, LogsElsewhere path w → n ≤ failures w → Recorded path n t w' := by
  have hp := moves_persist (quiet_proceeds path) (saves_proceeds path) t w
  unfold persist at hp ⊢
  simp only [Using.getState_bind, ht] at hp ⊢
  simp only [Using.bind_apply, Using.lift_apply, Try.adapt_apply] at hp ⊢
  rcases saveJson_cases hw logSource "install state" (stateData t.installer.installed)
    with ⟨d, hs, h⟩ | ⟨d, message, h⟩ <;> rw [h] at hp ⊢
  · refine ⟨_, rfl, hp.nameable hw, fun n he hn =>
      ⟨hp.elsewhere he, Nat.le_trans hn hp.failures, fun _ => ?_⟩⟩
    have hsaved : (w.disk.saveText path (Json.print (stateData t.installer.installed))).1 =
        .ok () := by rw [hs]
    have hread := Disk.readText_saveText hsaved (not_mem_print_stateData _)
    rw [hs] at hread
    exact hread
  · refine ⟨_, rfl, hp.nameable hw, fun n he hn =>
      ⟨hp.elsewhere he, Nat.le_trans hn hp.failures, fun hle => ?_⟩⟩
    have hmore := failures_write_failure { w with disk := d } message false
    rw [show failures { w with disk := d } = failures w from rfl] at hmore
    have hle' : failures ({ w with disk := d }.write ⟨.error, logSource, message, false⟩) ≤ n := hle
    omega

/-- Components that are reconciled are recorded. -/
theorem reconcile_ok {path : Path} {t : Session} (ht : t.installer.path = some path)
    (specs : List Spec) {w : World} (hw : Nameable path w) :
    ∃ w', reconcile specs t w =
        ((.ok (t.supplied specs).installer.installed, t.supplied specs), w') ∧
      Nameable path w' ∧
      ∀ n, LogsElsewhere path w → n ≤ failures w → Recorded path n (t.supplied specs) w' := by
  unfold reconcile
  have hp := moves_addEach (quiet_proceeds path) specs t w
  have ha := addEach_eq specs t w
  rcases ha' : addEach specs t w with ⟨r, w₁⟩
  rw [ha'] at hp ha
  obtain rfl : r = _ := ha
  obtain ⟨w₂, h₂, hw₂, hr⟩ := persist_ok (t := t.supplied specs) ht (hp.nameable hw)
  rw [Using.bind_of_ok ha', Using.bind_of_ok h₂]
  exact ⟨w₂, rfl, hw₂, fun n he hn => hr n (hp.elsewhere he) (Nat.le_trans hn hp.failures)⟩

/-! ## Removing -/

/-- A component that is there is removed, and what is left is recorded. -/
theorem remove_ok {path : Path} {t : Session} (ht : t.installer.path = some path) {n : String}
    (hn : n ∈ t.installer.installed) {w : World} (hw : Nameable path w) :
    ∃ w', remove n t w = ((.ok (), t.without [n]), w') ∧ Nameable path w' ∧
      ∀ k, LogsElsewhere path w → k ≤ failures w → Recorded path k (t.without [n]) w' := by
  obtain ⟨w', h, hw', hr⟩ := persist_ok (t := t.without [n]) ht hw
  refine ⟨w', ?_, hw', hr⟩
  unfold remove
  simp only [Using.getState_bind, List.contains_iff_mem, hn, if_true, Using.modifyState_bind,
    NameSet.erase_eq_without]
  exact h

/-- A removal that succeeds at the first attempt. -/
def atOnce (n : String) : Outcome := ⟨n, true, none, 1⟩

/-- The first attempt to remove a component that is there succeeds. -/
theorem removeOne_ok {path : Path} {t : Session} (ht : t.installer.path = some path) {n : String}
    (hn : n ∈ t.installer.installed) {w : World} (hw : Nameable path w) :
    ∃ w', Removal.removeOne remove n 1 t w = ((.ok (atOnce n), t.without [n]), w') ∧
      Nameable path w' ∧ ∀ k, Recorded path k t w → Recorded path k (t.without [n]) w' := by
  obtain ⟨w₁, h₁, hw₁, hr⟩ := remove_ok ht hn hw
  have hrec : recovered (remove n) t w = ((.ok (.ok ()), t.without [n]), w₁) := by
    unfold recovered
    rw [recoveredIf_apply, h₁]
  unfold Removal.removeOne
  rw [Using.bind_of_ok hrec]
  refine ⟨_, rfl, ((quiet_proceeds path).note w₁).nameable hw₁, fun k hk => ?_⟩
  exact (quiet_retains path).note w₁ k _ (hr k hk.elsewhere hk.failures)

theorem firstPass_ok {path : Path} {ns : List String} {t : Session}
    (ht : t.installer.path = some path) (hns : ∀ n ∈ ns, n ∈ t.installer.installed)
    (hnodup : ns.Nodup) {w : World} (hw : Nameable path w) :
    ∃ w', Removal.firstPass remove ns t w = ((.ok (ns.map atOnce), t.without ns), w') ∧
      ∀ k, Recorded path k t w → Recorded path k (t.without ns) w' := by
  induction ns generalizing t w with
  | nil => exact ⟨w, by rw [Session.without_nil]; rfl, fun k hk => by rwa [Session.without_nil]⟩
  | cons n rest ih =>
    obtain ⟨hn, hrest⟩ := List.nodup_cons.1 hnodup
    obtain ⟨w₁, h₁, hw₁, hr₁⟩ := removeOne_ok ht (hns n List.mem_cons_self) hw
    have hleft : ∀ m ∈ rest, m ∈ (t.without [n]).installer.installed := by
      intro m hm
      refine NameSet.mem_without.2 ⟨hns m (List.mem_cons_of_mem _ hm), fun he => ?_⟩
      exact hn (List.mem_singleton.1 he ▸ hm)
    obtain ⟨w₂, h₂, hr₂⟩ := ih (t := t.without [n]) ht hleft hrest hw₁
    rw [Session.without_without] at h₂ hr₂
    refine ⟨w₂, ?_, fun k hk => hr₂ k (hr₁ k hk)⟩
    unfold Removal.firstPass
    rw [Using.bind_of_ok h₁, Using.bind_of_ok h₂]
    rfl

/-- What succeeded at once is not attempted again. -/
theorem secondPass_atOnce (ns : List String) (t : Session) (w : World) :
    Removal.secondPass remove (ns.map atOnce) t w = ((.ok (ns.map atOnce), t), w) := by
  induction ns with
  | nil => rfl
  | cons n rest ih =>
    rw [List.map_cons]
    unfold Removal.secondPass
    rw [if_pos (show (atOnce n).removed = true from rfl), Using.bind_of_ok ih]
    rfl

/-- A cleanup writes to the log and then makes its two passes over what it plans, however
components are removed. -/
theorem cleanup_apply (specs : List Spec) (found : NameSet) (w : World) :
    ∃ w₁, (∀ R, Quiet R → R w w₁) ∧ ∀ {τ : Type} (remove : Removal.Remover τ) (t : τ),
      Removal.cleanup remove specs found t w =
        (Removal.firstPass remove (plan found (desired specs)) >>= Removal.secondPass remove)
          t w₁ := by
  unfold Removal.cleanup
  simp only [Using.act_bind, planRemovals_fst, desiredSet_fst]
  refine ⟨_, fun R h => ?_, fun remove t => rfl⟩
  refine h.trans ?_ (Removal.moves_planRemovals h _ _ _)
  refine h.trans ?_ (h.note _)
  exact h.trans (Removal.moves_desiredSet h specs w) (h.note _)

/-- **A cleanup removes what it plans**, all of it at the first attempt and in order. -/
theorem cleanup_ok {path : Path} {specs : List Spec} {found : NameSet} {t : Session}
    (ht : t.installer.path = some path)
    (hplan : ∀ n ∈ plan found (desired specs), n ∈ t.installer.installed)
    (hnodup : (plan found (desired specs)).Nodup) {w : World} (hw : Nameable path w) :
    ∃ w', Removal.cleanup remove specs found t w =
        ((.ok ((plan found (desired specs)).map atOnce), t.without (plan found (desired specs))), w') ∧
      ∀ k, Recorded path k t w → Recorded path k (t.without (plan found (desired specs))) w' := by
  obtain ⟨w₁, hpre, h⟩ := cleanup_apply specs found w
  obtain ⟨w₂, h₂, hr⟩ :=
    firstPass_ok ht hplan hnodup ((hpre _ (quiet_proceeds path)).nameable hw)
  refine ⟨w₂, ?_, fun k hk => hr k (hpre _ (quiet_retains path) k t hk)⟩
  rw [h, Using.bind_of_ok h₂, secondPass_atOnce]

/-- A cleanup with nothing planned removes nothing. -/
theorem cleanup_of_plan_nil {specs : List Spec} {found : NameSet}
    (hplan : plan found (desired specs) = []) (t : Session) (w : World) :
    ∃ w', Removal.cleanup remove specs found t w = ((.ok [], t), w') := by
  obtain ⟨w₁, -, h⟩ := cleanup_apply specs found w
  rw [h, hplan]
  exact ⟨w₁, rfl⟩

end LiterateConfig.Install
