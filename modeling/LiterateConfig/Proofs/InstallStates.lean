import LiterateConfig.Proofs.Convergence

/-!
# What an installer holds

An installer with a state file is asked to reconcile, to remove and to load, and to call
back when its first load is complete; what it calls back may remove components in turn.
Its set is always what these requests make of the set that was read at first, and from
the first write on its file names that set.

**Progress.** `Progress path gone t w t' w'` says that names are removed on the way from
one session and world to another, and that the state file keeps up with it. An action
`Tidies` if it makes progress by what its cleanups say they removed.

Results:
* `cleanup_progress`: a cleanup removes what its outcomes say;
* `tidies_fire`, `tidies_loadAll`: so do callbacks, and loads that call back;
* `step_perform`, `follows_performAll`: one request, and any number of them;
* `installed_follows`: the set and the file after any number of requests, and which state
  files no installer can start from.
-/
namespace LiterateConfig.Install

open LiterateConfig.Component (Spec)
open LiterateConfig.Files (Path)
open LiterateConfig.Removal (Outcome desired desiredName? plan)
open LiterateConfig.Script (Raised)

variable {path : Path} {t t' : Session} {w w' : World} {α β : Type}

/-! ## Progress -/

/-- Names are removed, and if the state file named the set, or if something is removed, it
names the set afterwards; unless a write fails. -/
structure Progress (path : Path) (gone : List String) (t : Session) (w : World) (t' : Session)
    (w' : World) : Prop where
  sameFile : t'.installer.path = t.installer.path
  installed : t'.installer.installed = t.installer.installed.without gone
  proceeds : Proceeds path w w'
  recorded : ∀ k, LogsElsewhere path w → k ≤ failures w → Recorded path k t w ∨ gone ≠ [] →
    Recorded path k t' w'

namespace NameSet

theorem without_congr {names names' : List String} (h : ∀ n, n ∈ names ↔ n ∈ names')
    (s : NameSet) : without names s = without names' s := by
  refine List.filter_congr fun n _ => ?_
  simp [h n]

end NameSet

namespace Progress

variable {gone gone' : List String} {t'' : Session} {w'' : World}

/-- What is only noted does not matter. -/
theorem of_quiet (t : Session) (h : ∀ R, Quiet R → R w w') : Progress path [] t w t w' where
  sameFile := rfl
  installed := (NameSet.without_nil _).symm
  proceeds := h _ (quiet_proceeds path)
  recorded k _ _ hr := h _ (quiet_retains path) k t (hr.resolve_right fun hne => hne rfl)

theorem refl (t : Session) (w : World) : Progress path [] t w t w :=
  of_quiet t fun _ h => h.refl w

theorem congr (h : Progress path gone t w t' w') (hg : ∀ n, n ∈ gone ↔ n ∈ gone') :
    Progress path gone' t w t' w' where
  sameFile := h.sameFile
  installed := by rw [h.installed, NameSet.without_congr hg]
  proceeds := h.proceeds
  recorded k he hk hr := by
    refine h.recorded k he hk (hr.imp_right fun hne => ?_)
    obtain ⟨n, hn⟩ := List.exists_mem_of_ne_nil _ hne
    exact List.ne_nil_of_mem ((hg n).2 hn)

theorem trans (h : Progress path gone t w t' w') (h' : Progress path gone' t' w' t'' w'') :
    Progress path (gone ++ gone') t w t'' w'' where
  sameFile := h'.sameFile.trans h.sameFile
  installed := by rw [h'.installed, h.installed, NameSet.without_without]
  proceeds := (quiet_proceeds path).trans h.proceeds h'.proceeds
  recorded k he hk hr := by
    refine h'.recorded k (h.proceeds.elsewhere he) (Nat.le_trans hk h.proceeds.failures) ?_
    by_cases hgone' : gone' = []
    · refine Or.inl (h.recorded k he hk (hr.imp_right fun hne hgone => hne ?_))
      rw [hgone, hgone']
      rfl
    · exact Or.inr hgone'

end Progress

/-! ## Cleanups -/

/-- The names that outcomes say are removed. -/
def took (os : List Outcome) : List String := (os.filter Outcome.removed).map Outcome.identifier

theorem took_cons (o : Outcome) (os : List Outcome) : took (o :: os) = took [o] ++ took os := by
  unfold took
  cases h : o.removed <;> simp [h]

/-- What is not there is not removed, and nothing changes. -/
theorem remove_of_not_mem {n : String} (hn : n ∉ t.installer.installed) (w : World) :
    remove n t w =
      ((.error ⟨.keyError, [.text s!"Component is not installed: {n}"]⟩, t), w) := by
  unfold remove
  simp only [Using.getState_bind, List.contains_iff_mem, hn, if_false]
  rfl

theorem removeOne_of_not_mem {n : String} (hn : n ∉ t.installer.installed) (attempt : Nat)
    (w : World) :
    ∃ text w', (∀ R, Quiet R → R w w') ∧
      Removal.removeOne remove n attempt t w = ((.ok ⟨n, false, some text, attempt⟩, t), w') := by
  have h := remove_of_not_mem hn w
  have he : Script.ErrorKind.keyError.recoverable = true := by decide
  rw [Removal.removeOne_of_error h he]
  exact ⟨_, _, fun R hR => hR.noteRaised w, rfl⟩

/-- One try removes what is there. -/
theorem removeOne_progress (ht : t.installer.path = some path) (hw : Nameable path w) (n : String)
    (attempt : Nat) :
    ∃ o w', Removal.removeOne remove n attempt t w = ((.ok o, t.without (took [o])), w') ∧
      o.identifier = n ∧ n ∉ (t.without (took [o])).installer.installed ∧
      Progress path (took [o]) t w (t.without (took [o])) w' := by
  by_cases hn : n ∈ t.installer.installed
  · obtain ⟨w₁, h₁, -, hr⟩ := remove_ok ht hn hw
    have h := Removal.removeOne_of_ok h₁ attempt
    have hmoves := Removal.moves_removeOne (quiet_proceeds path)
      (moves_remove (quiet_proceeds path) (saves_proceeds path)) n attempt t w
    rw [h] at hmoves
    refine ⟨⟨n, true, none, attempt⟩, _, h, rfl, fun hin => ?_, rfl, rfl, hmoves,
      fun k he hk _ => ?_⟩
    · exact (NameSet.mem_without.1 hin).2 (List.mem_singleton.2 rfl)
    · exact (quiet_retains path).note w₁ k _ (hr k he hk)
  · obtain ⟨text, w', hquiet, h⟩ := removeOne_of_not_mem hn attempt w
    have hleft : t.without (took [⟨n, false, some text, attempt⟩]) = t := Session.without_nil t
    refine ⟨⟨n, false, some text, attempt⟩, w', by rw [h, hleft], rfl, ?_, ?_⟩
    · rwa [hleft]
    · rw [hleft]
      exact .of_quiet t hquiet

/-- After the first pass none of the names is there. -/
theorem firstPass_progress (ns : List String) (ht : t.installer.path = some path)
    (hw : Nameable path w) :
    ∃ os w', Removal.firstPass remove ns t w = ((.ok os, t.without (took os)), w') ∧
      (∀ o ∈ os, o.identifier ∉ (t.without (took os)).installer.installed) ∧
      Progress path (took os) t w (t.without (took os)) w' := by
  induction ns generalizing t w with
  | nil =>
    have hleft : t.without (took []) = t := Session.without_nil t
    exact ⟨[], w, by rw [hleft]; rfl, nofun, by rw [hleft]; exact .refl t w⟩
  | cons n rest ih =>
    obtain ⟨o, w₁, h₁, hid, hgone, hp₁⟩ := removeOne_progress ht hw n 1
    obtain ⟨os, w₂, h₂, hall, hp₂⟩ :=
      ih (t := t.without (took [o])) ht (hp₁.proceeds.nameable hw)
    have hp := hp₁.trans hp₂
    rw [Session.without_without, ← took_cons] at h₂ hall hp
    refine ⟨o :: os, w₂, ?_, fun o' ho' => ?_, hp⟩
    · unfold Removal.firstPass
      rw [Using.bind_of_ok h₁, Using.bind_of_ok h₂]
      rfl
    · rcases List.mem_cons.1 ho' with rfl | ho'
      · intro hin
        obtain ⟨hin, hnot⟩ := NameSet.mem_without.1 hin
        rw [took_cons, List.mem_append, not_or] at hnot
        exact hgone (hid ▸ NameSet.mem_without.2 ⟨hin, hnot.1⟩)
      · exact hall o' ho'

/-- A second try of what is gone removes nothing. -/
theorem secondPass_progress {os : List Outcome}
    (h : ∀ o ∈ os, o.identifier ∉ t.installer.installed) (w : World) :
    ∃ os' w', (∀ R, Quiet R → R w w') ∧
      Removal.secondPass remove os t w = ((.ok os', t), w') ∧ took os' = took os := by
  induction os generalizing w with
  | nil => exact ⟨[], w, fun R hR => hR.refl w, rfl, rfl⟩
  | cons o rest ih =>
    have hrest := fun o' ho' => h o' (List.mem_cons_of_mem _ ho')
    unfold Removal.secondPass
    cases ho : o.removed with
    | true =>
      obtain ⟨os', w', hquiet, heq, htook⟩ := ih hrest w
      rw [if_pos rfl, Using.bind_of_ok heq]
      exact ⟨_, w', hquiet, rfl, by rw [took_cons, htook, ← took_cons]⟩
    | false =>
      rw [if_neg Bool.false_ne_true, Using.act_bind]
      obtain ⟨text, w₂, hquiet₂, heq₂⟩ := removeOne_of_not_mem (h o List.mem_cons_self) 2
        (note .info Removal.logSource s!"Retrying removal of component: {o.identifier}" false w).2
      obtain ⟨os', w', hquiet, heq, htook⟩ := ih hrest w₂
      rw [Using.bind_of_ok heq₂, Using.bind_of_ok heq]
      refine ⟨_, w', fun R hR => hR.trans (hR.note w) (hR.trans (hquiet₂ R hR) (hquiet R hR)),
        rfl, ?_⟩
      rw [took_cons, htook, took_cons o rest]
      simp [took, ho]

/-- **A cleanup removes what its outcomes say.** -/
theorem cleanup_progress (specs : List Spec) (found : NameSet) (ht : t.installer.path = some path)
    (hw : Nameable path w) :
    ∃ os w', Removal.cleanup remove specs found t w = ((.ok os, t.without (took os)), w') ∧
      Progress path (took os) t w (t.without (took os)) w' := by
  obtain ⟨w₁, hpre, h⟩ := cleanup_apply specs found w
  have hp₁ : Progress path [] t w t w₁ := .of_quiet t hpre
  obtain ⟨os, w₂, h₂, hall, hp₂⟩ :=
    firstPass_progress (plan found (desired specs)) ht (hp₁.proceeds.nameable hw)
  obtain ⟨os', w₃, hquiet, h₃, htook⟩ := secondPass_progress hall w₂
  have hp₃ : Progress path [] (t.without (took os)) w₂ (t.without (took os)) w₃ := .of_quiet _ hquiet
  refine ⟨os', w₃, ?_, ?_⟩
  · rw [h, Using.bind_of_ok h₂, h₃, htook]
  · rw [htook]
    simpa using hp₁.trans (hp₂.trans hp₃)

/-! ## Calling back -/

/-- The names that cleanups of runs removed. -/
def removedBy (done : List (Nat × List Outcome)) : List String := done.flatMap fun c => took c.2

/-- What the action takes from the set is told by the cleanups that it has done. -/
def Tidies (path : Path) (x : Task Raised α) : Prop :=
  ∀ t w, t.installer.path = some path → Nameable path w →
    ∃ done, (x t w).1.2.cleanups = done ++ t.cleanups ∧
      Progress path (removedBy done) t w (x t w).1.2 (x t w).2

namespace Tidies

/-- An action that neither changes the session nor writes the state file. -/
theorem of_keeps {x : Task Raised α} (hk : Keeps x) (hp : ∀ t, Moves (Proceeds path) (x t))
    (hr : ∀ t, Moves (Retains path) (x t)) : Tidies path x := by
  intro t w _ _
  have hkt := hk t w
  refine ⟨[], by rw [hkt]; rfl, ?_⟩
  rw [hkt]
  exact ⟨rfl, (NameSet.without_nil _).symm, hp t w, fun k _ _ hrec =>
    hr t w k t (hrec.resolve_right fun hne => hne rfl)⟩

/-- A change of the session that does not touch the set or the cleanups. -/
theorem of_modify {f : Session → Session} (hcleanups : ∀ t, (f t).cleanups = t.cleanups)
    (hpath : ∀ t, (f t).installer.path = t.installer.path)
    (hset : ∀ t, (f t).installer.installed = t.installer.installed) :
    Tidies path (modifyThe Session f : Task Raised Unit) := by
  intro t w _ _
  refine ⟨[], hcleanups t, hpath t, ?_, (quiet_proceeds path).refl w, fun k _ _ hrec => ?_⟩
  · exact (hset t).trans (NameSet.without_nil _).symm
  · obtain ⟨he, hf, hh⟩ := hrec.resolve_right fun hne => hne rfl
    exact ⟨he, hf, fun hn => (hset t).symm ▸ hh hn⟩

theorem pure (a : α) : Tidies path (pure a : Task Raised α) :=
  of_keeps (fun _ _ => rfl) (fun _ => (quiet_proceeds path).pure _) fun _ =>
    (quiet_retains path).pure _

theorem bind {x : Task Raised α} {f : α → Task Raised β} (hx : Tidies path x)
    (hf : ∀ a, Tidies path (f a)) : Tidies path (x >>= f) := by
  intro t w ht hw
  obtain ⟨done, hdone, hp⟩ := hx t w ht hw
  rw [Using.bind_apply]
  rcases hxt : x t w with ⟨⟨e | a, t₁⟩, w₁⟩ <;> rw [hxt] at hdone hp
  · exact ⟨done, hdone, hp⟩
  · obtain ⟨done', hdone', hp'⟩ := hf a t₁ w₁ (hp.sameFile.trans ht) (hp.proceeds.nameable hw)
    refine ⟨done' ++ done, by rw [hdone', hdone, List.append_assoc], (hp.trans hp').congr fun n => ?_⟩
    simp [removedBy, or_comm]

/-- What only looks at the session goes straight on. -/
theorem getSession {f : Session → Task Raised α} (hf : ∀ s, Tidies path (f s)) :
    Tidies path (getThe Session >>= f) := fun t w => hf t t w

end Tidies

theorem tidies_loadEach (specs : List Spec) :
    Tidies path (liftM (loadEach specs) : Task Raised Unit) :=
  .of_keeps (keeps_lift _)
    (fun t => (moves_loadEach (quiet_proceeds path) (evaluates_proceeds path) specs).lift t)
    fun t => (moves_loadEach (quiet_retains path) (evaluates_retains path) specs).lift t

/-- By induction on what is called back. -/
theorem tidies_fire (c : Callback) : Tidies path (fire remove c) := by
  induction c with
  | call v =>
    unfold fire
    refine .bind (.of_keeps (keeps_lift _) ?_ ?_) fun _ => .pure _
    · exact fun t => (moves_onMachine (evaluates_proceeds path) _).lift t
    · exact fun t => (moves_onMachine (evaluates_retains path) _).lift t
  | both first second ih₁ ih₂ => exact ih₁.bind fun _ => ih₂
  | register c ih => exact ih
  | load specs => exact tidies_loadEach specs
  | depending f ih => exact fun t w => ih w t w
  | cleanup run specs found =>
    refine .getSession fun s => ?_
    split
    · exact .pure _
    · intro t w ht hw
      obtain ⟨os, w', h, hp⟩ := cleanup_progress specs found ht hw
      rw [Using.bind_of_ok h]
      refine ⟨[(run, os)], rfl, hp.sameFile, ?_, hp.proceeds, fun k he hk hrec => ?_⟩
      · simpa [removedBy] using hp.installed
      · obtain ⟨he', hf', hh'⟩ := hp.recorded k he hk (by simpa [removedBy] using hrec)
        exact ⟨he', hf', hh'⟩

theorem tidies_fireEach (cs : List Callback) : Tidies path (fireEach remove cs) := by
  induction cs with
  | nil => exact .pure _
  | cons c rest ih => exact (tidies_fire c).bind fun _ => ih

theorem tidies_register (c : Callback) : Tidies path (register remove c) := by
  refine .getSession fun s => ?_
  split
  · exact tidies_fire c
  · exact .of_modify (fun _ => rfl) (fun _ => rfl) fun _ => rfl

theorem tidies_loadAll (specs : List Spec) : Tidies path (loadAll remove specs) := by
  refine (tidies_loadEach specs).bind fun _ => .getSession fun s => ?_
  dsimp only
  split
  · exact .pure _
  · refine .bind (.of_modify (fun _ => rfl) (fun _ => rfl) fun _ => rfl) fun _ => ?_
    exact tidies_fireEach _

/-! ## Requests -/

/-- What is asked of an installer. -/
inductive Operation where
  | reconcile (specs : List Spec)
  | remove (n : String)
  | loadAll (specs : List Spec)
  | register (c : Callback)

def Operation.run : Operation → Task Raised Unit
  | .reconcile specs => do let _ ← Install.reconcile specs
  | .remove n => Install.remove n
  | .loadAll specs => Install.loadAll Install.remove specs
  | .register c => Install.register Install.remove c

/-- An operation with how it ended and the cleanups that were done meanwhile. -/
structure Event where
  operation : Operation
  result : Except Raised Unit
  cleanups : List (Nat × List Outcome)

namespace Event

/-- The keys of the specs that were reconciled, those managed by hand apart. -/
def added (e : Event) : List String :=
  match e.operation with
  | .reconcile specs => specs.filterMap desiredName?
  | _ => []

/-- The identifiers whose removal succeeded, asked for or by a cleanup. -/
def removed (e : Event) : List String :=
  match e.operation with
  | .remove n => if e.result.isOk then [n] else []
  | _ => removedBy e.cleanups

/-- The set after the event. -/
def apply (e : Event) (s : NameSet) : NameSet := (s.adding e.added).without e.removed

/-- The set is written down: after every reconciliation and every removal. -/
def Writes (e : Event) : Prop := (∃ specs, e.operation = .reconcile specs) ∨ e.removed ≠ []

theorem ascending_apply (e : Event) {s : NameSet} (h : NameSet.Ascending s) :
    NameSet.Ascending (e.apply s) :=
  (NameSet.ascending_adding _ h).filter _

end Event

/-- Performs an operation; errors are kept. -/
def perform (op : Operation) (t : Session) (w : World) : Event × Session × World :=
  let x := op.run t w
  (⟨op, x.1.1, x.1.2.cleanups.take (x.1.2.cleanups.length - t.cleanups.length)⟩, x.1.2, x.2)

/-- Performs operations one after the other, whether or not those before failed. -/
def performAll : List Operation → Session → World → List Event × Session × World
  | [], t, w => ([], t, w)
  | op :: rest, t, w =>
    let (e, t, w) := perform op t w
    let (es, t, w) := performAll rest t w
    (e :: es, t, w)

/-- What events make of the set, and that the state file names it once it is written. -/
structure Follows (path : Path) (es : List Event) (t : Session) (w : World) (t' : Session)
    (w' : World) : Prop where
  sameFile : t'.installer.path = t.installer.path
  installed : t'.installer.installed = es.foldl (fun s e => e.apply s) t.installer.installed
  proceeds : Proceeds path w w'
  recorded : ∀ k, LogsElsewhere path w → k ≤ failures w →
    Recorded path k t w ∨ (∃ e ∈ es, e.Writes) → Recorded path k t' w'

theorem step_remove (n : String) (ht : t.installer.path = some path) (hw : Nameable path w) :
    Follows path [(perform (.remove n) t w).1] t w (perform (.remove n) t w).2.1
      (perform (.remove n) t w).2.2 := by
  have hrun : Operation.run (.remove n) t w = remove n t w := rfl
  by_cases hn : n ∈ t.installer.installed
  · obtain ⟨w', h, -, hr⟩ := remove_ok ht hn hw
    have hmoves := moves_remove (quiet_proceeds path) (saves_proceeds path) n t w
    rw [h] at hmoves
    simp only [perform, hrun, h]
    exact ⟨rfl, rfl, hmoves, fun k he hk _ => hr k he hk⟩
  · simp only [perform, hrun, remove_of_not_mem hn w]
    refine ⟨rfl, (NameSet.without_nil _).symm, (quiet_proceeds path).refl w, fun k he hk hrec =>
      hrec.resolve_right ?_⟩
    rintro ⟨e, he, hwrites⟩
    obtain rfl := List.mem_singleton.1 he
    rcases hwrites with ⟨specs, h⟩ | h
    · cases h
    · exact h rfl

theorem step_reconcile (specs : List Spec) (ht : t.installer.path = some path)
    (hw : Nameable path w) :
    Follows path [(perform (.reconcile specs) t w).1] t w (perform (.reconcile specs) t w).2.1
      (perform (.reconcile specs) t w).2.2 := by
  obtain ⟨w', h, -, hr⟩ := reconcile_ok ht specs hw
  have hmoves := moves_reconcile (quiet_proceeds path) (saves_proceeds path) specs t w
  rw [h] at hmoves
  have hrun : Operation.run (.reconcile specs) t w = ((.ok (), t.supplied specs), w') := by
    show (reconcile specs >>= fun _ => pure ()) t w = _
    rw [Using.bind_of_ok h]
    rfl
  have hnone : t.cleanups.take (t.cleanups.length - t.cleanups.length) = [] := by simp
  have he : perform (.reconcile specs) t w =
      (⟨.reconcile specs, .ok (), []⟩, t.supplied specs, w') := by
    unfold perform
    rw [hrun]
    exact congrArg (fun cs => ((⟨.reconcile specs, .ok (), cs⟩ : Event), _, _)) hnone
  rw [he]
  exact ⟨rfl, (NameSet.without_nil _).symm, hmoves, fun k he hk _ => hr k he hk⟩

/-- What is taken from the set by anything but a removal is told by its cleanups. -/
theorem step_tidies {op : Operation} (hop : Tidies path op.run)
    (hadds : ∀ specs, op ≠ .reconcile specs) (hremoves : ∀ n, op ≠ .remove n)
    (ht : t.installer.path = some path) (hw : Nameable path w) :
    Follows path [(perform op t w).1] t w (perform op t w).2.1 (perform op t w).2.2 := by
  obtain ⟨done, hdone, hp⟩ := hop t w ht hw
  have hcs : (op.run t w).1.2.cleanups.take
      ((op.run t w).1.2.cleanups.length - t.cleanups.length) = done := by
    rw [hdone]
    simp
  let e : Event := ⟨op, (op.run t w).1.1, done⟩
  have he : (perform op t w).1 = e := by
    simp only [perform, hcs, e]
  have hadded : e.added = [] := by
    cases op with
    | reconcile specs => exact absurd rfl (hadds specs)
    | _ => rfl
  have hremoved : e.removed = removedBy done := by
    cases op with
    | remove n => exact absurd rfl (hremoves n)
    | _ => rfl
  rw [he]
  refine ⟨hp.sameFile, ?_, hp.proceeds, fun k hk hf hrec => hp.recorded k hk hf (hrec.imp_right ?_)⟩
  · show _ = (t.installer.installed.adding e.added).without e.removed
    rw [hadded, hremoved]
    exact hp.installed
  · rintro ⟨e', he', hwrites⟩
    obtain rfl := List.mem_singleton.1 he'
    rcases hwrites with ⟨specs, h⟩ | h
    · exact absurd h (hadds specs)
    · rwa [hremoved] at h

/-- One request. -/
theorem step_perform (op : Operation) (ht : t.installer.path = some path) (hw : Nameable path w) :
    Follows path [(perform op t w).1] t w (perform op t w).2.1 (perform op t w).2.2 := by
  cases op with
  | reconcile specs => exact step_reconcile specs ht hw
  | remove n => exact step_remove n ht hw
  | loadAll specs => exact step_tidies (tidies_loadAll specs) nofun nofun ht hw
  | register c => exact step_tidies (tidies_register c) nofun nofun ht hw

theorem Follows.trans {es es' : List Event} {t'' : Session} {w'' : World}
    (h : Follows path es t w t' w') (h' : Follows path es' t' w' t'' w'') :
    Follows path (es ++ es') t w t'' w'' where
  sameFile := h'.sameFile.trans h.sameFile
  installed := by rw [List.foldl_append, ← h.installed, h'.installed]
  proceeds := (quiet_proceeds path).trans h.proceeds h'.proceeds
  recorded k he hk hr := by
    refine h'.recorded k (h.proceeds.elsewhere he) (Nat.le_trans hk h.proceeds.failures) ?_
    by_cases hlater : ∃ e ∈ es', e.Writes
    · exact Or.inr hlater
    · refine Or.inl (h.recorded k he hk (hr.imp_right ?_))
      rintro ⟨e, hmem, hwrites⟩
      rcases List.mem_append.1 hmem with hmem | hmem
      · exact ⟨e, hmem, hwrites⟩
      · exact absurd ⟨e, hmem, hwrites⟩ hlater

/-- Any number of requests. -/
theorem follows_performAll (ops : List Operation) (ht : t.installer.path = some path)
    (hw : Nameable path w) :
    Follows path (performAll ops t w).1 t w (performAll ops t w).2.1 (performAll ops t w).2.2 := by
  induction ops generalizing t w with
  | nil =>
    exact ⟨rfl, rfl, (quiet_proceeds path).refl w, fun k _ _ hrec =>
      hrec.resolve_right (by rintro ⟨e, he, -⟩; cases he)⟩
  | cons op rest ih =>
    have h := step_perform op ht hw
    exact h.trans (ih (h.sameFile.trans ht) (h.proceeds.nameable hw))

/-! ## Starting -/

/-- The state file is nested too deeply to be read. -/
def Unreadable (path : Path) (w : World) : Prop :=
  ∃ text, w.disk.readText path = .ok text ∧ Json.read text = .error .tooDeep

/-- The state file names a component: it is a record of the known version, and the name is
among the texts in its list. -/
def Lists (path : Path) (w : World) (n : String) : Prop :=
  ∃ text ms items, w.disk.readText path = .ok text ∧ Json.read text = .ok (.record ms) ∧
    (Keyed.get? "version" ms).any isKnownVersion = true ∧
    Keyed.get? "installed" ms = some (.list items) ∧ Json.Data.text n ∈ items

theorem mem_readState {n : String} {d : Json.Data} :
    n ∈ readState d ↔ ∃ ms items, d = .record ms ∧
      (Keyed.get? "version" ms).any isKnownVersion = true ∧
      Keyed.get? "installed" ms = some (.list items) ∧ Json.Data.text n ∈ items := by
  cases d with
  | record ms =>
    simp only [readState]
    by_cases hv : (Keyed.get? "version" ms).any isKnownVersion = true
    · rw [if_pos hv]
      split
      · next items hi =>
        rw [NameSet.mem_ofList, List.mem_filterMap]
        constructor
        · rintro ⟨x, hx, hn⟩
          cases x <;> cases hn
          exact ⟨ms, items, rfl, hv, hi, hx⟩
        · rintro ⟨ms', items', hms, -, hi', hx⟩
          cases hms
          rw [hi] at hi'
          cases hi'
          exact ⟨_, hx, rfl⟩
      · next hi =>
        refine iff_of_false List.not_mem_nil ?_
        rintro ⟨ms', items, hms, -, hi', -⟩
        cases hms
        exact hi items hi'
    · rw [if_neg hv]
      refine iff_of_false List.not_mem_nil ?_
      rintro ⟨ms', items, hms, hv', -⟩
      cases hms
      exact hv hv'
  | _ =>
    rw [readState_of_other (by simp)]
    refine iff_of_false List.not_mem_nil ?_
    rintro ⟨ms, items, h, -⟩
    cases h

/-- What an installer fails with that finds a state file nested too deeply. -/
def nestedTooDeeply : Raised :=
  ⟨.recursionError, [.text "maximum recursion depth exceeded while decoding a JSON array"]⟩

/-- A file without data in it lists nothing. -/
theorem not_lists {n : String}
    (h : ∀ text d, w.disk.readText path = .ok text → Json.read text ≠ .ok d) :
    n ∈ ([] : NameSet) ↔ Lists path w n := by
  refine iff_of_false List.not_mem_nil ?_
  rintro ⟨text, ms, items, ht, hd, -⟩
  exact h text _ ht hd

/-- What a text is read as settles what is listed. -/
theorem lists_iff {text : String} {d : Json.Data} (ht : w.disk.readText path = .ok text)
    (hd : Json.read text = .ok d) {n : String} : n ∈ readState d ↔ Lists path w n := by
  rw [mem_readState]
  constructor
  · rintro ⟨ms, items, rfl, h⟩
    exact ⟨text, ms, items, ht, hd, h⟩
  · rintro ⟨text', ms, items, ht', hd', h⟩
    obtain rfl : text = text' := Except.ok.inj (ht.symm.trans ht')
    exact ⟨ms, items, Except.ok.inj (hd.symm.trans hd'), h⟩

/-- A state file is read, whatever it contains, unless it is nested too deeply. -/
theorem load_cases (path : Path) (w : World) :
    (Unreadable path w ∧ load path w = (.error nestedTooDeeply, w)) ∨
      (¬ Unreadable path w ∧ ∃ names w', load path w = (.ok names, w') ∧
        (∀ R, Quiet R → R w w') ∧ ∀ n, n ∈ names ↔ Lists path w n) := by
  unfold load
  simp only [Try.getWorld_bind]
  rcases ht : w.disk.readText path with e | text
  · have hno : ∀ text, w.disk.readText path ≠ .ok text := by simp [ht]
    have hread : ¬ Unreadable path w := fun ⟨text, h, _⟩ => hno text h
    have hlists : ∀ n, n ∈ ([] : NameSet) ↔ Lists path w n := fun n =>
      not_lists fun text d h => absurd h (hno text)
    right
    cases e with
    | notFound => exact ⟨hread, [], w, rfl, fun R hR => hR.refl w, hlists⟩
    | _ => exact ⟨hread, [], _, rfl, fun R hR => hR.note w, hlists⟩
  · have hsame : ∀ text', w.disk.readText path = .ok text' → text' = text := fun text' h =>
      Except.ok.inj (h.symm.trans ht)
    rcases hd : Json.read text with e | d
    · have hlists : ∀ n, n ∈ ([] : NameSet) ↔ Lists path w n := fun n =>
        not_lists fun text' d h => by rw [hsame text' h, hd]; nofun
      cases e with
      | malformed =>
        have hread : ¬ Unreadable path w := fun ⟨text', h, htoo⟩ => by
          rw [hsame text' h, hd] at htoo
          cases htoo
        simp only [hd]
        exact Or.inr ⟨hread, [], _, rfl, fun R hR => hR.note w, hlists⟩
      | tooDeep =>
        simp only [hd]
        exact Or.inl ⟨⟨text, ht, hd⟩, rfl⟩
    · have hread : ¬ Unreadable path w := fun ⟨text', h, htoo⟩ => by
        rw [hsame text' h, hd] at htoo
        cases htoo
      simp only [hd]
      exact Or.inr ⟨hread, readState d, w, rfl, fun R hR => hR.refl w, fun n => lists_iff ht hd⟩

theorem new_of_load {names : NameSet} (h : load path w = (.ok names, w')) :
    State.new (some path) w = (.ok ⟨some path, names, [], false⟩, w') := by
  unfold State.new
  exact Try.bind_of_ok h _

/-! ## The set and its file -/

/-- What holds after events of an installer that began with a set, from a world on. -/
structure Holds (path : Path) (first : NameSet) (es : List Event) (w₁ : World) (t : Session)
    (w : World) : Prop where
  /-- The set is what the events make of the first one. -/
  installed : t.installer.installed = es.foldl (fun s e => e.apply s) first
  ascending : NameSet.Ascending t.installer.installed
  /-- What is not there cannot be removed, and to try changes nothing at all. -/
  absent : ∀ n, n ∉ t.installer.installed → remove n t w =
    ((.error ⟨.keyError, [.text s!"Component is not installed: {n}"]⟩, t), w)
  present : ∀ n ∈ t.installer.installed, (remove n t w).1 = (.ok (), t.without [n])
  /-- Once the set has been written down, and if no write failed, the file names it, and
  a new installer begins with it. -/
  recorded : LogsElsewhere path w₁ → failures w = failures w₁ → (∃ e ∈ es, e.Writes) →
    w.disk.readText path = .ok (Json.print (stateData t.installer.installed)) ∧
    Json.read (Json.print (stateData t.installer.installed)) =
      .ok (stateData t.installer.installed) ∧
    State.new (some path) w = (.ok ⟨some path, t.installer.installed, [], false⟩, w)

theorem Follows.holds {es : List Event} {w₁ : World} (h : Follows path es t w₁ t' w')
    (ht : t.installer.path = some path) (hw : Nameable path w₁)
    (hasc : NameSet.Ascending t.installer.installed) :
    Holds path t.installer.installed es w₁ t' w' := by
  have hfold : ∀ (es : List Event) {s : NameSet}, NameSet.Ascending s →
      NameSet.Ascending (es.foldl (fun s e => e.apply s) s) := by
    intro es
    induction es with
    | nil => exact fun hs => hs
    | cons e rest ih => exact fun hs => ih (e.ascending_apply hs)
  have hasc' : NameSet.Ascending t'.installer.installed := by
    rw [h.installed]
    exact hfold es hasc
  refine ⟨h.installed, hasc', fun n hn => remove_of_not_mem hn w', fun n hn => ?_, ?_⟩
  · obtain ⟨w₂, hr, -⟩ := remove_ok (h.sameFile.trans ht) hn (h.proceeds.nameable hw)
    rw [hr]
  · intro he hf hwrites
    have hread := (h.recorded (failures w₁) he (Nat.le_refl _) (Or.inr hwrites)).holds
      (Nat.le_of_eq hf)
    exact ⟨hread, Json.read_print (faithful_stateData _), new_of_load (load_of_readText hasc' hread)⟩

/-- **The set and its file.** An installer can start from every state file that is not
nested too deeply, and it begins with the names that the file lists. Whatever it is asked
then, in whatever order: it holds what it began with, the keys of reconciled specs added
and removed identifiers taken away; only what it holds can be removed; and its file names
the set as soon as it has been written. -/
theorem installed_follows {path : Path} {w₀ : World} (hw : Nameable path w₀) :
    (Unreadable path w₀ ∧ State.new (some path) w₀ = (.error nestedTooDeeply, w₀)) ∨
    (¬ Unreadable path w₀ ∧ ∃ first w₁,
      State.new (some path) w₀ = (.ok ⟨some path, first, [], false⟩, w₁) ∧
      (∀ n, n ∈ first ↔ Lists path w₀ n) ∧ (LogsElsewhere path w₀ → LogsElsewhere path w₁) ∧
      ∀ ops es t w, performAll ops (.fresh ⟨some path, first, [], false⟩) w₁ = (es, t, w) →
        Holds path first es w₁ t w) := by
  rcases load_cases path w₀ with ⟨hun, hl⟩ | ⟨hread, first, w₁, hl, hquiet, hlists⟩
  · refine Or.inl ⟨hun, ?_⟩
    unfold State.new
    dsimp only
    rw [Try.bind_apply, hl]
  · have hp := hquiet _ (quiet_proceeds path)
    refine Or.inr ⟨hread, first, w₁, new_of_load hl, hlists, hp.elsewhere,
      fun ops es t w hops => ?_⟩
    have h := follows_performAll ops (t := .fresh ⟨some path, first, [], false⟩) rfl
      (hp.nameable hw)
    rw [hops] at h
    exact h.holds rfl (hp.nameable hw) (ascending_load hl)

open LiterateConfig.Project (sampleProject firstWorld)

/-- `a/a` is installed, then `b/b` is removed, twice. -/
def sampleOperations : List Operation :=
  [.reconcile [{ Spec.empty with source := some "a/a" }], .remove "b/b", .remove "b/b"]

/-- Whether the operations leave `a/a` alone and all writes succeed. -/
def sampleWrites (r : Except Raised State × World) : Bool :=
  match r with
  | (.ok i, w₁) =>
    let (_, t, w) := performAll sampleOperations (.fresh i) w₁
    t.installer.installed == ["a/a"] && failures w == failures w₁
  | _ => false

theorem installed_follows_sampleOperations :
    ∃ i w₁ es t w, State.new (some sampleProject.settings.installedPath) firstWorld = (.ok i, w₁) ∧
      performAll sampleOperations (.fresh i) w₁ = (es, t, w) ∧ t.installer.installed = ["a/a"] ∧
      State.new (some sampleProject.settings.installedPath) w =
        (.ok ⟨some sampleProject.settings.installedPath, ["a/a"], [], false⟩, w) := by
  have hname : Nameable sampleProject.settings.installedPath firstWorld := by
    rw [Nameable, Ne, Files.Disk.locate_eq_nullInName]
    decide +kernel
  have helse : LogsElsewhere sampleProject.settings.installedPath firstWorld := by
    intro q hq
    cases hq
  have hwrites : sampleWrites (State.new (some sampleProject.settings.installedPath) firstWorld) =
      true := by decide +kernel
  rcases installed_follows hname with ⟨-, hnew⟩ | ⟨-, first, w₁, hnew, -, hlog, hholds⟩ <;>
    rw [hnew] at hwrites
  · cases hwrites
  · rcases hops : performAll sampleOperations
      (.fresh ⟨some sampleProject.settings.installedPath, first, [], false⟩) w₁ with ⟨es, t, w⟩
    simp only [sampleWrites, hops, Bool.and_eq_true, beq_iff_eq] at hwrites
    have h := hholds _ es t w hops
    have hes : (performAll sampleOperations
        (.fresh ⟨some sampleProject.settings.installedPath, first, [], false⟩) w₁).1 = es := by
      rw [hops]
    have hevent : ∃ e ∈ es, e.Writes := by
      rw [← hes]
      exact ⟨_, List.mem_cons_self, Or.inl ⟨_, rfl⟩⟩
    obtain ⟨-, -, hagain⟩ := h.recorded (hlog helse) hwrites.2 hevent
    rw [hwrites.1] at hagain
    exact ⟨_, w₁, es, t, w, hnew, hops, hwrites.1, hagain⟩

end LiterateConfig.Install
