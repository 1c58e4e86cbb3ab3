import LiterateConfig.Proofs.Sessions

/-!
# Runs and loads in any order

One installer can serve many runs, and loads may come at any time between them.
Each run leaves a cleanup behind, with the components that it declares and the set
that it found; until the first load is complete, all of these wait.

**Operations.** An operation takes place in a world of its own, so documents, files
and blocks may be anything at each of them, and it counts whether it ends well or not.

Results:
* `run_eq`: the course of a run;
* `run_session`, `loadAll_cases`: what a run and a load make of a session;
* `Sound.run`, `Sound.load`, `sound_after`: cleanups that wait belong to different
  runs and have not been done, and none waits after the first load;
* `mem_installed_iff`: what the last run declares stays installed exactly if no
  cleanup that waited before the run plans to take it away;
* `pending_after_load`: once a load is complete no cleanup waits, so whatever is
  declared from then on stays installed.
-/
namespace LiterateConfig.Project

open LiterateConfig.Component (Spec)
open LiterateConfig.Install
open LiterateConfig.Removal (Outcome desired desiredName? plan)
open LiterateConfig.Script (Raised)

/-! ## The stages of a run and its session -/

theorem keeps_saveBlocks (s : Settings) (blocks : List Block) : Keeps (saveBlocks s blocks) := by
  intro t w
  unfold saveBlocks
  simp only [Using.getWorld_bind]
  split
  · exact Keeps.bind (fun _ _ => rfl) (fun _ _ _ => rfl) t w
  · rfl

theorem keeps_declare (p : Project) : Keeps (declare p) := by
  unfold declare
  refine Keeps.bind (fun _ _ => rfl) fun _ => Keeps.bind (keeps_lift _) fun _ => ?_
  refine Keeps.bind (keeps_saveBlocks _ _) fun _ => Keeps.bind (keeps_lift _) fun _ => ?_
  refine Keeps.bind (fun _ _ => rfl) fun _ => Keeps.bind (fun _ _ => rfl) fun _ => ?_
  exact Keeps.bind (fun _ _ => rfl) fun _ _ _ => rfl

theorem keeps_arrange (p : Project) (d : Declaration) : Keeps (arrange p d) := by
  unfold arrange
  refine Keeps.bind (fun _ _ => rfl) fun _ => Keeps.bind (fun _ _ => rfl) fun _ => ?_
  exact Keeps.bind (fun _ _ => rfl) fun _ _ _ => rfl

/-- Installing always ends well. The set counts as empty if its file can have no
such path. -/
theorem install_eq (specs : List Spec) (t : Session) (w : World) :
    ∃ found : NameSet, (install stateFile specs t w).1 = (.ok found, t.supplied specs) ∧
      (found = t.installer.installed.adding (specs.filterMap desiredName?) ∨ found = []) := by
  have hs := reconcile_session specs t w
  have hok : ∀ e, (reconcile specs t w).1.1 = .error e → isNoted e = true := by
    intro e he
    rcases reconcile_result specs t w with h | h <;> rw [h] at he <;> cases he
    decide
  have hr := recoveredIf_ok hok
  unfold install raising
  rw [Using.bind_apply, Using.adapt_apply]
  simp only [stateFile, hr]
  rcases reconcile_result specs t w with h | h
  · refine ⟨_, ?_, Or.inl rfl⟩
    rw [h, hs]
    rfl
  · refine ⟨[], ?_, Or.inr rfl⟩
    rw [h, hs]
    rfl

/-- A cleanup that is registered before the first load waits for it. -/
theorem registerCleanup_waiting {t : Session} (ht : t.installer.loaded = false) (number : Nat)
    (specs : List Spec) (found : NameSet) (w : World) :
    registerCleanup stateFile number specs found t w =
      ((.ok (), t.awaiting (.cleanup number specs found)), w) := by
  unfold registerCleanup raising
  rw [Using.bind_apply, Using.adapt_apply]
  simp only [stateFile]
  rw [recoveredIf_apply, register_of_waiting w ht]
  rfl

/-- A cleanup that is registered later takes place at once. -/
theorem registerCleanup_of_fire {t t' : Session} (ht : t.installer.loaded = true) {number : Nat}
    {specs : List Spec} {found : NameSet} {w w' : World}
    (h : fire remove (.cleanup number specs found) t w = ((.ok (), t'), w')) :
    registerCleanup stateFile number specs found t w = ((.ok (), t'), w') := by
  unfold registerCleanup raising
  rw [Using.bind_apply, Using.adapt_apply]
  simp only [stateFile]
  rw [recoveredIf_apply, register_of_loaded w ht, h]
  rfl

theorem registerCleanup_loaded {t : Session} (ht : t.installer.loaded = true) {number : Nat}
    (hn : number ∉ t.cleaned) (specs : List Spec) (found : NameSet) (w : World) :
    ∃ os : List Outcome, (registerCleanup stateFile number specs found t w).1 =
      (.ok (), (t.without (plan found (desired specs))).settled [(number, os)]) := by
  obtain ⟨os, hos⟩ := fire_cleanup_eq hn specs found w
  exact ⟨os, by rw [registerCleanup_of_fire ht (Prod.ext hos rfl)]⟩

/-- Registering a cleanup always ends well. -/
theorem registerCleanup_ok (number : Nat) (specs : List Spec) (found : NameSet) (t : Session)
    (w : World) : (registerCleanup stateFile number specs found t w).1.1 = .ok () := by
  by_cases ht : t.installer.loaded = true
  · by_cases hn : number ∈ t.cleaned
    · rw [registerCleanup_of_fire ht (fire_cleanup_of_cleaned hn specs found w)]
    · obtain ⟨os, hos⟩ := registerCleanup_loaded ht hn specs found w
      rw [hos]
  · rw [registerCleanup_waiting (by simpa using ht)]

/-! ## Runs -/

/-- What a run has made, given what its documents declare. -/
def Declaration.context (d : Declaration) (number : Nat) (associations : Association.Map)
    (plan : Schedule.Plan) (found : NameSet) : Context :=
  ⟨number, d.documents, d.blocks, d.classified, d.changes, plan.specs, d.entries, associations,
    plan.immediate, found, desired plan.specs⟩

/-- What a run does behind its stages that may end it. -/
theorem run_of_arranged {p : Project} (hp : p.installer = stateFile) {t : Session}
    {w w₁ w₂ : World} {d : Declaration} {associations : Association.Map} {plan : Schedule.Plan}
    (hd : declare p t.numbered w = ((.ok d, t.numbered), w₁))
    (ha : arrange p d t.numbered w₁ = ((.ok (associations, plan), t.numbered), w₂)) :
    ∃ (found : NameSet) (w₃ : World) (t₄ : Session) (w₄ : World),
      install stateFile plan.specs t.numbered (Removal.desiredSet plan.specs w₂).2 =
        ((.ok found, t.numbered.supplied plan.specs), w₃) ∧
      registerCleanup stateFile t.runs plan.specs found (t.numbered.supplied plan.specs) w₃ =
        ((.ok (), t₄), w₄) ∧
      p.run t w = match Schedule.execute p.host plan.immediate w₄ with
        | (.ok _, w₅) => ((.ok (d.context t.runs associations plan found), t₄),
            (note .info logSource "Done loading config" false w₅).2)
        | (.error e, w₅) => ((.error (.raised e), t₄), w₅) := by
  obtain ⟨found, hi, -⟩ := install_eq plan.specs t.numbered (Removal.desiredSet plan.specs w₂).2
  rcases hi' : install stateFile plan.specs t.numbered (Removal.desiredSet plan.specs w₂).2
    with ⟨r, w₃⟩
  rw [hi'] at hi
  obtain rfl : r = _ := hi
  have hc := registerCleanup_ok t.runs plan.specs found (t.numbered.supplied plan.specs) w₃
  rcases hc' : registerCleanup stateFile t.runs plan.specs found
    (t.numbered.supplied plan.specs) w₃ with ⟨⟨r, t₄⟩, w₄⟩
  rw [hc'] at hc
  obtain rfl : r = _ := hc
  refine ⟨found, w₃, t₄, w₄, rfl, hc', ?_⟩
  unfold run newNumber
  simp only [bind_assoc, Using.getState_bind, Using.modifyState_bind, pure_bind, hp]
  refine (Using.bind_of_ok hd _).trans ((Using.bind_of_ok ha _).trans ?_)
  rw [Using.act_bind, Using.bind_of_ok hi']
  refine (Using.bind_of_ok hc' _).trans ?_
  unfold raising
  rw [Using.bind_apply, Using.adapt_apply, Using.lift_apply]
  rcases Schedule.execute p.host plan.immediate w₄ with ⟨e | os, w₅⟩ <;> rfl

/-- **The course of a run.** A run that ends before it installs anything has only
used up a number. Any other run has installed what it declares and registered its
cleanup, and ends as the entries that run at once end. -/
theorem run_eq {p : Project} (hp : p.installer = stateFile) (t : Session) (w : World) :
    (∃ e w', p.run t w = ((.error e, t.numbered), w')) ∨
    ∃ (d : Declaration) (w₁ : World) (associations : Association.Map) (plan : Schedule.Plan)
      (w₂ : World) (found : NameSet) (w₃ : World) (t₄ : Session) (w₄ : World),
      declare p t.numbered w = ((.ok d, t.numbered), w₁) ∧
      arrange p d t.numbered w₁ = ((.ok (associations, plan), t.numbered), w₂) ∧
      install stateFile plan.specs t.numbered (Removal.desiredSet plan.specs w₂).2 =
        ((.ok found, t.numbered.supplied plan.specs), w₃) ∧
      registerCleanup stateFile t.runs plan.specs found (t.numbered.supplied plan.specs) w₃ =
        ((.ok (), t₄), w₄) ∧
      p.run t w = match Schedule.execute p.host plan.immediate w₄ with
        | (.ok _, w₅) => ((.ok (d.context t.runs associations plan found), t₄),
            (note .info logSource "Done loading config" false w₅).2)
        | (.error e, w₅) => ((.error (.raised e), t₄), w₅) := by
  obtain ⟨f, hrun, hf⟩ : ∃ f : Declaration → Stage Context,
      p.run t w = (declare p >>= f) t.numbered w ∧ ∀ d, ∃ g, f d = arrange p d >>= g := by
    refine ⟨?stages, ?run, ?rest⟩
    case run =>
      unfold run newNumber
      simp only [bind_assoc, Using.getState_bind, Using.modifyState_bind, pure_bind]
      rfl
    case rest => exact fun d => ⟨_, rfl⟩
  rcases (keeps_declare p).bind_cases f t.numbered w with ⟨e, w', -, h⟩ | ⟨d, w₁, hd, h⟩
  · exact Or.inl ⟨e, w', hrun.trans h⟩
  obtain ⟨g, hg⟩ := hf d
  rw [hg] at h
  rcases (keeps_arrange p d).bind_cases g t.numbered w₁
    with ⟨e, w', -, h'⟩ | ⟨⟨associations, plan⟩, w₂, ha, -⟩
  · exact Or.inl ⟨e, w', hrun.trans (h.trans h')⟩
  obtain ⟨found, w₃, t₄, w₄, hi, hc, hrest⟩ := run_of_arranged hp hd ha
  exact Or.inr ⟨d, w₁, associations, plan, w₂, found, w₃, t₄, w₄, hd, ha, hi, hc, hrest⟩

/-! ## Sessions between operations -/

/-- What holds of a session between operations: cleanups that wait belong to
different runs and have not been done, and after the first load none waits. -/
structure Sound (t : Session) : Prop where
  waits : ∀ c ∈ t.installer.pending, ∃ run, c.run? = some run ∧ run < t.runs ∧ run ∉ t.cleaned
  nodup : (t.installer.pending.filterMap Callback.run?).Nodup
  done : ∀ run ∈ t.cleaned, run < t.runs
  loaded : t.installer.loaded = true → t.installer.pending = []

theorem sound_fresh {path : Option Files.Path} {w : World} {i : State}
    (h : (State.new path w).1 = .ok i) : Sound (Session.fresh i) := by
  have hi : i.pending = [] := by
    cases path with
    | none => cases h; rfl
    | some p =>
      obtain ⟨names, w₁, -, h'⟩ := Try.of_bind_ok (Prod.ext h rfl : State.new (some p) w = (_, _))
      cases h'
      rfl
  refine ⟨?_, ?_, ?_, fun _ => hi⟩
  · intro c hc
    rw [show (Session.fresh i).installer.pending = [] from hi] at hc
    cases hc
  · rw [show (Session.fresh i).installer.pending = [] from hi]
    exact List.nodup_nil
  · intro run hrun
    cases hrun

/-- **What a run makes of a session**: it has used up a number, or it has its
components installed and its cleanup waiting, or done if there was a load already. -/
theorem run_session {p : Project} (hp : p.installer = stateFile) {t : Session} (ht : Sound t)
    (w : World) :
    ((∃ e, (p.run t w).1.1 = .error e) ∧ (p.run t w).1.2 = t.numbered) ∨
    ∃ (specs : List Spec) (found : NameSet),
      (∀ c, (p.run t w).1.1 = .ok c → c.number = t.runs ∧ c.specs = specs ∧
        c.desired = desired specs) ∧
      ((t.installer.loaded = false ∧ (p.run t w).1.2 =
          (t.numbered.supplied specs).awaiting (.cleanup t.runs specs found)) ∨
        (t.installer.loaded = true ∧ ∃ os, (p.run t w).1.2 =
          ((t.numbered.supplied specs).without (plan found (desired specs))).settled
            [(t.runs, os)])) := by
  rcases run_eq hp t w with ⟨e, w', h⟩ | ⟨d, w₁, associations, plan, w₂, found, w₃, t₄, w₄, -, -,
    -, hc, h⟩
  · rw [h]
    exact Or.inl ⟨⟨e, rfl⟩, rfl⟩
  right
  have ht₄ : (p.run t w).1.2 = t₄ := by
    rw [h]
    split <;> rfl
  refine ⟨plan.specs, found, ?_, ?_⟩
  · intro c hok
    rw [h] at hok
    split at hok <;> cases hok
    exact ⟨rfl, rfl, rfl⟩
  · cases hl : t.installer.loaded with
    | false =>
      have hc' := registerCleanup_waiting (t := t.numbered.supplied plan.specs) hl t.runs
        plan.specs found w₃
      rw [hc] at hc'
      cases hc'
      exact Or.inl ⟨rfl, ht₄⟩
    | true =>
      have hn : t.runs ∉ (t.numbered.supplied plan.specs).cleaned :=
        fun hmem => Nat.lt_irrefl _ (ht.done _ hmem)
      obtain ⟨os, hos⟩ := registerCleanup_loaded (t := t.numbered.supplied plan.specs) hl hn
        plan.specs found w₃
      rw [hc] at hos
      cases hos
      exact Or.inr ⟨rfl, os, ht₄⟩

theorem Sound.run {p : Project} (hp : p.installer = stateFile) {t : Session} (ht : Sound t)
    (w : World) : Sound (p.run t w).1.2 := by
  rcases run_session hp ht w with ⟨-, h⟩ | ⟨specs, found, -, ⟨hl, h⟩ | ⟨hl, os, h⟩⟩ <;> rw [h]
  · refine ⟨fun c hc => ?_, ht.nodup, fun run hrun => Nat.lt_succ_of_lt (ht.done run hrun), ht.loaded⟩
    obtain ⟨run, hr, hlt, hnew⟩ := ht.waits c hc
    exact ⟨run, hr, Nat.lt_succ_of_lt hlt, hnew⟩
  · refine ⟨fun c hc => ?_, ?_, fun run hrun => Nat.lt_succ_of_lt (ht.done run hrun), ?_⟩
    · rcases List.mem_append.1 hc with hc | hc
      · obtain ⟨run, hr, hlt, hnew⟩ := ht.waits c hc
        exact ⟨run, hr, Nat.lt_succ_of_lt hlt, hnew⟩
      · obtain rfl := List.mem_singleton.1 hc
        exact ⟨t.runs, rfl, Nat.lt_succ_self _, fun hmem => Nat.lt_irrefl _ (ht.done _ hmem)⟩
    · show ((t.installer.pending ++ [Callback.cleanup t.runs specs found]).filterMap
        Callback.run?).Nodup
      rw [List.filterMap_append]
      refine List.nodup_append.2 ⟨ht.nodup, by simp [Callback.run?], ?_⟩
      intro run hrun run' hrun' heq
      obtain ⟨c, hc, hr⟩ := List.mem_filterMap.1 hrun
      obtain ⟨run₁, hr₁, hlt, -⟩ := ht.waits c hc
      obtain rfl : run = run₁ := Option.some.inj (hr.symm.trans hr₁)
      obtain rfl : run' = t.runs := List.mem_singleton.1 hrun'
      omega
    · intro hl'
      rw [show t.installer.loaded = true from hl'] at hl
      cases hl
  · have hnil : t.installer.pending = [] := ht.loaded hl
    refine ⟨fun c hc => ?_, ht.nodup, ?_, fun _ => hnil⟩
    · have hc' : c ∈ t.installer.pending := hc
      rw [hnil] at hc'
      cases hc'
    · intro run hrun
      rcases List.mem_cons.1 hrun with rfl | hrun
      · exact Nat.lt_succ_self _
      · exact Nat.lt_succ_of_lt (ht.done run hrun)

/-- At the end of the first load every cleanup that waits takes place; later there is
none. -/
theorem completeLoad_eq {t : Session} (ht : Sound t) (w : World) :
    ∃ done : List (Nat × List Outcome),
      done.map Prod.fst = (t.installer.pending.filterMap Callback.run?).reverse ∧
      (completeLoad remove t w).1 = (.ok (), t.completed done) := by
  by_cases hl : t.installer.loaded = true
  · have hnil := ht.loaded hl
    refine ⟨[], by rw [hnil]; rfl, ?_⟩
    have hsame : t.completed [] = t := by
      rcases t with ⟨⟨path, names, pending, loaded⟩, runs, cleanups, asked⟩
      obtain rfl : pending = [] := hnil
      obtain rfl : loaded = true := hl
      simp [Session.completed, Session.without_nil, Session.settled, Session.withInstaller]
    rw [completeLoad_of_loaded w hl, hsame]
  · rw [completeLoad_of_waiting w (eq_false_of_ne_true hl)]
    obtain ⟨done, hdone, heq⟩ := fireEach_eq t.installer.pending
      t.released w
      (fun c hc => by
        obtain ⟨run, hr, -, hnew⟩ := ht.waits c hc
        exact ⟨run, hr, hnew⟩)
      ht.nodup
    exact ⟨done, hdone, heq⟩

/-- When the setup is done a load ends the first load. -/
theorem loadAll_of_loadEach {specs : List Spec} {w w' : World}
    (h : loadEach specs w = (.ok (), w')) (t : Session) :
    loadAll remove specs t w = completeLoad remove t w' := by
  unfold loadAll
  refine Using.bind_of_ok (a := ()) ?_ _
  rw [Using.lift_apply, h]

/-- **What a load makes of a session**: nothing, if it ends with an error; otherwise
every cleanup that waits takes place. After the first load none waits. -/
theorem loadAll_cases {t : Session} (ht : Sound t) (specs : List Spec) (w : World) :
    ((∃ e, (loadAll remove specs t w).1.1 = .error e) ∧ (loadAll remove specs t w).1.2 = t) ∨
    ∃ done : List (Nat × List Outcome),
      done.map Prod.fst = (t.installer.pending.filterMap Callback.run?).reverse ∧
      (loadAll remove specs t w).1 = (.ok (), t.completed done) := by
  unfold loadAll
  rcases (keeps_lift (loadEach specs)).bind_cases _ t w with ⟨e, w', -, h⟩ | ⟨u, w', -, h⟩ <;> rw [h]
  · exact Or.inl ⟨⟨e, rfl⟩, rfl⟩
  · exact Or.inr (completeLoad_eq ht w')

theorem Sound.completed {t : Session} (ht : Sound t) {done : List (Nat × List Outcome)}
    (hdone : done.map Prod.fst = (t.installer.pending.filterMap Callback.run?).reverse) :
    Sound (t.completed done) := by
  refine ⟨fun c hc => ?_, List.nodup_nil, fun run hrun => ?_, fun _ => rfl⟩
  · cases hc
  · rw [Session.cleaned_completed, hdone, List.mem_append, List.mem_reverse,
      List.mem_filterMap] at hrun
    rcases hrun with ⟨c, hc, hr⟩ | hrun
    · obtain ⟨run', hr', hlt, -⟩ := ht.waits c hc
      obtain rfl : run = run' := Option.some.inj (hr.symm.trans hr')
      exact hlt
    · exact ht.done run hrun

theorem Sound.load {t : Session} (ht : Sound t) (specs : List Spec) (w : World) :
    Sound (loadAll remove specs t w).1.2 := by
  rcases loadAll_cases ht specs w with ⟨-, h⟩ | ⟨done, hdone, h⟩
  · rw [h]
    exact ht
  · rw [h]
    exact ht.completed hdone

/-! ## Histories -/

/-- Something that is done with one installer, in a world of its own. -/
inductive Operation where
  | run (p : Project) (w : World)
  | load (specs : List Spec) (w : World)

/-- The session after an operation, however that ends. -/
def Operation.apply (t : Session) : Operation → Session
  | .run p w => (Project.run { p with installer := stateFile } t w).1.2
  | .load specs w => (loadAll remove specs t w).1.2

/-- The session after operations, one after the other. -/
def after (os : List Operation) (t : Session) : Session := os.foldl Operation.apply t

theorem after_nil (t : Session) : after [] t = t := rfl

theorem after_cons (o : Operation) (os : List Operation) (t : Session) :
    after (o :: os) t = after os (o.apply t) := rfl

theorem sound_after (os : List Operation) {t : Session} (ht : Sound t) : Sound (after os t) := by
  induction os generalizing t with
  | nil => exact ht
  | cons o rest ih =>
    rw [after_cons]
    cases o with
    | run p w => exact ih (ht.run (p := { p with installer := stateFile }) rfl w)
    | load specs w => exact ih (ht.load specs w)

theorem loaded_apply (o : Operation) {t : Session} (ht : Sound t) (hl : t.installer.loaded = true) :
    (o.apply t).installer.loaded = true := by
  cases o with
  | run p w =>
    rcases run_session (p := { p with installer := stateFile }) rfl ht w
      with ⟨-, h⟩ | ⟨specs, found, -, ⟨hl', -⟩ | ⟨-, os, h⟩⟩
    · exact (congrArg (fun t => t.installer.loaded) h).trans hl
    · rw [hl] at hl'
      cases hl'
    · exact (congrArg (fun t => t.installer.loaded) h).trans hl
  | load specs w =>
    rcases loadAll_cases ht specs w with ⟨-, h⟩ | ⟨done, -, h⟩
    · exact (congrArg (fun t => t.installer.loaded) h).trans hl
    · exact congrArg (fun r => r.2.installer.loaded) h

/-- Once a load is complete, no cleanup ever waits. -/
theorem pending_after_load {t : Session} (ht : Sound t) {specs : List Spec} {w : World}
    (hok : (loadAll remove specs t w).1.1 = .ok ()) (later : List Operation) :
    (after later (loadAll remove specs t w).1.2).installer.pending = [] := by
  have hl : (loadAll remove specs t w).1.2.installer.loaded = true := by
    rcases loadAll_cases ht specs w with ⟨⟨e, he⟩, -⟩ | ⟨done, -, h⟩
    · rw [hok] at he
      cases he
    · rw [h]
      rfl
  suffices h : ∀ (os : List Operation) (t : Session), Sound t → t.installer.loaded = true →
      (after os t).installer.loaded = true from
    (sound_after later (ht.load specs w)).loaded (h later _ (ht.load specs w) hl)
  intro os
  induction os with
  | nil => exact fun t _ hl => hl
  | cons o rest ih => exact fun t ht hl => ih _ (sound_after [o] ht) (loaded_apply o ht hl)

/-- However many loads come before it, a load that is complete takes away what the
cleanups that waited planned, and nothing else. -/
theorem installed_after_loads {t : Session} (ht : Sound t) (loads : List (List Spec × World))
    {specs : List Spec} {w : World}
    (hok : (loadAll remove specs (after (loads.map fun l => .load l.1 l.2) t) w).1.1 = .ok ()) :
    (loadAll remove specs (after (loads.map fun l => .load l.1 l.2) t) w).1.2.installer.installed =
      t.installer.installed.without (t.installer.pending.flatMap Callback.removals) := by
  induction loads generalizing t with
  | nil =>
    rcases loadAll_cases ht specs w with ⟨⟨e, he⟩, -⟩ | ⟨done, -, h⟩
    · rw [show (loadAll remove specs t w).1.1 = .ok () from hok] at he
      cases he
    · show (loadAll remove specs t w).1.2.installer.installed = _
      rw [h]
      rfl
  | cons l rest ih =>
    rcases loadAll_cases ht l.1 l.2 with ⟨-, h⟩ | ⟨done, hdone, h⟩
    · have hstep : (Operation.load l.1 l.2).apply t = t := h
      rw [List.map_cons, after_cons, hstep] at hok ⊢
      exact ih ht hok
    · have hstep : (Operation.load l.1 l.2).apply t = t.completed done := congrArg Prod.snd h
      rw [List.map_cons, after_cons, hstep] at hok ⊢
      rw [ih (ht.completed hdone) hok]
      exact NameSet.without_nil _

/-! ## What the last run declares -/

/-- **Which components of the last run stay.** After any operations on a new
installer, let a run end well, let any loads follow, and let one more load be
complete. A name that the run declares is then in the set exactly if no cleanup that
waited when the run began plans to take it away: such a cleanup is that of an earlier
run which found the name but did not declare it. -/
theorem mem_installed_iff {path : Option Files.Path} {w₀ : World} {i : State}
    (hi : (State.new path w₀).1 = .ok i) (before : List Operation)
    {p : Project} (hp : p.installer = stateFile) {w : World} {c : Context}
    (hrun : (p.run (after before (.fresh i)) w).1.1 = .ok c)
    (loads : List (List Spec × World)) (specs : List Spec) (w₂ : World)
    (hload : (loadAll remove specs (after (loads.map fun l => .load l.1 l.2)
      (p.run (after before (.fresh i)) w).1.2) w₂).1.1 = .ok ())
    {k : String} (hk : k ∈ c.desired) :
    k ∈ (loadAll remove specs (after (loads.map fun l => .load l.1 l.2)
        (p.run (after before (.fresh i)) w).1.2) w₂).1.2.installer.installed ↔
      ∀ cb ∈ (after before (.fresh i)).installer.pending, k ∉ cb.removals := by
  have ht := sound_after before (sound_fresh hi)
  rw [installed_after_loads (ht.run hp w) loads hload, NameSet.mem_without, List.mem_flatMap]
  rcases run_session hp ht w with ⟨⟨e, he⟩, -⟩ | ⟨specs', found, hc, hcases⟩
  · rw [hrun] at he
    cases he
  obtain ⟨-, -, hdesired⟩ := hc c hrun
  rw [hdesired] at hk
  have hown : k ∉ plan found (desired specs') := fun h => (mem_plan.1 h).2.2 hk
  have hheld : k ∈ ((after before (.fresh i)).numbered.supplied specs').installer.installed :=
    NameSet.mem_adding.2 (Or.inr (Removal.mem_desired.1 hk))
  rcases hcases with ⟨-, h⟩ | ⟨hl, os, h⟩ <;> rw [h]
  · constructor
    · rintro ⟨-, hnone⟩ cb hcb hmem
      exact hnone ⟨cb, List.mem_append_left _ hcb, hmem⟩
    · rintro hnone
      refine ⟨hheld, ?_⟩
      rintro ⟨cb, hcb, hmem⟩
      rcases List.mem_append.1 hcb with hcb | hcb
      · exact hnone cb hcb hmem
      · obtain rfl := List.mem_singleton.1 hcb
        exact hown hmem
  · have hnil := ht.loaded hl
    constructor
    · intro _ cb hcb
      rw [hnil] at hcb
      cases hcb
    · intro _
      refine ⟨NameSet.mem_without.2 ⟨hheld, hown⟩, ?_⟩
      rintro ⟨cb, hcb, -⟩
      have hcb' : cb ∈ (after before (.fresh i)).installer.pending := hcb
      rw [hnil] at hcb'
      cases hcb'

/-- A directory with one document, and `b/b` installed. -/
def sampleWorld (document : String) : World where
  machine := ⟨.empty, ""⟩
  disk := {
    entries := [(["p"], .directory), (["p", "d.md"], .file document.toUTF8),
      (["p", ".mdconf"], .directory),
      (["p", ".mdconf", "installed.json"], .file (Json.print (stateData ["b/b"])).toUTF8)]
    here := ⟨1, []⟩
    home := ⟨1, []⟩ }
  threshold := .info
  records := []
  logFile := none

def sampleProject : Project := ⟨.usual ⟨1, ["p"]⟩, .empty, stateFile, []⟩

/-- The document first declares `a/a` alone, and then `b/b` alone. -/
def firstWorld : World := sampleWorld "```python\nspec = ['a/a']\n```\n"

def secondWorld : World := sampleWorld "```python\nspec = ['b/b']\n```\n"

def sampleState : State :=
  (State.new (some sampleProject.settings.installedPath) firstWorld).1.toOption.getD
    ⟨none, [], [], false⟩

theorem new_sampleState :
    (State.new (some sampleProject.settings.installedPath) firstWorld).1 = .ok sampleState := by
  obtain ⟨i, h⟩ := exists_of_isOk (show
    (State.new (some sampleProject.settings.installedPath) firstWorld).1.isOk = true by
      decide +kernel)
  rw [sampleState, h]
  rfl

/-- Two runs before the first load: the cleanup of the first one takes away what the
second one declares. -/
theorem not_mem_installed_sample :
    ∃ c, (sampleProject.run (after [.run sampleProject firstWorld] (.fresh sampleState))
        secondWorld).1.1 = .ok c ∧ "b/b" ∈ c.desired ∧
      "b/b" ∉ (loadAll remove [] (sampleProject.run
        (after [.run sampleProject firstWorld] (.fresh sampleState)) secondWorld).1.2
          secondWorld).1.2.installer.installed := by
  obtain ⟨c, hc⟩ := exists_of_isOk (show (sampleProject.run
    (after [.run sampleProject firstWorld] (.fresh sampleState)) secondWorld).1.1.isOk = true by
      decide +kernel)
  have hdesired : ((sampleProject.run (after [.run sampleProject firstWorld] (.fresh sampleState))
      secondWorld).1.1.toOption.map Context.desired) = some ["b/b"] := by decide +kernel
  have hk : "b/b" ∈ c.desired := by
    rw [hc] at hdesired
    rw [Option.some.inj hdesired]
    exact List.mem_singleton.2 rfl
  obtain ⟨u, hload⟩ := exists_of_isOk (show (loadAll remove [] (sampleProject.run
    (after [.run sampleProject firstWorld] (.fresh sampleState)) secondWorld).1.2
      secondWorld).1.1.isOk = true by decide +kernel)
  have hwaits : ∃ cb ∈ (after [.run sampleProject firstWorld] (.fresh sampleState)).installer.pending,
      "b/b" ∈ cb.removals := by
    rw [← List.mem_flatMap]
    decide +kernel
  have hiff :=
    mem_installed_iff new_sampleState [.run sampleProject firstWorld] rfl hc [] [] secondWorld
  rw [List.map_nil, after_nil] at hiff
  refine ⟨c, hc, hk, fun hin => ?_⟩
  obtain ⟨cb, hcb, hmem⟩ := hwaits
  exact (hiff hload hk).1 hin cb hcb hmem

end LiterateConfig.Project
