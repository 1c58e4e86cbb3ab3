import LiterateConfig.Proofs.Calls
import LiterateConfig.Proofs.ChangeReports
import LiterateConfig.Proofs.Isolation
import LiterateConfig.Proofs.Partition

/-!
# What a run recovers from

Once the documents are read, a run is meant to end well whatever its blocks do and
whatever its files hold. Three things still end it: a state directory with a name that no
file can have, a ledger that is nested too deeply to be read, and a value without a
text where building asks for one. The file of the installer, deciding what runs when, and
the entries that run at once end no run.

**Stages.** `Settles t w q P x` says of a stage of a run what `Ends` says of an action on
the machine: from the session `t` and the world `w` it ends well exactly if `q`.

Results:
* `isOk_saveJson`, `isOk_detect`: which files can end a run;
* `plan_returns`, `arrange_returns`: deciding what runs when always ends well;
* `settles_declare`: what reading the documents comes down to;
* `run_returns_iff`: when a run ends well.
-/
namespace LiterateConfig

open LiterateConfig.Component (AllLegible Spec asking)
open LiterateConfig.Files (Disk Path)
open LiterateConfig.Install
open LiterateConfig.Script (Eval Heap Machine Raised Value)

/-! ## Names that no file can have -/

/-- Relative paths are seen from the same directory. -/
def SameHere (w w' : World) : Prop := w'.disk.here = w.disk.here

theorem quiet_sameHere : Quiet SameHere where
  refl _ := rfl
  trans h h' := Eq.trans h' h
  write w r := here_write w r

theorem saves_sameHere : Saves SameHere := fun w p text => (Disk.grows_saveText w.disk p text).here

theorem evaluates_sameHere : Evaluates SameHere := fun _ _ => rfl

/-- Neither the machine has changed nor where paths are seen from. -/
def SameGround (w w' : World) : Prop := SameMachine w w' ∧ SameHere w w'

theorem quiet_sameGround : Quiet SameGround where
  refl w := ⟨quiet_sameMachine.refl w, quiet_sameHere.refl w⟩
  trans h h' := ⟨quiet_sameMachine.trans h.1 h'.1, quiet_sameHere.trans h.2 h'.2⟩
  write w r := ⟨quiet_sameMachine.write w r, quiet_sameHere.write w r⟩

theorem saves_sameGround : Saves SameGround :=
  fun w p text => ⟨saves_sameMachine w p text, saves_sameHere w p text⟩

theorem nameable_congr {w w' : World} (h : SameHere w w') (p : Path) :
    Nameable p w' ↔ Nameable p w :=
  ⟨fun hp => Disk.locate_ne_nullInName hp (Eq.symm h) rfl fun _ hn => hn,
    fun hp => Disk.locate_ne_nullInName hp h rfl fun _ hn => hn⟩

theorem nameable_child {name : String} (hname : name.toList.contains (Char.ofNat 0) = false)
    {dir : Path} {w : World} : Nameable (dir.child name) w ↔ Nameable dir w := by
  unfold Nameable
  rw [not_iff_not, Disk.locate_eq_nullInName, Disk.locate_eq_nullInName, Path.parts_join_child]
  constructor
  · rintro ⟨n, hn, h⟩
    rcases List.mem_append.1 hn with hn | hn
    · exact ⟨n, hn, h⟩
    · rw [List.mem_singleton.1 hn, hname] at h
      cases h
  · rintro ⟨n, hn, h⟩
    exact ⟨n, List.mem_append_left _ hn, h⟩

/-- **Saving a file** ends well exactly if its directory can have files. -/
theorem isOk_saveJson {name : String} (hname : name.toList.contains (Char.ofNat 0) = false)
    (source : Log.Source) (what : String) (told : Option String) (dir : Path) (data : Json.Data)
    (w : World) :
    (saveJson source what told (dir.child name) data w).1.isOk = true ↔ Nameable dir w := by
  unfold saveJson
  simp only [Try.getWorld_bind, Try.modifyWorld_bind]
  by_cases hw : Nameable dir w
  · have hn := Disk.saveText_ne_nullInName ((nameable_child hname).2 hw) (Json.print data)
    refine iff_of_true ?_ hw
    rcases hs : w.disk.saveText (dir.child name) (Json.print data) with ⟨e | _, d⟩
    · rw [hs] at hn
      cases e with
      | nullInName => exact absurd rfl hn
      | _ => rfl
    · cases told <;> rfl
  · rw [Disk.saveText_eq_nullInName (not_not.1 hw)]
    exact iff_of_false Bool.false_ne_true hw

/-! ## The ledger -/

/-- **Detecting changes** ends well exactly if the ledger is not nested too deeply and its
directory can have files. -/
theorem Ledger.isOk_detect {name : String}
    (hname : name.toList.contains (Char.ofNat 0) = false) (dir : Path) (blocks : List Block)
    (w : World) : (Ledger.detect (dir.child name) blocks w).1.isOk = true ↔
      Ledger.held (w.disk.readText (dir.child name)) ≠ none ∧ Nameable dir w := by
  have hcompare := Ledger.compare_fst (dir.child name) blocks w
  have hhere := Ledger.moves_compare quiet_sameHere (dir.child name) blocks w
  unfold Ledger.detect
  rw [Try.bind_apply]
  rcases hr : Ledger.compare (dir.child name) blocks w with ⟨r, w₁⟩
  rw [hr] at hcompare hhere
  dsimp only at hcompare
  subst hcompare
  cases Ledger.held (w.disk.readText (dir.child name)) with
  | none => exact iff_of_false Bool.false_ne_true fun h => h.1 rfl
  | some hs =>
    simp only [Try.act_bind]
    unfold Ledger.save
    rw [Try.isOk_bind_pure, Try.isOk_adapt, isOk_saveJson hname]
    have hnoted : ∀ (f g : Int → String) (is js : List Int) (w : World),
        SameHere w (Ledger.noteIndices g js (Ledger.noteIndices f is w).2).2 := fun f g is js w =>
      quiet_sameHere.trans (Ledger.moves_noteIndices quiet_sameHere f is w)
        (Ledger.moves_noteIndices quiet_sameHere g js _)
    rw [nameable_congr (quiet_sameHere.trans hhere (hnoted _ _ _ _ _))]
    simp

/-! ## Deciding what runs when -/

namespace Schedule

variable (host : Script.Host) (keys : Pattern.Node) {m : Association.Map}

theorem plan_returns {entries : List Entry}
    (htext : ∀ e ∈ entries, ∀ i, m.get? e.index = some i → e.text?.isSome = true)
    (specs : List Spec) (w : World) :
    ∃ pl w', plan host keys specs entries m w = (.ok pl, w') := by
  have hready : ∀ e ∈ entries, ∀ i, component? keys m e = some i →
      e.body.Ready w.machine.heap := by
    intro e he i hc
    exact Entry.ready_of_isSome_text? (htext e he i (get?_of_component? hc)) _
  obtain ⟨-, pl, w', hpl, -⟩ | ⟨hq, -⟩ := ends_plan host hready specs rfl w rfl
  · exact ⟨pl, w', hpl⟩
  · exact absurd trivial hq

variable {host} {keys}

/-- What runs at once has been declared, if it calls anything. -/
theorem Plan.Follows.ready {specs : List Spec} {entries : List Entry} {gs : List (List Waiting)}
    {pl : Plan} (h : pl.Follows host keys m specs entries gs) {heap : Heap}
    (hready : ∀ e ∈ entries, e.body.Ready heap) : ∀ e ∈ pl.immediate, e.body.Ready heap := by
  intro e he
  cases hb : e.body with
  | table v =>
    have hruns : e.runs host = true := by simp [Entry.runs, Entry.call?, hb]
    have hmem := h.perm.mem_iff.1 (List.mem_append_left _ (List.mem_filter.2 ⟨he, hruns⟩))
    rw [← hb]
    exact hready e (List.mem_filter.1 hmem).1
  | _ => trivial

end Schedule

/-! ## Stages -/

namespace Project

/-- From a session and a world the stage ends well exactly if `q`. It leaves the session
alone, and if it ends well, `P` holds of what it yields and of the world. -/
def Settles {α : Type} (t : Session) (w : World) (q : Prop) (P : α → World → Prop) (x : Stage α) :
    Prop :=
  (q ∧ ∃ a w', x t w = ((.ok a, t), w') ∧ P a w') ∨ (¬ q ∧ ∃ e w', x t w = ((.error e, t), w'))

namespace Settles

variable {α β ε : Type} {t : Session} {w : World} {q q' : Prop} {P : α → World → Prop}
  {Q : β → World → Prop}

theorem congr {x : Stage α} (h : Settles t w q P x) (hq : q ↔ q') : Settles t w q' P x :=
  propext hq ▸ h

theorem bind {x : Stage α} {f : α → Stage β} (hx : Settles t w q P x)
    (hf : ∀ a w', P a w' → Settles t w' q' Q (f a)) : Settles t w (q ∧ q') Q (x >>= f) := by
  unfold Settles
  rw [Using.bind_apply]
  obtain ⟨hq, a, w₁, ha, hP⟩ | ⟨hq, e, w₁, he⟩ := hx
  · rw [ha]
    obtain ⟨hq', h⟩ | ⟨hq', h⟩ := hf a w₁ hP
    · exact Or.inl ⟨⟨hq, hq'⟩, h⟩
    · exact Or.inr ⟨fun h => hq' h.2, h⟩
  · rw [he]
    exact Or.inr ⟨fun h => hq h.1, e, w₁, rfl⟩

theorem act {y : Act α} {f : α → Stage β} (h : Settles t (y w).2 q Q (f (y w).1)) :
    Settles t w q Q ((liftM y : Stage α) >>= f) := h

theorem bind_of_ok {x : Stage α} {w₁ : World} {a : α} (hx : x t w = ((.ok a, t), w₁))
    {f : α → Stage β} (hf : Settles t w₁ q Q (f a)) : Settles t w q Q (x >>= f) := by
  unfold Settles
  rw [Using.bind_of_ok hx]
  exact hf

/-- What comes next always ends well. -/
theorem map {x : Stage α} {f : α → Stage β} (hx : Settles t w q P x)
    (hf : ∀ a w', P a w' → Settles t w' True Q (f a)) : Settles t w q Q (x >>= f) :=
  (hx.bind hf).congr (and_iff_left trivial)

theorem pure {a : α} (h : P a w) : Settles t w True P (pure a) := Or.inl ⟨trivial, a, w, rfl, h⟩

/-- What does not look at the session. -/
theorem of_try {x : Try ε α} (hq : (x w).1.isOk = true ↔ q)
    (hP : ∀ a w', x w = (.ok a, w') → P a w') (f : ε → Fault) :
    Settles t w q P (liftM (ExceptT.adapt f x : Try Fault α)) := by
  unfold Settles
  rw [Using.lift_apply, Try.adapt_apply, ← hq]
  rcases hx : x w with ⟨e | a, w'⟩
  · exact Or.inr ⟨Bool.false_ne_true, _, _, rfl⟩
  · exact Or.inl ⟨rfl, a, w', rfl, hP a w' hx⟩

theorem of_keeps {x : Stage α} (hx : Keeps x) :
    Settles t w ((x t w).1.1.isOk = true) (fun a w' => x t w = ((.ok a, t), w')) x := by
  unfold Settles
  have hk := hx t w
  rcases hr : x t w with ⟨⟨e | a, t'⟩, w'⟩ <;> rw [hr] at hk <;> obtain rfl : t' = t := hk
  · exact Or.inr ⟨Bool.false_ne_true, e, w', rfl⟩
  · exact Or.inl ⟨rfl, a, w', rfl, rfl⟩

/-- What a block comes down to, as part of a run. -/
theorem of_ends {m m' : Machine} {R : α → Prop} {x : Try Raised α} (hx : Ends m q m' R x)
    (hw : w.machine = m) (hP : ∀ a w', x w = (.ok a, w') → w'.machine = m' → R a → P a w') :
    Settles t w q P (raising (liftM x)) := by
  unfold Settles raising
  rw [Using.adapt_apply, Using.lift_apply]
  obtain ⟨hq, a, w', ha, hm, hR⟩ | ⟨hq, e, w', he⟩ := hx w hw
  · rw [ha]
    exact Or.inl ⟨hq, a, w', rfl, hP a w' ha hm hR⟩
  · rw [he]
    exact Or.inr ⟨hq, _, w', rfl⟩

end Settles

/-! ## Reading the documents -/

variable {p : Project} {t : Session} {w w₁ : World}

/-- The world in which a run begins to read the documents. -/
def started (p : Project) (w : World) : World :=
  (note .info logSource s!"Starting {Log.toolName} run for {p.settings.root.toString}" false w).2

/-- The world in which a run compares the blocks that it has read with its ledger. -/
def comparing (s : Settings) (blocks : List Block) (t : Session) (w : World) : World :=
  (saveBlocks s blocks t w).2

/-- Writing the blocks down ends well if the state directory can have files. -/
theorem isOk_saveBlocks {s : Settings} (h : Nameable s.stateDirectory w) (blocks : List Block)
    (t : Session) : (saveBlocks s blocks t w).1.1.isOk = true := by
  unfold saveBlocks
  rw [Using.getWorld_bind]
  split
  · have hok : (Block.save blocks s.blocksPath w).1.isOk = true :=
      (isOk_saveJson (by decide) _ _ _ s.stateDirectory _ w).2 h
    obtain ⟨b, hb⟩ := exists_of_isOk hok
    unfold writing
    rw [Using.bind_apply, Using.lift_apply, Try.adapt_apply, hb]
    rfl
  · rfl

/-- **What reading the documents comes down to**, once they have been read: blocks and
entries, unless the ledger or a text that is asked for cannot be had. -/
theorem settles_declare {documents : List Path} {blocks : List Block}
    (hextract : extract p.settings (started p w) = (.ok (documents, blocks), w₁))
    {xs : List (Heap × Value)} {m : Machine}
    (hblocks : asking p.host p.settings.convention
      (blocks.map (Block.classify p.settings.convention)) w₁.machine = (.ok xs, m)) :
    Settles t w
      (Nameable p.settings.stateDirectory w₁ ∧
        Ledger.held ((comparing p.settings blocks t w₁).disk.readText p.settings.ledgerPath) ≠ none ∧
        AllLegible xs)
      (fun d w₂ => w₂.machine = m ∧ SameHere w₁ w₂ ∧ ∀ e ∈ d.entries, e.body.Ready m.heap)
      (declare p) := by
  have hlift : (liftM (extract p.settings) : Stage (List Path × List Block)) t (started p w) =
      ((.ok (documents, blocks), t), w₁) := by
    rw [Using.lift_apply, hextract]
  unfold declare
  refine Settles.act (Settles.bind_of_ok hlift ?_)
  dsimp only
  have hq : ((saveBlocks p.settings blocks t w₁).1.1.isOk = true ∧
      (Ledger.held ((comparing p.settings blocks t w₁).disk.readText p.settings.ledgerPath) ≠ none ∧
        Nameable p.settings.stateDirectory w₁) ∧ AllLegible xs) ↔
      Nameable p.settings.stateDirectory w₁ ∧
        Ledger.held ((comparing p.settings blocks t w₁).disk.readText p.settings.ledgerPath) ≠ none ∧
        AllLegible xs :=
    ⟨fun ⟨_, ⟨hheld, hname⟩, hxs⟩ => ⟨hname, hheld, hxs⟩, fun ⟨hname, hheld, hxs⟩ =>
      ⟨isOk_saveBlocks hname blocks t, ⟨hheld, hname⟩, hxs⟩⟩
  refine Settles.congr ?_ hq
  refine (Settles.of_keeps (keeps_saveBlocks _ _)).bind fun _ w₂ h₂ => ?_
  have hground := moves_saveBlocks quiet_sameGround saves_sameGround p.settings blocks t w₁
  rw [h₂] at hground
  rw [show comparing p.settings blocks t w₁ = w₂ from congrArg Prod.snd h₂]
  have hdetect : (Ledger.detect p.settings.ledgerPath blocks w₂).1.isOk = true ↔ _ :=
    Ledger.isOk_detect (by decide) p.settings.stateDirectory blocks w₂
  rw [nameable_congr hground.2] at hdetect
  refine (Settles.of_try (P := fun _ w₃ => SameGround w₁ w₃) hdetect (fun _ w₃ h₃ => ?_) _).bind
    fun changes w₃ h₃ => Settles.act ?_
  · have hmoved := Ledger.moves_detect quiet_sameGround saves_sameGround p.settings.ledgerPath
      blocks w₂
    rw [h₃] at hmoved
    exact quiet_sameGround.trans hground hmoved
  have hclassified := quiet_sameGround.trans h₃
    (Block.moves_classifyAll quiet_sameGround p.settings.convention blocks w₃)
  refine (Settles.of_ends (Component.ends_build hblocks) hclassified.1 (P := fun r w₄ =>
    w₄.machine = m ∧ SameHere w₁ w₄ ∧ ∀ e ∈ r.2, e.body.Ready m.heap)
    fun r w₄ h₄ hm hready => ⟨hm, ?_, hready⟩).map fun r w₄ h₄ => Settles.act ?_
  · have hmoved := Component.moves_build quiet_sameHere evaluates_sameHere p.host
      p.settings.convention (blocks.map (Block.classify p.settings.convention))
      (Block.classifyAll p.settings.convention blocks w₃).2
    rw [show Component.build p.host p.settings.convention
      (blocks.map (Block.classify p.settings.convention)) _ = _ from h₄] at hmoved
    exact quiet_sameHere.trans hclassified.2 hmoved
  · refine .pure ⟨?_, quiet_sameHere.trans h₄.2.1 (quiet_sameHere.note w₄), h₄.2.2⟩
    exact (quiet_sameMachine.note w₄).trans h₄.1

/-! ## Runs -/

/-- Deciding what runs when always ends well, if the state directory can have files. -/
theorem arrange_returns {d : Declaration} (hd : InOrder d.entries)
    (h : Nameable p.settings.stateDirectory w) (t : Session) :
    ∃ m pl w', arrange p d t w = ((.ok (m, pl), t), w') := by
  unfold arrange
  rw [Using.act_bind]
  have htext := Association.onlyText_associate d.specs d.entries p.settings.apart w
  have hhere := Association.moves_associate quiet_sameHere d.specs d.entries p.settings.apart w
  rcases ha : Association.associate d.specs d.entries p.settings.apart w with ⟨m, w₁⟩
  rw [ha] at htext hhere
  have hok : (Association.save m p.settings.associationsPath w₁).1.isOk = true :=
    (isOk_saveJson (by decide) _ _ _ p.settings.stateDirectory _ w₁).2
      ((nameable_congr hhere _).2 h)
  obtain ⟨b, w₂, hb⟩ : ∃ b w₂, Association.save m p.settings.associationsPath w₁ = (.ok b, w₂) := by
    obtain ⟨b, hb⟩ := exists_of_isOk hok
    exact ⟨b, _, Prod.ext hb rfl⟩
  have hwaits : ∀ e ∈ d.entries, ∀ i, m.get? e.index = some i → e.text?.isSome = true :=
    fun e he i hi => Association.isSome_text? htext hd he hi
  obtain ⟨pl, w₃, hpl⟩ := Schedule.plan_returns p.host p.keys hwaits d.specs w₂
  refine ⟨m, pl, w₃, ?_⟩
  have hsaved : writing (Association.save m p.settings.associationsPath) t w₁ =
      ((.ok b, t), w₂) := by
    unfold writing
    rw [Using.lift_apply, Try.adapt_apply, hb]
    rfl
  have hplanned : raising (liftM (Schedule.plan p.host p.keys d.specs d.entries m)) t w₂ =
      ((.ok pl, t), w₃) := by
    unfold raising
    rw [Using.adapt_apply, Using.lift_apply, hpl]
    rfl
  exact (Using.bind_of_ok hsaved _).trans (Using.bind_of_ok hplanned _)

/-- Whether the sample run finds all that it needs once its documents are read. -/
def sampleFinds (r : Except Fault (List Path × List Block) × World) : Bool :=
  match r with
  | (.ok (_, blocks), w₁) =>
    let s := sampleProject.settings
    match asking sampleProject.host s.convention (blocks.map (Block.classify s.convention))
      w₁.machine with
    | (.ok xs, _) =>
      decide (w₁.disk.locate s.stateDirectory ≠ .error .nullInName) &&
        (Ledger.held ((comparing s blocks (Session.fresh sampleState).numbered w₁).disk.readText
          s.ledgerPath)).isSome &&
        decide (∀ x ∈ xs, (x.1.plain? x.2).isSome = true)
    | _ => false
  | _ => false

/-- Whether the entries that the sample run executes raise only what is recovered from. -/
def sampleForgives (r : (Except Fault Declaration × Session) × World) : Bool :=
  match r with
  | ((.ok d, t), w₂) =>
    match arrange sampleProject d t w₂ with
    | ((.ok (_, pl), _), _) => (Script.attemptAll
        (pl.immediate.filterMap (Entry.call? sampleProject.host)) w₂.machine).1.isOk
    | _ => true
  | _ => true

end Project

end LiterateConfig
