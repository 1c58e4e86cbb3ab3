import LiterateConfig.Proofs.Actions

/-!
# How the stages of a run move the world

Each stage moves the world only by writing to the log, by saving files and by running
blocks. For every part of a run and of a load this module says which of the three it
does; a relation that allows for them then holds between the worlds before and after.

Results:
* `Project.moves_declare`: reading the documents does all three;
* `Project.moves_arrange`: deciding what runs when only saves a file, it runs no block;
* `Schedule.moves_execute`, `Install.moves_loadEach`: running entries and setup saves
  no file;
* `Project.moves_install`, `Removal.moves_cleanup`: installing and removing run no block;
* `Install.moves_completeLoad`: nor does the end of a load if only cleanups wait for it.
-/
namespace LiterateConfig

open LiterateConfig.Component (Spec)
open LiterateConfig.Script (Raised)

variable {R : World → World → Prop}

/-! ## Documents, blocks and the ledger -/

theorem Document.moves_readEach (h : Quiet R) (paths : List Files.Path) :
    Moves R (Document.readEach paths) := by
  induction paths with
  | nil => exact h.pure _
  | cons p rest ih =>
    unfold Document.readEach
    refine h.bindTry (fun w => h.refl w) fun w₀ => ?_
    split
    · exact h.pure _
    · split
      · exact h.bindTry h.note fun _ => ih
      · exact h.bindTry ih fun _ => h.pure _

theorem Document.moves_read (h : Quiet R) (paths : List Files.Path) :
    Moves R (Document.read paths) := by
  unfold Document.read
  refine h.bindTry (Document.moves_readEach h paths) fun loaded => ?_
  split
  · exact h.pure _
  · exact h.pure _

theorem Block.moves_noteEach (h : Quiet R) (languages : List String)
    (documents : List (Files.Path × String)) : Moves R (Block.noteEach languages documents) := by
  induction documents with
  | nil => exact h.pure _
  | cons d rest ih => exact h.bindAct h.note fun _ => ih

theorem Block.moves_extract (h : Quiet R) (languages : List String)
    (documents : List (Files.Path × String)) : Moves R (Block.extract languages documents) := by
  unfold Block.extract
  exact h.bindAct (Block.moves_noteEach h _ _) fun _ => h.bindAct h.note fun _ => h.pure _

theorem Project.moves_extract (h : Quiet R) (s : Settings) : Moves R (Project.extract s) := by
  unfold Project.extract
  refine h.bindTry (fun w => h.refl w) fun w₀ => ?_
  split
  · exact h.pure _
  · refine h.bindTry (Document.moves_read h _) fun texts => ?_
    exact h.bindTry (Block.moves_extract h _ _) fun _ => h.pure _

theorem Block.moves_noteKinds (h : Quiet R) (cs : List Block.Classified) :
    Moves R (Block.noteKinds cs) := by
  induction cs with
  | nil => exact h.pure _
  | cons c rest ih =>
    refine h.bindAct ?_ fun _ => ih
    unfold Block.noteKind
    split
    · exact h.note
    · exact h.note

theorem Block.moves_classifyAll (h : Quiet R) (convention : String) (blocks : List Block) :
    Moves R (Block.classifyAll convention blocks) := by
  unfold Block.classifyAll
  exact h.bindAct (Block.moves_noteKinds h _) fun _ => h.pure _

theorem Ledger.moves_load (h : Quiet R) (path : Files.Path) : Moves R (Ledger.load path) := by
  unfold Ledger.load
  refine h.bindTry (fun w => h.refl w) fun w₀ => ?_
  split
  · exact h.pure _
  · exact h.bindTry h.note fun _ => h.pure _
  · split
    · exact h.bindTry h.note fun _ => h.pure _
    · exact h.pure _
    · exact h.pure _
    · exact h.bindTry h.note fun _ => h.pure _

theorem Ledger.moves_noteIndices (h : Quiet R) (f : Int → String) (is : List Int) :
    Moves R (Ledger.noteIndices f is) := by
  induction is with
  | nil => exact h.pure _
  | cons i rest ih => exact h.bindAct h.note fun _ => ih

theorem Ledger.moves_save (h : Quiet R) (hs : Saves R) (path : Files.Path) (hashes : Ledger.Hashes) :
    Moves R (Ledger.save path hashes) :=
  (h.saveJson hs).adapt _

theorem Ledger.moves_detect (h : Quiet R) (hs : Saves R) (path : Files.Path) (blocks : List Block) :
    Moves R (Ledger.detect path blocks) := by
  unfold Ledger.detect Ledger.compare
  refine h.bindTry (h.bindTry (Ledger.moves_load h _) fun _ => h.pure _) fun changes => ?_
  refine h.bindTry (Ledger.moves_noteIndices h _ _) fun _ => ?_
  refine h.bindTry (Ledger.moves_noteIndices h _ _) fun _ => ?_
  exact h.bindTry (Ledger.moves_save h hs _ _) fun _ => h.pure _

/-! ## Building -/

theorem moves_onMachine (hm : Evaluates R) {α : Type} (x : Script.Eval α) : Moves R (onMachine x) :=
  fun w => hm w _

theorem moves_attempt (hm : Evaluates R) {α : Type} (x : Script.Eval α) : Moves R (attempt x) :=
  moves_onMachine hm _

namespace Component

theorem moves_evaluate (h : Quiet R) (hm : Evaluates R) (host : Script.Host) (what : String)
    (index : Int) (exported source : String) :
    Moves R (evaluate host what index exported source) := by
  unfold evaluate
  split
  · exact h.bindTry h.noteFailure.act fun _ => h.pure _
  · refine h.bindTry (moves_attempt hm _) fun r => ?_
    split
    · exact h.pure _
    · exact h.bindTry h.noteRaised.act fun _ => h.pure _

theorem moves_inOrder (h : Quiet R) (hm : Evaluates R) (items : List Script.Value) (ordered : Bool) :
    Moves R (inOrder items ordered) := by
  unfold inOrder
  split
  · exact h.pure _
  · exact h.bindTry (moves_onMachine hm _) fun _ => h.pure _

theorem moves_itemPart (h : Quiet R) (hm : Evaluates R) (c : Block.Classified) (v : Script.Value) :
    Moves R (itemPart c v) := by
  unfold itemPart
  refine h.bindTry (fun w => h.refl w) fun w₀ => ?_
  dsimp only
  split
  · exact h.bindTry (moves_onMachine hm _) fun _ => h.bindTry h.note fun _ => h.pure _
  · exact h.bindTry h.note fun _ => h.pure _

theorem moves_itemParts (h : Quiet R) (hm : Evaluates R) (c : Block.Classified)
    (vs : List Script.Value) : Moves R (itemParts c vs) := by
  induction vs with
  | nil => exact h.pure _
  | cons v vs ih => exact h.bindTry (moves_itemPart h hm c v) fun _ => h.bindTry ih fun _ => h.pure _

theorem moves_valueParts (h : Quiet R) (hm : Evaluates R) (c : Block.Classified) (source : String)
    (v : Script.Value) : Moves R (valueParts c source v) := by
  unfold valueParts
  refine h.bindTry (fun w => h.refl w) fun w₀ => ?_
  dsimp only
  split
  · exact h.bindTry (moves_inOrder h hm _ _) fun _ => moves_itemParts h hm c _
  · exact h.bindTry (moves_onMachine hm _) fun _ => h.bindTry h.note fun _ => h.pure _
  · exact h.bindTry h.note fun _ => h.pure _
  · exact h.bindTry h.note fun _ => h.pure _
  · exact h.bindTry h.note fun _ => h.pure _

theorem moves_specParts (h : Quiet R) (hm : Evaluates R) (host : Script.Host) (convention : String)
    (c : Block.Classified) (source : String) : Moves R (specParts host convention c source) := by
  unfold specParts
  refine h.bindTry (moves_evaluate h hm host _ _ _ _) fun r => ?_
  split
  · exact h.pure _
  · exact moves_valueParts h hm c source _

theorem moves_setupParts (h : Quiet R) (hm : Evaluates R) (host : Script.Host)
    (c : Block.Classified) : Moves R (setupParts host c) := by
  unfold setupParts
  refine h.bindTry (moves_evaluate h hm host _ _ _ _) fun r => ?_
  split
  · exact h.pure _
  · refine h.bindTry (fun w => h.refl w) fun w₀ => ?_
    dsimp only
    split
    · exact h.bindTry h.note fun _ => h.pure _
    · exact h.bindTry h.note fun _ => h.pure _

theorem moves_blockParts (h : Quiet R) (hm : Evaluates R) (host : Script.Host) (convention : String)
    (c : Block.Classified) : Moves R (blockParts host convention c) := by
  unfold blockParts
  split
  · exact h.pure _
  · exact h.bindTry h.note fun _ => moves_specParts h hm host convention c _
  · exact moves_specParts h hm host convention c _
  · exact moves_setupParts h hm host c
  · exact h.bindTry h.note fun _ => h.pure _

theorem moves_allParts (h : Quiet R) (hm : Evaluates R) (host : Script.Host) (convention : String)
    (cs : List Block.Classified) : Moves R (allParts host convention cs) := by
  induction cs with
  | nil => exact h.pure _
  | cons c cs ih =>
    exact h.bindTry (moves_blockParts h hm host convention c) fun _ =>
      h.bindTry ih fun _ => h.pure _

theorem moves_build (h : Quiet R) (hm : Evaluates R) (host : Script.Host) (convention : String)
    (cs : List Block.Classified) : Moves R (build host convention cs) := by
  unfold build
  exact h.bindTry (moves_allParts h hm host convention cs) fun _ => h.bindTry h.note fun _ => h.pure _

end Component

namespace Project

theorem moves_saveBlocks (h : Quiet R) (hs : Saves R) (s : Settings) (blocks : List Block)
    (t : Install.Session) : Moves R (saveBlocks s blocks t) := by
  unfold saveBlocks
  refine h.bindUsing (fun _ w => h.refl w) (fun w₀ t => ?_) t
  split
  · exact h.bindUsing (fun t => ((h.saveJson hs).adapt _).lift t) (fun _ _ => h.pure _) t
  · exact h.pure _

/-- Reading the documents writes to the log, saves files and runs blocks. -/
theorem moves_declare (h : Quiet R) (hs : Saves R) (hm : Evaluates R) (p : Project)
    (t : Install.Session) : Moves R (declare p t) := by
  unfold declare
  refine h.bindUsing (fun _ => h.note) (fun _ t => ?_) t
  refine h.bindUsing (fun _ => moves_extract h _) (fun r t => ?_) t
  refine h.bindUsing (fun t => moves_saveBlocks h hs _ _ t) (fun _ t => ?_) t
  refine h.bindUsing (fun _ => Ledger.moves_detect h hs _ _) (fun _ t => ?_) t
  refine h.bindUsing (fun _ => Block.moves_classifyAll h _ _) (fun _ t => ?_) t
  refine h.bindUsing (fun _ => Component.moves_build h hm _ _ _) (fun _ t => ?_) t
  exact h.bindUsing (fun _ => h.note) (fun _ _ => h.pure _) t

end Project

/-! ## Deciding what runs when -/

theorem Association.moves_associate (h : Quiet R) (specs : List Spec) (entries : List Entry)
    (apart : Bool) : Moves R (Association.associate specs entries apart) := by
  have noteFound : ∀ fs, Moves R (Association.noteFound fs) := by
    intro fs
    induction fs with
    | nil => exact h.pure _
    | cons f rest ih =>
      unfold Association.noteFound
      split
      · exact h.bindAct h.note fun _ => ih
      · exact h.bindAct h.note fun _ => ih
  exact h.bindAct (noteFound _) fun _ => h.pure _

namespace Schedule

open LiterateConfig.Script (Value)

theorem reads_requireKey (v : Value) : Script.Reads (Script.requireKey v) := by
  refine Script.reads_heap.bind fun _ => ?_
  split
  · exact Script.reads_throw _
  · exact Script.reads_pure _

theorem reads_getAttribute (v : Value) (name : String) :
    Script.Reads (Script.getAttribute v name) := by
  unfold Script.getAttribute
  refine Script.reads_heap.bind fun _ => ?_
  dsimp only
  repeat' split
  all_goals first
    | exact Script.reads_pure _
    | exact Script.reads_throw _

theorem setupPart_apply (v : Value) (m : Script.Machine) :
    setupPart v m = match m.heap.object? v with
      | some (.dict _) => Script.getItem v (.text "setup") m
      | _ => Script.getAttribute v "setup" m := by
  unfold setupPart
  rw [Script.heap_bind]
  rcases m.heap.object? v with _ | o
  · rfl
  · cases o <;> rfl

/-- The part of a dictionary at a key is read off the dictionary. -/
theorem getItem_dict_snd {v : Value} {pairs : List (Value × Value)} (i : Value)
    {m : Script.Machine} (hv : m.heap.object? v = some (.dict pairs)) :
    (Script.getItem v i m).2 = m := by
  cases v with
  | ref a =>
    replace hv : m.heap.get? a = some (.dict pairs) := hv
    unfold Script.getItem
    rw [Script.heap_bind]
    simp only [hv]
    refine ((reads_requireKey i).bind fun _ => ?_) m
    split
    · exact Script.reads_pure _
    · exact Script.reads_throw _
  | _ => cases hv

/-- Reading the setup of a value runs nothing. -/
theorem reads_setupPart (v : Value) : Script.Reads (setupPart v) := by
  intro m
  rw [setupPart_apply]
  split
  · next pairs hv => exact getItem_dict_snd _ hv
  · exact reads_getAttribute v _ m

theorem moves_noteEach (h : Quiet R) (f : String → Log.Level × String) (names : List String) :
    Moves R (noteEach f names) := by
  induction names with
  | nil => exact h.pure _
  | cons n rest ih => exact h.bindAct h.note fun _ => ih

theorem moves_waitingAction (h : Quiet R) (host : Script.Host) (e : Entry) (identifier : String) :
    Moves R (waitingAction host e identifier) := by
  unfold waitingAction
  split
  · split
    · exact h.pure _
    · exact h.bindTry h.noteFailure.act fun _ => h.pure _
  · exact h.pure _
  · exact h.bindTry (h.onMachine_of_reads (reads_setupPart _)) fun _ => h.pure _
  · exact h.bindTry h.note fun _ => h.pure _

theorem moves_sortOut (h : Quiet R) (host : Script.Host) (keys : Pattern.Node)
    (m : Association.Map) (entries : List Entry) : Moves R (sortOut host keys m entries) := by
  induction entries with
  | nil => exact h.pure _
  | cons e rest ih =>
    unfold sortOut
    split
    · exact h.bindTry ih fun _ => h.pure _
    · refine h.bindTry (moves_waitingAction h host e _) fun r => ?_
      split
      · exact ih
      · exact h.bindTry h.note fun _ => h.bindTry ih fun _ => h.pure _

theorem moves_plan (h : Quiet R) (host : Script.Host) (keys : Pattern.Node) (specs : List Spec)
    (entries : List Entry) (m : Association.Map) : Moves R (plan host keys specs entries m) := by
  unfold plan
  refine h.bindTry (moves_sortOut h host keys m entries) fun s => ?_
  exact h.bindTry (moves_noteEach h _ _) fun _ => h.bindTry (moves_noteEach h _ _) fun _ => h.pure _

end Schedule

/-- Deciding what runs when writes to the log and saves a file, but runs no block. -/
theorem Project.moves_arrange (h : Quiet R) (hs : Saves R) (p : Project) (d : Project.Declaration)
    (t : Install.Session) : Moves R (Project.arrange p d t) := by
  unfold Project.arrange
  refine h.bindUsing (fun _ => Association.moves_associate h _ _ _) (fun m t => ?_) t
  refine h.bindUsing (fun t => ((h.saveJson hs).adapt _).lift t) (fun _ t => ?_) t
  exact h.bindUsing (fun _ => Schedule.moves_plan h _ _ _ _ _) (fun _ _ => h.pure _) t

/-! ## Running entries and setup -/

theorem Schedule.moves_execute (h : Quiet R) (hm : Evaluates R) (host : Script.Host)
    (entries : List Entry) : Moves R (Schedule.execute host entries) := by
  have target : ∀ e, Moves R (Schedule.target host e) := by
    intro e
    unfold Schedule.target
    split
    · split
      · exact h.pure _
      · exact h.bindTry h.noteFailure.act fun _ => h.pure _
    · exact h.pure _
    · exact h.bindTry (moves_onMachine hm _) fun _ => h.pure _
    · exact h.bindTry h.note fun _ => h.pure _
  have executeOne : ∀ e, Moves R (Schedule.executeOne host e) := by
    intro e
    refine h.bindTry (target e) fun a => ?_
    split
    · exact h.pure _
    · refine h.bindTry h.note fun _ => h.bindTry (moves_attempt hm _) fun r => ?_
      split
      · exact h.pure _
      · exact h.bindTry h.noteRaised.act fun _ => h.pure _
  induction entries with
  | nil => exact h.pure _
  | cons e rest ih => exact h.bindTry (executeOne e) fun _ => h.bindTry ih fun _ => h.pure _

theorem Component.Spec.moves_runSetup (h : Quiet R) (hm : Evaluates R) (s : Spec)
    (args : List Script.Value) : Moves R (s.runSetup args) := by
  have deferred : ∀ (as : List Action) (n : Nat), Moves R (Spec.runDeferred s.label n as) := by
    intro as
    induction as with
    | nil => exact fun _ => h.pure _
    | cons a rest ih =>
      intro n
      unfold Spec.runDeferred
      refine h.bindTry (moves_attempt hm _) fun r => ?_
      split
      · exact h.bindTry h.note fun _ => h.bindTry (ih _) fun _ => h.pure _
      · exact h.bindTry h.noteRaised.act fun _ => h.bindTry (ih _) fun _ => h.pure _
  refine h.bindTry ?_ fun _ => h.bindTry (deferred _ _) fun _ => h.pure _
  unfold Spec.runConfig
  split
  · exact h.pure _
  · refine h.bindTry (moves_attempt hm _) fun r => ?_
    split
    · exact h.pure _
    · exact h.bindTry h.noteRaised.act fun _ => h.pure _

namespace Install

theorem moves_loadEach (h : Quiet R) (hm : Evaluates R) (specs : List Spec) :
    Moves R (loadEach specs) := by
  induction specs with
  | nil => exact h.pure _
  | cons s rest ih =>
    refine h.bindTry ?_ fun _ => ih
    exact h.bindTry h.note fun _ => h.bindTry (Spec.moves_runSetup h hm s []) fun _ => h.pure _

/-! ## Installing and removing -/

theorem moves_addEach (h : Quiet R) (specs : List Spec) (t : Session) : Moves R (addEach specs t) := by
  induction specs generalizing t with
  | nil => exact h.pure _
  | cons s rest ih =>
    unfold addEach
    cases Removal.desiredName? s with
    | none => exact ih t
    | some key =>
      refine h.bindUsing (fun _ w => h.refl w) (fun t₀ t => ?_) t
      dsimp only
      split
      · exact h.bindUsing (fun _ => h.note) (fun _ => h.bindUsing (fun _ w => h.refl w) fun _ => ih) t
      · exact ih t

theorem moves_persist (h : Quiet R) (hs : Saves R) (t : Session) : Moves R (persist t) := by
  unfold persist
  refine h.bindUsing (fun _ w => h.refl w) (fun t₀ t => ?_) t
  cases t₀.installer.path with
  | none => exact h.pure _
  | some p => exact h.bindUsing (fun t => ((h.saveJson hs).adapt _).lift t) (fun _ _ => h.pure _) t

theorem moves_reconcile (h : Quiet R) (hs : Saves R) (specs : List Spec) (t : Session) :
    Moves R (reconcile specs t) := by
  unfold reconcile
  refine h.bindUsing (fun t => moves_addEach h _ t) (fun _ t => ?_) t
  refine h.bindUsing (fun t => moves_persist h hs t) (fun _ t => ?_) t
  exact h.bindUsing (fun _ w => h.refl w) (fun _ _ => h.pure _) t

theorem moves_remove (h : Quiet R) (hs : Saves R) (n : String) (t : Session) :
    Moves R (remove n t) := by
  unfold remove
  refine h.bindUsing (fun _ w => h.refl w) (fun t₀ t => ?_) t
  split
  · exact h.bindUsing (fun _ w => h.refl w) (fun _ t => moves_persist h hs t) t
  · exact (h.onMachine_of_reads (Script.reads_throw _)).lift t

end Install

namespace Removal

theorem moves_desiredSet (h : Quiet R) (specs : List Spec) : Moves R (desiredSet specs) := by
  have noteManual : ∀ specs, Moves R (noteManual specs) := by
    intro specs
    induction specs with
    | nil => exact h.pure _
    | cons s rest ih =>
      unfold Removal.noteManual
      split
      · exact h.bindAct h.note fun _ => ih
      · exact ih
  exact h.bindAct (noteManual _) fun _ => h.pure _

theorem moves_planRemovals (h : Quiet R) (installed declared : Install.NameSet) :
    Moves R (planRemovals installed declared) := by
  unfold planRemovals
  split
  · exact h.bindAct h.note fun _ => h.pure _
  · exact h.pure _

variable {σ : Type} {remove : Remover σ}

theorem moves_removeOne (h : Quiet R) (hr : ∀ n s, Moves R (remove n s)) (n : String)
    (attempt : Nat) (s : σ) : Moves R (removeOne remove n attempt s) := by
  unfold removeOne
  refine h.bindUsing (fun s => Quiet.recoveredIf (hr n) s) (fun r s => ?_) s
  split
  · exact h.bindUsing (fun _ => h.note) (fun _ _ => h.pure _) s
  · next e =>
    refine h.bindUsing (fun s => h.noteRaised.actUsing s) (fun _ s => ?_) s
    exact h.bindUsing (fun s => (h.onMachine_of_reads e.reads_text).lift s) (fun _ _ => h.pure _) s

/-- A cleanup moves the world by notes and by what its removals do. -/
theorem moves_cleanup (h : Quiet R) (hr : ∀ n s, Moves R (remove n s)) (specs : List Spec)
    (installed : Install.NameSet) (s : σ) : Moves R (cleanup remove specs installed s) := by
  have firstPass : ∀ ns s, Moves R (firstPass remove ns s) := by
    intro ns
    induction ns with
    | nil => exact fun _ => h.pure _
    | cons n rest ih =>
      intro s
      refine h.bindUsing (fun s => moves_removeOne h hr n 1 s) (fun _ s => ?_) s
      exact h.bindUsing (fun s => ih s) (fun _ _ => h.pure _) s
  have secondPass : ∀ os s, Moves R (secondPass remove os s) := by
    intro os
    induction os with
    | nil => exact fun _ => h.pure _
    | cons o rest ih =>
      intro s
      unfold Removal.secondPass
      split
      · exact h.bindUsing (fun s => ih s) (fun _ _ => h.pure _) s
      · refine h.bindUsing (fun _ => h.note) (fun _ s => ?_) s
        refine h.bindUsing (fun s => moves_removeOne h hr _ 2 s) (fun _ s => ?_) s
        exact h.bindUsing (fun s => ih s) (fun _ _ => h.pure _) s
  unfold cleanup
  refine h.bindUsing (fun _ => moves_desiredSet h _) (fun declared s => ?_) s
  refine h.bindUsing (fun _ => h.note) (fun _ s => h.bindUsing (fun _ => h.note) (fun _ s => ?_) s) s
  refine h.bindUsing (fun _ => moves_planRemovals h _ _) (fun names s => ?_) s
  exact h.bindUsing (fun s => firstPass _ s) (fun _ s => secondPass _ s) s

end Removal

/-! ## Calling back -/

namespace Install

theorem moves_fire (h : Quiet R) (hs : Saves R) (run : Nat) (specs : List Spec) (found : NameSet)
    (t : Session) : Moves R (fire remove (.cleanup run specs found) t) := by
  unfold fire
  refine h.bindUsing (fun _ w => h.refl w) (fun t₀ t => ?_) t
  split
  · exact h.pure _
  · refine h.bindUsing (fun t => Removal.moves_cleanup h (moves_remove h hs) specs found t) ?_ t
    exact fun _ _ w => h.refl w

/-- The callback is the cleanup of a run. -/
def Callback.IsCleanup (c : Callback) : Prop := ∃ run specs found, c = .cleanup run specs found

theorem moves_register (h : Quiet R) (hs : Saves R) {c : Callback} (hc : c.IsCleanup)
    (t : Session) : Moves R (register remove c t) := by
  obtain ⟨run, specs, found, rfl⟩ := hc
  unfold register
  refine h.bindUsing (fun _ w => h.refl w) (fun t₀ t => ?_) t
  split
  · exact moves_fire h hs run specs found t
  · exact fun w => h.refl w

/-- The end of the first load runs no block, if only cleanups wait for it. -/
theorem moves_completeLoad (h : Quiet R) (hs : Saves R) {t : Session}
    (ht : ∀ c ∈ t.installer.pending, c.IsCleanup) : Moves R (completeLoad remove t) := by
  have fireEach : ∀ (cs : List Callback), (∀ c ∈ cs, c.IsCleanup) → ∀ t,
      Moves R (fireEach remove cs t) := by
    intro cs
    induction cs with
    | nil => exact fun _ _ => h.pure _
    | cons c rest ih =>
      intro hcs t
      obtain ⟨run, specs, found, rfl⟩ := hcs c List.mem_cons_self
      refine h.bindUsing (fun t => moves_fire h hs run specs found t) (fun _ t => ?_) t
      exact ih (fun c hc => hcs c (List.mem_cons_of_mem _ hc)) t
  intro w
  unfold completeLoad
  rw [Using.getState_bind]
  split
  · exact h.refl w
  · rw [Using.modifyState_bind]
    exact fireEach t.installer.pending ht _ w

end Install

namespace Project

open LiterateConfig.Install (stateFile)

theorem moves_install (h : Quiet R) (hs : Saves R) (specs : List Spec) (t : Install.Session) :
    Moves R (install stateFile specs t) := by
  unfold install
  refine h.bindUsing (fun t => ?_) (fun r t => ?_) t
  · exact Quiet.recoveredIf (fun t => Install.moves_reconcile h hs specs t) t
  · split
    · exact h.pure _
    · exact h.bindUsing (fun t => h.noteRaised.actUsing t) (fun _ _ => h.pure _) t

theorem moves_registerCleanup (h : Quiet R) (hs : Saves R) (number : Nat) (specs : List Spec)
    (found : Install.NameSet) (t : Install.Session) :
    Moves R (registerCleanup stateFile number specs found t) := by
  unfold registerCleanup
  refine h.bindUsing (fun t => ?_) (fun r t => ?_) t
  · exact Quiet.recoveredIf
      (fun t => Install.moves_register h hs ⟨number, specs, found, rfl⟩ t) t
  · split
    · exact h.pure _
    · exact h.noteRaised.actUsing t

end Project

end LiterateConfig
