import LiterateConfig.Proofs.Building
import LiterateConfig.Proofs.MirroredRuns

/-!
# Building on heaps that mirror each other

What blocks contribute does not depend on where objects stand: on worlds whose heaps mirror
each other the same components and entries are built, but for addresses, or building ends
with the same error. The log and the disk play no part in it.

Results:
* `shapeOf_rename`: values are understood alike on both sides;
* `mirrors_ofValue`, `mirrors_valueParts`: components, and what a value declares;
* `mirrors_allParts`, `mirrors_build`: blocks.
-/
namespace LiterateConfig

open LiterateConfig.Block (Classified)
open LiterateConfig.Script

variable {α β : Type} [Addressed α] [Addressed β] {g : Gap} {s : Nat}

/-! ## Actions on the world -/

/-- On worlds whose heaps mirror each other the two do the same. -/
abbrev MirrorsTry (g : Gap) (s : Nat) (x x' : Try Raised α) : Prop :=
  MirrorsIn World.heap g s x x'

theorem mirrors_onMachine {x x' : Eval α} (hx : Mirrors g s x x') :
    MirrorsTry g s (onMachine x) (onMachine x') :=
  fun w w' hs hm => hx w.machine w'.machine hs hm

/-- What is written to the log does not matter. -/
theorem mirrors_noted {y y' : Act Unit} (hy : Moves SameMachine y)
    (hy' : Moves SameMachine y') {x x' : Try Raised α} (hx : MirrorsTry g s x x') :
    MirrorsTry g s (do y; x) (do y'; x') := by
  intro w w' hs hm
  have h : (y w).2.heap = w.heap := congrArg Machine.heap (hy w)
  have h' : (y' w').2.heap = w'.heap := congrArg Machine.heap (hy' w')
  rw [← h] at hs hm ⊢
  rw [← h'] at hm
  exact hx (y w).2 (y' w').2 hs hm

theorem mirrors_getWorld {f f' : World → Try Raised α}
    (hf : ∀ w w', s ≤ w.heap.size → Mirror g w.heap w'.heap →
      MirrorsTry g w.heap.size (f w) (f' w')) :
    MirrorsTry g s ((getThe World : Try Raised World) >>= f)
      ((getThe World : Try Raised World) >>= f') :=
  fun w w' hs hm => hf w w' hs hm w w' (Nat.le_refl _) hm

theorem mirrors_note {level level' : Log.Level} {source source' : Log.Source}
    {message message' : String} {x x' : Try Raised α} (hx : MirrorsTry g s x x') :
    MirrorsTry g s (do note level source message; x) (do note level' source' message'; x') :=
  mirrors_noted quiet_sameMachine.note quiet_sameMachine.note hx

namespace Component

/-! ## Components and entries -/

instance : Addressed Compiled where
  addresses c := addresses c.host
  rename σ c := { c with host := rename σ c.host }
  rename_eq_self {σ c} h := by
    obtain ⟨code, exported, host⟩ := c
    exact congrArg (Compiled.mk code exported) (rename_eq_self h)

instance : Addressed Action where
  addresses
    | .compiled c => addresses c
    | .call v => addresses v
  rename σ
    | .compiled c => .compiled (rename σ c)
    | .call v => .call (rename σ v)
  rename_eq_self {σ x} h := by
    cases x with
    | compiled c => exact congrArg Action.compiled (rename_eq_self h)
    | call v => exact congrArg Action.call (rename_eq_self h)

instance : Addressed EntryBody where
  addresses
    | .callable v | .table v | .inert v => addresses v
    | .source _ => []
  rename σ
    | .callable v => .callable (rename σ v)
    | .source text => .source text
    | .table v => .table (rename σ v)
    | .inert v => .inert (rename σ v)
  rename_eq_self {σ x} h := by
    cases x with
    | callable v => exact congrArg EntryBody.callable (rename_eq_self h)
    | source text => rfl
    | table v => exact congrArg EntryBody.table (rename_eq_self h)
    | inert v => exact congrArg EntryBody.inert (rename_eq_self h)

instance : Addressed Entry where
  addresses e := addresses e.body
  rename σ e := { e with body := rename σ e.body }
  rename_eq_self {σ e} h := by
    obtain ⟨index, body, blockIndex⟩ := e
    exact congrArg (fun b => Entry.mk index b blockIndex) (rename_eq_self h)

instance : Addressed Spec where
  addresses c := addresses c.attributes ++ (addresses c.config ++ addresses c.deferred)
  rename σ c := { c with
    attributes := rename σ c.attributes, config := rename σ c.config,
    deferred := rename σ c.deferred }
  rename_eq_self {σ c} h := by
    obtain ⟨ha, h⟩ := List.forall_mem_append.1 h
    obtain ⟨hc, hd⟩ := List.forall_mem_append.1 h
    simp [rename_eq_self ha, rename_eq_self hc, rename_eq_self hd]

theorem inside_spec {P : Nat → Prop} {c : Spec} : Inside P c ↔
    Inside P c.attributes ∧ Inside P c.config ∧ Inside P c.deferred :=
  List.forall_mem_append.trans (and_congr_right fun _ => List.forall_mem_append)

instance : Addressed Part where
  addresses
    | .spec c => addresses c
    | .entry body _ => addresses body
  rename σ
    | .spec c => .spec (rename σ c)
    | .entry body blockIndex => .entry (rename σ body) blockIndex
  rename_eq_self {σ p} h := by
    cases p with
    | spec c => exact congrArg Part.spec (rename_eq_self h)
    | entry body blockIndex => exact congrArg (Part.entry · blockIndex) (rename_eq_self h)

theorem specsOf_rename {σ : Nat → Nat} (ps : List Part) :
    specsOf (rename σ ps) = rename σ (specsOf ps) := by
  induction ps with
  | nil => rfl
  | cons p ps ih =>
    cases p with
    | spec c => exact congrArg (rename σ c :: ·) ih
    | entry body blockIndex => exact ih

theorem entriesOf_rename {σ : Nat → Nat} (next : Nat) (ps : List Part) :
    entriesOf next (rename σ ps) = rename σ (entriesOf next ps) := by
  induction ps generalizing next with
  | nil => rfl
  | cons p ps ih =>
    cases p with
    | spec c => exact ih next
    | entry body blockIndex =>
      exact congrArg (Entry.mk next (rename σ body) (some blockIndex) :: ·) (ih (next + 1))

theorem inside_specsOf {P : Nat → Prop} {ps : List Part} (h : Inside P ps) :
    Inside P (specsOf ps) := by
  induction ps with
  | nil => exact inside_nil
  | cons p ps ih =>
    obtain ⟨hp, hrest⟩ := inside_cons.1 h
    cases p with
    | spec c => exact inside_cons.2 ⟨hp, ih hrest⟩
    | entry body blockIndex => exact ih hrest

theorem inside_entriesOf {P : Nat → Prop} {ps : List Part} (h : Inside P ps) (next : Nat) :
    Inside P (entriesOf next ps) := by
  induction ps generalizing next with
  | nil => exact inside_nil
  | cons p ps ih =>
    obtain ⟨hp, hrest⟩ := inside_cons.1 h
    cases p with
    | spec c => exact ih hrest next
    | entry body blockIndex => exact inside_cons.2 ⟨hp, ih hrest (next + 1)⟩

/-! ## How values are understood -/

section Shapes

variable {h h' : Heap} (hm : Mirror g h h') {v : Value}

theorem valueOf_rename {σ : Nat → Nat} (hσ : Function.Injective σ) (key : String)
    (pairs : List (Value × Value)) :
    valueOf key (rename σ pairs) = rename σ (valueOf key pairs) := by
  unfold valueOf
  rw [textPair?_rename hσ]
  cases textPair? key pairs <;> rfl

theorem inside_valueOf {P : Nat → Prop} {pairs : List (Value × Value)} (hp : Inside P pairs)
    (key : String) : Inside P (valueOf key pairs) := by
  have hvalue := Inside.pair? hp (.text key)
  unfold valueOf textPair?
  cases hw : pair? (.text key) pairs with
  | none => exact inside_nothing
  | some w =>
    rw [hw] at hvalue
    exact inside_some.1 hvalue

theorem filledText?_rename {σ : Nat → Nat} (v : Value) :
    filledText? (rename σ v) = filledText? v := by
  cases v <;> simp [filledText?]

include hm

theorem pairs?_rename (hv : Inside (g.Sees h.size) v) :
    pairs? h' (rename g.move v) = rename g.move (pairs? h v) ∧
      Inside (g.Sees h.size) (pairs? h v) := by
  obtain ⟨hobject, hin⟩ := hm.object? hv
  unfold pairs?
  rw [hobject]
  cases ho : h.object? v with
  | none => exact ⟨rfl, inside_none⟩
  | some o =>
    rw [ho] at hin
    cases o with
    | dict pairs => exact ⟨rfl, inside_some.2 (inside_some.1 hin)⟩
    | _ => exact ⟨rfl, inside_none⟩

theorem items?_rename (hv : Inside (g.Sees h.size) v) :
    items? h' (rename g.move v) = rename g.move (items? h v) ∧
      Inside (g.Sees h.size) (items? h v) := by
  obtain ⟨hobject, hin⟩ := hm.object? hv
  cases v with
  | tuple items =>
    exact ⟨by simp [items?]; rfl, inside_some.2 (inside_pair.2 ⟨inside_tuple.1 hv, nofun⟩)⟩
  | frozen items =>
    exact ⟨by simp [items?]; rfl, inside_some.2 (inside_pair.2 ⟨inside_frozen.1 hv, nofun⟩)⟩
  | ref a =>
    rw [rename_ref] at hobject ⊢
    unfold items?
    dsimp only
    rw [hobject]
    cases ho : h.object? (.ref a) with
    | none => exact ⟨rfl, inside_none⟩
    | some o =>
      rw [ho] at hin
      cases o with
      | list items | set items =>
        exact ⟨rfl, inside_some.2 (inside_pair.2 ⟨inside_some.1 hin, nofun⟩)⟩
      | _ => exact ⟨rfl, inside_none⟩
  | _ => exact ⟨rfl, inside_none⟩

theorem describesComponent_rename {pairs : List (Value × Value)}
    (hp : Inside (g.Sees h.size) pairs) :
    describesComponent h' (rename g.move pairs) = describesComponent h pairs := by
  unfold describesComponent
  simp only [valueOf_rename Gap.move_injective, filledText?_rename,
    hm.isTrue (inside_valueOf hp _)]

theorem isSpecLike_rename (hv : Inside (g.Sees h.size) v) :
    isSpecLike h' (rename g.move v) = isSpecLike h v := by
  obtain ⟨hpairs, hin⟩ := pairs?_rename hm hv
  cases v with
  | text t => rfl
  | ref a =>
    rw [rename_ref] at hpairs ⊢
    unfold isSpecLike
    dsimp only
    rw [hpairs]
    cases hp : pairs? h (.ref a) with
    | none => rfl
    | some pairs =>
      rw [hp] at hin
      exact describesComponent_rename hm (inside_some.1 hin)
  | _ => rfl

theorem setupPart?_rename (hv : Inside (g.Sees h.size) v) :
    setupPart? h' (rename g.move v) = rename g.move (setupPart? h v) ∧
      Inside (g.Sees h.size) (setupPart? h v) := by
  obtain ⟨hobject, hin⟩ := hm.object? hv
  unfold setupPart?
  rw [hobject]
  cases ho : h.object? v with
  | none => exact ⟨rfl, inside_none⟩
  | some o =>
    rw [ho] at hin
    have ho' := inside_some.1 hin
    cases o with
    | dict pairs => exact ⟨textPair?_rename Gap.move_injective _ _, Inside.pair? ho' _⟩
    | record parts => exact ⟨get?_rename _ _, Inside.get? ho' _⟩
    | _ => exact ⟨rfl, inside_none⟩

theorem hasSetup_rename (hv : Inside (g.Sees h.size) v) :
    hasSetup h' (rename g.move v) = hasSetup h v := by
  obtain ⟨hpart, hin⟩ := setupPart?_rename hm hv
  unfold hasSetup
  rw [hpart]
  cases hp : setupPart? h v with
  | none => rfl
  | some w =>
    rw [hp] at hin
    exact hm.isCallable (inside_some.1 hin)

/-- **Values are understood alike on both sides.** -/
theorem shapeOf_rename (hv : Inside (g.Sees h.size) v) :
    shapeOf h' (rename g.move v) = shapeOf h v := by
  unfold shapeOf
  rw [(items?_rename hm hv).1, (pairs?_rename hm hv).1, isSpecLike_rename hm hv,
    hasSetup_rename hm hv]
  cases items? h v <;> cases pairs? h v <;> rfl

theorem entryBody_rename (hv : Inside (g.Sees h.size) v) :
    entryBody h' (rename g.move v) = rename g.move (entryBody h v) ∧
      Inside (g.Sees h.size) (entryBody h v) := by
  unfold entryBody
  rw [hm.isCallable hv, hasSetup_rename hm hv]
  split
  · exact ⟨rfl, hv⟩
  · split
    · exact ⟨rfl, hv⟩
    · exact ⟨rfl, hv⟩

end Shapes

/-! ## Components from values -/

theorem mirrors_textIfTrue {v : Value} (hv : Inside (g.Sees s) v) :
    Mirrors g s (textIfTrue v) (textIfTrue (rename g.move v)) := by
  refine mirrors_heap fun h h' hs hm => ?_
  rw [hm.isTrue (hv.later hs)]
  split
  · refine (mirrors_plainText (hv.later hs)).bind fun _ _ t _ => ?_
    exact .pure (inside_some.2 (inside_text t))
  · exact .pure inside_none

theorem isReserved_rename {σ : Nat → Nat} (key : Value) :
    isReserved (rename σ key) = isReserved key := by
  cases key <;> simp [isReserved]

theorem attributes_rename {σ : Nat → Nat} (pairs : List (Value × Value)) :
    (rename σ pairs).filter (fun p => !isReserved p.1) =
      rename σ (pairs.filter fun p => !isReserved p.1) := by
  rw [rename_eq_map, List.filter_map]
  exact congrArg (List.map (rename σ)) (List.filter_congr fun p _ => by
    rw [← isReserved_rename p.1]
    rfl)

@[simp] theorem rename_textOption {σ : Nat → Nat} (t : Option String) : rename σ t = t := by
  cases t <;> rfl

/-- The same component but for the addresses in it. -/
theorem mirrors_spec {source path importName : Option String} {manual : Bool}
    {blockIndex : Option Int} {attributes extra : List (Value × Value)} {config : Option Value}
    (ha : Inside (g.Sees s) attributes) (hx : Inside (g.Sees s) extra)
    (hc : Inside (g.Sees s) config) :
    Mirrors g s
      (pure (Spec.mk source path importName (attributes ++ extra) manual config [] blockIndex))
      (pure (Spec.mk source path importName (rename g.move attributes ++ rename g.move extra)
        manual (rename g.move config) [] blockIndex)) := by
  rw [← rename_append]
  exact .pure (inside_spec.2 ⟨inside_append.2 ⟨ha, hx⟩, hc, inside_nil⟩)

theorem mirrors_ofPairs {pairs : List (Value × Value)} (hp : Inside (g.Sees s) pairs)
    (manual : Bool) (blockIndex : Option Int) :
    Mirrors g s (Spec.ofPairs pairs manual blockIndex)
      (Spec.ofPairs (rename g.move pairs) manual blockIndex) := by
  unfold Spec.ofPairs
  refine mirrors_heap fun h h' hs hm => ?_
  have hp' := hp.later hs
  have hvalue : ∀ key, Inside (g.Sees h.size) (valueOf key pairs) := inside_valueOf hp'
  dsimp only
  simp only [valueOf_rename Gap.move_injective, attributes_rename, filledText?_rename,
    hm.isTrue (hvalue _), hm.isCallable (hvalue _)]
  refine (mirrors_textIfTrue (hvalue _)).bind fun s₁ hs₁ path _ => ?_
  refine (mirrors_textIfTrue ((hvalue _).later hs₁)).bind fun s₂ hs₂ importName _ => ?_
  have hconfig := ((hvalue "config").later hs₁).later hs₂
  have hattributes : Inside (g.Sees s₂) (pairs.filter fun p => !isReserved p.1) :=
    ((hp'.later hs₁).later hs₂).subset (List.filter_subset_self _)
  generalize valueOf "config" pairs = config at hconfig ⊢
  rw [rename_textOption, rename_textOption]
  -- a hook, nothing, or one more attribute
  cases config.isCallable h with
  | true => exact mirrors_spec hattributes inside_nil (inside_some.2 hconfig)
  | false =>
    have hextra := inside_cons.2 ⟨inside_pair.2 ⟨inside_str "config", hconfig⟩, inside_nil⟩
    cases config with
    | nothing => exact mirrors_spec hattributes inside_nil inside_none
    | _ => exact mirrors_spec hattributes hextra inside_none

/-- **Values make the same components.** -/
theorem mirrors_ofValue {v : Value} (hv : Inside (g.Sees s) v) (manual : Bool)
    (blockIndex : Option Int) :
    Mirrors g s (Spec.ofValue v manual blockIndex)
      (Spec.ofValue (rename g.move v) manual blockIndex) := by
  cases v with
  | text t => exact mirrors_spec inside_nil inside_nil inside_none
  | ref a =>
    unfold Spec.ofValue
    rw [rename_ref]
    refine mirrors_heap fun h h' hs hm => ?_
    obtain ⟨hpairs, hin⟩ := pairs?_rename hm (hv.later hs)
    have htype := hm.typeName (hv.later hs)
    rw [rename_ref] at hpairs htype
    rw [hpairs, htype]
    cases hp : pairs? h (.ref a) with
    | none => exact mirrors_fail _ _
    | some pairs =>
      rw [hp] at hin
      exact mirrors_ofPairs (inside_some.1 hin) _ _
  | _ =>
    exact mirrors_failType .attributeError (fun t => s!"'{t}' object has no attribute 'get'") hv

/-! ## Items in order -/

/-- Items are put in the same order, which is told by their texts. -/
theorem sortedByText_rename {σ : Nat → Nat} (items : List (String × Value)) :
    sortedByText (rename σ items) = rename σ (sortedByText items) := by
  unfold sortedByText
  have hsort := List.map_mergeSort (r := fun a b : String × Value => decide (a.1 ≤ b.1))
    (s := fun a b : String × Value => decide (a.1 ≤ b.1)) (f := rename σ) (l := items)
    fun _ _ _ _ => rfl
  rw [rename_eq_map items, ← hsort]
  simp [rename_eq_map, Function.comp_def]

theorem inside_sortedByText {P : Nat → Prop} {items : List (String × Value)}
    (h : Inside P items) : Inside P (sortedByText items) := by
  refine inside_iff_forall.2 fun v hv => ?_
  obtain ⟨p, hp, rfl⟩ := List.mem_map.1 hv
  exact (inside_pair.1 (Inside.of_mem h (List.mem_mergeSort.1 hp))).2

theorem mirrors_inOrder {items : List Value} (hi : Inside (g.Sees s) items) (ordered : Bool) :
    MirrorsTry g s (inOrder items ordered) (inOrder (rename g.move items) ordered) := by
  unfold inOrder
  cases ordered with
  | true => exact .pure hi
  | false =>
    refine (mirrors_onMachine (mirrors_plainTexts hi)).bind fun s₁ hs₁ texts _ => ?_
    rw [rename_texts, zip_rename, sortedByText_rename]
    exact .pure (inside_sortedByText (Inside.zip (hi.later hs₁) texts))

/-! ## Parts of a block -/

theorem mirrors_itemPart (c : Classified) {v : Value} (hv : Inside (g.Sees s) v) :
    MirrorsTry g s (itemPart c v) (itemPart c (rename g.move v)) := by
  unfold itemPart
  refine mirrors_getWorld fun w w' hs hm => ?_
  have hv' := hv.later hs
  obtain ⟨hbody, hin⟩ := entryBody_rename hm hv'
  dsimp only
  rw [isSpecLike_rename hm hv', hbody]
  split
  · refine (mirrors_onMachine (mirrors_ofValue hv' _ _)).bind fun s₁ _ spec hspec => ?_
    exact mirrors_note (.pure hspec)
  · exact mirrors_note (.pure hin)

theorem mirrors_itemParts (c : Classified) {vs : List Value} (hvs : Inside (g.Sees s) vs) :
    MirrorsTry g s (itemParts c vs) (itemParts c (rename g.move vs)) := by
  induction vs generalizing s with
  | nil => exact .pure inside_nil
  | cons v vs ih =>
    obtain ⟨hv, hrest⟩ := inside_cons.1 hvs
    refine (mirrors_itemPart c hv).bind fun s₁ hs₁ p hp => ?_
    refine (ih (hrest.later hs₁)).bind fun s₂ hs₂ ps hps => ?_
    exact .pure (inside_cons.2 ⟨hp.later hs₂, hps⟩)

/-- **What a value declares is the same on both sides.** -/
theorem mirrors_valueParts (c : Classified) (source : String) {v : Value}
    (hv : Inside (g.Sees s) v) :
    MirrorsTry g s (valueParts c source v) (valueParts c source (rename g.move v)) := by
  unfold valueParts
  refine mirrors_getWorld fun w w' hs hm => ?_
  have hv' := hv.later hs
  dsimp only
  rw [shapeOf_rename hm hv']
  cases shapeOf w.heap v with
  | list =>
    obtain ⟨hitems, hin⟩ := items?_rename hm hv'
    dsimp only
    rw [hitems]
    have hfound : ∀ {r : List Value × Bool}, Inside (g.Sees w.heap.size) r →
        MirrorsTry g w.heap.size (do itemParts c (← inOrder r.1 r.2))
          (do itemParts c (← inOrder (rename g.move r.1) r.2)) := fun hr =>
      (mirrors_inOrder (inside_pair.1 hr).1 _).bind fun _ _ _ => mirrors_itemParts c
    cases hi : items? w.heap v with
    | none => exact hfound (r := ([], true)) (inside_pair.2 ⟨inside_nil, nofun⟩)
    | some r =>
      rw [hi] at hin
      exact hfound (inside_some.1 hin)
  | specLike =>
    refine (mirrors_onMachine (mirrors_ofValue hv' _ _)).bind fun s₁ _ spec hspec => ?_
    exact mirrors_note (.pure (inside_cons.2 ⟨hspec, inside_nil⟩))
  | setupCallable =>
    obtain ⟨hpart, hin⟩ := setupPart?_rename hm hv'
    dsimp only
    rw [hpart]
    refine mirrors_note ?_
    cases hi : setupPart? w.heap v with
    | none => exact .pure (inside_cons.2 ⟨inside_nothing, inside_nil⟩)
    | some hook =>
      rw [hi] at hin
      exact .pure (inside_cons.2 ⟨inside_some.1 hin, inside_nil⟩)
  | inert =>
    exact mirrors_note (.pure (inside_cons.2 ⟨hv', inside_nil⟩))
  | invalid =>
    exact mirrors_note (.pure inside_nil)

/-! ## Blocks -/

section Blocks

variable {host : Host} (hhost : Inside (fun a => a < g.start ∧ g.old a) host)

include hhost

theorem mirrors_evaluate (what : String) (index : Int) (exported source : String) :
    MirrorsTry g s (evaluate host what index exported source)
      (evaluate host what index exported source) := by
  unfold evaluate
  cases compile source with
  | error e =>
    refine mirrors_noted ?_ ?_ (.pure inside_none) <;> exact quiet_sameMachine.noteFailure
  | ok code =>
    have hmoved : rename g.move host = host :=
      rename_eq_self fun a ha => Gap.move_of_lt (hhost a ha).1
    have hseen : Inside (g.Sees s) host := hhost.mono fun _ => Or.inl
    have hrun := Compiled.mirrors_run ⟨code, some exported, host⟩ hseen
    dsimp only at hrun
    rw [hmoved] at hrun
    refine (mirrors_onMachine (mirrors_attempt hrun)).bind fun s₁ _ r hr => ?_
    cases r with
    | ok v => exact .pure (inside_some.2 hr)
    | error e =>
      refine mirrors_noted ?_ ?_ (.pure inside_none) <;> exact quiet_sameMachine.noteRaised

theorem mirrors_specParts (convention : String) (c : Classified) (source : String) :
    MirrorsTry g s (specParts host convention c source) (specParts host convention c source) := by
  unfold specParts
  refine (mirrors_evaluate hhost _ _ _ _).bind fun s₁ _ r hr => ?_
  cases r with
  | none => exact .pure inside_nil
  | some v => exact mirrors_valueParts c source (inside_some.1 hr)

theorem mirrors_setupParts (c : Classified) :
    MirrorsTry g s (setupParts host c) (setupParts host c) := by
  unfold setupParts
  refine (mirrors_evaluate hhost _ _ _ _).bind fun s₁ _ r hr => ?_
  cases r with
  | none => exact .pure inside_nil
  | some v =>
    refine mirrors_getWorld fun w w' hs hm => ?_
    have hv := (inside_some.1 hr).later hs
    dsimp only
    rw [hm.isCallable hv]
    split
    · exact mirrors_note (.pure (inside_cons.2 ⟨hv, inside_nil⟩))
    · exact mirrors_note (.pure inside_nil)

theorem mirrors_blockParts (convention : String) (c : Classified) :
    MirrorsTry g s (blockParts host convention c) (blockParts host convention c) := by
  unfold blockParts
  cases c.kind with
  | disabled => exact .pure inside_nil
  | bareReference =>
    exact mirrors_note (mirrors_specParts hhost _ _ _)
  | componentSpec => exact mirrors_specParts hhost _ _ _
  | externalSetup => exact mirrors_setupParts hhost _
  | freeForm =>
    exact mirrors_note (.pure (inside_cons.2 ⟨nofun, inside_nil⟩))

theorem mirrors_allParts (convention : String) (cs : List Classified) :
    MirrorsTry g s (allParts host convention cs) (allParts host convention cs) := by
  induction cs generalizing s with
  | nil => exact .pure inside_nil
  | cons c cs ih =>
    refine (mirrors_blockParts hhost convention c).bind fun s₁ _ ps hps => ?_
    refine ih.bind fun s₂ hs₂ qs hqs => ?_
    rw [← rename_append]
    exact .pure (inside_append.2 ⟨hps.later hs₂, hqs⟩)

/-- **Blocks build the same on both sides**, if the host gives them what is in sight. -/
theorem mirrors_build (convention : String) (cs : List Classified) :
    MirrorsTry g s (build host convention cs) (build host convention cs) := by
  unfold build
  refine (mirrors_allParts hhost convention cs).bind fun s₁ _ ps hps => ?_
  refine mirrors_note ?_
  rw [specsOf_rename, entriesOf_rename]
  exact .pure (inside_pair.2 ⟨inside_specsOf hps, inside_entriesOf hps 1⟩)

end Blocks

end Component

end LiterateConfig
