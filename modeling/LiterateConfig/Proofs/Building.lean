import LiterateConfig.Proofs.Execution
import LiterateConfig.Proofs.HeapGrowth

/-!
# When building ends well

Building recovers from blocks that cannot be compiled and from blocks that fail. It
does not recover from values without a text, which hold a number of too many digits or are
nested too deeply: a component takes the texts of its path and of its import, and the items
of a set are put in order by their texts.

**Endings.** `Ends m q m' P x` says when an action ends well: on the machine `m` exactly
if `q`, and then it leaves the machine `m'` and yields something that satisfies `P`. A
stage with parts is taken apart by `Ends.bind`.

Results:
* `asking`: the values of which building asks for the text, block by block;
* `ends_valueParts`, `ends_blockParts`: what a value and a block come down to;
* `ends_build`: building ends well exactly if all that it asks for has a text, and
  then every entry that is a table has its setup.
-/
namespace LiterateConfig

open LiterateConfig.Block (Classified)
open LiterateConfig.Script (Compiled Eval Heap Machine Raised Reads Value)

variable {α β : Type}

/-! ## Endings -/

/-- On the machine `m` the action ends well exactly if `q`; then it leaves the machine
`m'`, and what it yields satisfies `P`. -/
def Ends (m : Machine) (q : Prop) (m' : Machine) (P : α → Prop) (x : Try Raised α) : Prop :=
  ∀ w, w.machine = m →
    (q ∧ ∃ a w', x w = (.ok a, w') ∧ w'.machine = m' ∧ P a) ∨
      (¬ q ∧ ∃ e w', x w = (.error e, w'))

namespace Ends

variable {m m₁ m' : Machine} {q q' : Prop} {P P' : α → Prop} {Q : β → Prop}

theorem pure {a : α} (h : P a) : Ends m True m P (pure a) :=
  fun w hw => Or.inl ⟨trivial, a, w, rfl, hw, h⟩

theorem congr {x : Try Raised α} (hx : Ends m q m' P x) (h : q ↔ q') : Ends m q' m' P x :=
  propext h ▸ hx

theorem mono {x : Try Raised α} (hx : Ends m q m' P x) (h : ∀ a, P a → P' a) :
    Ends m q m' P' x := by
  intro w hw
  obtain ⟨hq, a, w', ha, hm, hP⟩ | hq := hx w hw
  · exact Or.inl ⟨hq, a, w', ha, hm, h a hP⟩
  · exact Or.inr hq

theorem bind {x : Try Raised α} {f : α → Try Raised β} (hx : Ends m q m₁ P x)
    (hf : ∀ a, P a → Ends m₁ q' m' Q (f a)) : Ends m (q ∧ q') m' Q (x >>= f) := by
  intro w hw
  rw [Try.bind_apply]
  obtain ⟨hq, a, w₁, ha, hm, hP⟩ | ⟨hq, e, w₁, he⟩ := hx w hw
  · rw [ha]
    obtain ⟨hq', h⟩ | ⟨hq', h⟩ := hf a hP w₁ hm
    · exact Or.inl ⟨⟨hq, hq'⟩, h⟩
    · exact Or.inr ⟨fun h => hq' h.2, h⟩
  · rw [he]
    exact Or.inr ⟨fun h => hq h.1, e, w₁, rfl⟩

/-- What comes next always ends well. -/
theorem map {x : Try Raised α} {f : α → Try Raised β} (hx : Ends m q m₁ P x)
    (hf : ∀ a, P a → Ends m₁ True m' Q (f a)) : Ends m q m' Q (x >>= f) :=
  (hx.bind hf).congr (and_iff_left trivial)

/-- What is written to the log does not matter. -/
theorem noted {y : Act Unit} (hy : Moves SameMachine y) {x : Try Raised α}
    (hx : Ends m q m' P x) : Ends m q m' P (do y; x) :=
  fun w hw => hx (y w).2 ((hy w).trans hw)

theorem getWorld {f : World → Try Raised α} (hf : ∀ w, w.machine = m → Ends m q m' P (f w)) :
    Ends m q m' P ((getThe World : Try Raised World) >>= f) :=
  fun w hw => hf w hw w hw

/-- An action does what a computation does that is known. -/
theorem of_runs {x : Try Raised α} {e : Eval α} (hx : Runs x e) {a : α} (h : e m = (.ok a, m')) :
    Ends m True m' (· = a) x := by
  rintro w rfl
  obtain ⟨w', hw', hm⟩ := hx.of_ok h
  exact Or.inl ⟨trivial, a, w', hw', hm, rfl⟩

theorem onMachine {x : Eval α} (hx : Reads x) (hq : (x m).1.isOk = true ↔ q)
    (hP : ∀ a, (x m).1 = .ok a → P a) : Ends m q m P (onMachine x) := by
  rintro w rfl
  obtain ⟨h₁, h₂⟩ := runs_onMachine x w
  rw [← hq]
  cases hr : (x w.machine).1 with
  | ok a => exact Or.inl ⟨rfl, a, _, Prod.ext (h₁.trans hr) rfl, h₂.trans (hx _), hP a hr⟩
  | error e => exact Or.inr ⟨Bool.false_ne_true, e, _, Prod.ext (h₁.trans hr) rfl⟩

end Ends

/-! ## Texts of values -/

namespace Script

/-- What comes next ends as is known, whatever it is given. -/
theorem Reads.isOk_bind {x : Eval α} {f : α → Eval β} (hx : Reads x) {m : Machine} {b : Bool}
    (hf : ∀ a, (f a m).1.isOk = b) : ((x >>= f) m).1.isOk = ((x m).1.isOk && b) := by
  have hm := hx m
  rw [Try.bind_apply]
  rcases h : x m with ⟨e | a, m'⟩ <;> rw [h] at hm
  · rfl
  · obtain rfl : m' = m := hm
    exact hf a

theorem isOk_plainText (v : Value) (m : Machine) :
    (plainText v m).1.isOk = (m.heap.plain? v).isSome :=
  isOk_ofShown _ m

/-- All values have a text. -/
def Legible (h : Heap) (vs : List Value) : Prop := ∀ v ∈ vs, (h.plain? v).isSome = true

theorem legible_nil (h : Heap) : Legible h [] := nofun

theorem legible_cons {h : Heap} {v : Value} {vs : List Value} :
    Legible h (v :: vs) ↔ (h.plain? v).isSome = true ∧ Legible h vs :=
  List.forall_mem_cons

theorem legible_append {h : Heap} {vs ws : List Value} :
    Legible h (vs ++ ws) ↔ Legible h vs ∧ Legible h ws :=
  List.forall_mem_append

theorem isOk_plainTexts {vs : List Value} {m : Machine} :
    (plainTexts vs m).1.isOk = true ↔ Legible m.heap vs := by
  induction vs with
  | nil => exact iff_of_true rfl (legible_nil _)
  | cons v vs ih =>
    have hrest : ∀ s, ((plainTexts vs >>= fun ss => pure (s :: ss) : Eval (List String)) m).1.isOk =
        (plainTexts vs m).1.isOk := fun s => by
      rw [(reads_plainTexts vs).isOk_bind fun _ => rfl, Bool.and_true]
    unfold plainTexts
    rw [(reads_plainText v).isOk_bind hrest, Bool.and_eq_true, isOk_plainText, ih,
      legible_cons]

theorem length_plainTexts {vs : List Value} {m : Machine} {ss : List String}
    (h : (plainTexts vs m).1 = .ok ss) : ss.length = vs.length := by
  induction vs generalizing m ss with
  | nil =>
    cases h
    rfl
  | cons v vs ih =>
    obtain ⟨s, m₁, -, h⟩ := Try.of_bind_ok (Prod.ext h rfl : plainTexts (v :: vs) m = (_, _))
    obtain ⟨rest, m₂, hrest, h⟩ := Try.of_bind_ok h
    cases h
    rw [List.length_cons, List.length_cons, ih (by rw [hrest])]

end Script

open LiterateConfig.Script (Legible legible_append legible_nil)

namespace Component

/-! ## Texts that components take -/

/-- The values that the component takes as texts which a value describes. -/
def spelled (h : Heap) (v : Value) : List Value :=
  match pairs? h v with
  | some pairs =>
    if describesComponent h pairs then
      [valueOf "path" pairs, valueOf "import" pairs].filter fun x => x.isTrue h
    else []
  | none => []

theorem reads_textIfTrue (v : Value) : Reads (textIfTrue v) := by
  refine Script.reads_heap.bind fun h => ?_
  split
  · exact (Script.reads_plainText v).bind fun _ => Script.reads_pure _
  · exact Script.reads_pure _

theorem isOk_textIfTrue (v : Value) (m : Machine) :
    (textIfTrue v m).1.isOk = (!v.isTrue m.heap || (m.heap.plain? v).isSome) := by
  unfold textIfTrue
  rw [Script.heap_bind]
  cases v.isTrue m.heap with
  | false => rfl
  | true =>
    rw [if_pos rfl, (Script.reads_plainText v).isOk_bind fun _ => rfl,
      Script.isOk_plainText]
    simp

theorem reads_ofPairs (pairs : List (Value × Value)) (manual : Bool) (blockIndex : Option Int) :
    Reads (Spec.ofPairs pairs manual blockIndex) := by
  refine Script.reads_heap.bind fun h => ?_
  exact (reads_textIfTrue _).bind fun _ => (reads_textIfTrue _).bind fun _ => Script.reads_pure _

theorem isOk_ofPairs (pairs : List (Value × Value)) (manual : Bool) (blockIndex : Option Int)
    (m : Machine) : (Spec.ofPairs pairs manual blockIndex m).1.isOk = true ↔
      Legible m.heap
        ([valueOf "path" pairs, valueOf "import" pairs].filter fun x => x.isTrue m.heap) := by
  unfold Spec.ofPairs
  rw [Script.heap_bind, (reads_textIfTrue _).isOk_bind fun _ =>
    (reads_textIfTrue _).isOk_bind fun _ => rfl, isOk_textIfTrue, isOk_textIfTrue]
  simp [Legible, List.mem_filter, or_imp, forall_and, ← Bool.not_eq_true,
    ← Decidable.imp_iff_not_or]

theorem reads_ofValue (v : Value) (manual : Bool) (blockIndex : Option Int) :
    Reads (Spec.ofValue v manual blockIndex) := by
  unfold Spec.ofValue
  split
  · exact Script.reads_pure _
  · refine Script.reads_heap.bind fun h => ?_
    split
    · exact reads_ofPairs _ _ _
    · exact Script.reads_throw _

theorem pairs?_eq_some_iff {h : Heap} {v : Value} {pairs : List (Value × Value)} :
    pairs? h v = some pairs ↔ ∃ a, v = .ref a ∧ h.get? a = some (.dict pairs) := by
  unfold pairs?
  cases v with
  | ref a =>
    simp only [Heap.object?, Value.ref.injEq, exists_eq_left']
    cases h.get? a with
    | none => simp
    | some o => cases o <;> simp
  | _ => simp [Heap.object?]

/-- What describes a component is a text or a dictionary. -/
theorem isSpecLike_cases {h : Heap} {v : Value} (hv : isSpecLike h v = true) :
    (∃ s, v = .text s) ∨ ∃ pairs, pairs? h v = some pairs ∧ describesComponent h pairs = true := by
  unfold isSpecLike at hv
  split at hv
  · next s => exact Or.inl ⟨s, rfl⟩
  · split at hv
    · next pairs hp => exact Or.inr ⟨pairs, hp, hv⟩
    · cases hv

theorem spelled_of_not_isSpecLike {h : Heap} {v : Value} (hv : isSpecLike h v = false) :
    spelled h v = [] := by
  unfold isSpecLike at hv
  unfold spelled
  split at hv
  · rfl
  · cases hp : pairs? h v with
    | none => rfl
    | some pairs =>
      rw [hp] at hv
      exact if_neg (Bool.eq_false_iff.1 hv)

theorem ofValue_of_pairs? {v : Value} {m : Machine} {pairs : List (Value × Value)}
    (hp : pairs? m.heap v = some pairs) (manual : Bool) (blockIndex : Option Int) :
    Spec.ofValue v manual blockIndex m = Spec.ofPairs pairs manual blockIndex m := by
  unfold Spec.ofValue
  split
  · cases hp
  · rw [Script.heap_bind, hp]

/-- A value that describes a component is one unless a text that it takes is missing. -/
theorem isOk_ofValue {v : Value} {m : Machine} (hv : isSpecLike m.heap v = true) (manual : Bool)
    (blockIndex : Option Int) : (Spec.ofValue v manual blockIndex m).1.isOk = true ↔
      Legible m.heap (spelled m.heap v) := by
  rcases isSpecLike_cases hv with ⟨s, rfl⟩ | ⟨pairs, hp, hd⟩
  · exact iff_of_true rfl (legible_nil _)
  · have hspelled : spelled m.heap v =
        [valueOf "path" pairs, valueOf "import" pairs].filter fun x => x.isTrue m.heap := by
      simp [spelled, hp, hd]
    rw [ofValue_of_pairs? hp, hspelled]
    exact isOk_ofPairs pairs manual blockIndex m

/-! ## Values -/

/-- The values of which building asks for the text when it takes a value apart: those by
which items are put in order, and those that components take as texts. -/
def asked (h : Heap) (v : Value) : List Value :=
  match items? h v with
  | some (items, ordered) => (if ordered then [] else items) ++ items.flatMap (spelled h)
  | none => spelled h v

/-- A part named `setup` is a value of a dictionary or a part of a record. -/
theorem isSome_setupPart? {h : Heap} {v : Value} :
    (setupPart? h v).isSome = true ↔ ∃ a, v = .ref a ∧
      ((∃ pairs, h.get? a = some (.dict pairs) ∧
          (Script.pair? (.text "setup") pairs).isSome = true) ∨
        ∃ parts, h.get? a = some (.record parts) ∧ (parts.get? "setup").isSome = true) := by
  unfold setupPart?
  constructor
  · intro hs
    split at hs
    · next pairs ho =>
      cases v with
      | ref a => exact ⟨a, rfl, Or.inl ⟨pairs, ho, hs⟩⟩
      | _ => cases ho
    · next parts ho =>
      cases v with
      | ref a => exact ⟨a, rfl, Or.inr ⟨parts, ho, hs⟩⟩
      | _ => cases ho
    · cases hs
  · rintro ⟨a, rfl, ⟨pairs, ho, hs⟩ | ⟨parts, ho, hs⟩⟩
    · rw [show h.object? (.ref a) = some (.dict pairs) from ho]
      exact hs
    · rw [show h.object? (.ref a) = some (.record parts) from ho]
      exact hs

end Component

/-- A table has the setup that will be asked for. -/
def EntryBody.Ready (h : Heap) : EntryBody → Prop
  | .table v => (Component.setupPart? h v).isSome = true
  | _ => True

/-- Parts of objects stay. -/
theorem EntryBody.Ready.mono {h h' : Heap} (hg : h.Grows h') {body : EntryBody}
    (hb : body.Ready h) : body.Ready h' := by
  cases body with
  | table v =>
    obtain ⟨a, rfl, ⟨pairs, ho, hk⟩ | ⟨parts, ho, hk⟩⟩ := Component.isSome_setupPart?.1 hb
    · obtain ⟨pairs', ho', hkeys⟩ := hg.dict a pairs ho
      exact Component.isSome_setupPart?.2 ⟨a, rfl, Or.inl ⟨pairs', ho', hkeys _ hk⟩⟩
    · exact Component.isSome_setupPart?.2 ⟨a, rfl, Or.inr ⟨parts, hg.record a parts ho, hk⟩⟩
  | _ => trivial

namespace Component

/-- A part that is an entry has the setup that will be asked for. -/
def Part.Ready (h : Heap) : Part → Prop
  | .spec _ => True
  | .entry body _ => body.Ready h

theorem Part.Ready.mono {h h' : Heap} (hg : h.Grows h') {p : Part} (hp : p.Ready h) :
    p.Ready h' := by
  cases p with
  | spec _ => trivial
  | entry _ _ => exact EntryBody.Ready.mono hg hp

theorem ready_entryBody (h : Heap) (v : Value) : (entryBody h v).Ready h := by
  unfold entryBody
  split
  · trivial
  · split
    · next hs => exact Option.isSome_of_any hs
    · trivial

theorem ends_itemPart (c : Classified) (v : Value) (m : Machine) :
    Ends m (Legible m.heap (spelled m.heap v)) m (Part.Ready m.heap) (itemPart c v) := by
  unfold itemPart
  refine .getWorld fun w hw => ?_
  obtain rfl := hw
  dsimp only
  cases hv : isSpecLike w.heap v with
  | true =>
    rw [if_pos rfl]
    exact (Ends.onMachine (reads_ofValue _ _ _) (isOk_ofValue hv _ _) fun _ _ => trivial).map
      fun s _ => .noted quiet_sameMachine.note (.pure trivial)
  | false =>
    rw [if_neg Bool.false_ne_true, spelled_of_not_isSpecLike (h := w.machine.heap) hv]
    have hready : Part.Ready w.machine.heap (.entry (entryBody w.heap v) c.index) :=
      ready_entryBody _ v
    exact (Ends.noted quiet_sameMachine.note (.pure hready)).congr
      (iff_of_true trivial (legible_nil _))

theorem ends_itemParts (c : Classified) (vs : List Value) (m : Machine) :
    Ends m (∀ v ∈ vs, Legible m.heap (spelled m.heap v)) m (fun ps => ∀ p ∈ ps, p.Ready m.heap)
      (itemParts c vs) := by
  induction vs with
  | nil => exact (Ends.pure (by simp)).congr (by simp)
  | cons v vs ih =>
    refine Ends.congr ?_ List.forall_mem_cons.symm
    refine (ends_itemPart c v m).bind fun p hp => ih.map fun ps hps => .pure ?_
    exact List.forall_mem_cons.2 ⟨hp, hps⟩

theorem perm_sortedByText {texts : List String} {items : List Value}
    (h : texts.length = items.length) : (sortedByText (texts.zip items)).Perm items := by
  have hsnd : (texts.zip items).map Prod.snd = items := List.map_snd_zip (Nat.le_of_eq h.symm)
  exact ((List.mergeSort_perm _ _).map Prod.snd).trans (.of_eq hsnd)

theorem ends_inOrder (items : List Value) (ordered : Bool) (m : Machine) :
    Ends m (Legible m.heap (if ordered then [] else items)) m (·.Perm items)
      (inOrder items ordered) := by
  cases ordered with
  | true => exact (Ends.pure (.refl _)).congr (iff_of_true trivial (legible_nil _))
  | false =>
    refine (Ends.onMachine (P := fun ss => ss.length = items.length) (Script.reads_plainTexts items)
      Script.isOk_plainTexts fun _ => Script.length_plainTexts).map fun ss hss => .pure ?_
    exact perm_sortedByText hss

theorem shapeOf_of_items? {h : Heap} {v : Value} {r : List Value × Bool}
    (hi : items? h v = some r) : shapeOf h v = .list := by
  simp [shapeOf, hi]

/-- A value that is no collection takes texts only if it is understood as a component. -/
theorem shapeOf_cases {h : Heap} {v : Value} (hi : items? h v = none) :
    (shapeOf h v = .specLike ∧ isSpecLike h v = true) ∨
      (shapeOf h v ∈ [.setupCallable, .inert, .invalid] ∧ spelled h v = []) := by
  unfold shapeOf
  rw [hi, if_neg (by simp)]
  cases hp : pairs? h v with
  | none => cases hasSetup h v <;> simp [spelled, hp]
  | some pairs =>
    cases hv : isSpecLike h v with
    | true => simp
    | false => cases hasSetup h v <;> simp [spelled_of_not_isSpecLike hv]

/-- **What a value comes down to**: its parts, unless a text that is asked for is missing. -/
theorem ends_valueParts (c : Classified) (source : String) (v : Value) (m : Machine) :
    Ends m (Legible m.heap (asked m.heap v)) m (fun ps => ∀ p ∈ ps, p.Ready m.heap)
      (valueParts c source v) := by
  unfold valueParts asked
  refine .getWorld fun w hw => ?_
  obtain rfl := hw
  dsimp only
  cases hi : items? w.machine.heap v with
  | some r =>
    obtain ⟨items, ordered⟩ := r
    rw [show shapeOf w.heap v = .list from shapeOf_of_items? hi,
      show items? w.heap v = some (items, ordered) from hi]
    dsimp only [Option.getD_some]
    have hparts : ∀ vs : List Value, vs.Perm items →
        Ends w.machine (∀ v ∈ items, Legible w.machine.heap (spelled w.machine.heap v)) w.machine
          (fun ps => ∀ p ∈ ps, p.Ready w.machine.heap) (itemParts c vs) := fun vs hvs =>
      (ends_itemParts c vs _).congr (forall_congr' fun v => by rw [hvs.mem_iff])
    refine Ends.congr ((ends_inOrder items ordered _).bind hparts) ?_
    rw [legible_append]
    refine and_congr_right fun _ => ?_
    simp only [Legible, List.mem_flatMap]
    exact ⟨fun h x ⟨v, hv, hx⟩ => h v hv x hx, fun h v hv x hx => h x ⟨v, hv, hx⟩⟩
  | none =>
    dsimp only
    rcases shapeOf_cases hi with ⟨hs, hv⟩ | ⟨hs, hnone⟩
    · rw [show shapeOf w.heap v = .specLike from hs]
      refine (Ends.onMachine (reads_ofValue _ _ _) (isOk_ofValue hv _ _) fun _ _ => trivial).map
        fun s _ => .noted quiet_sameMachine.note (.pure ?_)
      exact List.forall_mem_singleton.2 trivial
    · rw [hnone]
      refine Ends.congr ?_ (iff_of_true trivial (legible_nil _))
      have hs' : shapeOf w.heap v ∈ [.setupCallable, .inert, .invalid] := hs
      simp only [List.mem_cons, List.not_mem_nil, or_false] at hs'
      rcases hs' with hs' | hs' | hs' <;> rw [hs']
      · exact .noted quiet_sameMachine.note (.pure (List.forall_mem_singleton.2 trivial))
      · exact .noted quiet_sameMachine.note (.pure (List.forall_mem_singleton.2 trivial))
      · exact .noted quiet_sameMachine.note (.pure nofun)

/-! ## Blocks -/

/-- A text as code that exports a name, if it can be compiled. -/
def compiled? (host : Script.Host) (exported source : String) : Option Compiled :=
  (Script.compile source).toOption.map fun code => ⟨code, some exported, host⟩

/-- The code that building runs for a block. -/
def code? (host : Script.Host) (convention : String) (c : Classified) : Option Compiled :=
  match c.kind with
  | .disabled | .freeForm => none
  | .bareReference => compiled? host convention (wrapReference c.body)
  | .componentSpec => compiled? host convention c.body
  | .externalSetup => compiled? host setupName c.body

/-- Runs the code of a block if it has any; there is no value if it fails. -/
def valueOf? (code : Option Compiled) : Eval (Option Value) := do
  match code with
  | none => return none
  | some c => return (← Script.attempt c.run).toOption

/-- The values of which building asks for the text when the code of a block has given a
value; a setup function is taken as it is. -/
def askedBy (c : Classified) (h : Heap) (v : Option Value) : List Value :=
  if c.kind = .externalSetup then [] else (v.map (asked h)).getD []

/-- Runs the code of blocks in order and gives the values of which building asks for the
text, each with the heap at that time. -/
def asking (host : Script.Host) (convention : String) :
    List Classified → Eval (List (Heap × Value))
  | [] => return []
  | c :: cs => do
    let v ← valueOf? (code? host convention c)
    let h ← Script.heap
    let rest ← asking host convention cs
    return (askedBy c h v).map (h, ·) ++ rest

theorem runs_evaluate (host : Script.Host) (what : String) (index : Int)
    (exported source : String) :
    Runs (evaluate host what index exported source)
      (valueOf? (compiled? host exported source)) := by
  unfold evaluate valueOf? compiled?
  cases Script.compile source with
  | error e => exact (runs_pure _).noted quiet_sameMachine.noteFailure
  | ok code =>
    refine (runs_attempt _).bind fun r => ?_
    cases r with
    | ok v => exact runs_pure _
    | error e => exact (runs_pure _).noted quiet_sameMachine.noteRaised

theorem grows_valueOf? (code : Option Compiled) : Script.Grows (valueOf? code) := by
  unfold valueOf?
  split
  · exact Script.grows_pure _
  · next c => exact c.grows_run.attempt.bind fun _ => Script.grows_pure _

theorem grows_asking (host : Script.Host) (convention : String) (cs : List Classified) :
    Script.Grows (asking host convention cs) := by
  induction cs with
  | nil => exact Script.grows_pure _
  | cons c cs ih =>
    refine (grows_valueOf? _).bind fun v => Script.grows_heap.bind fun h => ?_
    exact ih.bind fun _ => Script.grows_pure _

variable {host : Script.Host} {convention : String} {m m' : Machine}

theorem ends_specParts (c : Classified) {source : String} {v : Option Value}
    (h : valueOf? (compiled? host convention source) m = (.ok v, m')) :
    Ends m (Legible m'.heap ((v.map (asked m'.heap)).getD [])) m'
      (fun ps => ∀ p ∈ ps, p.Ready m'.heap) (specParts host convention c source) := by
  unfold specParts
  refine Ends.congr ((Ends.of_runs (runs_evaluate _ _ _ _ _) h).bind fun r hr => ?_)
    (and_iff_right trivial)
  subst hr
  cases r with
  | none => exact (Ends.pure nofun).congr (iff_of_true trivial (legible_nil _))
  | some v => exact ends_valueParts c source v m'

theorem ends_setupParts {c : Classified} {v : Option Value}
    (h : valueOf? (compiled? host setupName c.body) m = (.ok v, m')) :
    Ends m True m' (fun ps => ∀ p ∈ ps, p.Ready m'.heap) (setupParts host c) := by
  unfold setupParts
  refine (Ends.of_runs (runs_evaluate _ _ _ _ _) h).map fun r _ => ?_
  cases r with
  | none => exact .pure nofun
  | some v =>
    refine .getWorld fun w _ => ?_
    dsimp only
    split
    · exact .noted quiet_sameMachine.note (.pure (List.forall_mem_singleton.2 trivial))
    · exact .noted quiet_sameMachine.note (.pure nofun)

/-- **What a block comes down to**: its parts, unless a text that is asked for is missing. -/
theorem ends_blockParts {c : Classified} {v : Option Value}
    (h : valueOf? (code? host convention c) m = (.ok v, m')) :
    Ends m (Legible m'.heap (askedBy c m'.heap v)) m' (fun ps => ∀ p ∈ ps, p.Ready m'.heap)
      (blockParts host convention c) := by
  unfold code? at h
  unfold blockParts askedBy
  cases hk : c.kind with
  | disabled =>
    rw [hk] at h
    cases h
    exact (Ends.pure nofun).congr (iff_of_true trivial (legible_nil _))
  | bareReference =>
    rw [hk] at h
    exact .noted quiet_sameMachine.note (ends_specParts c h)
  | componentSpec =>
    rw [hk] at h
    exact ends_specParts c h
  | externalSetup =>
    rw [hk] at h
    exact (ends_setupParts h).congr (iff_of_true trivial (legible_nil _))
  | freeForm =>
    rw [hk] at h
    cases h
    exact (Ends.noted quiet_sameMachine.note (.pure (List.forall_mem_singleton.2 trivial))).congr
      (iff_of_true trivial (legible_nil _))

/-- Each of the values has a text on its heap. -/
def AllLegible (xs : List (Heap × Value)) : Prop := ∀ x ∈ xs, (x.1.plain? x.2).isSome = true

theorem allLegible_append {h : Heap} {vs : List Value} {xs : List (Heap × Value)} :
    AllLegible (vs.map (h, ·) ++ xs) ↔ Legible h vs ∧ AllLegible xs := by
  unfold AllLegible
  rw [List.forall_mem_append, List.forall_mem_map]
  rfl

theorem ends_allParts {cs : List Classified} {xs : List (Heap × Value)}
    (h : asking host convention cs m = (.ok xs, m')) :
    Ends m (AllLegible xs) m' (fun ps => ∀ p ∈ ps, p.Ready m'.heap)
      (allParts host convention cs) := by
  induction cs generalizing m xs with
  | nil =>
    cases h
    exact (Ends.pure nofun).congr (iff_of_true trivial nofun)
  | cons c cs ih =>
    obtain ⟨v, m₁, hv, h⟩ := Try.of_bind_ok h
    rw [Script.heap_bind] at h
    obtain ⟨rest, m₂, hrest, h⟩ := Try.of_bind_ok h
    cases h
    have hg := grows_asking host convention cs m₁
    rw [hrest] at hg
    refine Ends.congr ?_ allLegible_append.symm
    refine (ends_blockParts hv).bind fun ps hps => (ih hrest).map fun qs hqs => .pure ?_
    exact List.forall_mem_append.2 ⟨fun p hp => (hps p hp).mono hg, hqs⟩

theorem ready_entriesOf {h : Heap} {ps : List Part} (hps : ∀ p ∈ ps, p.Ready h) (next : Nat) :
    ∀ e ∈ entriesOf next ps, e.body.Ready h := by
  induction ps generalizing next with
  | nil => exact nofun
  | cons p ps ih =>
    obtain ⟨hp, hrest⟩ := List.forall_mem_cons.1 hps
    cases p with
    | spec s => exact ih hrest next
    | entry body blockIndex => exact List.forall_mem_cons.2 ⟨hp, ih hrest (next + 1)⟩

/-- **When building ends well**: exactly if all that it asks for has a text. Then every
entry that is a table has its setup. -/
theorem ends_build {cs : List Classified} {xs : List (Heap × Value)}
    (h : asking host convention cs m = (.ok xs, m')) :
    Ends m (AllLegible xs) m' (fun r => ∀ e ∈ r.2, e.body.Ready m'.heap)
      (build host convention cs) := by
  unfold build
  exact (ends_allParts h).map fun ps hps =>
    .noted quiet_sameMachine.note (.pure (ready_entriesOf hps 1))

end Component

end LiterateConfig
