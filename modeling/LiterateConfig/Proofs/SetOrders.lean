import LiterateConfig.Proofs.AlikeHeaps
import LiterateConfig.Proofs.HollowSpecs
import LiterateConfig.Proofs.SoundRuns
import LiterateConfig.Proofs.StateFile

/-!
# Sets of components

The items of a set are put in order by their texts before they are taken apart. A text that is
not empty becomes a component, which is called by it; every other item becomes an entry. Two
items can have the same text, such as the number one and the text `1`, and then the order in
which the set lists them stays. But no two of the texts are equal, so the components come in
one order only, whichever order the set lists its items in.

That is so if all items have a text. One item without a text is enough, and nothing of the
set is taken: the error is not noted but raised.

Results:
* `namesOf_sortedByText`: the components of a set, put in order;
* `taken_of_builtFrom`: what building gives for a set;
* `build_set_in_any_order`: what it gives whichever order the set has.
-/
namespace LiterateConfig

open LiterateConfig.Block (Classified)
open LiterateConfig.Install (NameSet)
open LiterateConfig.Script (Heap Legible Machine Raised Value insertItem)

namespace Script

/-! ## Texts of items -/

theorem plain?_text (h : Heap) (s : String) : h.plain? (.text s) = some s := by
  unfold Heap.plain? Heap.plain Heap.plainIn
  rfl

/-- The texts that are asked for. -/
theorem plain?_of_plainTexts {vs : List Value} {m : Machine} {ss : List String}
    (h : (plainTexts vs m).1 = .ok ss) : ∀ p ∈ ss.zip vs, m.heap.plain? p.2 = some p.1 := by
  induction vs generalizing m ss with
  | nil => simp
  | cons v vs ih =>
    obtain ⟨s, m₁, hs, h⟩ := Try.of_bind_ok (Prod.ext h rfl : plainTexts (v :: vs) m = (_, _))
    obtain ⟨hplain, rfl⟩ := plainText_ok hs
    obtain ⟨rest, m₂, hrest, h⟩ := Try.of_bind_ok h
    cases h
    rw [List.zip_cons_cons, List.forall_mem_cons]
    exact ⟨hplain, ih (by rw [hrest])⟩

theorem legible_perm_iff {h : Heap} {vs vs' : List Value} (hperm : vs.Perm vs') :
    Legible h vs ↔ Legible h vs' :=
  forall_congr' fun v => by rw [hperm.mem_iff]

end Script

namespace Component

variable {c : Classified} {h h' : Heap} {v v' : Value} {items : List Value} {w u : World}

/-! ## Components among the items -/

/-- The texts that are components, in the order in which they stand. -/
def namesOf (items : List Value) : List String := items.filterMap filledText?

theorem filledText?_eq_some_iff {t : String} : filledText? v = some t ↔ v = .text t ∧ t ≠ "" := by
  cases v with
  | text s =>
    have htext : filledText? (.text s) = if s.isEmpty then none else some s := rfl
    rw [htext, Value.text.injEq]
    by_cases hs : s = ""
    · subst hs
      exact iff_of_false (by simp) fun h => h.2 h.1.symm
    · have hfilled : s.isEmpty = false := by simpa using hs
      rw [hfilled, if_neg Bool.false_ne_true, Option.some.injEq]
      exact (and_iff_left_of_imp fun heq => heq ▸ hs).symm
  | _ => simp [filledText?]

theorem mem_namesOf {t : String} : t ∈ namesOf items ↔ .text t ∈ items ∧ t ≠ "" := by
  simp only [namesOf, List.mem_filterMap, filledText?_eq_some_iff]
  exact ⟨fun ⟨v, hv, htext, hne⟩ => ⟨htext ▸ hv, hne⟩, fun ⟨hv, hne⟩ => ⟨_, hv, rfl, hne⟩⟩

/-- No two components of a set are called alike. -/
theorem nodup_namesOf (hset : items.Pairwise fun v w => v.isSame w = false) :
    (namesOf items).Nodup := by
  refine List.Pairwise.filterMap _ (fun v w hvw s hs t ht => ?_) hset
  obtain ⟨rfl, -⟩ := filledText?_eq_some_iff.1 hs
  obtain ⟨rfl, -⟩ := filledText?_eq_some_iff.1 ht
  simpa [Value.isSame] using hvw

theorem pairwise_mergeSort_fst {α : Type} (l : List (String × α)) :
    (l.mergeSort fun a b => decide (a.1 ≤ b.1)).Pairwise fun a b => a.1 ≤ b.1 := by
  have htrans (a b c : String × α) (hab : decide (a.1 ≤ b.1) = true)
      (hbc : decide (b.1 ≤ c.1) = true) : decide (a.1 ≤ c.1) = true :=
    decide_eq_true (String.le_trans (of_decide_eq_true hab) (of_decide_eq_true hbc))
  have htotal (a b : String × α) : (decide (a.1 ≤ b.1) || decide (b.1 ≤ a.1)) = true := by
    simpa using String.le_total a.1 b.1
  exact (List.pairwise_mergeSort htrans htotal l).imp of_decide_eq_true

/-- **The components of a set, put in order.** A text is put in order by itself, so components
ascend, wherever other items stand between them. -/
theorem namesOf_sortedByText {texts : List String}
    (htexts : ∀ p ∈ texts.zip items, h.plain? p.2 = some p.1)
    (hlength : texts.length = items.length) (hnodup : (namesOf items).Nodup) :
    namesOf (sortedByText (texts.zip items)) = NameSet.ofList (namesOf items) := by
  have hperm : (namesOf (sortedByText (texts.zip items))).Perm (namesOf items) :=
    (perm_sortedByText hlength).filterMap filledText?
  have hkey : ∀ p ∈ (texts.zip items).mergeSort (fun a b => decide (a.1 ≤ b.1)),
      ∀ t, filledText? p.2 = some t → p.1 = t := by
    intro p hp t ht
    have hplain := htexts p (List.mem_mergeSort.1 hp)
    rw [(filledText?_eq_some_iff.1 ht).1, Script.plain?_text] at hplain
    exact (Option.some.inj hplain).symm
  have hsorted : (namesOf (sortedByText (texts.zip items))).Pairwise (· ≤ ·) := by
    unfold namesOf sortedByText
    rw [List.filterMap_map, List.pairwise_filterMap]
    refine (pairwise_mergeSort_fst _).imp_of_mem fun {p q} hp hq hpq s hs t ht => ?_
    rw [← hkey p hp s hs, ← hkey q hq t ht]
    exact hpq
  have hascending : NameSet.Ascending (namesOf (sortedByText (texts.zip items))) := by
    refine hsorted.imp₂ (fun s t hst hne => ?_) (hperm.nodup_iff.2 hnodup)
    exact String.not_le.1 fun hts => hne (String.le_antisymm hst hts)
  refine NameSet.eq_of_ascending hascending (NameSet.ascending_ofList _) fun t => ?_
  rw [hperm.mem_iff, NameSet.mem_ofList]

/-! ## What items become -/

/-- The part that an item of a set becomes. -/
def keyPart (c : Classified) (h : Heap) (v : Value) : Part :=
  match filledText? v with
  | some t => .spec (Spec.ofSource t c.block.manual (some c.index))
  | none => .entry (entryBody h v) c.index

/-- What can be a key is no dictionary. -/
theorem pairs?_of_key (hv : v.unhashable? h = none) : pairs? h v = none := by
  cases hp : pairs? h v with
  | none => rfl
  | some pairs =>
    obtain ⟨a, rfl, ha⟩ := pairs?_eq_some_iff.1 hp
    simp [Value.unhashable?, ha] at hv

theorem itemPart_of_key (hv : pairs? w.heap v = none) :
    ∃ w', itemPart c v w = (.ok (keyPart c w.heap v), w') ∧ w'.machine = w.machine := by
  unfold itemPart keyPart
  rw [Try.getWorld_bind]
  cases ht : filledText? v with
  | some t =>
    obtain ⟨rfl, hne⟩ := filledText?_eq_some_iff.1 ht
    have hlike : isSpecLike w.heap (.text t) = true := by simp [isSpecLike, hne]
    have hmade : Spec.ofValue (.text t) c.block.manual (some c.index) w.machine =
        (.ok (Spec.ofSource t c.block.manual (some c.index)), w.machine) := rfl
    rw [if_pos hlike, Try.bind_of_ok (onMachine_of_ok hmade)]
    exact ⟨_, rfl, quiet_sameMachine.note w⟩
  | none =>
    have hunlike : isSpecLike w.heap v = false := by
      unfold isSpecLike
      split
      · next s =>
        by_cases hs : s = ""
        · simp [hs]
        · rw [filledText?_eq_some_iff.2 ⟨rfl, hs⟩] at ht
          cases ht
      · rw [hv]
    rw [if_neg (by simp [hunlike])]
    exact ⟨_, rfl, quiet_sameMachine.note w⟩

theorem itemParts_of_keys (hkeys : ∀ v ∈ items, pairs? w.heap v = none) :
    (itemParts c items w).1 = .ok (items.map (keyPart c w.heap)) := by
  induction items generalizing w with
  | nil => rfl
  | cons v vs ih =>
    obtain ⟨hv, hvs⟩ := List.forall_mem_cons.1 hkeys
    obtain ⟨w', hpart, hsame⟩ := itemPart_of_key (c := c) hv
    have hheap : w'.heap = w.heap := congrArg Machine.heap hsame
    have hrest := ih (w := w') (hheap ▸ hvs)
    rw [hheap] at hrest
    unfold itemParts
    rw [Try.bind_of_ok hpart, Try.bind_of_ok (Prod.ext hrest rfl)]
    rfl

theorem specsOf_keyParts : specsOf (items.map (keyPart c h)) =
    (namesOf items).map fun t => Spec.ofSource t c.block.manual (some c.index) := by
  induction items with
  | nil => rfl
  | cons v vs ih =>
    cases ht : filledText? v with
    | some t => simpa [specsOf, namesOf, keyPart, ht] using ih
    | none => simpa [specsOf, namesOf, keyPart, ht] using ih

/-- The bodies of the entries that are made of the items of a set. -/
def bodiesOf (h : Heap) (items : List Value) : List EntryBody :=
  (items.filter fun v => (filledText? v).isNone).map (entryBody h)

theorem entriesOf_keyParts (next : Nat) :
    (entriesOf next (items.map (keyPart c h))).map Entry.body = bodiesOf h items := by
  induction items generalizing next with
  | nil => rfl
  | cons v vs ih =>
    cases ht : filledText? v with
    | some t => simpa [entriesOf, bodiesOf, keyPart, ht] using ih next
    | none => simpa [entriesOf, bodiesOf, keyPart, ht] using ih (next + 1)

/-! ## What a set comes down to -/

/-- What building gives for a block alone whose code has given a value. -/
def builtFrom (c : Classified) (v : Value) (w : World) : Except Raised (List Spec × List Entry) :=
  (valueParts c c.body v w).1.map assembled

/-- The components of a set: one for each text that is not empty, by ascending text. -/
def specsOfSet (c : Classified) (items : List Value) : List Spec :=
  (NameSet.ofList (namesOf items)).map fun t => Spec.ofSource t c.block.manual (some c.index)

/-- What is taken from a set: its components, and in some order an entry for each other item. -/
structure Taken (c : Classified) (h : Heap) (items : List Value) (r : List Spec × List Entry) :
    Prop where
  specs : r.1 = specsOfSet c items
  entries : (r.2.map Entry.body).Perm (bodiesOf h items)

/-- The items of a set put in order, unless one of them has no text. -/
theorem inOrder_cases (items : List Value) (w : World) :
    (∃ texts : List String, inOrder items false w = (.ok (sortedByText (texts.zip items)), w) ∧
      Legible w.heap items ∧ texts.length = items.length ∧
      ∀ p ∈ texts.zip items, w.heap.plain? p.2 = some p.1) ∨
    (∃ e, (inOrder items false w).1 = .error e) ∧ ¬ Legible w.heap items := by
  have hreads := (Script.reads_plainTexts items).onMachine_apply w
  unfold inOrder
  rw [if_neg Bool.false_ne_true]
  cases htexts : (Script.plainTexts items w.machine).1 with
  | ok texts =>
    rw [htexts] at hreads
    rw [Try.bind_of_ok hreads]
    refine .inl ⟨texts, rfl, ?_, Script.length_plainTexts htexts,
      Script.plain?_of_plainTexts htexts⟩
    exact Script.isOk_plainTexts.1 (by rw [htexts]; rfl)
  | error e =>
    refine .inr ⟨⟨e, Try.fst_bind_of_error (by rw [hreads, htexts]) _⟩, fun hlegible => ?_⟩
    have hok := Script.isOk_plainTexts.2 hlegible
    rw [htexts] at hok
    cases hok

/-- **What building gives for a set**: what is taken from it, if all its items have a text. -/
theorem taken_of_builtFrom (hitems : items? w.heap v = some (items, false))
    (hkeys : ∀ x ∈ items, pairs? w.heap x = none) (hnodup : (namesOf items).Nodup) :
    ((builtFrom c v w).isOk = true ↔ Legible w.heap items) ∧
      ∀ r, builtFrom c v w = .ok r → Taken c w.heap items r := by
  have hparts : valueParts c c.body v w = (inOrder items false >>= itemParts c) w := by
    unfold valueParts
    rw [Try.getWorld_bind, shapeOf_of_items? hitems, hitems]
    rfl
  rcases inOrder_cases items w with ⟨texts, horder, hlegible, hlength, htexts⟩ | ⟨⟨e, he⟩, hnot⟩
  · have hperm := perm_sortedByText hlength
    have hkeys : ∀ x ∈ sortedByText (texts.zip items), pairs? w.heap x = none := fun x hx =>
      hkeys x (hperm.mem_iff.1 hx)
    have hbuilt : builtFrom c v w =
        .ok (assembled ((sortedByText (texts.zip items)).map (keyPart c w.heap))) := by
      rw [builtFrom, hparts, Try.bind_of_ok horder, itemParts_of_keys hkeys]
      rfl
    refine ⟨iff_of_true (by rw [hbuilt]; rfl) hlegible, fun r hr => ?_⟩
    rw [hbuilt] at hr
    cases hr
    constructor
    · show specsOf _ = _
      rw [specsOf_keyParts, namesOf_sortedByText htexts hlength hnodup]
      rfl
    · show ((entriesOf 1 _).map Entry.body).Perm _
      rw [entriesOf_keyParts]
      exact (hperm.filter _).map _
  · have hbuilt : builtFrom c v w = .error e := by
      rw [builtFrom, hparts, Try.fst_bind_of_error he]
      rfl
    refine ⟨iff_of_false (by rw [hbuilt]; exact Bool.false_ne_true) hnot, fun r hr => ?_⟩
    rw [hbuilt] at hr
    cases hr

/-! ## The set in any order -/

/-- A value of one heap is the set that a value of another one is, with its items and those of
all sets in some order. -/
structure Reordered (h : Heap) (items : List Value) (h' : Heap) (v' : Value) : Prop where
  alike : h.Alike h'
  items : ∃ items', items? h' v' = some (items', false) ∧ items.Perm items'

theorem Reordered.refl (hitems : items? h v = some (items, false)) : Reordered h items h v :=
  ⟨.refl h, items, hitems, .refl items⟩

theorem specsOfSet_perm {items' : List Value} (hperm : items.Perm items') :
    specsOfSet c items = specsOfSet c items' := by
  have hnames : NameSet.ofList (namesOf items) = NameSet.ofList (namesOf items') := by
    refine NameSet.eq_of_ascending (NameSet.ascending_ofList _) (NameSet.ascending_ofList _) ?_
    intro t
    rw [NameSet.mem_ofList, NameSet.mem_ofList]
    exact (hperm.filterMap filledText?).mem_iff
  rw [specsOfSet, specsOfSet, hnames]

theorem bodiesOf_perm {items' : List Value} (hh : h.Alike h') (hperm : items.Perm items') :
    (bodiesOf h' items').Perm (bodiesOf h items) := by
  have hbodies : bodiesOf h' items' = bodiesOf h items' :=
    List.map_congr_left fun v _ => hh.entryBody v
  rw [hbodies]
  exact ((hperm.filter _).map _).symm

/-- What is taken from the set does not depend on the order. -/
theorem taken_of_reordered (hset : Script.IsSet h items) (hv : Reordered h items w.heap v) :
    ((builtFrom c v w).isOk = true ↔ Legible h items) ∧
      ∀ r, builtFrom c v w = .ok r → Taken c h items r := by
  obtain ⟨hh, items', hitems, hperm⟩ := hv
  have hkeys : ∀ x ∈ items', pairs? w.heap x = none := fun x hx => by
    rw [hh.pairs?]
    exact pairs?_of_key (hset.keys x (hperm.mem_iff.2 hx))
  have hnodup : (namesOf items').Nodup :=
    (hperm.filterMap filledText?).nodup_iff.1 (nodup_namesOf hset.distinct)
  obtain ⟨hends, htaken⟩ := taken_of_builtFrom (c := c) hitems hkeys hnodup
  refine ⟨hends.trans ?_, fun r hr => ?_⟩
  · rw [Script.legible_perm_iff hperm]
    exact (hh.legible_iff items').symm
  · obtain ⟨hspecs, hentries⟩ := htaken r hr
    exact ⟨hspecs.trans (specsOfSet_perm hperm).symm, hentries.trans (bodiesOf_perm hh hperm)⟩

variable {host : Script.Host} {convention : String}

/-- A block alone comes down to the value that its code gives. -/
theorem build_eq_builtFrom (hkind : c.kind = .componentSpec)
    (hvalue : evaluate host "component spec" c.index convention c.body w = (.ok (some v), u)) :
    (build host convention [c] w).1 = builtFrom c v u := by
  have hblock : blockParts host convention c w = valueParts c c.body v u := by
    unfold blockParts
    rw [hkind]
    exact Try.bind_of_ok hvalue _
  have hparts : (allParts host convention [c] w).1 = (valueParts c c.body v u).1 := by
    unfold allParts
    rw [Try.bind_apply, hblock]
    rcases valueParts c c.body v u with ⟨e | ps, w'⟩
    · rfl
    · exact congrArg Except.ok (List.append_nil ps)
  rw [(build_apply _ _ _ _).1, hparts]
  rfl

/-- The sources of the components: the texts of the set that are not empty, ascending. -/
theorem sources_specsOfSet (c : Classified) (items : List Value) :
    ∃ names, NameSet.Ascending names ∧ (∀ t, t ∈ names ↔ .text t ∈ items ∧ t ≠ "") ∧
      (specsOfSet c items).map Spec.source = names.map some := by
  refine ⟨_, NameSet.ascending_ofList (namesOf items), fun t => ?_, ?_⟩
  · rw [NameSet.mem_ofList, mem_namesOf]
  · rw [specsOfSet, List.map_map]
    rfl

/-- **A set in any order.** A block whose code gives a set comes down to that set, whichever
blocks are built before it. In whichever orders it lists its items, either all of them have a
text or nothing is taken. What is taken is the same in any two orders: a component for each
text that is not empty, by ascending sources, and the same entries but for their order, one for
each other item. -/
theorem build_set_in_any_order {xs : List Classified} {start : World}
    {before : List Spec × List Entry} (hhost : Script.AllSound start.heap (host.map Prod.snd))
    (hsound : start.heap.Sound) (hbefore : build host convention xs start = (.ok before, w))
    (hkind : c.kind = .componentSpec)
    (hvalue : evaluate host "component spec" c.index convention c.body w = (.ok (some v), u))
    (hitems : items? u.heap v = some (items, false)) :
    (build host convention (xs ++ [c]) start).1 = (builtFrom c v u).map (joined before) ∧
    Reordered u.heap items u.heap v ∧
    ∀ v₁ w₁ v₂ w₂, Reordered u.heap items w₁.heap v₁ → Reordered u.heap items w₂.heap v₂ →
      ((builtFrom c v₁ w₁).isOk = true ↔ Legible u.heap items) ∧
      ((builtFrom c v₂ w₂).isOk = true ↔ Legible u.heap items) ∧
      ∀ r₁ r₂, builtFrom c v₁ w₁ = .ok r₁ → builtFrom c v₂ w₂ = .ok r₂ →
        r₁.1 = r₂.1 ∧
        (∃ names, NameSet.Ascending names ∧ (∀ t, t ∈ names ↔ .text t ∈ items ∧ t ≠ "") ∧
          r₁.1.map Spec.source = names.map some) ∧
        (r₁.2.map Entry.body).Perm (r₂.2.map Entry.body) ∧
        (r₁.2.map Entry.body).Perm (bodiesOf u.heap items) := by
  obtain ⟨hhost, hsound⟩ := sound_of_build hhost hsound hbefore
  have hset := isSet_of_evaluate hhost hsound hvalue hitems
  have hbuild :
      (build host convention (xs ++ [c]) start).1 = (builtFrom c v u).map (joined before) := by
    rw [(build_append_of_ok hbefore [c]).1, build_eq_builtFrom hkind hvalue]
  refine ⟨hbuild, .refl hitems, fun v₁ w₁ v₂ w₂ hv₁ hv₂ => ?_⟩
  obtain ⟨hends₁, htaken₁⟩ := taken_of_reordered (c := c) hset hv₁
  obtain ⟨hends₂, htaken₂⟩ := taken_of_reordered (c := c) hset hv₂
  refine ⟨hends₁, hends₂, fun r₁ r₂ hr₁ hr₂ => ?_⟩
  obtain ⟨hspecs₁, hentries₁⟩ := htaken₁ r₁ hr₁
  obtain ⟨hspecs₂, hentries₂⟩ := htaken₂ r₂ hr₂
  refine ⟨hspecs₁.trans hspecs₂.symm, ?_, hentries₁.trans hentries₂.symm, hentries₁⟩
  rw [hspecs₁]
  exact sources_specsOfSet c items

/-- A block whose set has two items with the same text. -/
def mixedBlock : Classified :=
  Block.classify "spec" ⟨1, "", "spec = \x7b'1', 1, 'a/a'\x7d", .unspecified, false, false, none⟩

def mixedItems : List Value := [.text "1", .int 1, .text "a/a"]

/-- The name, the texts and the number of code that binds a name to a set of them. -/
def mixed? (r : Except Script.CompileError Script.Code) : Option (String × String × Int × String) :=
  match r with
  | .ok (.statements [.assign [.name n] (.set [.text s, .int i, .text t])]) => some (n, s, i, t)
  | _ => none

theorem compile_mixedBlock : Script.compile mixedBlock.body =
    .ok (.statements [.assign [.name "spec"] (.set [.text "1", .int 1, .text "a/a"])]) := by
  have hmixed : mixed? (Script.compile mixedBlock.body) = some ("spec", "1", 1, "a/a") := by
    decide +kernel
  unfold mixed? at hmixed
  split at hmixed
  · next hcode =>
    cases hmixed
    exact hcode
  · cases hmixed

/-- The world with the items of a set replaced. -/
def withSet (w : World) (a : Nat) (items : List Value) : World :=
  { w with machine := { w.machine with heap := w.heap.set a (.set items) } }

theorem evaluate_mixedBlock (hw : w.machine = emptyWorld.machine) : ∃ a u,
    evaluate [] "component spec" 1 "spec" mixedBlock.body w = (.ok (some (.ref a)), u) ∧
    u.heap.get? a = some (.set mixedItems) := by
  have hitems : mixedItems.foldl insertItem [] = mixedItems := by
    simp [mixedItems, insertItem, Value.isSame, Value.numeral?]
  obtain ⟨a, m, hrun, hset⟩ : ∃ a m,
      valueOf? (compiled? [] "spec" mixedBlock.body) w.machine = (.ok (some (.ref a)), m) ∧
      m.heap.get? a = some (.set (mixedItems.foldl insertItem [])) := by
    rw [hw, compiled?, compile_mixedBlock]
    exact ⟨1, _, rfl, rfl⟩
  obtain ⟨u, hvalue, rfl⟩ := (runs_evaluate [] "component spec" 1 "spec" mixedBlock.body).of_ok hrun
  exact ⟨a, u, hvalue, hitems ▸ hset⟩

theorem legible_mixedItems (h : Heap) : Legible h mixedItems := by
  refine List.forall_mem_cons.2 ⟨?_, List.forall_mem_cons.2 ⟨?_, List.forall_mem_singleton.2 ?_⟩⟩
  · rw [Script.plain?_text]; rfl
  · rfl
  · rw [Script.plain?_text]; rfl

/-- The number one and the text `1` are put in order by the same text. Whichever of them the set
lists first, and wherever it lists the other text, the same is built. -/
theorem build_set_in_any_order_mixedBlock : ∃ w a u r,
    build [] "spec" [] emptyWorld = (.ok ([], []), w) ∧
    evaluate [] "component spec" 1 "spec" mixedBlock.body w = (.ok (some (.ref a)), u) ∧
    items? u.heap (.ref a) = some (mixedItems, false) ∧
    (build [] "spec" [mixedBlock] emptyWorld).1 = .ok r ∧
    ∀ items, mixedItems.Perm items →
      ∃ r', builtFrom mixedBlock (.ref a) (withSet u a items) = .ok r' ∧ r'.1 = r.1 ∧
        (r'.2.map Entry.body).Perm (r.2.map Entry.body) := by
  obtain ⟨w, hbefore, hw⟩ : ∃ w, build [] "spec" [] emptyWorld = (.ok ([], []), w) ∧
      w.machine = emptyWorld.machine := ⟨_, rfl, (build_apply [] "spec" [] emptyWorld).2⟩
  obtain ⟨a, u, hvalue, hset⟩ := evaluate_mixedBlock hw
  have hkind : mixedBlock.kind = .componentSpec := by decide +kernel
  have hitems : items? u.heap (.ref a) = some (mixedItems, false) := by
    simp only [items?, Heap.object?, hset]
  have hhost : Script.AllSound emptyWorld.heap (List.map Prod.snd ([] : Script.Host)) := trivial
  obtain ⟨hbuild, hself, hany⟩ :=
    build_set_in_any_order hhost Script.Heap.sound_empty hbefore hkind hvalue hitems
  have hall := legible_mixedItems u.heap
  obtain ⟨r, hr⟩ := exists_of_isOk ((hany _ _ _ _ hself hself).1.2 hall)
  have hbuilt : (build [] "spec" [mixedBlock] emptyWorld).1 = .ok r := by
    rw [hr] at hbuild
    exact hbuild.trans (congrArg Except.ok (joined_nil r))
  refine ⟨w, a, u, r, hbefore, hvalue, hitems, hbuilt, fun items hperm => ?_⟩
  have hother : Reordered u.heap mixedItems (withSet u a items).heap (.ref a) := by
    have hget : (withSet u a items).heap.get? a = some (Script.Object.set items) :=
      Heap.get?_set_self (Heap.lt_size_of_get? hset) _
    refine ⟨Heap.alike_set hset hperm, items, ?_, hperm⟩
    simp only [items?, Heap.object?, hget]
  obtain ⟨hends, -, hsame⟩ := hany _ _ _ _ hother hself
  obtain ⟨r', hr'⟩ := exists_of_isOk (hends.2 hall)
  obtain ⟨hspecs, -, hentries, -⟩ := hsame r' r hr' hr
  exact ⟨r', hr', hspecs, hentries⟩

end Component

end LiterateConfig
