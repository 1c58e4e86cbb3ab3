import LiterateConfig.Proofs.HeapChanges

/-!
# Sets that are sets

The items of a set are values that can be keys, and no two of them are the same. Nothing in a
heap says so: an object or a value that is called a set only holds a list. This module says
which heaps and values keep to it.

**Sound values.** A value is sound on a heap if no address in it dangles and the fixed sets in
it are sets, and a heap is sound if the sets on it are, and all values that its objects hold
are sound. Addresses matter for sets too: an address that dangles could be a key now and be
that of a list later.

**Later heaps.** `h.Later h'`: the heap has grown, and what was a key is one. What is sound on a
heap is sound on the later ones.

Results:
* `isSet_foldl_insertItem`: values put into a set one after the other;
* `Value.Sound.later`, `Object.Sound.later`: what is sound stays so;
* `Heap.Sound.alloc`, `Heap.Sound.set`: changes of sound heaps.
-/
namespace LiterateConfig.Script

/-! ## Sets -/

/-- The values are the items of a set: they can be keys, and no two of them are the same. -/
structure IsSet (h : Heap) (items : List Value) : Prop where
  keys : ∀ v ∈ items, v.unhashable? h = none
  distinct : items.Pairwise fun v w => v.isSame w = false

theorem isSet_nil (h : Heap) : IsSet h [] := ⟨by simp, .nil⟩

theorem IsSet.filter {h : Heap} {items : List Value} (hset : IsSet h items) (p : Value → Bool) :
    IsSet h (items.filter p) :=
  ⟨fun v hv => hset.keys v (List.mem_filter.1 hv).1, hset.distinct.filter p⟩

theorem mem_insertItem {items : List Value} {v w : Value} (hw : w ∈ insertItem items v) :
    w ∈ items ∨ w = v := by
  unfold insertItem at hw
  split at hw
  · exact .inl hw
  · simpa using hw

theorem IsSet.insertItem {h : Heap} {items : List Value} (hset : IsSet h items) {v : Value}
    (hv : v.unhashable? h = none) : IsSet h (insertItem items v) := by
  refine ⟨fun w hw => ?_, ?_⟩
  · rcases mem_insertItem hw with hw | rfl
    · exact hset.keys w hw
    · exact hv
  · unfold Script.insertItem
    split
    · exact hset.distinct
    · next hnew =>
      refine List.pairwise_append.2 ⟨hset.distinct, List.pairwise_singleton _ _, ?_⟩
      intro w hw u hu
      rw [List.mem_singleton.1 hu]
      exact Bool.eq_false_iff.2 fun hsame => hnew (List.any_eq_true.2 ⟨w, hw, hsame⟩)

theorem mem_foldl_insertItem {vs items : List Value} {w : Value}
    (hw : w ∈ vs.foldl insertItem items) : w ∈ items ∨ w ∈ vs := by
  induction vs generalizing items with
  | nil => exact .inl hw
  | cons v vs ih =>
    rcases ih hw with hw | hw
    · rcases mem_insertItem hw with hw | rfl
      · exact .inl hw
      · exact .inr List.mem_cons_self
    · exact .inr (List.mem_cons_of_mem _ hw)

/-- **Values put into a set one after the other** are the items of a set if they can be keys. -/
theorem isSet_foldl_insertItem {h : Heap} {vs items : List Value} (hset : IsSet h items)
    (hvs : ∀ v ∈ vs, v.unhashable? h = none) : IsSet h (vs.foldl insertItem items) := by
  induction vs generalizing items with
  | nil => exact hset
  | cons v vs ih =>
    obtain ⟨hv, hvs⟩ := List.forall_mem_cons.1 hvs
    exact ih (hset.insertItem hv) hvs

/-! ## Later heaps -/

/-- The heap has grown, and the objects that can be keys are the same. -/
structure Heap.Later (h h' : Heap) : Prop where
  size_le : h.size ≤ h'.size
  keys : ∀ a < h.size, (Value.ref a).unhashable? h' = (Value.ref a).unhashable? h

namespace Heap.Later

variable {h h' h'' : Heap}

theorem refl (h : Heap) : h.Later h := ⟨Nat.le_refl _, fun _ _ => rfl⟩

theorem trans (hl : h.Later h') (hl' : h'.Later h'') : h.Later h'' :=
  ⟨Nat.le_trans hl.size_le hl'.size_le, fun a ha =>
    (hl'.keys a (Nat.lt_of_lt_of_le ha hl.size_le)).trans (hl.keys a ha)⟩

theorem alloc (h : Heap) (o : Object) : h.Later (h.alloc o).2 := by
  have hsize : (h.alloc o).2.size = h.size + 1 := Array.size_push _
  refine ⟨hsize ▸ Nat.le_succ _, fun a ha => ?_⟩
  simp only [Value.unhashable?, Heap.get?_alloc_old ha]

end Heap.Later

/-- The type of an object that cannot be a key. -/
def Object.unhashable? : Object → Option String
  | .list _ => some "list"
  | .dict _ => some "dict"
  | .set _ => some "set"
  | _ => none

theorem unhashable?_ref {h : Heap} {a : Nat} {o : Object} (ha : h.get? a = some o) :
    (Value.ref a).unhashable? h = o.unhashable? := by
  simp only [Value.unhashable?, ha]
  cases o <;> rfl

theorem Heap.Later.set {h : Heap} {a : Nat} {o o' : Object} (ha : h.get? a = some o)
    (hkey : o'.unhashable? = o.unhashable?) : h.Later (h.set a o') := by
  refine ⟨Nat.le_of_eq Array.size_setIfInBounds.symm, fun b hb => ?_⟩
  by_cases hab : a = b
  · subst hab
    rw [unhashable?_ref ha, unhashable?_ref (Heap.get?_set_self hb o'), hkey]
  · simp only [Value.unhashable?, Heap.get?_set_of_ne hab]

/-! ## Sound values -/

mutual

/-- No address in the value dangles, and the fixed sets in it are sets. -/
def Value.Sound (h : Heap) : Value → Prop
  | .tuple items => AllSound h items
  | .frozen items => AllSound h items ∧ IsSet h items
  | .ref a => a < h.size
  | .hook target => target.Sound h
  | _ => True

def AllSound (h : Heap) : List Value → Prop
  | [] => True
  | v :: vs => v.Sound h ∧ AllSound h vs

end

theorem allSound_iff {h : Heap} {vs : List Value} : AllSound h vs ↔ ∀ v ∈ vs, v.Sound h := by
  induction vs with
  | nil => simp [AllSound]
  | cons v vs ih => rw [AllSound, ih, List.forall_mem_cons]

theorem allSound_append {h : Heap} {vs ws : List Value} :
    AllSound h (vs ++ ws) ↔ AllSound h vs ∧ AllSound h ws := by
  simp only [allSound_iff, List.forall_mem_append]

section Later

variable {h h' : Heap}

mutual

/-- A sound value that can be a key can be one later, and one that cannot cannot later. -/
theorem Value.Sound.unhashable?_later (hl : h.Later h') {v : Value} (hv : v.Sound h) :
    v.unhashable? h' = v.unhashable? h := by
  match v with
  | .tuple items =>
    rw [Value.unhashable?, Value.unhashable?]
    exact AllSound.anyUnhashable_later hl hv
  | .ref a => exact hl.keys a hv
  | .nothing | .bool _ | .int _ | .float _ | .text _ | .bytes _ | .frozen _ | .errorClass _
  | .builtin _ | .module _ | .append _ | .hook _ => rfl

theorem AllSound.anyUnhashable_later (hl : h.Later h') {vs : List Value} (hvs : AllSound h vs) :
    anyUnhashable h' vs = anyUnhashable h vs := by
  match vs with
  | [] => rfl
  | v :: vs =>
    rw [anyUnhashable, anyUnhashable, Value.Sound.unhashable?_later hl hvs.1,
      AllSound.anyUnhashable_later hl hvs.2]

end

theorem IsSet.later (hl : h.Later h') {items : List Value} (hset : IsSet h items)
    (hitems : AllSound h items) : IsSet h' items :=
  ⟨fun v hv => ((allSound_iff.1 hitems v hv).unhashable?_later hl).trans (hset.keys v hv),
    hset.distinct⟩

mutual

theorem Value.Sound.later (hl : h.Later h') {v : Value} (hv : v.Sound h) : v.Sound h' := by
  match v with
  | .tuple items =>
    have hitems : AllSound h items := hv
    exact AllSound.later hl hitems
  | .frozen items => exact ⟨AllSound.later hl hv.1, hv.2.later hl hv.1⟩
  | .ref a => exact Nat.lt_of_lt_of_le hv hl.size_le
  | .hook target => exact Value.Sound.later hl (v := target) hv
  | .nothing | .bool _ | .int _ | .float _ | .text _ | .bytes _ | .errorClass _ | .builtin _
  | .module _ | .append _ => trivial

theorem AllSound.later (hl : h.Later h') {vs : List Value} (hvs : AllSound h vs) :
    AllSound h' vs := by
  match vs with
  | [] => trivial
  | v :: vs => exact ⟨Value.Sound.later hl hvs.1, AllSound.later hl hvs.2⟩

end

/-! ## Sound objects and heaps -/

/-- The keys and values of pairs. -/
def heldBy (pairs : List (Value × Value)) : List Value := pairs.flatMap fun p => [p.1, p.2]

/-- The values that an object holds. -/
def Object.held : Object → List Value
  | .list items | .set items | .error _ items => items
  | .dict pairs => heldBy pairs
  | .record names | .scope _ names | .globals names => names.map Prod.snd
  | .recorder r => [r.result]
  | .function _ => []

def Object.isSet : Object → Bool
  | .set _ => true
  | _ => false

/-- The values that the object holds are sound, and a set is one. -/
structure Object.Sound (h : Heap) (o : Object) : Prop where
  held : AllSound h o.held
  items : ∀ items, o = .set items → IsSet h items

/-- The objects on the heap are sound. -/
def Heap.Sound (h : Heap) : Prop := ∀ a o, h.get? a = some o → o.Sound h

theorem Object.Sound.later (hl : h.Later h') {o : Object} (ho : o.Sound h) : o.Sound h' := by
  refine ⟨ho.held.later hl, fun items heq => ?_⟩
  subst heq
  exact (ho.items _ rfl).later hl ho.held

/-- An object other than a set is sound if the values that it holds are. -/
theorem Object.Sound.of_held {o : Object} (hheld : AllSound h o.held) (hkind : o.isSet = false) :
    o.Sound h :=
  ⟨hheld, fun items heq => by rw [heq] at hkind; cases hkind⟩

theorem Heap.Sound.object? (hh : h.Sound) {v : Value} {o : Object} (ho : h.object? v = some o) :
    o.Sound h := by
  cases v with
  | ref a => exact hh a o ho
  | _ => cases ho

/-- A new object on a sound heap. -/
theorem Heap.Sound.alloc (hh : h.Sound) {o : Object} (ho : o.Sound h) : (h.alloc o).2.Sound := by
  have hl := Heap.Later.alloc h o
  intro a o' ha
  by_cases hold : a < h.size
  · rw [Heap.get?_alloc_old hold] at ha
    exact (hh a o' ha).later hl
  · have hnew : a = h.size := by
      have hlt := Heap.lt_size_of_get? ha
      have hsize : (h.alloc o).2.size = h.size + 1 := Array.size_push _
      omega
    subst hnew
    have hget := Heap.get?_alloc_new h o
    have heq : some o = some o' := hget.symm.trans ha
    cases heq
    exact ho.later hl

/-- An object of a sound heap that is replaced by one of its kind. -/
theorem Heap.Sound.set (hh : h.Sound) {a : Nat} {o o' : Object} (ha : h.get? a = some o)
    (hkey : o'.unhashable? = o.unhashable?) (ho' : o'.Sound h) : (h.set a o').Sound := by
  have hl := Heap.Later.set ha hkey
  intro b o₂ hb
  by_cases hab : a = b
  · subst hab
    rw [Heap.get?_set_self (Heap.lt_size_of_get? ha)] at hb
    cases hb
    exact ho'.later hl
  · rw [Heap.get?_set_of_ne hab] at hb
    exact (hh b o₂ hb).later hl

theorem Heap.sound_empty : Heap.empty.Sound := fun a o ha => by
  simp [Heap.empty, Heap.get?] at ha

end Later

/-! ## Names and pairs -/

section Parts

variable {h : Heap} {v : Value}

theorem sound_of_get? {names : Names} (hnames : AllSound h (names.map Prod.snd)) {n : String}
    (hget : names.get? n = some v) : v.Sound h := by
  induction names with
  | nil => cases hget
  | cons p rest ih =>
    obtain ⟨hp, hrest⟩ := hnames
    rw [Keyed.get?] at hget
    split at hget
    · cases hget
      exact hp
    · exact ih hrest hget

theorem allSound_put {names : Names} (hnames : AllSound h (names.map Prod.snd)) (n : String)
    (hv : v.Sound h) : AllSound h ((names.put n v).map Prod.snd) := by
  induction names with
  | nil => exact ⟨hv, trivial⟩
  | cons p rest ih =>
    obtain ⟨hp, hrest⟩ := hnames
    rw [Keyed.put]
    split
    · exact ⟨hv, hrest⟩
    · exact ⟨hp, ih hrest⟩

theorem allSound_putAll {pairs names : Names} (hpairs : AllSound h (pairs.map Prod.snd))
    (hnames : AllSound h (names.map Prod.snd)) :
    AllSound h ((Keyed.putAll pairs names).map Prod.snd) := by
  induction pairs generalizing names with
  | nil => exact hnames
  | cons p rest ih => exact ih hpairs.2 (allSound_put hnames p.1 hpairs.1)

theorem allSound_zip {vs : List Value} (hvs : AllSound h vs) (names : List String) :
    AllSound h ((names.zip vs).map Prod.snd) := by
  refine allSound_iff.2 fun v hv => ?_
  obtain ⟨p, hp, rfl⟩ := List.mem_map.1 hv
  exact allSound_iff.1 hvs _ (List.of_mem_zip hp).2

theorem sound_of_pair? {pairs : List (Value × Value)} (hpairs : AllSound h (heldBy pairs))
    {key : Value} (hpair : pair? key pairs = some v) : v.Sound h := by
  induction pairs with
  | nil => cases hpair
  | cons p rest ih =>
    obtain ⟨-, hp, hrest⟩ := hpairs
    rw [pair?] at hpair
    split at hpair
    · cases hpair
      exact hp
    · exact ih hrest hpair

theorem allSound_putPair {pairs : List (Value × Value)} (hpairs : AllSound h (heldBy pairs))
    {key : Value} (hkey : key.Sound h) (hv : v.Sound h) :
    AllSound h (heldBy (putPair key v pairs)) := by
  induction pairs with
  | nil => exact ⟨hkey, hv, trivial⟩
  | cons p rest ih =>
    obtain ⟨hp, hp', hrest⟩ := hpairs
    rw [putPair]
    split
    · exact ⟨hp, hv, hrest⟩
    · exact ⟨hp, hp', ih hrest⟩

theorem allSound_foldl_putPair {ps pairs : List (Value × Value)} (hps : AllSound h (heldBy ps))
    (hpairs : AllSound h (heldBy pairs)) :
    AllSound h (heldBy (ps.foldl (fun d p => putPair p.1 p.2 d) pairs)) := by
  induction ps generalizing pairs with
  | nil => exact hpairs
  | cons p ps ih =>
    obtain ⟨hk, hv, hrest⟩ := hps
    exact ih hrest (allSound_putPair hpairs hk hv)

theorem allSound_foldl_insertItem {vs items : List Value} (hvs : AllSound h vs)
    (hitems : AllSound h items) : AllSound h (vs.foldl insertItem items) :=
  allSound_iff.2 fun _ hw => (mem_foldl_insertItem hw).elim (allSound_iff.1 hitems _)
    (allSound_iff.1 hvs _)

end Parts

end LiterateConfig.Script
