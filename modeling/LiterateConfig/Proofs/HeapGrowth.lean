import LiterateConfig.Proofs.HeapChanges

/-!
# What evaluation leaves on the heap

Whatever a block does, dictionaries keep their keys and records stay as they are: no
expression or statement removes a key, and an address never gets an object of another
kind.

**Growth.** `Heap.Grows h h'` says so of two heaps, and `Grows x` of a computation,
however it ends.

Results:
* `changes_grows`: growing allows for everything that evaluation does to the heap;
* `grows_callTop`: calls;
* `Compiled.grows_run`: blocks.
-/
namespace LiterateConfig.Script

variable {α β : Type}

/-! ## Keys stay -/

/-- A key is known exactly if it is the same as one of the keys. -/
theorem isSome_pair? {key : Value} {pairs : List (Value × Value)} :
    (pair? key pairs).isSome = pairs.any fun p => p.1.isSame key := by
  induction pairs with
  | nil => rfl
  | cons p rest ih =>
    obtain ⟨k, v⟩ := p
    rw [pair?, List.any_cons]
    cases hk : k.isSame key with
    | true => rfl
    | false => simpa [hk] using ih

/-- Setting the value of a key takes no key away. -/
theorem isSome_pair?_putPair {key : Value} {pairs : List (Value × Value)}
    (h : (pair? key pairs).isSome = true) (k v : Value) :
    (pair? key (putPair k v pairs)).isSome = true := by
  rw [isSome_pair?] at h ⊢
  induction pairs with
  | nil => cases h
  | cons p rest ih =>
    obtain ⟨k', w⟩ := p
    unfold putPair
    rw [List.any_cons, Bool.or_eq_true] at h
    split
    · rw [List.any_cons, Bool.or_eq_true]
      exact h
    · rw [List.any_cons, Bool.or_eq_true]
      exact h.imp id ih

/-! ## Heaps -/

/-- Nothing of the object has to be kept. -/
def Object.isLoose : Object → Bool
  | .dict _ | .record _ => false
  | _ => true

namespace Heap

/-- Dictionaries keep their keys, and records stay as they are. -/
structure Grows (h h' : Heap) : Prop where
  dict : ∀ a pairs, h.get? a = some (.dict pairs) → ∃ pairs', h'.get? a = some (.dict pairs') ∧
    ∀ key, (pair? key pairs).isSome = true → (pair? key pairs').isSome = true
  record : ∀ a parts, h.get? a = some (.record parts) → h'.get? a = some (.record parts)

theorem Grows.refl (h : Heap) : h.Grows h :=
  ⟨fun _ pairs ha => ⟨pairs, ha, fun _ hk => hk⟩, fun _ _ ha => ha⟩

theorem Grows.trans {h₁ h₂ h₃ : Heap} (h : h₁.Grows h₂) (h' : h₂.Grows h₃) : h₁.Grows h₃ := by
  refine ⟨fun a pairs ha => ?_, fun a parts ha => h'.record a parts (h.record a parts ha)⟩
  obtain ⟨pairs₂, ha₂, hk₂⟩ := h.dict a pairs ha
  obtain ⟨pairs₃, ha₃, hk₃⟩ := h'.dict a pairs₂ ha₂
  exact ⟨pairs₃, ha₃, fun key hk => hk₃ key (hk₂ key hk)⟩

theorem grows_alloc (h : Heap) (o : Object) : h.Grows (h.alloc o).2 := by
  have old : ∀ a o', h.get? a = some o' → (h.alloc o).2.get? a = some o' := fun a o' ha => by
    rw [get?_alloc_old (lt_size_of_get? ha), ha]
  exact ⟨fun a pairs ha => ⟨pairs, old a _ ha, fun _ hk => hk⟩, fun a parts ha => old a _ ha⟩

/-- An object of which nothing has to be kept can be replaced. -/
theorem grows_set {h : Heap} {a : Nat} {o : Object} (ha : h.get? a = some o) (hf : o.isLoose = true)
    (o' : Object) : h.Grows (h.set a o') := by
  have other : ∀ b o₂, h.get? b = some o₂ → o₂.isLoose = false →
      (h.set a o').get? b = some o₂ := by
    intro b o₂ hb hf₂
    have hab : a ≠ b := by
      rintro rfl
      rw [ha] at hb
      cases hb
      rw [hf] at hf₂
      cases hf₂
    rw [get?_set_of_ne hab, hb]
  exact ⟨fun b pairs hb => ⟨pairs, other b _ hb rfl, fun _ hk => hk⟩, fun b parts hb =>
    other b _ hb rfl⟩

theorem grows_set_dict {h : Heap} {a : Nat} {pairs : List (Value × Value)}
    (ha : h.get? a = some (.dict pairs)) (k v : Value) :
    h.Grows (h.set a (.dict (putPair k v pairs))) := by
  refine ⟨fun b pairs' hb => ?_, fun b parts hb => ?_⟩
  · by_cases hab : a = b
    · subst hab
      rw [ha] at hb
      cases hb
      exact ⟨_, get?_set_self (lt_size_of_get? ha) _, fun key hk => isSome_pair?_putPair hk k v⟩
    · exact ⟨pairs', by rw [get?_set_of_ne hab, hb], fun _ hk => hk⟩
  · have hab : a ≠ b := by
      rintro rfl
      rw [ha] at hb
      cases hb
    rw [get?_set_of_ne hab, hb]

end Heap

/-- Heaps grow wherever names are bound. -/
theorem changes_grows : Changes fun _ => Heap.Grows where
  refl _ := Heap.Grows.refl
  trans := Heap.Grows.trans
  mutate _ h a o o' ha ho := by
    cases ho with
    | append => exact Heap.grows_set ha rfl _
    | item => exact Heap.grows_set ha rfl _
    | entry pairs k v => exact Heap.grows_set_dict ha k v
  bindName ha ho := by
    cases ho with
    | scope => exact Heap.grows_set ha rfl _
    | globals => exact Heap.grows_set ha rfl _
  fresh _ h o _ := (h.grows_alloc o).trans

/-! ## Computations -/

/-- The computation only lets the heap grow, however it ends. -/
def Grows (x : Eval α) : Prop := ∀ m : Machine, m.heap.Grows (x m).2.heap

/-- It makes no difference to growth where names are bound. -/
theorem grows_of_within {x : Eval α} (hx : Within (fun _ => Heap.Grows) 0 x) : Grows x := hx

theorem Reads.grows {x : Eval α} (hx : Reads x) : Grows x :=
  grows_of_within (changes_grows.of_reads hx)

theorem grows_pure (a : α) : Grows (pure a : Eval α) := (reads_pure a).grows

theorem grows_heap : Grows heap := reads_heap.grows

theorem Grows.bind {x : Eval α} {f : α → Eval β} (hx : Grows x) (hf : ∀ a, Grows (f a)) :
    Grows (x >>= f) :=
  grows_of_within (changes_grows.bind hx hf)

theorem Grows.attempt {x : Eval α} (hx : Grows x) : Grows (attempt x) :=
  grows_of_within (Within.attempt hx)

theorem grows_callTop (v : Value) (args : List Value) : Grows (callTop v args) :=
  grows_of_within (changes_grows.within_callTop v args)

theorem Compiled.grows_run (c : Compiled) : Grows c.run :=
  grows_of_within (changes_grows.within_run c)

end LiterateConfig.Script
