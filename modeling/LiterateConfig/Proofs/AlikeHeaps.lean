import LiterateConfig.Proofs.Building

/-!
# Heaps with their sets in other orders

The items of a set have no order of their own: a heap lists them in the order in which they
were put in, and another heap may list the same items in another order.

**Alike heaps.** `h.Alike h'`: the two heaps hold the same objects, but for the order of the
items of sets. What a value is does not depend on that order. Its text does, where a set is
shown within it; but whether it has a text does not.

Results:
* `Alike.isCallable`, `Alike.setupPart?`, `Alike.pairs?`: what a value is;
* `Alike.isOk_shownIn`, `Alike.isOk_plainIn`: whether a value has a text;
* `Alike.legible_iff`: whether all of them have one.
-/
namespace LiterateConfig.Script

/-! ## Whether values have texts -/

section

variable {α β : Type}

theorem isOk_map (f : α → β) (r : Except Unshown α) : (r.map f).isOk = r.isOk := by
  cases r <;> rfl

theorem isOk_bind_pure (f : α → β) (r : Except Unshown α) :
    (r >>= fun a => pure (f a)).isOk = r.isOk := by
  cases r <;> rfl

variable (deref : Nat → Nat → Except Unshown String) (room : Nat)

/-- Items are shown if each of them is. -/
theorem isOk_shownItems (items : List Value) :
    (shownItems deref room items).isOk = items.all fun v => (v.shownWith deref room).isOk := by
  induction items with
  | nil => rfl
  | cons v vs ih =>
    rw [shownItems, List.all_cons, ← ih]
    cases v.shownWith deref room with
    | error e => rfl
    | ok s => exact isOk_bind_pure _ _

theorem isOk_shownPairs (pairs : List (Value × Value)) :
    (shownPairs deref room pairs).isOk = pairs.all fun p =>
      (p.1.shownWith deref room).isOk && (p.2.shownWith deref room).isOk := by
  induction pairs with
  | nil => rfl
  | cons p rest ih =>
    obtain ⟨k, v⟩ := p
    rw [shownPairs, List.all_cons, ← ih]
    cases k.shownWith deref room with
    | error e => rfl
    | ok s =>
      cases v.shownWith deref room with
      | error e => rfl
      | ok t => exact isOk_bind_pure _ _

variable {deref} {deref' : Nat → Nat → Except Unshown String}

/-- A value is shown if the objects are that it refers to. -/
theorem isOk_shownWith (hderef : ∀ room a, (deref room a).isOk = (deref' room a).isOk)
    (room : Nat) (v : Value) :
    (v.shownWith deref room).isOk = (v.shownWith deref' room).isOk := by
  induction room generalizing v with
  | zero => simp only [Value.shownWith]
  | succ room ih =>
    cases v with
    | tuple items => simp only [Value.shownWith, isOk_map, isOk_shownItems, ih]
    | frozen items => simp only [Value.shownWith, isOk_map, isOk_shownItems, ih]
    | ref a => exact hderef room a
    | bool b => cases b <;> rfl
    | _ => rfl

end

/-! ## Alike heaps -/

namespace Heap

/-- The heaps hold the same objects, but for the order of the items of sets. -/
def Alike (h h' : Heap) : Prop :=
  ∀ a, h.get? a = h'.get? a ∨ ∃ items items', h.get? a = some (.set items) ∧
    h'.get? a = some (.set items') ∧ items.Perm items'

variable {h h' : Heap}

theorem Alike.refl (h : Heap) : h.Alike h := fun _ => .inl rfl

/-- A heap with the items of one set in another order. -/
theorem alike_set {a : Nat} {items items' : List Value} (ha : h.get? a = some (.set items))
    (hperm : items.Perm items') : h.Alike (h.set a (.set items')) := by
  intro b
  by_cases hab : a = b
  · subst hab
    exact .inr ⟨items, items', ha, get?_set_self (lt_size_of_get? ha) _, hperm⟩
  · exact .inl (get?_set_of_ne hab h _).symm

namespace Alike

variable (hh : h.Alike h')

include hh

/-! ## What values are -/

theorem isCallable (v : Value) : v.isCallable h' = v.isCallable h := by
  cases v with
  | ref a =>
    rcases hh a with heq | ⟨items, items', ha, ha', -⟩
    · simp only [Value.isCallable, heq]
    · simp only [Value.isCallable, ha, ha']
  | _ => rfl

theorem pairs? (v : Value) : Component.pairs? h' v = Component.pairs? h v := by
  cases v with
  | ref a =>
    rcases hh a with heq | ⟨items, items', ha, ha', -⟩
    · simp only [Component.pairs?, object?, heq]
    · simp only [Component.pairs?, object?, ha, ha']
  | _ => rfl

theorem setupPart? (v : Value) : Component.setupPart? h' v = Component.setupPart? h v := by
  cases v with
  | ref a =>
    rcases hh a with heq | ⟨items, items', ha, ha', -⟩
    · simp only [Component.setupPart?, object?, heq]
    · simp only [Component.setupPart?, object?, ha, ha']
  | _ => rfl

theorem hasSetup (v : Value) : Component.hasSetup h' v = Component.hasSetup h v := by
  have hcallable : (fun f : Value => f.isCallable h') = fun f => f.isCallable h :=
    funext hh.isCallable
  rw [Component.hasSetup, Component.hasSetup, hh.setupPart?, hcallable]

theorem entryBody (v : Value) : Component.entryBody h' v = Component.entryBody h v := by
  rw [Component.entryBody, Component.entryBody, hh.isCallable, hh.hasSetup]

/-! ## Whether values have texts -/

/-- Whether an object is shown, in whatever order the items of sets are. -/
theorem isOk_shownAt (fuel : Nat) (around : List Nat) (room a : Nat) :
    (h.shownAt fuel around room a).isOk = (h'.shownAt fuel around room a).isOk := by
  induction fuel generalizing around room a with
  | zero => rfl
  | succ fuel ih =>
    have hinner := isOk_shownWith (ih (a :: around))
    unfold Heap.shownAt
    dsimp only
    rcases hh a with heq | ⟨items, items', ha, ha', hperm⟩
    · rw [heq]
      cases h'.get? a with
      | none => rfl
      | some o =>
        cases o with
        | list items =>
          dsimp only
          split
          · rfl
          · simp only [isOk_map, isOk_shownItems, hinner]
        | dict pairs =>
          dsimp only
          split
          · rfl
          · simp only [isOk_map, isOk_shownPairs, hinner]
        | set items =>
          dsimp only
          split
          · rfl
          · simp only [isOk_map, isOk_shownItems, hinner]
        | error k args => simp only [isOk_map, isOk_shownItems, hinner]
        | _ => rfl
    · rw [ha, ha']
      have hempty : items.isEmpty = items'.isEmpty := by
        rw [Bool.eq_iff_iff, List.isEmpty_iff, List.isEmpty_iff]
        exact ⟨fun hnil => (hnil ▸ hperm).symm.eq_nil, fun hnil => (hnil ▸ hperm).eq_nil⟩
      dsimp only
      rw [hempty]
      split
      · rfl
      · simp only [isOk_map, isOk_shownItems, hinner, hperm.all_eq]

theorem isOk_shownIn (room : Nat) (v : Value) :
    (h.shownIn room v).isOk = (h'.shownIn room v).isOk :=
  isOk_shownWith (hh.isOk_shownAt (room + 1) []) room v

theorem isOk_errorMessage {plain plain' : Value → Except Unshown String}
    (hplain : ∀ v, (plain v).isOk = (plain' v).isOk) (room : Nat) (k : ErrorKind)
    (args : List Value) :
    (errorMessage h room plain k args).isOk = (errorMessage h' room plain' k args).isOk := by
  unfold errorMessage
  split
  · rfl
  · split
    · exact hh.isOk_shownIn _ _
    · exact hplain _
  · next n m =>
    split
    · have hn := hplain n
      have hm := hplain m
      cases hn₁ : plain n <;> cases hn₂ : plain' n <;> rw [hn₁, hn₂] at hn
      · rfl
      · cases hn
      · cases hn
      · exact (isOk_bind_pure _ _).trans (hm.trans (isOk_bind_pure _ _).symm)
    · exact hh.isOk_shownIn _ _
  · exact hh.isOk_shownIn _ _

/-- Whether a value has a text, in whatever order the items of sets are. -/
theorem isOk_plainIn (room : Nat) (v : Value) :
    (h.plainIn room v).isOk = (h'.plainIn room v).isOk := by
  induction room generalizing v with
  | zero =>
    cases v with
    | text s => rfl
    | _ => exact hh.isOk_shownIn _ _
  | succ room ih =>
    cases v with
    | text s => rfl
    | ref a =>
      unfold Heap.plainIn
      rcases hh a with heq | ⟨items, items', ha, ha', -⟩
      · rw [heq]
        split
        · exact hh.isOk_errorMessage ih _ _ _
        · exact hh.isOk_shownIn _ _
      · rw [ha, ha']
        exact hh.isOk_shownIn _ _
    | _ => exact hh.isOk_shownIn _ _

/-- **Values have texts on both heaps or on neither.** -/
theorem legible_iff (vs : List Value) : Legible h vs ↔ Legible h' vs := by
  have hsome : ∀ v, (h.plain? v).isSome = (h'.plain? v).isSome := fun v => by
    have hok := hh.isOk_plainIn showLimit v
    unfold Heap.plain? Heap.plain
    cases hv : h.plainIn showLimit v <;> cases hv' : h'.plainIn showLimit v <;>
      rw [hv, hv'] at hok <;> first | rfl | cases hok
  exact forall_congr' fun v => by rw [hsome v]

end Alike

end Heap

end LiterateConfig.Script
