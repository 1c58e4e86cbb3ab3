import LiterateConfig.Script.Shown

/-!
# Which values have an empty text

A value is shown with its brackets, quotes, digits or name, so what is shown is never empty.
As plain text a text stands as it is, and an error is written as its message. Only these two
can be empty, and an empty text does not count as true.

**Shown texts.** `Filled r`: what is shown, if anything is, is not empty.

Results:
* `filled_shownIn`: what is shown is not empty;
* `isBlankError_iff`: a true value has an empty text exactly if it is an error with an empty
  message.
-/
namespace LiterateConfig

/-! ## Numbers and quoted texts -/

theorem Number.Decimal.layout_ne_empty (d : Number.Decimal) : d.layout ≠ "" := by
  unfold Number.Decimal.layout
  dsimp only
  repeat' split
  all_goals simp

theorem Number.floatText_ne_empty (x : Float) : Number.floatText x ≠ "" := by
  unfold Number.floatText
  split
  · repeat' split
    all_goals decide
  · next p _ =>
    have hbody : (if p.mantissa = 0 then "0.0"
        else (Number.shortest p.mantissa p.exponent).layout) ≠ "" := by
      split
      · decide
      · exact Number.Decimal.layout_ne_empty _
    dsimp only
    split
    · simp
    · exact hbody

namespace Text

theorem intText_ne_empty (n : Int) : intText n ≠ "" := by
  cases n <;> simp [intText, natText]

theorem quoted_ne_empty (s : String) : quoted s ≠ "" := by
  simp [quoted, quoteChars]

theorem quotedBytes_ne_empty (b : List UInt8) : quotedBytes b ≠ "" := by
  simp [quotedBytes]

end Text

namespace Script

/-! ## What is shown -/

/-- What is shown, if anything is, is not empty. -/
def Filled (r : Except Unshown String) : Prop := ∀ s, r = .ok s → s ≠ ""

theorem filled_ok {s : String} (h : s ≠ "") : Filled (.ok s) := by
  rintro _ ⟨⟩
  exact h

theorem filled_error (e : Unshown) : Filled (.error e) := nofun

theorem filled_map {α : Type} {f : α → String} (hf : ∀ a, f a ≠ "") (r : Except Unshown α) :
    Filled (r.map f) := by
  cases r with
  | error e => exact filled_error e
  | ok a => exact filled_ok (hf a)

theorem filled_shownInt (n : Int) : Filled (shownInt n) := by
  unfold shownInt
  split
  · next s h =>
    have hs : s = Text.intText n := by
      unfold Text.intText? at h
      dsimp only at h
      split at h
      · cases h
      · exact (Option.some.inj h).symm
    exact filled_ok (hs ▸ Text.intText_ne_empty n)
  · exact filled_error _

theorem shownTuple_ne_empty (parts : List String) : shownTuple parts ≠ "" := by
  unfold shownTuple
  split <;> simp

theorem shownFrozen_ne_empty (parts : List String) : shownFrozen parts ≠ "" := by
  unfold shownFrozen
  split <;> simp

theorem Builtin.shown_ne_empty (b : Builtin) : b.shown ≠ "" := by
  unfold Builtin.shown
  split <;> simp

/-- Values show more than nothing if the objects that they refer to do. -/
theorem filled_shownWith {deref : Nat → Nat → Except Unshown String}
    (hderef : ∀ room a, Filled (deref room a)) (room : Nat) (v : Value) :
    Filled (v.shownWith deref room) := by
  cases room with
  | zero => simp [Value.shownWith, filled_error]
  | succ room =>
    cases v with
    | bool b => cases b <;> simp [Value.shownWith, Filled]
    | int n => exact filled_shownInt n
    | float x => exact filled_ok (Number.floatText_ne_empty x)
    | text s => exact filled_ok (Text.quoted_ne_empty s)
    | bytes b => exact filled_ok (Text.quotedBytes_ne_empty b)
    | tuple items => exact filled_map shownTuple_ne_empty _
    | frozen items => exact filled_map shownFrozen_ne_empty _
    | ref a => exact hderef room a
    | builtin b => exact filled_ok b.shown_ne_empty
    | module name =>
      refine filled_ok ?_
      split <;> simp
    | _ => simp [Value.shownWith, Filled]

theorem filled_shownAt (h : Heap) (fuel : Nat) (around : List Nat) (room a : Nat) :
    Filled (h.shownAt fuel around room a) := by
  cases fuel with
  | zero => exact filled_ok (by decide)
  | succ fuel =>
    unfold Heap.shownAt
    dsimp only
    repeat' split
    all_goals first
      | exact filled_map (fun _ => by simp) _
      | exact filled_ok (by simp)

/-- **What is shown is not empty.** -/
theorem filled_shownIn (h : Heap) (room : Nat) (v : Value) : Filled (h.shownIn room v) :=
  filled_shownWith (filled_shownAt h _ _) room v

/-! ## Plain texts -/

theorem plain_of_plain? {h : Heap} {v : Value} {s : String} (hv : h.plain? v = some s) :
    h.plain v = .ok s := by
  unfold Heap.plain? at hv
  cases hr : h.plain v with
  | error e =>
    rw [hr] at hv
    cases hv
  | ok t =>
    rw [hr] at hv
    exact congrArg Except.ok (Option.some.inj hv)

/-- An error whose message is empty. -/
def Heap.IsBlankError (h : Heap) (v : Value) : Prop :=
  ∃ a k args, v = .ref a ∧ h.get? a = some (.error k args) ∧ h.plain? v = some ""

/-- **A true value has an empty text exactly if it is an error with an empty message.** -/
theorem isBlankError_iff {h : Heap} {v : Value} (htrue : v.isTrue h = true) :
    h.IsBlankError v ↔ h.plain? v = some "" := by
  constructor
  · rintro ⟨a, k, args, -, -, hv⟩
    exact hv
  · intro hv
    have hplain : h.plainIn showLimit v = .ok "" := plain_of_plain? hv
    unfold Heap.plainIn at hplain
    split at hplain
    · cases hplain
      cases htrue
    · split at hplain
      · next k args ha => exact ⟨_, k, args, rfl, ha, hv⟩
      · exact absurd rfl (filled_shownIn h _ _ _ hplain)
    · exact absurd rfl (filled_shownIn h _ _ _ hplain)

end Script

end LiterateConfig
