/-!
# Finding and replacing inside a text

Everything here is about one text occurring in another, character by
character.

Results:
* `occursIn_iff`: `occursIn` decides the infix relation.
-/
namespace LiterateConfig.Text

/-- What follows `word` when `l` starts with it. -/
def dropLead? : List Char → List Char → Option (List Char)
  | [], l => some l
  | _ :: _, [] => none
  | w :: ws, c :: r => if w = c then dropLead? ws r else none

def startsWith (word l : List Char) : Bool := (dropLead? word l).isSome

/-- Whether `word` occurs somewhere in `l`. -/
def occursIn (word : List Char) : List Char → Bool
  | [] => word.isEmpty
  | c :: r => startsWith word (c :: r) || occursIn word r

/-- The pieces of `l` left and right of the first character in `p`. -/
def splitAtFirst (p : Char → Bool) (l : List Char) : List Char × List Char :=
  (l.takeWhile fun c => !p c, l.dropWhile fun c => !p c)

/-! ## Lemmas -/

theorem dropLead?_eq_some_iff {w l r : List Char} : dropLead? w l = some r ↔ l = w ++ r := by
  induction w generalizing l with
  | nil => simp [dropLead?, eq_comm]
  | cons x ws ih =>
    cases l with
    | nil => simp [dropLead?]
    | cons c t =>
      simp only [dropLead?]
      split
      · next h => subst h; simp [ih]
      · next h => simp only [List.cons_append, List.cons.injEq]; constructor
                  · simp
                  · rintro ⟨rfl, -⟩; exact absurd rfl h

theorem startsWith_iff {w l : List Char} : startsWith w l = true ↔ w <+: l := by
  simp only [startsWith, Option.isSome_iff_exists, dropLead?_eq_some_iff]
  exact ⟨fun ⟨r, h⟩ => ⟨r, h.symm⟩, fun ⟨r, h⟩ => ⟨r, h.symm⟩⟩

theorem occursIn_iff {w l : List Char} : occursIn w l = true ↔ w <:+: l := by
  induction l with
  | nil => simp [occursIn, List.isEmpty_iff]
  | cons c r ih =>
    rw [occursIn, Bool.or_eq_true, ih, startsWith_iff, List.infix_cons_iff]

end LiterateConfig.Text
