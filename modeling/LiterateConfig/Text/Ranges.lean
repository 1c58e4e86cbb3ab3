/-!
# Sets of characters as ranges of code points

A property of characters from the Unicode character database is kept as the
ascending list of its maximal ranges beyond ASCII; the ASCII part of each
property is written out where the property is defined.
-/
namespace LiterateConfig.Text

/-- Ranges of code points, both ends included. -/
abbrev Ranges := List (Nat × Nat)

namespace Ranges

/-- Whether some range of `r` contains the code point `n`. -/
def has (r : Ranges) (n : Nat) : Bool :=
  match r with
  | [] => false
  | (a, b) :: rest => (a ≤ n && n ≤ b) || has rest n

theorem has_iff {r : Ranges} {n : Nat} : r.has n = true ↔ ∃ p ∈ r, p.1 ≤ n ∧ n ≤ p.2 := by
  induction r with
  | nil => simp [has]
  | cons p rest ih => simp [has, ih]

end Ranges

end LiterateConfig.Text
