import LiterateConfig.Text.Case

/-!
# Letters that differ only in case

`caseVariants n` are the code points that count as the same letter as `n` when
case is ignored: the capitals of its small letter, and the few small letters
that share a capital with it. `asciiVariants` knows the letters of ASCII only.

Results:
* `mem_asciiVariants_self`, `mem_caseVariants_small`: a letter is among its variants.
-/
namespace LiterateConfig.Text

/-- Small letters that share a capital. -/
def linkedSmall : List (List Nat) := [
  [0x69, 0x131], [0x73, 0x17f], [0xb5, 0x3bc], [0x345, 0x3b9, 0x1fbe], [0x390, 0x1fd3],
  [0x3b0, 0x1fe3], [0x3b2, 0x3d0], [0x3b5, 0x3f5], [0x3b8, 0x3d1], [0x3ba, 0x3f0],
  [0x3c0, 0x3d6], [0x3c1, 0x3f1], [0x3c2, 0x3c3], [0x3c6, 0x3d5], [0x432, 0x1c80],
  [0x434, 0x1c81], [0x43e, 0x1c82], [0x441, 0x1c83], [0x442, 0x1c84, 0x1c85], [0x44a, 0x1c86],
  [0x463, 0x1c87], [0x1c88, 0xa64b], [0x1e61, 0x1e9b], [0xfb05, 0xfb06]]

/-- The small letters that count as the same as a small letter. -/
def smallClass (n : Nat) : List Nat := (linkedSmall.find? fun g => g.contains n).getD [n]

/-- The capital in a run whose small letter is `n`. -/
def capitalIn? (n : Nat) (run : Nat × Nat × Nat × Nat) : Option Nat :=
  let (a, b, s, t) := run
  if t ≤ n && n - t ≤ b - a && (n - t) % s == 0 then some (a + (n - t)) else none

/-- The capitals of a small letter. -/
def capitalsOf (n : Nat) : List Nat :=
  (if 97 ≤ n && n ≤ 122 then [n - 32] else []) ++ capitalRuns.filterMap (capitalIn? n)

/-- The letters that are the same as a letter but for case. -/
def caseVariants (n : Nat) : List Nat :=
  let small := smallClass (lowerCode n)
  small ++ small.flatMap capitalsOf

/-- The same for the letters of ASCII only. -/
def asciiVariants (n : Nat) : List Nat :=
  if 65 ≤ n && n ≤ 90 then [n, n + 32]
  else if 97 ≤ n && n ≤ 122 then [n, n - 32]
  else [n]

theorem mem_asciiVariants_self (n : Nat) : n ∈ asciiVariants n := by
  unfold asciiVariants
  split
  · simp
  · split <;> simp

theorem mem_smallClass_self (n : Nat) : n ∈ smallClass n := by
  unfold smallClass
  cases h : linkedSmall.find? fun g => g.contains n with
  | none => simp
  | some g => simpa using List.find?_some h

theorem mem_caseVariants_small (n : Nat) : lowerCode n ∈ caseVariants n := by
  simp [caseVariants, mem_smallClass_self]

end LiterateConfig.Text
