import LiterateConfig.Block.Basic
import LiterateConfig.Proofs.Lexing
import LiterateConfig.Text.Name
import Mathlib.Data.List.Basic

/-!
# Names as tokens

The rule for names is finer than what the lexer looks at: it takes the characters that may be
in a name, and then asks whether they are one. So a whole name is taken up to a character that
no name has, and becomes one token. Which token that is does not depend on the name alone
being one: a reserved word stays a word, and any other name is put into its composed form.

Results:
* `isBlank_of_isNameStart`, `isDropped_of_isNameChars`: normalizing leaves a name alone;
* `mayBeInName_of_isNameChars`: the lexer sees all of a name;
* `wordToken?_of_isName`: the token of a name;
* `step_start_name`, `step_name`: the steps of the lexer up to a name and over it.
-/
namespace LiterateConfig

open LiterateConfig.Text

/-! ## The characters of names -/

namespace Script

/-- ASCII letters, the underscore, and all beyond ASCII. -/
theorem toNat_of_mayStartName {c : Char} (h : mayStartName c = true) :
    (65 ≤ c.toNat ∧ c.toNat ≤ 90) ∨ (97 ≤ c.toNat ∧ c.toNat ≤ 122) ∨ c.toNat = 95 ∨
      128 ≤ c.toNat := by
  change ((decide (65 ≤ c.val ∧ c.val ≤ 90) || (decide (97 ≤ c.val) && decide (c.val ≤ 122))) ||
    c == '_' || decide (128 ≤ c.toNat)) = true at h
  simp only [Bool.or_eq_true, Bool.and_eq_true, decide_eq_true_eq, beq_iff_eq,
    UInt32.le_iff_toNat_le] at h
  change ((65 ≤ c.toNat ∧ c.toNat ≤ 90 ∨ 97 ≤ c.toNat ∧ c.toNat ≤ 122) ∨ c = '_') ∨
    128 ≤ c.toNat at h
  rcases h with (h | rfl) | h
  · omega
  · decide
  · omega

theorem mayStartName_of_isNameStart {c : Char} (h : isNameStart c = true) :
    mayStartName c = true := by
  unfold isNameStart at h
  unfold mayStartName
  split at h
  · rw [h, Bool.true_or]
  · next hlarge => simp [Nat.le_of_not_lt hlarge]

theorem mayBeInName_of_isNameRest {c : Char} (h : isNameRest c = true) : mayBeInName c = true := by
  unfold isNameRest at h
  unfold mayBeInName
  split at h
  · rw [h, Bool.true_or]
  · next hlarge => simp [Nat.le_of_not_lt hlarge]

end Script

namespace Text

theorem exists_cons_of_isNameChars {l : List Char} (h : isNameChars l = true) :
    ∃ c r, l = c :: r ∧ isNameStart c = true ∧ ∀ d ∈ r, isNameRest d = true := by
  cases l with
  | nil => cases h
  | cons c r =>
    rw [isName_cons, Bool.and_eq_true, List.all_eq_true] at h
    exact ⟨c, r, rfl, h⟩

/-- White space beyond ASCII. -/
def wideBlanks : List Nat := [0x85, 0xa0, 0x1680, 0x2000, 0x2001, 0x2002, 0x2003, 0x2004, 0x2005,
  0x2006, 0x2007, 0x2008, 0x2009, 0x200a, 0x2028, 0x2029, 0x202f, 0x205f, 0x3000]

theorem toNat_of_isBlank {c : Char} (h : isBlank c = true) :
    c.toNat ≤ 32 ∨ c.toNat ∈ wideBlanks := by
  simp only [isBlank, Bool.or_eq_true, Bool.and_eq_true, decide_eq_true_eq, beq_iff_eq] at h
  simp only [wideBlanks, List.mem_cons, List.not_mem_nil, or_false]
  omega

/-- No white space starts a name. -/
theorem isBlank_of_isNameStart {c : Char} (h : isNameStart c = true) : isBlank c = false := by
  have hwide : ∀ n ∈ wideBlanks, 128 ≤ n ∧ nameStartRanges.has n = false := by decide +kernel
  have hstart := Script.toNat_of_mayStartName (Script.mayStartName_of_isNameStart h)
  rw [Bool.eq_false_iff]
  intro hblank
  rcases toNat_of_isBlank hblank with hsmall | hmem
  · omega
  · obtain ⟨hlarge, hnone⟩ := hwide _ hmem
    rw [isNameStart, if_neg (by omega), hnone] at h
    cases h

/-- No name has a byte-order mark. -/
theorem toNat_ne_of_isNameChars {l : List Char} (h : isNameChars l = true) :
    ∀ c ∈ l, c.toNat ≠ 0xfeff := by
  have hmark : nameStartRanges.has 0xfeff = false ∧ nameRestRanges.has 0xfeff = false := by
    decide +kernel
  obtain ⟨c, r, rfl, hc, hr⟩ := exists_cons_of_isNameChars h
  rw [List.forall_mem_cons]
  refine ⟨fun heq => ?_, fun d hd heq => ?_⟩
  · simp [isNameStart, heq, hmark.1] at hc
  · have hrest := hr d hd
    simp [isNameRest, heq, hmark.2] at hrest

end Text

namespace Script

/-- **The lexer sees all of a name.** -/
theorem mayBeInName_of_isNameChars {l : List Char} (h : isNameChars l = true) :
    ∀ c ∈ l, mayBeInName c = true := by
  obtain ⟨c, r, rfl, hc, hr⟩ := exists_cons_of_isNameChars h
  rw [List.forall_mem_cons]
  exact ⟨mayBeInName_of_mayStartName (mayStartName_of_isNameStart hc),
    fun d hd => mayBeInName_of_isNameRest (hr d hd)⟩

/-- A character that the lexer would not take for part of a name is in no name. -/
theorem not_mem_of_isNameChars {l : List Char} (h : isNameChars l = true) {c : Char}
    (hc : mayBeInName c = false) : c ∉ l := by
  intro hmem
  rw [mayBeInName_of_isNameChars h c hmem] at hc
  cases hc

end Script

/-- Normalizing a block drops nothing of a name. -/
theorem Block.isDropped_of_isNameChars {l : List Char} (h : isNameChars l = true) :
    ∀ c ∈ l, isDropped c = false := by
  intro c hc
  rw [isDropped, Bool.or_eq_false_iff, beq_eq_false_iff_ne, beq_eq_false_iff_ne]
  refine ⟨toNat_ne_of_isNameChars h c hc, ?_⟩
  rintro rfl
  exact Script.not_mem_of_isNameChars h (by decide) hc

namespace Script

/-! ## The token of a name -/

/-- The token that a name becomes. -/
def nameToken (name : String) : Token :=
  if name ∈ reservedWords then .word name else .name (composeName name)

/-- **The token of a name**: a reserved word as it stands, any other name composed. -/
theorem wordToken?_of_isName {name : String} (h : isName name = true) :
    wordToken? name.toList = some (nameToken name) := by
  have hchars : isNameChars name.toList = true := h
  unfold wordToken? nameToken
  rw [String.ofList_toList]
  by_cases hreserved : name ∈ reservedWords
  · simp [hreserved]
  · simp [hreserved, hchars]

/-! ## The steps over a name -/

/-- A character that may start a name starts no blanks, no comment and no joined line. -/
theorem solid_of_mayStartName {c : Char} (h : mayStartName c = true) :
    isSkipped c = false ∧ c ≠ '#' ∧ c ≠ '\n' ∧ c ≠ '\\' := by
  have hne : ∀ d : Char, mayStartName d = false → c ≠ d := by
    rintro d hd rfl
    rw [h] at hd
    cases hd
  refine ⟨?_, hne _ (by decide), hne _ (by decide), hne _ (by decide)⟩
  simp [isSkipped, hne ' ' (by decide), hne '\t' (by decide), hne '\x0c' (by decide)]

/-- No text literal starts at a name, unless its quote is what comes behind. -/
theorem startsText_name {name : List Char} (h : isNameChars name = true) {d : Char}
    (hd : mayBeInName d = false) (hquote : d ≠ '\'' ∧ d ≠ '"') (r : List Char) :
    startsText (name ++ d :: r) = false := by
  have halpha : d.isAlpha = false := by
    simp only [mayBeInName, Char.isAlphanum, Bool.or_eq_false_iff] at hd
    exact hd.1.1.1
  have hhead : ∀ q ∈ ((name ++ d :: r).dropWhile Char.isAlpha).head?, q ≠ '\'' ∧ q ≠ '"' := by
    intro q hq
    rw [List.dropWhile_append] at hq
    split at hq
    · rw [List.dropWhile_cons_of_neg (by simp [halpha])] at hq
      cases hq
      exact hquote
    · next hne =>
      rw [List.head?_append_of_ne_nil _ (by simpa using hne)] at hq
      have hmem : q ∈ name := (List.dropWhile_suffix _).subset (List.mem_of_head? hq)
      constructor
      · rintro rfl
        exact not_mem_of_isNameChars h (by decide) hmem
      · rintro rfl
        exact not_mem_of_isNameChars h (by decide) hmem
  unfold startsText
  split
  · next q t hq =>
    obtain ⟨hsingle, hdouble⟩ := hhead q (by rw [hq]; rfl)
    simp [hsingle, hdouble]
  · rfl

theorem startsNumber_name {name : List Char} (h : isNameChars name = true) (rest : List Char) :
    startsNumber (name ++ rest) = false := by
  obtain ⟨c, r, rfl, hc, -⟩ := exists_cons_of_isNameChars h
  have hstart := toNat_of_mayStartName (mayStartName_of_isNameStart hc)
  have hdot : c ≠ '.' := by
    rintro rfl
    simp at hstart
  have hdigit : c.isDigit = false := by
    rw [Bool.eq_false_iff]
    simp only [Char.isDigit, Bool.and_eq_true, decide_eq_true_eq, UInt32.le_iff_toNat_le,
      ge_iff_le, ne_eq]
    change ¬(48 ≤ c.toNat ∧ c.toNat ≤ 57)
    omega
  rw [List.cons_append]
  unfold startsNumber
  split
  · next heq => exact absurd (List.cons.inj heq).1 hdot
  · next heq => rw [← (List.cons.inj heq).1, hdigit]
  · rfl

/-- **A name is one literal**, up to a character that no name has. -/
theorem literalAt?_name {name : String} (h : isName name = true) {d : Char}
    (hd : mayBeInName d = false) (hquote : d ≠ '\'' ∧ d ≠ '"') (r : List Char) :
    literalAt? (name.toList ++ d :: r) = some (nameToken name, d :: r) := by
  have hchars : isNameChars name.toList = true := h
  have hall := mayBeInName_of_isNameChars hchars
  have htake : (name.toList ++ d :: r).takeWhile mayBeInName = name.toList := by
    rw [List.takeWhile_append_of_pos hall, List.takeWhile_cons_of_neg (by simp [hd]),
      List.append_nil]
  have hdrop : (name.toList ++ d :: r).dropWhile mayBeInName = d :: r := by
    rw [List.dropWhile_append_of_pos hall, List.dropWhile_cons_of_neg (by simp [hd])]
  have htoken := wordToken?_of_isName h
  obtain ⟨c, t, hname, hc, -⟩ := exists_cons_of_isNameChars hchars
  unfold literalAt?
  rw [startsText_name hchars hd hquote, startsNumber_name hchars, if_neg Bool.false_ne_true,
    if_neg Bool.false_ne_true, htake, hdrop, hname, List.cons_append]
  dsimp only
  rw [if_pos (mayStartName_of_isNameStart hc), ← hname, htoken]
  rfl

/-- A line that starts with a name starts at the margin. -/
theorem step_start_name {name : List Char} (h : isNameChars name = true) (rest : List Char) :
    step ⟨[], [], 1⟩ true (name ++ rest) = .goes [] ⟨[], [], 1⟩ false (name ++ rest) := by
  obtain ⟨c, r, rfl, hc, -⟩ := exists_cons_of_isNameChars h
  obtain ⟨hskipped, hhash, hfeed, hslash⟩ := solid_of_mayStartName (mayStartName_of_isNameStart hc)
  simp only [isSkipped, Bool.or_eq_false_iff, beq_eq_false_iff_ne] at hskipped
  obtain ⟨⟨hspace, htab⟩, hform⟩ := hskipped
  rw [List.cons_append]
  have hmeasure : measure none ⟨0, 0⟩ 0 (c :: (r ++ rest)) =
      some (⟨0, 0⟩, 0, c :: (r ++ rest)) := by
    unfold measure
    split <;> simp_all
  have hline : isBlankLine (c :: (r ++ rest)) = false := by
    unfold isBlankLine
    split <;> simp_all
  rw [step, if_pos rfl, startStep, hmeasure]
  dsimp only
  rw [hline, if_neg Bool.false_ne_true]
  rfl

/-- **The step over a name.** -/
theorem step_name (st : Reading) {name : String} (h : isName name = true) {d : Char}
    (hd : mayBeInName d = false) (hquote : d ≠ '\'' ∧ d ≠ '"') (r : List Char) :
    step st false (name.toList ++ d :: r) = .goes [⟨nameToken name, st.line⟩] st false (d :: r) := by
  have hchars : isNameChars name.toList = true := h
  have hline : linesRead (name.toList ++ d :: r) (d :: r) = 0 := by
    have hcount : name.toList.count '\n' = 0 :=
      List.count_eq_zero.2 (not_mem_of_isNameChars hchars (by decide))
    simpa [linesRead] using hcount
  have hinner : step st false (name.toList ++ d :: r) = tokenStep st (name.toList ++ d :: r) := by
    obtain ⟨c, t, hname, hc, -⟩ := exists_cons_of_isNameChars hchars
    obtain ⟨hskipped, hhash, hfeed, hslash⟩ :=
      solid_of_mayStartName (mayStartName_of_isNameStart hc)
    rw [hname, List.cons_append, step, if_neg Bool.false_ne_true,
      List.dropWhile_cons_of_neg (by simp [hskipped])]
    unfold innerStep
    split <;> simp_all
  rw [hinner, tokenStep, literalAt?_name h hd hquote]
  dsimp only
  rw [hline, Nat.add_zero]

end Script

end LiterateConfig
