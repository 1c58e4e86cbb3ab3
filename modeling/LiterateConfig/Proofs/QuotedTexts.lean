import LiterateConfig.Proofs.Saving
import LiterateConfig.Script.Lexer
import LiterateConfig.Text.Quoted

/-!
# Quoted texts are read back

A block can be synthesised around a text, which is then written quoted. Whatever the text
holds, the quoted form is a literal of the block language, and the literal's text is the
one that was quoted.

**Forms.** A character is written as itself or as an escape (`Written`). Either way the
form stays on its line and does not end the literal, and unescaping it gives the character
whatever follows.

Results:
* `written_escapeChar`: how a character is written, its escapes read back;
* `takeShort_escaped`, `unescape_escaped`: where the body of a quoted text ends, and what it is;
* `textAt?_quoteChars`: a quoted text is read as a text literal;
* `mem_quoteChars`: there are no breaks and no null characters in it.
-/
namespace LiterateConfig

open LiterateConfig.Text

namespace Text

theorem isAlphanum_hexDigit : ∀ n < 16, (hexDigit n).isAlphanum = true := by decide

theorem isAlphanum_hexPadded (width n : Nat) :
    ∀ c ∈ hexPadded width n, c.isAlphanum = true := by
  induction width generalizing n with
  | zero => intro c hc; cases hc
  | succ w ih =>
    intro c hc
    rcases List.mem_append.1 hc with hc | hc
    · exact ih _ c hc
    · rw [List.mem_singleton.1 hc]
      exact isAlphanum_hexDigit _ (by omega)

end Text

namespace Script

/-! ## Escapes by code point -/

theorem takeHex?_hexPadded (width : Nat) {n : Nat} (h : n < 16 ^ width) (rest : List Char) :
    takeHex? width (hexPadded width n ++ rest) = some (n, rest) := by
  have hlen := length_hexPadded width n
  have hlong : ¬ (hexPadded width n ++ rest).length < width := by simp [hlen]
  rw [takeHex?, if_neg hlong, List.take_left' hlen, List.drop_left' hlen,
    readHex?_hexPadded width h, Option.map_some]

/-- No character is a surrogate, and none lies beyond the last code point. -/
theorem scalar?_toNat (c : Char) : scalar? c.toNat = some c := by
  have hvalid : c.toNat < 0xd800 ∨ 0xdfff < c.toNat ∧ c.toNat < 0x110000 := c.valid
  have hscalar : (0xd800 ≤ c.toNat && decide (c.toNat < 0xe000)) = false := by
    simp only [Bool.and_eq_false_iff, decide_eq_false_iff_not]
    omega
  rw [scalar?, if_neg (by omega), hscalar, if_neg Bool.false_ne_true, Char.ofNat_toNat]

theorem takeScalar?_hexPadded (width : Nat) {c : Char} (h : c.toNat < 16 ^ width)
    (rest : List Char) :
    takeScalar? width (hexPadded width c.toNat ++ rest) = some ([c], rest) := by
  simp [takeScalar?, takeHex?_hexPadded width h, scalar?_toNat]

/-! ## How a character is written -/

/-- A character that ends neither a line nor the source. -/
def StaysOnLine (c : Char) : Prop := c ≠ '\n' ∧ c ≠ '\r' ∧ c ≠ Char.ofNat 0

instance (c : Char) : Decidable (StaysOnLine c) :=
  inferInstanceAs (Decidable (c ≠ '\n' ∧ c ≠ '\r' ∧ c ≠ Char.ofNat 0))

/-- How a character is written between two quotes `q`. -/
inductive Written (q c : Char) : List Char → Prop
  | plain (hquote : c ≠ q) (hslash : c ≠ '\\') (hline : StaysOnLine c) : Written q c [c]
  /-- An escape; behind the character that tells its kind stand digits at most. -/
  | escaped {x : Char} {digits : List Char}
      (hread : ∀ rest, readEscape? x (digits ++ rest) = some ([c], rest)) (hline : StaysOnLine x)
      (hdigits : ∀ d ∈ digits, d.isAlphanum = true) : Written q c ('\\' :: x :: digits)

/-- An escape without digits. -/
theorem Written.letter {q c x : Char} (hread : ∀ rest, readEscape? x rest = some ([c], rest))
    (hline : StaysOnLine x) : Written q c ['\\', x] :=
  .escaped hread hline nofun

theorem staysOnLine_of_isAlphanum {c : Char} (h : c.isAlphanum = true) : StaysOnLine c := by
  refine ⟨?_, ?_, ?_⟩ <;> (rintro rfl; revert h; decide)

theorem written_escapeCode (q c : Char) : Written q c (escapeCode c.toNat) := by
  have hlast : c.toNat < 0x110000 := by
    have hvalid : c.toNat < 0xd800 ∨ 0xdfff < c.toNat ∧ c.toNat < 0x110000 := c.valid
    omega
  unfold escapeCode
  split
  · next h =>
    refine .escaped (fun rest => ?_) (by decide) (isAlphanum_hexPadded 2 _)
    exact takeScalar?_hexPadded 2 (by omega) rest
  split
  · next h =>
    refine .escaped (fun rest => ?_) (by decide) (isAlphanum_hexPadded 4 _)
    exact takeScalar?_hexPadded 4 (by omega) rest
  · refine .escaped (fun rest => ?_) (by decide) (isAlphanum_hexPadded 8 _)
    exact takeScalar?_hexPadded 8 (by omega) rest

/-- **How a character is written.** -/
theorem written_escapeChar {q : Char} (hq : q = '\'' ∨ q = '"') (c : Char) :
    Written q c (escapeChar q c) := by
  unfold escapeChar
  simp only [Bool.or_eq_true, decide_eq_true_eq]
  by_cases hself : c = q ∨ c = '\\'
  · rw [if_pos hself]
    refine .letter (fun rest => ?_) ?_
    · rcases hself with rfl | rfl
      · rcases hq with rfl | rfl <;> rfl
      · rfl
    · rcases hself with rfl | rfl
      · rcases hq with rfl | rfl <;> decide
      · decide
  rw [if_neg hself]
  obtain ⟨hquote, hslash⟩ := not_or.1 hself
  by_cases htab : c = '\t'
  · rw [if_pos htab, htab]
    exact .letter (fun _ => rfl) (by decide)
  rw [if_neg htab]
  by_cases hfeed : c = '\n'
  · rw [if_pos hfeed, hfeed]
    exact .letter (fun _ => rfl) (by decide)
  rw [if_neg hfeed]
  by_cases hreturn : c = '\r'
  · rw [if_pos hreturn, hreturn]
    exact .letter (fun _ => rfl) (by decide)
  rw [if_neg hreturn]
  by_cases hprintable : isPrintable c = true
  · rw [if_pos hprintable]
    refine .plain hquote hslash ⟨hfeed, hreturn, ?_⟩
    rintro rfl
    revert hprintable
    decide
  · rw [if_neg hprintable]
    exact written_escapeCode q c

namespace Written

variable {q c : Char} {form : List Char}

theorem staysOnLine (h : Written q c form) : ∀ d ∈ form, StaysOnLine d := by
  cases h with
  | plain _ _ hline => simpa using hline
  | escaped _ hline hdigits =>
    intro d hd
    rcases List.mem_cons.1 hd with rfl | hd
    · decide
    rcases List.mem_cons.1 hd with rfl | hd
    · exact hline
    · exact staysOnLine_of_isAlphanum (hdigits d hd)

/-- The form does not start with the quote. -/
theorem exists_cons (h : Written q c form) (hq : q ≠ '\\') : ∃ d ds, form = d :: ds ∧ d ≠ q := by
  cases h with
  | plain hquote _ _ => exact ⟨c, [], rfl, hquote⟩
  | escaped _ _ _ => exact ⟨'\\', _, rfl, hq.symm⟩

end Written

/-! ## The body of a quoted text -/

theorem takeShort_plain {q d : Char} (hquote : d ≠ q) (hslash : d ≠ '\\') (hfeed : d ≠ '\n')
    (r : List Char) : takeShort q (d :: r) = (takeShort q r).map fun (cs, t) => (d :: cs, t) := by
  rw [takeShort, if_neg hquote]
  · exact hfeed
  · intro x y hx
    exact absurd hx hslash

theorem takeShort_digits {q : Char} (hq : q.isAlphanum = false) {ds : List Char}
    (hds : ∀ d ∈ ds, d.isAlphanum = true) (r : List Char) :
    takeShort q (ds ++ r) = (takeShort q r).map fun (cs, t) => (ds ++ cs, t) := by
  induction ds with
  | nil => simp
  | cons d ds ih =>
    obtain ⟨hd, hds⟩ := List.forall_mem_cons.1 hds
    have hplain : d ≠ q ∧ d ≠ '\\' ∧ d ≠ '\n' := by
      refine ⟨?_, ?_, ?_⟩ <;> (rintro rfl; revert hd)
      · simp [hq]
      · decide
      · decide
    rw [List.cons_append, takeShort_plain hplain.1 hplain.2.1 hplain.2.2, ih hds]
    cases takeShort q r <;> rfl

theorem unescape_plain {c : Char} (hslash : c ≠ '\\') (r : List Char) :
    unescape (c :: r) = (unescape r).map fun t => c :: t := by
  rw [unescape]
  intro x y hx
  exact absurd hx hslash

theorem unescape_escape {c : Char} {r cs rest : List Char} (h : readEscape? c r = some (cs, rest)) :
    unescape ('\\' :: c :: r) = (unescape rest).map fun t => cs ++ t := by
  rw [unescape]
  split
  · next hnone => simp [h] at hnone
  · next hsome =>
    rw [h] at hsome
    cases hsome
    rfl

namespace Written

variable {q c : Char} {form : List Char}

/-- The form does not end the body. -/
theorem takeShort (h : Written q c form) (hq : q = '\'' ∨ q = '"') (r : List Char) :
    Script.takeShort q (form ++ r) =
      (Script.takeShort q r).map fun (cs, t) => (form ++ cs, t) := by
  cases h with
  | plain hquote hslash hline => exact takeShort_plain hquote hslash hline.1 r
  | @escaped x digits _ hline hdigits =>
    have hdigit : q.isAlphanum = false := by rcases hq with rfl | rfl <;> decide
    have hbody := takeShort_digits hdigit hdigits r
    rw [List.cons_append, List.cons_append, Script.takeShort, hbody]
    cases Script.takeShort q r <;> rfl

theorem unescape (h : Written q c form) (r : List Char) :
    Script.unescape (form ++ r) = (Script.unescape r).map fun t => c :: t := by
  cases h with
  | plain _ hslash _ => exact unescape_plain hslash r
  | @escaped x digits hread _ _ => exact unescape_escape (hread r)

end Written

/-- **Where a body ends**: at the quote behind it. -/
theorem takeShort_escaped {q : Char} (hq : q = '\'' ∨ q = '"') (l rest : List Char) :
    takeShort q (l.flatMap (escapeChar q) ++ q :: rest) =
      some (l.flatMap (escapeChar q), rest) := by
  induction l with
  | nil =>
    have hend : takeShort q (q :: rest) = some ([], rest) := by
      rcases hq with rfl | rfl <;> simp [takeShort]
    exact hend
  | cons c l ih =>
    rw [List.flatMap_cons, List.append_assoc, (written_escapeChar hq c).takeShort hq, ih]
    rfl

/-- **What a body is**: the text that was written. -/
theorem unescape_escaped {q : Char} (hq : q = '\'' ∨ q = '"') (l : List Char) :
    unescape (l.flatMap (escapeChar q)) = some l := by
  induction l with
  | nil => rw [List.flatMap_nil, unescape]
  | cons c l ih =>
    rw [List.flatMap_cons, (written_escapeChar hq c).unescape, ih]
    rfl

/-- Behind its quote a text is short, unless it is empty and a third quote follows. -/
theorem takeBody_escaped {q : Char} (hq : q = '\'' ∨ q = '"') (l : List Char) {rest : List Char}
    (hrest : rest.head? ≠ some q) :
    takeBody q (l.flatMap (escapeChar q) ++ q :: rest) =
      some (l.flatMap (escapeChar q), rest) := by
  have hshort := takeShort_escaped hq l rest
  cases l with
  | nil =>
    cases rest with
    | nil => exact hshort
    | cons b rest =>
      have hb : b ≠ q := fun h => hrest (congrArg some h)
      simp [takeBody, hb]
  | cons c l =>
    have hslash : q ≠ '\\' := by rcases hq with rfl | rfl <;> decide
    obtain ⟨d, ds, hform, hd⟩ := (written_escapeChar hq c).exists_cons hslash
    rw [List.flatMap_cons, hform] at hshort ⊢
    rw [← hshort]
    simp only [List.cons_append]
    cases ds ++ l.flatMap (escapeChar q) ++ q :: rest with
    | nil => rfl
    | cons b r => simp [takeBody, hd]

/-! ## Quoted texts -/

theorem quoteFor_eq_or (l : List Char) : quoteFor l = '\'' ∨ quoteFor l = '"' := by
  unfold quoteFor
  split
  · exact Or.inr rfl
  · exact Or.inl rfl

/-- **A quoted text is a text literal**, and its text is the one that was quoted. -/
theorem textAt?_quoteChars (l : List Char) {rest : List Char}
    (hrest : ∀ q ∈ rest.head?, q ≠ '\'' ∧ q ≠ '"') :
    textAt? (quoteChars l ++ rest) = some (.text (String.ofList l), rest) := by
  have hq := quoteFor_eq_or l
  have hletter : (quoteFor l).isAlpha = false := by rcases hq with h | h <;> rw [h] <;> decide
  have hbody : takeBody (quoteFor l) (l.flatMap (escapeChar (quoteFor l)) ++ quoteFor l :: rest) =
      some (l.flatMap (escapeChar (quoteFor l)), rest) := by
    refine takeBody_escaped hq l fun h => ?_
    have hne := hrest _ h
    rcases hq with hq | hq
    · exact hne.1 hq
    · exact hne.2 hq
  have htoken : textToken? {} (l.flatMap (escapeChar (quoteFor l))) = some (.text (String.ofList l)) := by
    simp [textToken?, unescape_escaped hq]
  unfold textAt? quoteChars
  simp [hletter, hq, textKind?, hbody, htoken]

theorem startsText_quoteChars (l rest : List Char) : startsText (quoteChars l ++ rest) = true := by
  have hq := quoteFor_eq_or l
  have hletter : (quoteFor l).isAlpha = false := by rcases hq with h | h <;> rw [h] <;> decide
  simp [startsText, quoteChars, hletter, hq, textKind?]

/-- Quoted texts stay on their line. -/
theorem mem_quoteChars {l : List Char} {c : Char} (h : c ∈ quoteChars l) : StaysOnLine c := by
  have hq := quoteFor_eq_or l
  have hquote : StaysOnLine (quoteFor l) := by rcases hq with h | h <;> rw [h] <;> decide
  unfold quoteChars at h
  simp only [List.cons_append, List.mem_cons, List.mem_append, List.mem_flatMap,
    List.not_mem_nil, or_false] at h
  obtain rfl | ⟨d, -, hd⟩ | rfl := h
  · exact hquote
  · exact (written_escapeChar hq d).staysOnLine c hd
  · exact hquote

end Script

end LiterateConfig
