import LiterateConfig.Script.Reader

/-!
# Reading expressions

The readers of expressions call one another down the levels of operators, with fuel that
each call uses up. What one of them reads stands within a line and ends no statement, and
more fuel than was needed reads the same: every token is worth sixteen calls.

Results:
* `readExprs_obtains`: what is read as an expression, and how much fuel is enough for it.
-/
namespace LiterateConfig.Script

/-! ## What is read -/

/-- Whether a token ends a statement or stands between statements. -/
def Token.endsStatement : Token → Bool
  | .newline | .indent | .dedent | .mark .semicolon => true
  | _ => false

/-- Whether `rest` is left of `l` behind tokens of one statement. -/
def Spans (l rest : List Lexeme) : Prop :=
  ∃ p, l = p ++ rest ∧ ∀ x ∈ p, x.token.endsStatement = false

theorem Spans.refl (l : List Lexeme) : Spans l l := ⟨[], rfl, nofun⟩

theorem Spans.cons {x : Lexeme} {l rest : List Lexeme} (h : Spans l rest)
    (hx : x.token.endsStatement = false) : Spans (x :: l) rest := by
  obtain ⟨p, rfl, hp⟩ := h
  exact ⟨x :: p, rfl, List.forall_mem_cons.2 ⟨hx, hp⟩⟩

theorem Spans.mark {m : Mark} {line : Nat} {l rest : List Lexeme} (h : Spans l rest)
    (hm : m ≠ .semicolon) : Spans (⟨.mark m, line⟩ :: l) rest := by
  refine h.cons ?_
  cases m <;> first | rfl | exact absurd rfl hm

theorem Spans.trans {l l' rest : List Lexeme} (h : Spans l l') (h' : Spans l' rest) :
    Spans l rest := by
  obtain ⟨p, rfl, hp⟩ := h
  obtain ⟨q, rfl, hq⟩ := h'
  refine ⟨p ++ q, (List.append_assoc ..).symm, fun x hx => ?_⟩
  rcases List.mem_append.1 hx with hx | hx
  · exact hp x hx
  · exact hq x hx

theorem Spans.length_le {l rest : List Lexeme} (h : Spans l rest) : rest.length ≤ l.length := by
  obtain ⟨p, rfl, -⟩ := h
  simp

/-- What a reader gives for `l` with `rest` left, and how much fuel is enough for it. -/
structure Obtains {γ : Type} (c : Nat) (reader : Nat → Option γ) (l rest : List Lexeme) (r : γ) :
    Prop where
  spans : Spans l rest
  enough : ∀ fuel, 16 * l.length + c ≤ fuel + 16 * rest.length → reader fuel = some r

theorem Obtains.of_succ {γ : Type} {c : Nat} {reader : Nat → Option γ} {l rest : List Lexeme}
    {r : γ} (hw : Spans l rest)
    (h : ∀ fuel, 16 * l.length + c ≤ fuel + 16 * rest.length → reader (fuel + 1) = some r) :
    Obtains (c + 1) reader l rest r := by
  refine ⟨hw, fun fuel hfuel => ?_⟩
  have hlength := hw.length_le
  obtain ⟨fuel, rfl⟩ : ∃ n, fuel = n + 1 := ⟨fuel - 1, by omega⟩
  exact h fuel (by omega)

/-! ## Marks and words -/

theorem mark?_eq_some {m : Mark} {l r : List Lexeme} :
    mark? m l = some r ↔ ∃ line, l = ⟨.mark m, line⟩ :: r := by
  unfold mark?
  split
  · next k line r' =>
    by_cases hk : k = m <;> simp [hk]
  · next h =>
    simp only [reduceCtorEq, false_iff, not_exists]
    intro line hl
    exact h m line r hl

theorem word?_eq_some {w : String} {l r : List Lexeme} :
    word? w l = some r ↔ ∃ line, l = ⟨.word w, line⟩ :: r := by
  unfold word?
  split
  · next k line r' =>
    by_cases hk : k = w <;> simp [hk]
  · next h =>
    simp only [reduceCtorEq, false_iff, not_exists]
    intro line hl
    exact h w line r hl

theorem newline?_eq_some {l r : List Lexeme} :
    newline? l = some r ↔ ∃ line, l = ⟨.newline, line⟩ :: r := by
  unfold newline?
  split
  · simp
  · next h =>
    simp only [reduceCtorEq, false_iff, not_exists]
    intro line hl
    exact h line r hl

theorem atMark_iff {m : Mark} {l : List Lexeme} :
    atMark m l = true ↔ ∃ line, l = ⟨.mark m, line⟩ :: l.tail := by
  unfold atMark
  split
  · simp
  · next h =>
    simp only [Bool.false_eq_true, false_iff, not_exists]
    intro line hl
    exact h m line l.tail hl

theorem atWord_iff {w : String} {l : List Lexeme} :
    atWord w l = true ↔ ∃ line, l = ⟨.word w, line⟩ :: l.tail := by
  unfold atWord
  split
  · simp
  · next h =>
    simp only [Bool.false_eq_true, false_iff, not_exists]
    intro line hl
    exact h w line l.tail hl

theorem startsExpr_of_atWord {w : String} {l : List Lexeme}
    (hw : ["None", "True", "False", "not", "lambda"].contains w = true) (h : atWord w l = true) :
    startsExpr l = true := by
  obtain ⟨line, hl⟩ := atWord_iff.1 h
  rw [hl]
  exact hw

theorem startsExpr_of_word {w : String} {l r : List Lexeme}
    (hw : ["None", "True", "False", "not", "lambda"].contains w = true) (h : word? w l = some r) :
    startsExpr l = true := by
  obtain ⟨line, rfl⟩ := word?_eq_some.1 h
  exact hw

theorem startsExpr_of_atMark {m : Mark} {l : List Lexeme}
    (hm : (m == .openRound || m == .openSquare || m == .openCurly || m == .minus) = true)
    (h : atMark m l = true) : startsExpr l = true := by
  obtain ⟨line, hl⟩ := atMark_iff.1 h
  rw [hl]
  exact hm

theorem mark?_spans {m : Mark} {l r : List Lexeme} (hm : m ≠ .semicolon)
    (h : mark? m l = some r) : Spans l r ∧ r.length < l.length := by
  obtain ⟨line, rfl⟩ := mark?_eq_some.1 h
  exact ⟨(Spans.refl r).mark hm, Nat.lt_succ_self _⟩

theorem word?_spans {w : String} {l r : List Lexeme} (h : word? w l = some r) :
    Spans l r ∧ r.length < l.length := by
  obtain ⟨line, rfl⟩ := word?_eq_some.1 h
  exact ⟨(Spans.refl r).cons rfl, Nat.lt_succ_self _⟩

theorem atMark_spans {m : Mark} {l : List Lexeme} (hm : m ≠ .semicolon)
    (h : atMark m l = true) : Spans l l.tail ∧ l.tail.length < l.length := by
  obtain ⟨line, hl⟩ := atMark_iff.1 h
  rw [hl]
  exact ⟨(Spans.refl _).mark hm, Nat.lt_succ_self _⟩

theorem atWord_spans {w : String} {l : List Lexeme} (h : atWord w l = true) :
    Spans l l.tail ∧ l.tail.length < l.length := by
  obtain ⟨line, hl⟩ := atWord_iff.1 h
  rw [hl]
  exact ⟨(Spans.refl _).cons rfl, Nat.lt_succ_self _⟩

/-- An operator, its right operand, and what goes on behind it. -/
theorem Obtains.operator {α β : Type} {c : Nat} {m : Mark} {l l₁ rest : List Lexeme} {a : α} {b : β}
    {operand : Nat → Option α} {later reader : Nat → Option β} (hm : m ≠ .semicolon)
    (hat : atMark m l = true) (hfirst : Obtains c operand l.tail l₁ a) (hc : c < 16)
    (hlater : Obtains 1 later l₁ rest b)
    (h : ∀ fuel, operand fuel = some a → later fuel = some b → reader (fuel + 1) = some b) :
    Obtains 1 reader l rest b := by
  obtain ⟨hw, hlt⟩ := atMark_spans hm hat
  have hle := hfirst.spans.length_le
  have hle' := hlater.spans.length_le
  refine .of_succ (hw.trans (hfirst.spans.trans hlater.spans)) fun fuel hfuel => ?_
  exact h fuel (hfirst.enough fuel (by omega)) (hlater.enough fuel (by omega))

/-! ## Levels -/

/-- What every reader that got through with this much fuel has read. -/
structure Readers (n : Nat) : Prop where
  expr : ∀ {l e rest}, readExpr n l = some (e, rest) →
    startsExpr l = true ∧ Obtains 7 (readExpr · l) l rest (e, rest)
  orRest : ∀ {e l e' rest}, readOrRest n e l = some (e', rest) →
    Obtains 1 (readOrRest · e l) l rest (e', rest)
  and : ∀ {l e rest}, readAnd n l = some (e, rest) →
    startsExpr l = true ∧ Obtains 6 (readAnd · l) l rest (e, rest)
  not : ∀ {l e rest}, readNot n l = some (e, rest) →
    startsExpr l = true ∧ Obtains 5 (readNot · l) l rest (e, rest)
  equalRest : ∀ {l es rest}, readEqualRest n l = some (es, rest) →
    Obtains 1 (readEqualRest · l) l rest (es, rest)
  sum : ∀ {l e rest}, readSum n l = some (e, rest) →
    startsExpr l = true ∧ Obtains 4 (readSum · l) l rest (e, rest)
  sumRest : ∀ {e l e' rest}, readSumRest n e l = some (e', rest) →
    Obtains 1 (readSumRest · e l) l rest (e', rest)
  product : ∀ {l e rest}, readProduct n l = some (e, rest) →
    startsExpr l = true ∧ Obtains 3 (readProduct · l) l rest (e, rest)
  productRest : ∀ {e l e' rest}, readProductRest n e l = some (e', rest) →
    Obtains 1 (readProductRest · e l) l rest (e', rest)
  signed : ∀ {l e rest}, readSigned n l = some (e, rest) →
    startsExpr l = true ∧ Obtains 2 (readSigned · l) l rest (e, rest)
  trailers : ∀ {e l e' rest}, readTrailers n e l = some (e', rest) →
    Obtains 1 (readTrailers · e l) l rest (e', rest)
  atom : ∀ {l e rest}, readAtom n l = some (e, rest) →
    startsExpr l = true ∧ Obtains 1 (readAtom · l) l rest (e, rest)
  items : ∀ {close l es comma rest}, close ≠ .semicolon →
    readItems n close l = some (es, comma, rest) →
    Obtains 1 (readItems · close l) l rest (es, comma, rest)
  pairs : ∀ {l es rest}, readPairs n l = some (es, rest) →
    Obtains 1 (readPairs · l) l rest (es, rest)

section Levels

variable {n : Nat} {l rest : List Lexeme} {e : Expr}

theorem obtains_expr (ih : Readers n) (h : readExpr (n + 1) l = some (e, rest)) :
    startsExpr l = true ∧ Obtains 7 (readExpr · l) l rest (e, rest) := by
  rw [readExpr] at h
  by_cases hlambda : atWord "lambda" l = true
  · rw [if_pos hlambda] at h
    obtain ⟨l₁, hcolon, h⟩ := Option.bind_eq_some_iff.1 h
    obtain ⟨⟨body, l₂⟩, hread, h⟩ := Option.bind_eq_some_iff.1 h
    cases h
    obtain ⟨hw, hlt⟩ := atWord_spans hlambda
    obtain ⟨hw₁, hlt₁⟩ := mark?_spans (by decide) hcolon
    have hbody := (ih.expr hread).2
    refine ⟨startsExpr_of_atWord (by decide) hlambda,
      .of_succ (hw.trans (hw₁.trans hbody.spans)) fun fuel hfuel => ?_⟩
    have hread := hbody.enough fuel (by omega)
    simp only [readExpr, if_pos hlambda, hcolon, hread, Option.bind_eq_bind, Option.bind_some,
      Option.pure_def]
  · rw [if_neg hlambda] at h
    obtain ⟨⟨e₁, l₁⟩, hread, hread'⟩ := Option.bind_eq_some_iff.1 h
    obtain ⟨hstarts, hfirst⟩ := ih.and hread
    have hlater := ih.orRest hread'
    refine ⟨hstarts, .of_succ (hfirst.spans.trans hlater.spans) fun fuel hfuel => ?_⟩
    have hle := hfirst.spans.length_le
    have hle' := hlater.spans.length_le
    have hread := hfirst.enough fuel (by omega)
    have hread' := hlater.enough fuel (by omega)
    simp only [readExpr, if_neg hlambda, hread, hread', Option.bind_eq_bind, Option.bind_some]

theorem obtains_orRest (ih : Readers n) {e' : Expr}
    (h : readOrRest (n + 1) e l = some (e', rest)) :
    Obtains 1 (readOrRest · e l) l rest (e', rest) := by
  rw [readOrRest] at h
  cases hor : word? "or" l with
  | none =>
    rw [hor] at h
    cases h
    exact .of_succ (.refl l) fun fuel _ => by simp only [readOrRest, hor]
  | some l₁ =>
    rw [hor] at h
    obtain ⟨⟨r, l₂⟩, hread, h⟩ := Option.bind_eq_some_iff.1 h
    obtain ⟨⟨more, l₃⟩, hread', h⟩ := Option.bind_eq_some_iff.1 h
    cases h
    obtain ⟨hw, hlt⟩ := word?_spans hor
    have hfirst := (ih.and hread).2
    have hlater := ih.orRest hread'
    have hle := hfirst.spans.length_le
    have hle' := hlater.spans.length_le
    refine .of_succ (hw.trans (hfirst.spans.trans hlater.spans)) fun fuel hfuel => ?_
    have hread := hfirst.enough fuel (by omega)
    have hread' := hlater.enough fuel (by omega)
    simp only [readOrRest, hor, hread, hread', Option.bind_eq_bind, Option.bind_some,
      Option.pure_def]

theorem obtains_and (ih : Readers n) (h : readAnd (n + 1) l = some (e, rest)) :
    startsExpr l = true ∧ Obtains 6 (readAnd · l) l rest (e, rest) := by
  rw [readAnd] at h
  obtain ⟨⟨e₁, l₁⟩, hread, h⟩ := Option.bind_eq_some_iff.1 h
  obtain ⟨hstarts, hfirst⟩ := ih.not hread
  refine ⟨hstarts, ?_⟩
  have hle := hfirst.spans.length_le
  cases hand : word? "and" l₁ with
  | none =>
    dsimp only at h
    rw [hand] at h
    cases h
    refine .of_succ hfirst.spans fun fuel hfuel => ?_
    have hread := hfirst.enough fuel (by omega)
    simp only [readAnd, hread, hand, Option.bind_eq_bind, Option.bind_some]
  | some l₂ =>
    dsimp only at h
    rw [hand] at h
    obtain ⟨⟨r, l₃⟩, hread', h⟩ := Option.bind_eq_some_iff.1 h
    dsimp only at h
    cases h
    obtain ⟨hw, hlt⟩ := word?_spans hand
    have hlater := (ih.and hread').2
    have hle' := hlater.spans.length_le
    refine .of_succ (hfirst.spans.trans (hw.trans hlater.spans)) fun fuel hfuel => ?_
    have hread := hfirst.enough fuel (by omega)
    have hread' := hlater.enough fuel (by omega)
    simp only [readAnd, hread, hand, hread', Option.bind_eq_bind, Option.bind_some,
      Option.pure_def]

theorem obtains_not (ih : Readers n) (h : readNot (n + 1) l = some (e, rest)) :
    startsExpr l = true ∧ Obtains 5 (readNot · l) l rest (e, rest) := by
  rw [readNot] at h
  cases hnot : word? "not" l with
  | none =>
    rw [hnot] at h
    obtain ⟨⟨e₁, l₁⟩, hread, h⟩ := Option.bind_eq_some_iff.1 h
    obtain ⟨⟨es, l₂⟩, hread', h⟩ := Option.bind_eq_some_iff.1 h
    cases h
    obtain ⟨hstarts, hfirst⟩ := ih.sum hread
    have hlater := ih.equalRest hread'
    have hle := hfirst.spans.length_le
    have hle' := hlater.spans.length_le
    refine ⟨hstarts, .of_succ (hfirst.spans.trans hlater.spans) fun fuel hfuel => ?_⟩
    have hread := hfirst.enough fuel (by omega)
    have hread' := hlater.enough fuel (by omega)
    simp only [readNot, hnot, hread, hread', Option.bind_eq_bind, Option.bind_some,
      Option.pure_def]
  | some l₁ =>
    rw [hnot] at h
    obtain ⟨⟨e₁, l₂⟩, hread, h⟩ := Option.bind_eq_some_iff.1 h
    cases h
    obtain ⟨hw, hlt⟩ := word?_spans hnot
    have hoperand := (ih.not hread).2
    refine ⟨startsExpr_of_word (by decide) hnot,
      .of_succ (hw.trans hoperand.spans) fun fuel hfuel => ?_⟩
    have hread := hoperand.enough fuel (by omega)
    simp only [readNot, hnot, hread, Option.bind_eq_bind, Option.bind_some, Option.pure_def]

theorem obtains_equalRest (ih : Readers n) {es : List Expr}
    (h : readEqualRest (n + 1) l = some (es, rest)) :
    Obtains 1 (readEqualRest · l) l rest (es, rest) := by
  rw [readEqualRest] at h
  cases hequals : mark? .equals l with
  | none =>
    rw [hequals] at h
    cases h
    exact .of_succ (.refl l) fun fuel _ => by simp only [readEqualRest, hequals]
  | some l₁ =>
    rw [hequals] at h
    obtain ⟨⟨e₁, l₂⟩, hread, h⟩ := Option.bind_eq_some_iff.1 h
    obtain ⟨⟨more, l₃⟩, hread', h⟩ := Option.bind_eq_some_iff.1 h
    cases h
    obtain ⟨hw, hlt⟩ := mark?_spans (by decide) hequals
    have hfirst := (ih.sum hread).2
    have hlater := ih.equalRest hread'
    have hle := hfirst.spans.length_le
    have hle' := hlater.spans.length_le
    refine .of_succ (hw.trans (hfirst.spans.trans hlater.spans)) fun fuel hfuel => ?_
    have hread := hfirst.enough fuel (by omega)
    have hread' := hlater.enough fuel (by omega)
    simp only [readEqualRest, hequals, hread, hread', Option.bind_eq_bind, Option.bind_some,
      Option.pure_def]

theorem obtains_sum (ih : Readers n) (h : readSum (n + 1) l = some (e, rest)) :
    startsExpr l = true ∧ Obtains 4 (readSum · l) l rest (e, rest) := by
  rw [readSum] at h
  obtain ⟨⟨e₁, l₁⟩, hread, hread'⟩ := Option.bind_eq_some_iff.1 h
  obtain ⟨hstarts, hfirst⟩ := ih.product hread
  have hlater := ih.sumRest hread'
  have hle := hfirst.spans.length_le
  have hle' := hlater.spans.length_le
  refine ⟨hstarts, .of_succ (hfirst.spans.trans hlater.spans) fun fuel hfuel => ?_⟩
  have hread := hfirst.enough fuel (by omega)
  have hread' := hlater.enough fuel (by omega)
  simp only [readSum, hread, hread', Option.bind_eq_bind, Option.bind_some]

theorem obtains_sumRest (ih : Readers n) {e' : Expr}
    (h : readSumRest (n + 1) e l = some (e', rest)) :
    Obtains 1 (readSumRest · e l) l rest (e', rest) := by
  rw [readSumRest] at h
  by_cases hplus : atMark .plus l = true
  · rw [if_pos hplus] at h
    obtain ⟨⟨r, l₁⟩, hread, hread'⟩ := Option.bind_eq_some_iff.1 h
    refine .operator (by decide) hplus (ih.product hread).2 (by decide) (ih.sumRest hread') ?_
    intro fuel hread hread'
    simp only [readSumRest, if_pos hplus, hread, hread', Option.bind_eq_bind, Option.bind_some]
  rw [if_neg hplus] at h
  by_cases hminus : atMark .minus l = true
  · rw [if_pos hminus] at h
    obtain ⟨⟨r, l₁⟩, hread, hread'⟩ := Option.bind_eq_some_iff.1 h
    refine .operator (by decide) hminus (ih.product hread).2 (by decide) (ih.sumRest hread') ?_
    intro fuel hread hread'
    simp only [readSumRest, if_neg hplus, if_pos hminus, hread, hread', Option.bind_eq_bind,
      Option.bind_some]
  · rw [if_neg hminus] at h
    cases h
    exact .of_succ (.refl l) fun fuel _ => by simp only [readSumRest, if_neg hplus, if_neg hminus]

theorem obtains_product (ih : Readers n) (h : readProduct (n + 1) l = some (e, rest)) :
    startsExpr l = true ∧ Obtains 3 (readProduct · l) l rest (e, rest) := by
  rw [readProduct] at h
  obtain ⟨⟨e₁, l₁⟩, hread, hread'⟩ := Option.bind_eq_some_iff.1 h
  obtain ⟨hstarts, hfirst⟩ := ih.signed hread
  have hlater := ih.productRest hread'
  have hle := hfirst.spans.length_le
  have hle' := hlater.spans.length_le
  refine ⟨hstarts, .of_succ (hfirst.spans.trans hlater.spans) fun fuel hfuel => ?_⟩
  have hread := hfirst.enough fuel (by omega)
  have hread' := hlater.enough fuel (by omega)
  simp only [readProduct, hread, hread', Option.bind_eq_bind, Option.bind_some]

theorem obtains_productRest (ih : Readers n) {e' : Expr}
    (h : readProductRest (n + 1) e l = some (e', rest)) :
    Obtains 1 (readProductRest · e l) l rest (e', rest) := by
  rw [readProductRest] at h
  by_cases hstar : atMark .star l = true
  · rw [if_pos hstar] at h
    obtain ⟨⟨r, l₁⟩, hread, hread'⟩ := Option.bind_eq_some_iff.1 h
    refine .operator (by decide) hstar (ih.signed hread).2 (by decide) (ih.productRest hread') ?_
    intro fuel hread hread'
    simp only [readProductRest, if_pos hstar, hread, hread', Option.bind_eq_bind, Option.bind_some]
  rw [if_neg hstar] at h
  by_cases hslash : atMark .slash l = true
  · rw [if_pos hslash] at h
    obtain ⟨⟨r, l₁⟩, hread, hread'⟩ := Option.bind_eq_some_iff.1 h
    refine .operator (by decide) hslash (ih.signed hread).2 (by decide) (ih.productRest hread') ?_
    intro fuel hread hread'
    simp only [readProductRest, if_neg hstar, if_pos hslash, hread, hread', Option.bind_eq_bind,
      Option.bind_some]
  · rw [if_neg hslash] at h
    cases h
    exact .of_succ (.refl l) fun fuel _ => by
      simp only [readProductRest, if_neg hstar, if_neg hslash]

theorem obtains_signed (ih : Readers n) (h : readSigned (n + 1) l = some (e, rest)) :
    startsExpr l = true ∧ Obtains 2 (readSigned · l) l rest (e, rest) := by
  rw [readSigned] at h
  by_cases hminus : atMark .minus l = true
  · rw [if_pos hminus] at h
    obtain ⟨⟨e₁, l₁⟩, hread, h⟩ := Option.bind_eq_some_iff.1 h
    cases h
    obtain ⟨hw, hlt⟩ := atMark_spans (by decide) hminus
    have hoperand := (ih.signed hread).2
    refine ⟨startsExpr_of_atMark (by decide) hminus,
      .of_succ (hw.trans hoperand.spans) fun fuel hfuel => ?_⟩
    have hread := hoperand.enough fuel (by omega)
    simp only [readSigned, if_pos hminus, hread, Option.bind_eq_bind, Option.bind_some,
      Option.pure_def]
  · rw [if_neg hminus] at h
    obtain ⟨⟨e₁, l₁⟩, hread, hread'⟩ := Option.bind_eq_some_iff.1 h
    obtain ⟨hstarts, hfirst⟩ := ih.atom hread
    have hlater := ih.trailers hread'
    have hle := hfirst.spans.length_le
    have hle' := hlater.spans.length_le
    refine ⟨hstarts, .of_succ (hfirst.spans.trans hlater.spans) fun fuel hfuel => ?_⟩
    have hread := hfirst.enough fuel (by omega)
    have hread' := hlater.enough fuel (by omega)
    simp only [readSigned, if_neg hminus, hread, hread', Option.bind_eq_bind, Option.bind_some]

/-- What an index is, from what stands between its brackets. -/
def indexOf? : List Expr → Bool → Option Expr
  | [], _ => none
  | [i], false => some i
  | items, _ => some (.tuple items)

theorem readTrailers_index (fuel : Nat) (e : Expr) (line : Nat) (l : List Lexeme) :
    readTrailers (fuel + 1) e (⟨.mark .openSquare, line⟩ :: l) =
      (readItems fuel .closeSquare l).bind fun x =>
        (indexOf? x.1 x.2.1).bind fun i => readTrailers fuel (.index e i) x.2.2 := by
  rw [readTrailers]
  cases readItems fuel .closeSquare l with
  | none => rfl
  | some x =>
    obtain ⟨items, comma, r⟩ := x
    rcases items with _ | ⟨i, _ | ⟨j, items⟩⟩
    · rfl
    · cases comma <;> rfl
    · rfl

theorem obtains_trailers (ih : Readers n) {e' : Expr}
    (h : readTrailers (n + 1) e l = some (e', rest)) :
    Obtains 1 (readTrailers · e l) l rest (e', rest) := by
  unfold readTrailers at h
  split at h
  · next line l₁ =>
    obtain ⟨⟨args, comma, l₂⟩, hread, hread'⟩ := Option.bind_eq_some_iff.1 h
    have hfirst := ih.items (by decide) hread
    have hlater := ih.trailers hread'
    have hle := hfirst.spans.length_le
    have hle' := hlater.spans.length_le
    refine .of_succ ((hfirst.spans.trans hlater.spans).mark (by decide)) fun fuel hfuel => ?_
    rw [List.length_cons] at hfuel
    have hread := hfirst.enough fuel (by omega)
    have hread' := hlater.enough fuel (by omega)
    simp only [readTrailers, hread, hread', Option.bind_eq_bind, Option.bind_some]
  · next line l₁ =>
    have h : readTrailers (n + 1) e (⟨.mark .openSquare, line⟩ :: l₁) = some (e', rest) := by
      rw [readTrailers]
      exact h
    rw [readTrailers_index] at h
    obtain ⟨⟨items, comma, l₂⟩, hread, h⟩ := Option.bind_eq_some_iff.1 h
    obtain ⟨i, hindex, hread'⟩ := Option.bind_eq_some_iff.1 h
    dsimp only at hindex hread'
    have hfirst := ih.items (by decide) hread
    have hlater := ih.trailers hread'
    have hle := hfirst.spans.length_le
    have hle' := hlater.spans.length_le
    refine .of_succ ((hfirst.spans.trans hlater.spans).mark (by decide)) fun fuel hfuel => ?_
    rw [List.length_cons] at hfuel
    have hread := hfirst.enough fuel (by omega)
    have hread' := hlater.enough fuel (by omega)
    simp only [readTrailers_index, hread, hindex, hread', Option.bind_some]
  · next line name line' l₁ =>
    have hlater := ih.trailers h
    have hle := hlater.spans.length_le
    refine .of_succ ((hlater.spans.cons rfl).mark (by decide)) fun fuel hfuel => ?_
    simp only [List.length_cons] at hfuel
    have hread := hlater.enough fuel (by omega)
    simp only [readTrailers, hread]
  · cases h
  · cases h
    refine .of_succ (.refl _) fun fuel _ => ?_
    rw [readTrailers] <;> assumption

/-- Texts that stand next to each other. -/
theorem takeTexts_spans {s : String} (h : takeTexts s l = some (e, rest)) : Spans l rest := by
  fun_induction takeTexts s l with
  | case1 s t line r ih => exact (ih h).cons rfl
  | case2 => cases h
  | case3 =>
    cases h
    exact .refl _

theorem takeBytes_spans {b : List UInt8} (h : takeBytes b l = some (e, rest)) :
    Spans l rest := by
  fun_induction takeBytes b l with
  | case1 b c line r ih => exact (ih h).cons rfl
  | case2 => cases h
  | case3 =>
    cases h
    exact .refl _

/-- One token that is an expression by itself. -/
theorem Obtains.token {x : Lexeme} (hx : x.token.endsStatement = false)
    (h : ∀ fuel, readAtom (fuel + 1) (x :: l) = some (e, l)) :
    Obtains 1 (readAtom · (x :: l)) (x :: l) l (e, l) :=
  .of_succ ((Spans.refl l).cons hx) fun fuel _ => h fuel

theorem obtains_curly (ih : Readers n) {line : Nat}
    (h : readAtom (n + 1) (⟨.mark .openCurly, line⟩ :: l) = some (e, rest)) :
    Obtains 1 (readAtom · (⟨.mark .openCurly, line⟩ :: l)) (⟨.mark .openCurly, line⟩ :: l) rest
      (e, rest) := by
  rw [readAtom] at h
  by_cases hclose : atMark .closeCurly l = true
  · rw [if_pos hclose] at h
    cases h
    have hw := (atMark_spans (by decide) hclose).1
    exact .of_succ (hw.mark (by decide)) fun fuel _ => by simp only [readAtom, if_pos hclose]
  rw [if_neg hclose] at h
  obtain ⟨⟨e₁, l₁⟩, hread, h⟩ := Option.bind_eq_some_iff.1 h
  have hfirst := (ih.expr hread).2
  have hle := hfirst.spans.length_le
  dsimp only at h
  by_cases hcolon : atMark .colon l₁ = true
  · rw [if_pos hcolon] at h
    obtain ⟨⟨v, l₂⟩, hread', h⟩ := Option.bind_eq_some_iff.1 h
    obtain ⟨⟨pairs, l₃⟩, hread'', h⟩ := Option.bind_eq_some_iff.1 h
    dsimp only at hread'' h
    cases h
    obtain ⟨hw, hlt⟩ := atMark_spans (by decide) hcolon
    have hvalue := (ih.expr hread').2
    have hlater := ih.pairs hread''
    have hle' := hvalue.spans.length_le
    have hle'' := hlater.spans.length_le
    have hspans := hfirst.spans.trans (hw.trans (hvalue.spans.trans hlater.spans))
    refine .of_succ (hspans.mark (by decide)) fun fuel hfuel => ?_
    rw [List.length_cons] at hfuel
    have hread := hfirst.enough fuel (by omega)
    have hread' := hvalue.enough fuel (by omega)
    have hread'' := hlater.enough fuel (by omega)
    simp only [readAtom, if_neg hclose, hread, if_pos hcolon, hread', hread'',
      Option.bind_eq_bind, Option.bind_some, Option.pure_def]
  rw [if_neg hcolon] at h
  by_cases hcomma : atMark .comma l₁ = true
  · rw [if_pos hcomma] at h
    obtain ⟨⟨items, comma, l₂⟩, hread', h⟩ := Option.bind_eq_some_iff.1 h
    dsimp only at h
    cases h
    obtain ⟨hw, hlt⟩ := atMark_spans (by decide) hcomma
    have hlater := ih.items (by decide) hread'
    have hle' := hlater.spans.length_le
    have hspans := hfirst.spans.trans (hw.trans hlater.spans)
    refine .of_succ (hspans.mark (by decide)) fun fuel hfuel => ?_
    rw [List.length_cons] at hfuel
    have hread := hfirst.enough fuel (by omega)
    have hread' := hlater.enough fuel (by omega)
    simp only [readAtom, if_neg hclose, hread, if_neg hcolon, if_pos hcomma, hread',
      Option.bind_eq_bind, Option.bind_some, Option.pure_def]
  · rw [if_neg hcomma] at h
    obtain ⟨l₂, hmark, h⟩ := Option.bind_eq_some_iff.1 h
    cases h
    obtain ⟨hw, hlt⟩ := mark?_spans (by decide) hmark
    refine .of_succ ((hfirst.spans.trans hw).mark (by decide)) fun fuel hfuel => ?_
    rw [List.length_cons] at hfuel
    have hread := hfirst.enough fuel (by omega)
    simp only [readAtom, if_neg hclose, hread, if_neg hcolon, if_neg hcomma, hmark,
      Option.bind_eq_bind, Option.bind_some, Option.pure_def]

/-- What brackets are, from what stands between them. -/
def bracketed : List Expr → Bool → Expr
  | [e], false => e
  | items, _ => .tuple items

theorem readAtom_round (fuel line : Nat) (l : List Lexeme) :
    readAtom (fuel + 1) (⟨.mark .openRound, line⟩ :: l) =
      (readItems fuel .closeRound l).map fun x => (bracketed x.1 x.2.1, x.2.2) := by
  rw [readAtom]
  cases readItems fuel .closeRound l with
  | none => rfl
  | some x =>
    obtain ⟨items, comma, r⟩ := x
    rcases items with _ | ⟨i, _ | ⟨j, items⟩⟩
    · rfl
    · cases comma <;> rfl
    · rfl

theorem obtains_round (ih : Readers n) {line : Nat}
    (h : readAtom (n + 1) (⟨.mark .openRound, line⟩ :: l) = some (e, rest)) :
    Obtains 1 (readAtom · (⟨.mark .openRound, line⟩ :: l)) (⟨.mark .openRound, line⟩ :: l) rest
      (e, rest) := by
  rw [readAtom_round] at h
  obtain ⟨⟨items, comma, l₁⟩, hread, h⟩ := Option.map_eq_some_iff.1 h
  dsimp only at h
  cases h
  have hitems := ih.items (by decide) hread
  refine .of_succ (hitems.spans.mark (by decide)) fun fuel hfuel => ?_
  rw [List.length_cons] at hfuel
  have hread := hitems.enough fuel (by omega)
  simp only [readAtom_round, hread, Option.map_some]

theorem obtains_square (ih : Readers n) {line : Nat}
    (h : readAtom (n + 1) (⟨.mark .openSquare, line⟩ :: l) = some (e, rest)) :
    Obtains 1 (readAtom · (⟨.mark .openSquare, line⟩ :: l)) (⟨.mark .openSquare, line⟩ :: l) rest
      (e, rest) := by
  rw [readAtom] at h
  obtain ⟨⟨items, comma, l₁⟩, hread, h⟩ := Option.bind_eq_some_iff.1 h
  cases h
  have hitems := ih.items (by decide) hread
  refine .of_succ (hitems.spans.mark (by decide)) fun fuel hfuel => ?_
  rw [List.length_cons] at hfuel
  have hread := hitems.enough fuel (by omega)
  simp only [readAtom, hread, Option.bind_eq_bind, Option.bind_some, Option.pure_def]

/-- A word that is an expression by itself. -/
theorem obtains_word {w : String} {line : Nat}
    (h : readAtom (n + 1) (⟨.word w, line⟩ :: l) = some (e, rest)) :
    startsExpr (⟨.word w, line⟩ :: l) = true ∧
      Obtains 1 (readAtom · (⟨.word w, line⟩ :: l)) (⟨.word w, line⟩ :: l) rest (e, rest) := by
  have hrest : ∀ fuel, readAtom (fuel + 1) (⟨.word w, line⟩ :: l) = some (e, rest) := fun _ => h
  rw [readAtom] at h
  split at h
  · next hw =>
    subst hw
    cases h
    exact ⟨rfl, .token rfl hrest⟩
  split at h
  · next hw =>
    subst hw
    cases h
    exact ⟨rfl, .token rfl hrest⟩
  split at h
  · next hw =>
    subst hw
    cases h
    exact ⟨rfl, .token rfl hrest⟩
  · cases h

theorem obtains_atom (ih : Readers n) (h : readAtom (n + 1) l = some (e, rest)) :
    startsExpr l = true ∧ Obtains 1 (readAtom · l) l rest (e, rest) := by
  cases l with
  | nil => cases h
  | cons x l =>
    obtain ⟨token, line⟩ := x
    cases token with
    | name s =>
      cases h
      exact ⟨rfl, .token rfl fun _ => rfl⟩
    | int k =>
      cases h
      exact ⟨rfl, .token rfl fun _ => rfl⟩
    | float x =>
      cases h
      exact ⟨rfl, .token rfl fun _ => rfl⟩
    | text s =>
      have htexts : takeTexts s l = some (e, rest) := h
      exact ⟨rfl, .of_succ ((takeTexts_spans htexts).cons rfl) fun _ _ => htexts⟩
    | bytes b =>
      have hbytes : takeBytes b l = some (e, rest) := h
      exact ⟨rfl, .of_succ ((takeBytes_spans hbytes).cons rfl) fun _ _ => hbytes⟩
    | word w => exact obtains_word h
    | mark m =>
      cases m with
      | openRound => exact ⟨rfl, obtains_round ih h⟩
      | openSquare => exact ⟨rfl, obtains_square ih h⟩
      | openCurly => exact ⟨rfl, obtains_curly ih h⟩
      | _ => cases h
    | newline | indent | dedent => cases h

theorem obtains_items (ih : Readers n) {close : Mark} {es : List Expr} {comma : Bool}
    (hclose : close ≠ .semicolon) (h : readItems (n + 1) close l = some (es, comma, rest)) :
    Obtains 1 (readItems · close l) l rest (es, comma, rest) := by
  rw [readItems] at h
  by_cases hend : atMark close l = true
  · rw [if_pos hend] at h
    cases h
    exact .of_succ (atMark_spans hclose hend).1 fun fuel _ => by simp only [readItems, if_pos hend]
  rw [if_neg hend] at h
  obtain ⟨⟨e, l₁⟩, hread, h⟩ := Option.bind_eq_some_iff.1 h
  have hfirst := (ih.expr hread).2
  have hle := hfirst.spans.length_le
  dsimp only at h
  by_cases hend₁ : atMark close l₁ = true
  · rw [if_pos hend₁] at h
    cases h
    obtain ⟨hw, hlt⟩ := atMark_spans hclose hend₁
    refine .of_succ (hfirst.spans.trans hw) fun fuel hfuel => ?_
    have hread := hfirst.enough fuel (by omega)
    simp only [readItems, if_neg hend, hread, if_pos hend₁, Option.bind_eq_bind, Option.bind_some]
  rw [if_neg hend₁] at h
  obtain ⟨l₂, hcomma, h⟩ := Option.bind_eq_some_iff.1 h
  obtain ⟨hw, hlt⟩ := mark?_spans (by decide) hcomma
  by_cases hend₂ : atMark close l₂ = true
  · rw [if_pos hend₂] at h
    cases h
    obtain ⟨hw', hlt'⟩ := atMark_spans hclose hend₂
    refine .of_succ (hfirst.spans.trans (hw.trans hw')) fun fuel hfuel => ?_
    have hread := hfirst.enough fuel (by omega)
    simp only [readItems, if_neg hend, hread, if_neg hend₁, hcomma, if_pos hend₂,
      Option.bind_eq_bind, Option.bind_some]
  · rw [if_neg hend₂] at h
    obtain ⟨⟨es', comma', l₃⟩, hread', h⟩ := Option.bind_eq_some_iff.1 h
    dsimp only at h
    cases h
    have hlater := ih.items hclose hread'
    have hle' := hlater.spans.length_le
    refine .of_succ (hfirst.spans.trans (hw.trans hlater.spans)) fun fuel hfuel => ?_
    have hread := hfirst.enough fuel (by omega)
    have hread' := hlater.enough fuel (by omega)
    simp only [readItems, if_neg hend, hread, if_neg hend₁, hcomma, if_neg hend₂, hread',
      Option.bind_eq_bind, Option.bind_some, Option.pure_def]

theorem obtains_pairs (ih : Readers n) {es : List (Expr × Expr)}
    (h : readPairs (n + 1) l = some (es, rest)) : Obtains 1 (readPairs · l) l rest (es, rest) := by
  rw [readPairs] at h
  by_cases hend : atMark .closeCurly l = true
  · rw [if_pos hend] at h
    cases h
    have hw := (atMark_spans (by decide) hend).1
    exact .of_succ hw fun fuel _ => by simp only [readPairs, if_pos hend]
  rw [if_neg hend] at h
  obtain ⟨l₁, hcomma, h⟩ := Option.bind_eq_some_iff.1 h
  obtain ⟨hw, hlt⟩ := mark?_spans (by decide) hcomma
  by_cases hend₁ : atMark .closeCurly l₁ = true
  · rw [if_pos hend₁] at h
    cases h
    obtain ⟨hw', hlt'⟩ := atMark_spans (by decide) hend₁
    refine .of_succ (hw.trans hw') fun fuel _ => ?_
    simp only [readPairs, if_neg hend, hcomma, if_pos hend₁, Option.bind_eq_bind,
      Option.bind_some]
  rw [if_neg hend₁] at h
  obtain ⟨⟨k, l₂⟩, hkey, h⟩ := Option.bind_eq_some_iff.1 h
  obtain ⟨l₃, hcolon, h⟩ := Option.bind_eq_some_iff.1 h
  obtain ⟨⟨v, l₄⟩, hvalue, h⟩ := Option.bind_eq_some_iff.1 h
  obtain ⟨⟨more, l₅⟩, hmore, h⟩ := Option.bind_eq_some_iff.1 h
  dsimp only at hcolon hmore h
  cases h
  obtain ⟨hw', hlt'⟩ := mark?_spans (by decide) hcolon
  have hfirst := (ih.expr hkey).2
  have hsecond := (ih.expr hvalue).2
  have hlater := ih.pairs hmore
  have hle := hfirst.spans.length_le
  have hle' := hsecond.spans.length_le
  have hle'' := hlater.spans.length_le
  have hspans := hfirst.spans.trans (hw'.trans (hsecond.spans.trans hlater.spans))
  refine .of_succ (hw.trans hspans) fun fuel hfuel => ?_
  have hkey := hfirst.enough fuel (by omega)
  have hvalue := hsecond.enough fuel (by omega)
  have hmore := hlater.enough fuel (by omega)
  simp only [readPairs, if_neg hend, hcomma, if_neg hend₁, hkey, hcolon, hvalue, hmore,
    Option.bind_eq_bind, Option.bind_some, Option.pure_def]

end Levels

/-- **What readers read**, by induction on the fuel, one case for each level. -/
theorem readers (n : Nat) : Readers n := by
  induction n with
  | zero => constructor <;> intros <;> contradiction
  | succ n ih =>
    exact {
      expr := obtains_expr ih
      orRest := obtains_orRest ih
      and := obtains_and ih
      not := obtains_not ih
      equalRest := obtains_equalRest ih
      sum := obtains_sum ih
      sumRest := obtains_sumRest ih
      product := obtains_product ih
      productRest := obtains_productRest ih
      signed := obtains_signed ih
      trailers := obtains_trailers ih
      atom := obtains_atom ih
      items := obtains_items ih
      pairs := obtains_pairs ih }

/-! ## Several expressions -/

theorem readExprsRest_obtains {n : Nat} {l rest : List Lexeme} {es : List Expr} {comma : Bool}
    (h : readExprsRest n l = some (es, comma, rest)) :
    Obtains 1 (readExprsRest · l) l rest (es, comma, rest) := by
  induction n generalizing l rest es comma with
  | zero => cases h
  | succ n ih =>
    rw [readExprsRest] at h
    by_cases hcomma : atMark .comma l = true
    · rw [if_pos hcomma] at h
      obtain ⟨hw, hlt⟩ := atMark_spans (by decide) hcomma
      by_cases hstarts : startsExpr l.tail = true
      · rw [if_pos hstarts] at h
        obtain ⟨⟨e, l₁⟩, hread, h⟩ := Option.bind_eq_some_iff.1 h
        obtain ⟨⟨es', comma', l₂⟩, hread', h⟩ := Option.bind_eq_some_iff.1 h
        dsimp only at hread' h
        cases h
        have hfirst := ((readers n).expr hread).2
        have hlater := ih hread'
        have hle := hfirst.spans.length_le
        have hle' := hlater.spans.length_le
        refine .of_succ (hw.trans (hfirst.spans.trans hlater.spans)) fun fuel hfuel => ?_
        have hread := hfirst.enough fuel (by omega)
        have hread' := hlater.enough fuel (by omega)
        simp only [readExprsRest, if_pos hcomma, if_pos hstarts, hread, hread',
          Option.bind_eq_bind, Option.bind_some, Option.pure_def]
      · rw [if_neg hstarts] at h
        cases h
        exact .of_succ hw fun fuel _ => by
          simp only [readExprsRest, if_pos hcomma, if_neg hstarts]
    · rw [if_neg hcomma] at h
      cases h
      exact .of_succ (.refl l) fun fuel _ => by simp only [readExprsRest, if_neg hcomma]

/-- **What is read as an expression**: tokens of one statement, and any fuel that is enough
for them reads the same. -/
theorem readExprs_obtains {n : Nat} {l rest : List Lexeme} {e : Expr}
    (h : readExprs n l = some (e, rest)) :
    startsExpr l = true ∧ Obtains 7 (readExprs · l) l rest (e, rest) := by
  obtain ⟨⟨e₁, l₁⟩, hread, h⟩ := Option.bind_eq_some_iff.1 h
  obtain ⟨⟨es, comma, l₂⟩, hread', h⟩ := Option.bind_eq_some_iff.1 h
  dsimp only at hread' h
  cases h
  obtain ⟨hstarts, hfirst⟩ := (readers n).expr hread
  have hlater := readExprsRest_obtains hread'
  have hle := hfirst.spans.length_le
  have hle' := hlater.spans.length_le
  refine ⟨hstarts, hfirst.spans.trans hlater.spans, fun fuel hfuel => ?_⟩
  have hread := hfirst.enough fuel (by omega)
  have hread' := hlater.enough fuel (by omega)
  simp only [readExprs, hread, hread', Option.bind_eq_bind, Option.bind_some, Option.pure_def]

end LiterateConfig.Script
