import LiterateConfig.Proofs.Strategies

/-!
# The line that a refusal quotes

The first strategy refuses a lone expression and quotes the line on which it starts. The
number of that line comes from the lexer, which ends lines at line feeds and carriage returns
only; the lines among which it is looked up end at further characters, such as a form feed.
If there were too few of them the look-up would fail, with an error that nothing catches.

There are never too few. Whatever ends a line for the lexer ends one for the look-up, so a
character that stands on a line by the first count has a line at least as late by the other;
and a lone expression starts at a character that is no line end.

**Counting.** `LeftOn n l k r` says that behind some front of `l`, which starts on line `n`,
`r` is left on line `k`. Every step of the lexer leaves its rest on the line that it counts,
whichever comments, empty lines and joined lines it has passed.

Results:
* `lt_length_splitLines`: the two counts of lines;
* `standsOn_of_lex`: where tokens stand;
* `starts_of_lone`: where a lone expression starts;
* `quoted_line_in_range`: the look-up is in range, and compiling gives what it gives without.
-/
namespace LiterateConfig

namespace Text

variable {n m k : Nat} {l r s : List Char} {c : Char}

/-! ## Lines up to a place -/

/-- Whether `r` is left of `l` on line `k`, where `l` starts on line `n`. -/
def LeftOn (n : Nat) (l : List Char) (k : Nat) (r : List Char) : Prop :=
  ∃ read, l = read ++ r ∧ k = n + read.count '\n'

/-- Whether a character other than a line feed stands on line `k`, where `l` starts on
line `n`. -/
def StandsOn (n : Nat) (l : List Char) (k : Nat) : Prop :=
  ∃ c r, LeftOn n l k (c :: r) ∧ c ≠ '\n'

theorem LeftOn.refl (n : Nat) (l : List Char) : LeftOn n l n l := ⟨[], rfl, rfl⟩

theorem LeftOn.trans (hlr : LeftOn n l m r) (hrs : LeftOn m r k s) : LeftOn n l k s := by
  obtain ⟨front, rfl, rfl⟩ := hlr
  obtain ⟨back, rfl, rfl⟩ := hrs
  refine ⟨front ++ back, by simp, ?_⟩
  rw [List.count_append, Nat.add_assoc]

theorem leftOn_cons (hc : c ≠ '\n') : LeftOn n (c :: r) n r := ⟨[c], rfl, by simp [hc]⟩

theorem leftOn_feed : LeftOn n ('\n' :: r) (n + 1) r := ⟨['\n'], rfl, rfl⟩

/-- What is dropped without its line feeds ends no line. -/
theorem leftOn_dropWhile {p : Char → Bool} (hp : p '\n' = false) (n : Nat) (l : List Char) :
    LeftOn n l n (l.dropWhile p) := by
  refine ⟨l.takeWhile p, List.takeWhile_append_dropWhile.symm, ?_⟩
  have hnone : '\n' ∉ l.takeWhile p := fun hmem => by
    have hfeed := List.all_eq_true.1 List.all_takeWhile _ hmem
    rw [hp] at hfeed
    cases hfeed
  rw [List.count_eq_zero_of_not_mem hnone]
  rfl

/-- A place behind another stands as far from it. -/
theorem StandsOn.of_leftOn (hlr : LeftOn n l m r) (h : StandsOn m r k) : StandsOn n l k := by
  obtain ⟨c, back, hback, hc⟩ := h
  exact ⟨c, back, hlr.trans hback, hc⟩

theorem StandsOn.le (h : StandsOn n l k) : n ≤ k := by
  obtain ⟨c, back, ⟨front, -, rfl⟩, -⟩ := h
  exact Nat.le_add_right ..

/-- The first character, or one behind it. -/
theorem StandsOn.cons_cases (h : StandsOn n (c :: r) k) :
    (c ≠ '\n' ∧ k = n) ∨ StandsOn (if c = '\n' then n + 1 else n) r k := by
  obtain ⟨d, back, ⟨front, hfront, rfl⟩, hd⟩ := h
  cases front with
  | nil =>
    cases hfront
    exact .inl ⟨hd, rfl⟩
  | cons c' front =>
    cases hfront
    refine .inr ⟨d, back, ⟨front, rfl, ?_⟩, hd⟩
    by_cases hfeed : c = '\n'
    · subst hfeed
      rw [if_pos rfl, List.count_cons_self]
      omega
    · simp [hfeed]

/-- A line feed at the end is on no line that another character is not on. -/
theorem StandsOn.of_append_feed (h : StandsOn n (l ++ ['\n']) k) : StandsOn n l k := by
  obtain ⟨c, back, ⟨front, hfront, hk⟩, hc⟩ := h
  rcases List.eq_nil_or_concat back with rfl | ⟨back, d, rfl⟩
  · have hend := congrArg List.getLast? hfront
    simp only [List.getLast?_append, List.getLast?_singleton, Option.some_or] at hend
    exact absurd (Option.some.inj hend).symm hc
  · refine ⟨c, back, ⟨front, ?_, hk⟩, hc⟩
    have hfront : l ++ ['\n'] = (front ++ c :: back) ++ [d] := by simpa using hfront
    exact (List.append_inj' hfront rfl).1

/-! ## Two counts of lines -/

/-- A character that ends a line opens no other; what it ends is one. -/
theorem length_splitLines_cons (hpair : ∀ r', c = '\r' → r = '\n' :: r' → False) :
    (splitLines (c :: r)).length =
      if isLineBreak c then (splitLines r).length + 1 else max 1 (splitLines r).length := by
  rw [splitLines]
  case x_1 => exact hpair
  split
  · rfl
  · split
    · next hnone => simp [hnone]
    · next hsome => simp [hsome]

/-- **Two counts of lines.** What stands on a line once line ends are spelled alike has a line
among those that the text is split into. -/
theorem lt_length_splitLines (h : StandsOn n (unifyBreaks l) k) :
    k < n + (splitLines l).length := by
  induction l using unifyBreaks.induct generalizing n with
  | case1 =>
    obtain ⟨c, back, ⟨front, hfront, -⟩, -⟩ := h
    exact absurd hfront.symm (by simp [unifyBreaks])
  | case2 r ih =>
    rw [unifyBreaks] at h
    rw [splitLines, List.length_cons]
    rcases h.cons_cases with ⟨hc, -⟩ | hr
    · exact absurd rfl hc
    · have hlt := ih hr
      rw [if_pos rfl] at hlt
      omega
  | case3 c r hpair ih =>
    rw [unifyBreaks] at h
    case x_1 => exact hpair
    rw [length_splitLines_cons hpair]
    rcases h.cons_cases with ⟨-, rfl⟩ | hr
    · split <;> omega
    · have hlt := ih hr
      have hends : (if c = '\r' then '\n' else c) = '\n' → isLineBreak c = true := by
        intro hfeed
        split at hfeed
        · next hreturn =>
          subst hreturn
          decide
        · subst hfeed
          decide
      by_cases hfeed : (if c = '\r' then '\n' else c) = '\n'
      · rw [if_pos hfeed] at hlt
        rw [if_pos (hends hfeed)]
        omega
      · rw [if_neg hfeed] at hlt
        split <;> omega

end Text

namespace Script

open LiterateConfig.Text

variable {n k : Nat} {l rest : List Char} {st : Reading}

/-! ## Where tokens stand -/

/-- Line ends that are joined within an indentation are counted. -/
theorem leftOn_measure {joinedAt : Option Nat} {i j : Indentation} {joins k : Nat}
    (h : measure joinedAt i joins l = some (j, k, rest)) (n : Nat) :
    LeftOn (n + joins) l (n + k) rest := by
  fun_induction measure joinedAt i joins l with
  | case1 joinedAt i joins r ih => exact (leftOn_cons (by decide)).trans (ih h)
  | case2 joinedAt i joins r ih => exact (leftOn_cons (by decide)).trans (ih h)
  | case3 joinedAt i joins r ih => exact (leftOn_cons (by decide)).trans (ih h)
  | case4 joinedAt i joins r hr => cases h
  | case5 joinedAt i joins r hr ih =>
    exact ((leftOn_cons (by decide)).trans leftOn_feed).trans (ih h)
  | case6 joinedAt i joins r hr => cases h
  | case7 joinedAt i joins r =>
    cases h
    exact .refl _ _

/-- Line ends that were read are counted. -/
theorem leftOn_linesRead (h : rest <:+ l) (n : Nat) : LeftOn n l (n + linesRead l rest) rest :=
  ⟨l.take (l.length - rest.length), (List.suffix_iff_eq_append.1 h).symm, rfl⟩

/-- No mark ends a line. -/
theorem leftOn_markAt {m : Mark} (h : markAt? l = some (m, rest)) (n : Nat) :
    LeftOn n l n rest := by
  cases l with
  | nil => cases h
  | cons c r =>
    by_cases hpair : c = '=' ∧ r.head? = some '='
    · obtain ⟨rfl, hr⟩ := hpair
      obtain ⟨r', rfl⟩ := List.head?_eq_some_iff.1 hr
      cases h
      exact (leftOn_cons (by decide)).trans (leftOn_cons (by decide))
    · rw [markAt?_cons hpair] at h
      obtain ⟨x, hmark, hx⟩ := Option.map_eq_some_iff.1 h
      cases hx
      refine leftOn_cons ?_
      rintro rfl
      cases hmark

/-- What a step of the lexer does on line `n` with `l` in front of it: it leaves its rest on
the line that it counts, and the tokens that it emits stand on the lines that they have. -/
def Step.Counts (n : Nat) (l : List Char) : Step → Prop
  | .fails => True
  | .ends emitted => ∀ x ∈ emitted, x.token.isLayout = true
  | .goes emitted st _ rest =>
    LeftOn n l st.line rest ∧ ∀ x ∈ emitted, x.token.isLayout = false → StandsOn n l x.line

theorem counts_goes {emitted : List Lexeme} {start : Bool} (hleft : LeftOn n l st.line rest)
    (hlayout : ∀ x ∈ emitted, x.token.isLayout = true) :
    (Step.goes emitted st start rest).Counts n l := by
  refine ⟨hleft, fun x hx hinner => ?_⟩
  rw [hlayout x hx] at hinner
  cases hinner

theorem counts_blankStep (st : Reading) (l : List Char) : (blankStep st l).Counts st.line l := by
  have hdrop := leftOn_dropWhile (p := (· != '\n')) rfl st.line l
  unfold blankStep
  split
  · next c r heq =>
    have hfeed : c = '\n' := by
      simpa [heq] using List.head?_dropWhile_not (· != '\n') l
    subst hfeed
    rw [heq] at hdrop
    exact counts_goes (hdrop.trans leftOn_feed) nofun
  · split
    · exact nofun
    · trivial

theorem isLayout_of_isChange {t : Token} (h : t.isChange = true) : t.isLayout = true := by
  cases t <;> first | rfl | cases h

theorem counts_indentStep (st : Reading) (i : Indentation) (l : List Char) :
    (indentStep st i l).Counts st.line l := by
  unfold indentStep
  split
  · trivial
  next changes indents hshift =>
  have hlayout : ∀ x ∈ changes.map (⟨·, st.line⟩ : Token → Lexeme), x.token.isLayout = true := by
    intro x hx
    obtain ⟨t, ht, rfl⟩ := List.mem_map.1 hx
    exact isLayout_of_isChange (isChange_of_mem_shift hshift t ht)
  split
  · exact hlayout
  · exact counts_goes (.refl _ _) hlayout

/-- A step that counts behind a front of the text counts from its start. -/
theorem Step.Counts.of_leftOn {s : Step} {m : Nat} (hleft : LeftOn n l m rest)
    (h : s.Counts m rest) : s.Counts n l := by
  cases s with
  | fails => trivial
  | ends emitted => exact h
  | goes emitted st start r =>
    exact ⟨hleft.trans h.1, fun x hx hinner => (h.2 x hx hinner).of_leftOn hleft⟩

theorem counts_startStep (st : Reading) (l : List Char) : (startStep st l).Counts st.line l := by
  unfold startStep
  split
  · trivial
  next i joins rest hm =>
  have hleft := leftOn_measure hm st.line
  dsimp only
  split
  · exact (counts_blankStep { st with line := st.line + joins } rest).of_leftOn hleft
  split
  · exact (counts_indentStep { st with line := st.line + joins } i rest).of_leftOn hleft
  · exact counts_goes hleft nofun

theorem counts_tokenStep (st : Reading) {c : Char} {r : List Char} (hc : c ≠ '\n') :
    (tokenStep st (c :: r)).Counts st.line (c :: r) := by
  have hstands : StandsOn st.line (c :: r) st.line := ⟨c, r, .refl _ _, hc⟩
  unfold tokenStep
  split
  · next t rest ht =>
    refine ⟨leftOn_linesRead (inner_literalAt ht).2.1 st.line, fun x hx _ => ?_⟩
    rw [List.mem_singleton.1 hx]
    exact hstands
  · unfold markStep
    split
    · trivial
    split
    · trivial
    next m rest hm =>
    split
    · trivial
    · refine ⟨leftOn_markAt hm st.line, fun x hx _ => ?_⟩
      rw [List.mem_singleton.1 hx]
      exact hstands

theorem counts_innerStep (st : Reading) (l : List Char) : (innerStep st l).Counts st.line l := by
  fun_cases innerStep st l with
  | case1 hb => simp [Step.Counts, Token.isLayout]
  | case2 hb => trivial
  | case3 r =>
    exact counts_goes ((leftOn_cons (by decide)).trans (leftOn_dropWhile rfl _ _))
      (List.forall_mem_nil _)
  | case4 r =>
    refine counts_goes leftOn_feed fun x hx => ?_
    split at hx
    · rw [List.mem_singleton.1 hx]
      rfl
    · cases hx
  | case5 r hr => trivial
  | case6 r hr =>
    exact counts_goes ((leftOn_cons (by decide)).trans leftOn_feed) (List.forall_mem_nil _)
  | case7 _ hnil hcomment hfeed hjoined =>
    obtain ⟨c, r, rfl⟩ := List.exists_cons_of_ne_nil hnil
    refine counts_tokenStep st ?_
    rintro rfl
    exact hfeed r rfl

/-- **Every step counts its lines.** -/
theorem counts_step (st : Reading) (start : Bool) (l : List Char) :
    (step st start l).Counts st.line l := by
  cases start with
  | true => exact counts_startStep st l
  | false => exact (counts_innerStep st _).of_leftOn (leftOn_dropWhile rfl st.line l)

/-- **Where tokens stand.** The line of a token is that of a character of the text. -/
theorem standsOn_of_lex {fuel : Nat} {start : Bool} {ls : List Lexeme}
    (h : lex fuel st start l = some ls) :
    ∀ x ∈ ls, x.token.isLayout = false → StandsOn st.line l x.line := by
  induction fuel generalizing st start l ls with
  | zero => cases h
  | succ fuel ih =>
    rw [lex_succ] at h
    have hcounts := counts_step st start l
    intro x hx hinner
    cases hs : step st start l with
    | fails =>
      rw [hs] at h
      cases h
    | ends emitted =>
      rw [hs] at h hcounts
      cases h
      rw [hcounts x hx] at hinner
      cases hinner
    | goes emitted st' start' rest =>
      rw [hs] at h hcounts
      obtain ⟨next, hnext, rfl⟩ := Option.map_eq_some_iff.1 h
      rcases List.mem_append.1 hx with hx | hx
      · exact hcounts.2 x hx hinner
      · exact (ih hnext x hx hinner).of_leftOn hcounts.1

theorem standsOn_of_tokens {source : String} {ls : List Lexeme} (h : tokens? source = some ls) :
    ∀ x ∈ ls, x.token.isLayout = false → StandsOn 1 (unifyBreaks source.toList) x.line := by
  rw [tokens?_eq] at h
  generalize unifyBreaks source.toList = l at h ⊢
  have hended : ∀ k, StandsOn 1 (withLastEnd l) k → StandsOn 1 l k := by
    intro k hk
    unfold withLastEnd at hk
    split at hk
    · exact hk
    · exact hk.of_append_feed
  unfold lexemes? at h
  split at h
  · cases h
  · exact fun x hx hinner => hended _ (standsOn_of_lex h x hx hinner)

/-! ## Where lone expressions start -/

theorem isLayout_of_startsExpr {x : Lexeme} {l : List Lexeme} (h : startsExpr (x :: l) = true) :
    x.token.isLayout = false := by
  obtain ⟨token, line⟩ := x
  cases token with
  | newline | indent | dedent => cases h
  | _ => rfl

/-- A lone expression has the line of the first token of its statement. -/
theorem exists_lexeme_of_readSmall {n : Nat} {s : Stmt} {l rest : List Lexeme}
    (h : readSmall n l = some (s, rest)) (hlone : loneExpression? [s] = some k) :
    ∃ x r, l = x :: r ∧ x.token.isLayout = false ∧ x.line = k := by
  unfold readSmall at h
  split at h
  · cases h
    cases hlone
  · split at h
    · obtain ⟨x, -, hx⟩ := Option.map_eq_some_iff.1 h
      cases hx
      cases hlone
    · cases h
      cases hlone
  · obtain ⟨x, -, hx⟩ := Option.map_eq_some_iff.1 h
    cases hx
    cases hlone
  · cases h
    cases hlone
  · obtain ⟨x, -, hx⟩ := Option.map_eq_some_iff.1 h
    cases hx
    cases hlone
    exact ⟨_, _, rfl, rfl, rfl⟩
  · obtain ⟨⟨e, l₁⟩, hread, h⟩ := Option.bind_eq_some_iff.1 h
    rcases readAssigned_cases h with ⟨rfl, -, -⟩ | ⟨ts, e', rfl⟩
    · refine ⟨_, _, rfl, isLayout_of_startsExpr (readExprs_obtains hread).1, ?_⟩
      unfold loneExpression? at hlone
      split at hlone <;> simp_all
    · cases hlone
  · cases h

/-- **Where a lone expression starts**: on the line of a character of the block. -/
theorem starts_of_lone {source : String} {body : List Stmt} (hbody : module? source = some body)
    (hlone : loneExpression? body = some k) : StandsOn 1 (unifyBreaks source.toList) k := by
  obtain ⟨ls, htokens, hmodule⟩ := Option.bind_eq_some_iff.1 hbody
  obtain ⟨s, rfl, hsimple⟩ : ∃ s, body = [s] ∧ s.isCompound = false := by
    rcases loneExpression?_cases body with ⟨-, line, e, rfl, -⟩ | ⟨-, line, e, rfl, -⟩ | ⟨-, hnone⟩
    · exact ⟨_, rfl, rfl⟩
    · exact ⟨_, rfl, rfl⟩
    · cases hlone.symm.trans hnone
  obtain ⟨n, rest, hsmall, -⟩ := readSmall_of_readModule hmodule hsimple
  obtain ⟨x, r, rfl, hinner, rfl⟩ := exists_lexeme_of_readSmall hsmall hlone
  exact standsOn_of_tokens htokens x (.head _) hinner

/-! ## The look-up -/

/-- The text of a line of a block, counted from one; a block without text has an empty one. -/
def lineAt? (source : String) (k : Nat) : Option String :=
  if source.isEmpty then some "" else (lines source)[k - 1]?

/-- What the first strategy raises. -/
inductive Raising where
  /-- What is caught: why it refuses a block, and the line that it quotes. -/
  | refusal (cause : Refusal) (quoted : Option String)
  /-- What is not caught: that there is no such line. -/
  | noLine (line : Nat)
  deriving DecidableEq, Repr

/-- The first strategy, with the line of a lone expression looked up. -/
def quotingAsIs (source : String) : Except Raising Code :=
  match compileAsIs (module? source) with
  | .ok code => .ok code
  | .error .malformed => .error (.refusal .malformed none)
  | .error (.notAStatement line) =>
    match lineAt? source line with
    | some quoted => .error (.refusal (.notAStatement line) (some quoted))
    | none => .error (.noLine line)

/-- Compiling a block by the strategies in order; the result is an error where the look-up
fails, which is not caught. -/
def compileQuoting (source : String) : Except Nat (Except CompileError Code) :=
  match quotingAsIs source with
  | .ok code => .ok (.ok code)
  | .error (.noLine line) => .error line
  | .error (.refusal cause _) =>
    match (expression? source).map .value <|> compileAsBlock? (module? source) with
    | some code => .ok (.ok code)
    | none => .ok (.error ⟨source, cause⟩)

/-- What stands on a line of a block has that line looked up. -/
theorem lineAt?_of_standsOn {source : String} (h : StandsOn 1 (unifyBreaks source.toList) k) :
    1 ≤ k ∧ k ≤ (lines source).length ∧
      ∃ quoted, (lines source)[k - 1]? = some quoted ∧ lineAt? source k = some quoted := by
  have hlt := lt_length_splitLines h
  have hpos := h.le
  have hlength : k ≤ (lines source).length := by
    rw [lines, List.length_map]
    omega
  have hquoted : (lines source)[k - 1]? = some (lines source)[k - 1] :=
    List.getElem?_eq_getElem (by omega)
  refine ⟨hpos, hlength, _, hquoted, ?_⟩
  unfold lineAt?
  split
  · next hempty =>
    rw [String.isEmpty_iff] at hempty
    subst hempty
    exact absurd hlength (by simp [lines, splitLines]; omega)
  · exact hquoted

/-- The first strategy refuses a lone expression and quotes its line. -/
theorem quotingAsIs_of_lone {source quoted : String} {body : List Stmt}
    (hbody : module? source = some body) (hlone : loneExpression? body = some k)
    (hquoted : lineAt? source k = some quoted) :
    quotingAsIs source = .error (.refusal (.notAStatement k) (some quoted)) := by
  simp [quotingAsIs, hbody, compileAsIs, hlone, hquoted]

/-- A line is looked up for lone expressions alone. -/
theorem lone_of_notAStatement {body : Option (List Stmt)} {line : Nat}
    (h : compileAsIs body = .error (.notAStatement line)) :
    ∃ ss, body = some ss ∧ loneExpression? ss = some line := by
  unfold compileAsIs at h
  split at h
  · cases h
  next ss =>
  split at h
  · next line' hline =>
    cases h
    exact ⟨ss, rfl, hline⟩
  · split at h <;> cases h

/-- Compiling with the look-up gives what compiling gives without. -/
theorem compileQuoting_eq (source : String) : compileQuoting source = .ok (compile source) := by
  unfold compileQuoting compile
  generalize hlater : ((expression? source).map Code.value <|> compileAsBlock? (module? source)) =
    later
  cases hfirst : compileAsIs (module? source) with
  | ok code => simp [quotingAsIs, hfirst]
  | error cause =>
    cases cause with
    | malformed =>
      simp only [quotingAsIs, hfirst, hlater]
      cases later <;> rfl
    | notAStatement line =>
      obtain ⟨body, hbody, hlone⟩ := lone_of_notAStatement hfirst
      obtain ⟨-, -, quoted, -, hquoted⟩ := lineAt?_of_standsOn (starts_of_lone hbody hlone)
      simp only [quotingAsIs_of_lone hbody hlone hquoted, hfirst, hlater]
      cases later <;> rfl

/-- **The line that is quoted.** Whatever stands on a line of a block, by the line ends that
the lexer knows, has a line among those of the look-up; so has a lone expression, which the
first strategy refuses with that line, and compiling a block never fails for want of one. -/
theorem quoted_line_in_range (source : String) :
    (∀ k, StandsOn 1 (unifyBreaks source.toList) k → k ≤ (lines source).length) ∧
    (∀ body k, module? source = some body → loneExpression? body = some k →
      StandsOn 1 (unifyBreaks source.toList) k ∧ 1 ≤ k ∧ k ≤ (lines source).length ∧
        ∃ quoted, (lines source)[k - 1]? = some quoted ∧
          quotingAsIs source = .error (.refusal (.notAStatement k) (some quoted))) ∧
    compileQuoting source = .ok (compile source) := by
  refine ⟨fun k hk => (lineAt?_of_standsOn hk).2.1, fun body k hbody hlone => ?_,
    compileQuoting_eq source⟩
  have hstands := starts_of_lone hbody hlone
  obtain ⟨hpos, hlength, quoted, hline, hquoted⟩ := lineAt?_of_standsOn hstands
  exact ⟨hstands, hpos, hlength, quoted, hline, quotingAsIs_of_lone hbody hlone hquoted⟩

/-- A name below a comment with a form feed in it, and below a line that is joined. -/
def nameBelow : String := "# c\x0cd\r\n\\\nx"

theorem module?_nameBelow : module? nameBelow = some [.expr 3 (.name "x")] := by
  have htokens : tokens? nameBelow = some [⟨.name "x", 3⟩, ⟨.newline, 3⟩] := rfl
  unfold module?
  rw [htokens]
  rfl

/-- It starts on the third line, of which the look-up has four; what is quoted is the line
that is joined. -/
theorem quoted_line_in_range_nameBelow :
    (lines nameBelow).length = 4 ∧
      quotingAsIs nameBelow = .error (.refusal (.notAStatement 3) (some "\\")) := by
  have hlines : lines nameBelow = ["# c", "d", "\\", "x"] := by decide +kernel
  obtain ⟨-, -, -, quoted, hline, hrefused⟩ :=
    (quoted_line_in_range nameBelow).2.1 _ 3 module?_nameBelow rfl
  rw [hlines] at hline
  cases hline
  exact ⟨congrArg List.length hlines, hrefused⟩

end Script

end LiterateConfig
