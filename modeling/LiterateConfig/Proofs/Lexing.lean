import LiterateConfig.Proofs.Literals

/-!
# The lexer, step by step

The lexer takes a step at a time: it fails, ends with some last lexemes, or emits some and
goes on behind them. What holds of every step holds of a whole run by induction on the fuel.

A block is read twice, with its last line ended and as it stands. The two readings take the
same steps up to the end of the text.

Results:
* `lex_succ`: a run is a step followed by a run;
* `lined_lex`: lexemes come in lines, with changes of indentation in front of them;
* `step_append`: a step in front of one more line end;
* `tokens?_of_asGiven`, `tokensAsGiven?_of_tokens`: where nothing is indented, the readings
  differ by an indentation at the end at most.
-/
namespace LiterateConfig.Script

open LiterateConfig.Text

/-! ## Steps -/

/-- What one step of the lexer comes to. -/
inductive Step where
  | fails
  | ends (emitted : List Lexeme)
  | goes (emitted : List Lexeme) (st : Reading) (start : Bool) (rest : List Char)

/-- A step and what comes next, if it goes on. -/
def Step.followedBy (next : Reading → Bool → List Char → Option (List Lexeme)) :
    Step → Option (List Lexeme)
  | .fails => none
  | .ends emitted => some emitted
  | .goes emitted st start rest => (next st start rest).map (emitted ++ ·)

/-- Whether nothing but a comment stands on a line, its indentation left out. -/
def isBlankLine : List Char → Bool
  | '#' :: _ | '\n' :: _ => true
  | _ => false

/-- The step over a line that has nothing on it. -/
def blankStep (st : Reading) (rest : List Char) : Step :=
  match rest.dropWhile (· != '\n') with
  | _ :: r => .goes [] { st with line := st.line + 1 } true r
  | [] => if st.brackets.isEmpty then .ends [] else .fails

/-- The step to the first token of a line. -/
def indentStep (st : Reading) (i : Indentation) (rest : List Char) : Step :=
  match shift i st.indents with
  | none => .fails
  | some (changes, indents) =>
    if rest.isEmpty then .ends (changes.map (⟨·, st.line⟩))
    else .goes (changes.map (⟨·, st.line⟩)) { st with indents } false rest

/-- A step at the start of a line. -/
def startStep (st : Reading) (l : List Char) : Step :=
  match measure none ⟨0, 0⟩ 0 l with
  | none => .fails
  | some (i, joins, rest) =>
    let st := { st with line := st.line + joins }
    if isBlankLine rest then blankStep st rest
    else if st.brackets.isEmpty then indentStep st i rest
    else .goes [] st false rest

/-- A step over a mark. -/
def markStep (st : Reading) (l : List Char) : Step :=
  if startsText l || startsNumber l then .fails
  else match markAt? l with
    | none => .fails
    | some (m, rest) =>
      match nest? st.brackets m with
      | none => .fails
      | some brackets => .goes [⟨.mark m, st.line⟩] { st with brackets } false rest

/-- A step over a literal, a name or a mark. -/
def tokenStep (st : Reading) (l : List Char) : Step :=
  match literalAt? l with
  | some (t, rest) => .goes [⟨t, st.line⟩] { st with line := st.line + linesRead l rest } false rest
  | none => markStep st l

/-- A step inside a line, blanks left out. -/
def innerStep (st : Reading) : List Char → Step
  | [] => if st.brackets.isEmpty then .ends [⟨.newline, st.line⟩] else .fails
  | '#' :: r => .goes [] st false (r.dropWhile (· != '\n'))
  | '\n' :: r =>
    .goes (if st.brackets.isEmpty then [⟨.newline, st.line⟩] else [])
      { st with line := st.line + 1 } true r
  | '\\' :: '\n' :: r =>
    if r.isEmpty then .fails else .goes [] { st with line := st.line + 1 } false r
  | l => tokenStep st l

def step (st : Reading) (start : Bool) (l : List Char) : Step :=
  if start then startStep st l else innerStep st (l.dropWhile isSkipped)

theorem followedBy_blankStep (fuel : Nat) (st : Reading) (rest : List Char) :
    (match rest.dropWhile (· != '\n') with
      | _ :: r => lex fuel { st with line := st.line + 1 } true r
      | [] => if st.brackets.isEmpty then some [] else none) =
      (blankStep st rest).followedBy (lex fuel) := by
  unfold blankStep
  cases rest.dropWhile (· != '\n') with
  | nil => cases st.brackets.isEmpty <;> rfl
  | cons _ r => simp [Step.followedBy]

theorem followedBy_indentStep (fuel : Nat) (st : Reading) (i : Indentation) (rest : List Char) :
    (do
      let (changes, indents) ← shift i st.indents
      let more ← if rest.isEmpty then some [] else lex fuel { st with indents } false rest
      return changes.map (⟨·, st.line⟩) ++ more) =
      (indentStep st i rest).followedBy (lex fuel) := by
  unfold indentStep
  cases shift i st.indents with
  | none => rfl
  | some p =>
    cases rest with
    | nil => simp [Step.followedBy]
    | cons c r => simp [Step.followedBy, Option.map_eq_bind, Function.comp_def]

theorem followedBy_tokenStep (fuel : Nat) (st : Reading) (l : List Char) :
    (match literalAt? l with
      | some (t, rest) =>
        (lex fuel { st with line := st.line + linesRead l rest } false rest).map (⟨t, st.line⟩ :: ·)
      | none => do
        let (m, rest) ← if startsText l || startsNumber l then none else markAt? l
        let brackets ← nest? st.brackets m
        let more ← lex fuel { st with brackets } false rest
        return ⟨.mark m, st.line⟩ :: more) =
      (tokenStep st l).followedBy (lex fuel) := by
  unfold tokenStep markStep
  cases literalAt? l with
  | some p => rfl
  | none =>
    cases startsText l || startsNumber l with
    | true => rfl
    | false =>
      cases hm : markAt? l with
      | none => rfl
      | some p =>
        cases hn : nest? st.brackets p.1 with
        | none => simp [hn, Step.followedBy]
        | some brackets => simp [hn, Step.followedBy, Option.map_eq_bind, Function.comp_def]

/-- **A run is a step followed by a run.** -/
theorem lex_succ (fuel : Nat) (st : Reading) (start : Bool) (l : List Char) :
    lex (fuel + 1) st start l = (step st start l).followedBy (lex fuel) := by
  cases start with
  | true =>
    unfold lex step startStep
    rcases measure none ⟨0, 0⟩ 0 l with _ | ⟨i, joins, rest⟩
    · rfl
    · simp only [Option.bind_eq_bind, Option.bind_some, ↓reduceIte]
      show (if isBlankLine rest = true then _ else _) = _
      by_cases hblank : isBlankLine rest = true
      · rw [if_pos hblank, if_pos hblank]
        exact followedBy_blankStep fuel { st with line := st.line + joins } rest
      · rw [if_neg hblank, if_neg hblank]
        cases st.brackets.isEmpty with
        | true => exact followedBy_indentStep fuel { st with line := st.line + joins } i rest
        | false => simp [Step.followedBy]
  | false =>
    unfold lex step
    generalize l.dropWhile isSkipped = l
    simp only [Bool.false_eq_true, ↓reduceIte]
    split
    · unfold innerStep
      cases st.brackets.isEmpty <;> rfl
    · simp [innerStep, Step.followedBy]
    · unfold innerStep
      cases st.brackets.isEmpty <;> simp [Step.followedBy]
    · next r =>
      unfold innerStep
      cases r <;> simp [Step.followedBy]
    · rw [innerStep]
      · exact followedBy_tokenStep fuel st _
      all_goals assumption

/-- A step that goes on, and what comes after it. -/
theorem lex_of_goes {fuel : Nat} {st st' : Reading} {start start' : Bool} {l rest : List Char}
    {emitted ls : List Lexeme} (hstep : step st start l = .goes emitted st' start' rest)
    (hnext : lex fuel st' start' rest = some ls) :
    lex (fuel + 1) st start l = some (emitted ++ ls) := by
  rw [lex_succ, hstep, Step.followedBy, hnext, Option.map_some]

/-! ## What a step uses up -/

/-- What a step has less of: characters, and the start of a line. -/
def size (start : Bool) (l : List Char) : Nat := 2 * l.length + start.toNat

theorem size_startStep {st st' : Reading} {start : Bool} {l rest : List Char}
    {emitted : List Lexeme} (h : startStep st l = .goes emitted st' start rest) :
    size start rest < size true l := by
  unfold startStep at h
  split at h
  · cases h
  next i joins r hm =>
  have hlength := (suffix_measure hm).length_le
  dsimp only at h
  split at h
  · unfold blankStep at h
    have hdrop := (List.dropWhile_suffix (· != '\n') (l := r)).length_le
    split at h
    · next hr =>
      cases h
      rw [hr, List.length_cons] at hdrop
      simp only [size, Bool.toNat_true]
      omega
    · split at h <;> cases h
  split at h
  · unfold indentStep at h
    split at h
    · cases h
    split at h
    · cases h
    · cases h
      simp only [size, Bool.toNat_true, Bool.toNat_false]
      omega
  · cases h
    simp only [size, Bool.toNat_true, Bool.toNat_false]
    omega

theorem size_tokenStep {st st' : Reading} {start : Bool} {l rest : List Char}
    {emitted : List Lexeme} (h : tokenStep st l = .goes emitted st' start rest) :
    size start rest < size false l := by
  unfold tokenStep at h
  split at h
  · next ht =>
    cases h
    have hlength := (inner_literalAt ht).2.2
    simp only [size]
    omega
  · unfold markStep at h
    split at h
    · cases h
    split at h
    · cases h
    next hm =>
    split at h
    · cases h
    · cases h
      have hlength := (behind_markAt hm).2
      simp only [size]
      omega

theorem size_innerStep {st st' : Reading} {start : Bool} {l rest : List Char}
    {emitted : List Lexeme} (h : innerStep st l = .goes emitted st' start rest) :
    size start rest < size false l := by
  unfold innerStep at h
  split at h
  · split at h <;> cases h
  · next r =>
    cases h
    have hdrop := (List.dropWhile_suffix (· != '\n') (l := r)).length_le
    simp only [size, List.length_cons]
    omega
  · cases h
    simp only [size, List.length_cons, Bool.toNat_true, Bool.toNat_false]
    omega
  · split at h
    · cases h
    · cases h
      simp only [size, List.length_cons]
      omega
  · exact size_tokenStep h

/-- **Steps use something up.** -/
theorem size_step {st st' : Reading} {start start' : Bool} {l rest : List Char}
    {emitted : List Lexeme} (h : step st start l = .goes emitted st' start' rest) :
    size start' rest < size start l := by
  cases start with
  | true => exact size_startStep h
  | false =>
    have hlt := size_innerStep h
    have hdrop := (List.dropWhile_suffix isSkipped (l := l)).length_le
    simp only [size] at hlt ⊢
    omega

/-! ## The order of tokens -/

/-- Whether a token changes the indentation. -/
def Token.isChange : Token → Bool
  | .indent | .dedent => true
  | _ => false

/-- The order in which lexemes come; `start` says that a line begins here. A line has tokens
and then an end, and the indentation changes in front of a line only. -/
inductive Lined : Bool → List Lexeme → Prop
  | done : Lined true []
  | change {x : Lexeme} {ls : List Lexeme} (hx : x.token.isChange = true) (h : Lined true ls) :
      Lined true (x :: ls)
  | token {start : Bool} {x : Lexeme} {ls : List Lexeme} (hx : x.token.isLayout = false)
      (h : Lined false ls) : Lined start (x :: ls)
  | ended {line : Nat} {ls : List Lexeme} (h : Lined true ls) : Lined false (⟨.newline, line⟩ :: ls)

theorem Lined.changes {xs ls : List Lexeme} (hxs : ∀ x ∈ xs, x.token.isChange = true)
    (h : Lined true ls) : Lined true (xs ++ ls) := by
  induction xs with
  | nil => exact h
  | cons x xs ih =>
    obtain ⟨hx, hxs⟩ := List.forall_mem_cons.1 hxs
    exact .change hx (ih hxs)

/-- Tokens inside a line stand in one. -/
theorem Lined.of_append {start : Bool} {xs ls : List Lexeme} (hne : xs ≠ [])
    (hxs : ∀ x ∈ xs, x.token.isLayout = false) (h : Lined start (xs ++ ls)) : Lined false ls := by
  induction xs generalizing start with
  | nil => exact absurd rfl hne
  | cons x xs ih =>
    obtain ⟨hx, hxs⟩ := List.forall_mem_cons.1 hxs
    cases h with
    | change hchange =>
      cases htoken : x.token <;> simp_all [Token.isLayout, Token.isChange]
    | token _ h =>
      cases xs with
      | nil => exact h
      | cons y ys => exact ih (List.cons_ne_nil y ys) hxs h
    | ended => cases hx

/-- Line ends alone are one line end. -/
theorem Lined.eq_singleton {ls : List Lexeme} (h : Lined false ls)
    (hls : ∀ x ∈ ls, x.token = .newline) : ∃ line, ls = [⟨.newline, line⟩] := by
  cases h with
  | token hx _ =>
    have hnewline := hls _ (.head _)
    rw [hnewline] at hx
    cases hx
  | @ended line ls h =>
    cases h with
    | done => exact ⟨line, rfl⟩
    | change hx _ =>
      have hnewline := hls _ (.tail _ (.head _))
      rw [hnewline] at hx
      cases hx
    | token hx _ =>
      have hnewline := hls _ (.tail _ (.head _))
      rw [hnewline] at hx
      cases hx

theorem isChange_of_mem_shift {i : Indentation} {open' indents : List Indentation}
    {changes : List Token} (h : shift i open' = some (changes, indents)) :
    ∀ t ∈ changes, t.isChange = true := by
  unfold shift at h
  dsimp only at h
  split at h
  · split at h
    · cases h
      exact nofun
    · cases h
  split at h
  · split at h
    · cases h
      simp [Token.isChange]
    · cases h
  · split at h
    · cases h
      intro t ht
      rw [(List.mem_replicate.1 ht).2]
      rfl
    · cases h

/-- Whether a token is the first thing here. -/
def startsToken (l : List Char) : Bool := l.head?.any fun c => !isMargin c && c != '#' && c != '\n'

/-- What a step emits comes in lines, and so does what comes next if that does; `fresh` says
that a line begins before the step. -/
def Step.Lines (fresh : Bool) : Step → Prop
  | .fails => True
  | .ends emitted => Lined fresh emitted
  | .goes emitted st start rest =>
    ∀ ls, Lined (start && st.brackets.isEmpty) ls →
      (start = false → startsToken rest = true → Lined true ls) → Lined fresh (emitted ++ ls)

theorem lines_blankStep (st : Reading) (rest : List Char) :
    (blankStep st rest).Lines st.brackets.isEmpty := by
  unfold blankStep
  split
  · intro ls h _
    simpa using h
  · split
    · next hb =>
      rw [hb]
      exact .done
    · trivial

theorem lines_indentStep (st : Reading) (i : Indentation) {rest : List Char}
    (hb : st.brackets.isEmpty = true) (hrest : rest = [] ∨ startsToken rest = true) :
    (indentStep st i rest).Lines st.brackets.isEmpty := by
  unfold indentStep
  split
  · trivial
  next changes indents hshift =>
  have hchanges : ∀ x ∈ changes.map (⟨·, st.line⟩ : Token → Lexeme), x.token.isChange = true := by
    intro x hx
    obtain ⟨t, ht, rfl⟩ := List.mem_map.1 hx
    exact isChange_of_mem_shift hshift t ht
  rw [hb]
  split
  · have hend := Lined.changes hchanges .done
    rwa [List.append_nil] at hend
  · next hne =>
    intro ls _ hfirst
    have hstarts : startsToken rest = true := by
      rcases hrest with rfl | hrest
      · exact absurd rfl hne
      · exact hrest
    exact Lined.changes hchanges (hfirst rfl hstarts)

theorem lines_startStep (st : Reading) (l : List Char) :
    (startStep st l).Lines st.brackets.isEmpty := by
  unfold startStep
  split
  · trivial
  next i joins rest hm =>
  dsimp only
  split
  · exact lines_blankStep { st with line := st.line + joins } rest
  next hblank =>
  split
  · next hb =>
    refine lines_indentStep { st with line := st.line + joins } i hb ?_
    cases rest with
    | nil => exact Or.inl rfl
    | cons c r =>
      have hmargin : isMargin c = false := head?_measure hm c rfl
      have hhash : c ≠ '#' := by
        rintro rfl
        exact hblank rfl
      have hfeed : c ≠ '\n' := by
        rintro rfl
        exact hblank rfl
      simp [startsToken, hmargin, hhash, hfeed]
  · next hb =>
    rw [Bool.not_eq_true] at hb
    rw [hb]
    exact fun ls h _ => h

theorem lines_tokenStep (fresh : Bool) (st : Reading) (l : List Char) :
    (tokenStep st l).Lines fresh := by
  unfold tokenStep
  split
  · next ht => exact fun ls h _ => .token (inner_literalAt ht).1 h
  · unfold markStep
    split
    · trivial
    split
    · trivial
    split
    · trivial
    · exact fun ls h _ => .token rfl h

theorem lines_innerStep (st : Reading) (l : List Char) : (innerStep st l).Lines false := by
  unfold innerStep
  split
  · split
    · exact .ended .done
    · trivial
  · exact fun ls h _ => h
  · intro ls h _
    cases hb : st.brackets.isEmpty with
    | true =>
      rw [hb] at h
      exact .ended h
    | false =>
      rw [hb] at h
      exact h
  · split
    · trivial
    · exact fun ls h _ => h
  · exact lines_tokenStep false st _

/-- Where a token is the first thing, the step is over a token. -/
theorem lines_step_of_startsToken {l : List Char} (hl : startsToken l = true) (st : Reading) :
    (step st false l).Lines true := by
  cases l with
  | nil => cases hl
  | cons c r =>
    simp only [startsToken, List.head?_cons, Option.any_some, isMargin, Bool.and_eq_true,
      Bool.not_eq_true', Bool.or_eq_false_iff, bne_iff_ne, ne_eq, beq_eq_false_iff_ne] at hl
    obtain ⟨⟨⟨hskipped, hslash⟩, hhash⟩, hfeed⟩ := hl
    have hstep : step st false (c :: r) = tokenStep st (c :: r) := by
      simp [step, hskipped, innerStep, hslash, hhash, hfeed]
    rw [hstep]
    exact lines_tokenStep true st (c :: r)

/-- **Lexemes come in lines.** Behind an indentation there is a token first. -/
theorem lined_lex {fuel : Nat} {st : Reading} {start : Bool} {l : List Char} {ls : List Lexeme}
    (h : lex fuel st start l = some ls) :
    Lined (start && st.brackets.isEmpty) ls ∧
      (start = false → startsToken l = true → Lined true ls) := by
  induction fuel generalizing st start l ls with
  | zero => cases h
  | succ fuel ih =>
    rw [lex_succ] at h
    have hlines {fresh : Bool} (hstep : (step st start l).Lines fresh) : Lined fresh ls := by
      cases hs : step st start l with
      | fails =>
        rw [hs] at h
        cases h
      | ends emitted =>
        rw [hs] at h hstep
        cases h
        exact hstep
      | goes emitted st' start' rest =>
        rw [hs] at h hstep
        obtain ⟨next, hnext, rfl⟩ := Option.map_eq_some_iff.1 h
        exact hstep next (ih hnext).1 (ih hnext).2
    cases start with
    | true => exact ⟨hlines (lines_startStep st l), nofun⟩
    | false =>
      exact ⟨hlines (lines_innerStep st _), fun _ hl => hlines (lines_step_of_startsToken hl st)⟩

/-! ## One more line end -/

/-- Nothing changes the indentation. -/
def Flat (ls : List Lexeme) : Prop := ∀ x ∈ ls, x.token.isChange = false

/-- What blanks alone at the end of a text, without a line end, come to. -/
def IsTail (ls : List Lexeme) : Prop := ls = [] ∨ ∃ line, ls = [⟨.indent, line⟩]

/-- There are no lexemes from here. -/
def Step.Stuck (s : Step) : Prop := ∀ fuel, s.followedBy (lex fuel) = none

/-- A step without and with one more line end behind the text: either both go on alike, or the
one is the last and the other goes to the empty line behind it. -/
inductive Alongside : Step → Step → Prop
  | goes {emitted : List Lexeme} {st : Reading} {start : Bool} {rest : List Char}
      (hrest : rest.getLast? ≠ some '\n') (hst : Flat emitted → st.indents = []) :
      Alongside (.goes emitted st start rest) (.goes emitted st start (rest ++ ['\n']))
  | ends (emitted : List Lexeme) {tail : List Lexeme} {st : Reading} (hindents : st.indents = [])
      (hbrackets : st.brackets.isEmpty = true) (htail : IsTail tail) :
      Alongside (.ends (emitted ++ tail)) (.goes emitted st true [])
  | stuck {s s' : Step} (hs : s.Stuck) (hs' : s'.Stuck) : Alongside s s'

theorem stuck_fails : Step.fails.Stuck := fun _ => rfl

/-- The text ends with brackets open. -/
theorem lex_nil_of_open {st : Reading} (hb : st.brackets.isEmpty = false) (fuel : Nat)
    (start : Bool) : lex fuel st start [] = none := by
  induction fuel generalizing st start with
  | zero => rfl
  | succ fuel ih =>
    rw [lex_succ]
    cases start with
    | true =>
      have hstep : step st true [] = .goes [] st false [] := by
        simp [step, startStep, measure, isBlankLine, hb]
      rw [hstep, Step.followedBy, ih hb]
      rfl
    | false =>
      have hstep : step st false [] = .fails := by simp [step, innerStep, hb]
      rw [hstep]
      rfl

theorem stuck_goes_nil (st : Reading) (hb : st.brackets.isEmpty = false)
    (emitted : List Lexeme) (start : Bool) : (Step.goes emitted st start []).Stuck := by
  intro fuel
  rw [Step.followedBy, lex_nil_of_open hb]
  rfl

/-- The empty line behind a text without indentations. -/
theorem lex_emptyLine {st : Reading} (hi : st.indents = []) (hb : st.brackets.isEmpty = true)
    (fuel : Nat) : lex (fuel + 1) st true [] = some [] := by
  have hstep : step st true [] = .ends [] := by
    simp [step, startStep, measure, isBlankLine, hb, indentStep, shift, hi]
  rw [lex_succ, hstep]
  rfl

/-- The first indentation. -/
theorem shift_nil {i : Indentation} (hi : i.wide = 0 ↔ i.narrow = 0) :
    shift i [] = some ([], []) ∨ shift i [] = some ([.indent], [i]) := by
  unfold shift
  by_cases hwide : i.wide = 0
  · have hnarrow := hi.1 hwide
    simp [hwide, hnarrow]
  · have hnarrow : i.narrow ≠ 0 := fun h => hwide (hi.2 h)
    have hpos : 0 < i.wide ∧ 0 < i.narrow := by omega
    simp [hwide, hpos, Indentation.within, indentLimit]

section Appended

variable {l : List Char}

theorem blankStep_append (st : Reading) (hi : st.indents = []) (hl : l.getLast? ≠ some '\n') :
    Alongside (blankStep st l) (blankStep st (l ++ ['\n'])) := by
  have hdrop := List.dropWhile_suffix (· != '\n') (l := l)
  unfold blankStep
  rw [dropWhile_append_end (by decide)]
  generalize l.dropWhile (· != '\n') = ended at hdrop ⊢
  cases ended with
  | nil =>
    cases hb : st.brackets.isEmpty with
    | true => exact .ends [] hi hb (Or.inl rfl)
    | false => exact .stuck stuck_fails (stuck_goes_nil { st with line := st.line + 1 } hb [] true)
  | cons c r =>
    have hr : r <:+ l := (List.suffix_cons c r).trans hdrop
    exact .goes (getLast?_ne_of_suffix hr hl) fun _ => hi

theorem indentStep_append (st : Reading) (hi : st.indents = []) {i : Indentation}
    (hl : l.getLast? ≠ some '\n') (hne : l ≠ []) (hbalanced : i.wide = 0 ↔ i.narrow = 0) :
    Alongside (indentStep st i l) (indentStep st i (l ++ ['\n'])) := by
  have hempty : l.isEmpty = false := by simpa using hne
  unfold indentStep
  rw [hi]
  rcases shift_nil hbalanced with hshift | hshift
  · simp only [hshift, hempty, List.append_eq_nil_iff, List.isEmpty_iff]
    simp only [hne, false_and, if_false, Bool.false_eq_true]
    exact .goes hl fun _ => rfl
  · simp only [hshift, hempty, List.append_eq_nil_iff, List.isEmpty_iff]
    simp only [hne, false_and, if_false, Bool.false_eq_true]
    refine .goes hl fun hflat => ?_
    cases hflat _ (.head _)

theorem isBlankLine_append (hne : l ≠ []) : isBlankLine (l ++ ['\n']) = isBlankLine l := by
  obtain ⟨c, r, rfl⟩ := List.exists_cons_of_ne_nil hne
  unfold isBlankLine
  simp only [List.cons_append]
  split <;> simp_all

/-- The end of the text is the end of a line of blanks. -/
theorem startStep_append_nil (st : Reading) {i : Indentation} (hi : st.indents = [])
    (hbalanced : i.wide = 0 ↔ i.narrow = 0) :
    Alongside (if st.brackets.isEmpty then indentStep st i [] else .goes [] st false [])
      (blankStep st ['\n']) := by
  cases hb : st.brackets.isEmpty with
  | true =>
    have hends : ∃ tail, IsTail tail ∧ indentStep st i [] = .ends tail := by
      unfold indentStep
      rw [hi]
      rcases shift_nil hbalanced with hshift | hshift
      · exact ⟨[], Or.inl rfl, by simp [hshift]⟩
      · exact ⟨[⟨.indent, st.line⟩], Or.inr ⟨st.line, rfl⟩, by simp [hshift]⟩
    obtain ⟨tail, htail, hends⟩ := hends
    rw [if_pos rfl, hends]
    exact .ends [] hi hb htail
  | false =>
    exact .stuck (stuck_goes_nil st hb [] false)
      (stuck_goes_nil { st with line := st.line + 1 } hb [] true)

theorem startStep_append (st : Reading) (hi : st.indents = []) (hl : l.getLast? ≠ some '\n') :
    Alongside (startStep st l) (startStep st (l ++ ['\n'])) := by
  unfold startStep
  rw [measure_append none ⟨0, 0⟩ 0 hl]
  cases hm : measure none ⟨0, 0⟩ 0 l with
  | none => exact .stuck stuck_fails stuck_fails
  | some x =>
    obtain ⟨i, joins, rest⟩ := x
    have hbalanced := balanced_measure hm Iff.rfl
    have hrest := getLast?_ne_of_suffix (suffix_measure hm) hl
    simp only [Option.map_some, measuredBeforeEnd]
    by_cases hne : rest = []
    · subst hne
      exact startStep_append_nil { st with line := st.line + joins } hi hbalanced
    · rw [isBlankLine_append hne]
      split
      · exact blankStep_append { st with line := st.line + joins } hi hrest
      split
      · exact indentStep_append { st with line := st.line + joins } hi hrest hne hbalanced
      · exact .goes hrest fun _ => hi

theorem linesRead_append (l rest : List Char) :
    linesRead (l ++ ['\n']) (rest ++ ['\n']) = linesRead l rest := by
  have hlength : (l ++ ['\n']).length - (rest ++ ['\n']).length = l.length - rest.length := by
    simp
  unfold linesRead
  rw [hlength, List.take_append_of_le_length (Nat.sub_le ..)]

theorem markStep_append (st : Reading) (hi : st.indents = []) (hl : l.getLast? ≠ some '\n') :
    Alongside (markStep st l) (markStep st (l ++ ['\n'])) := by
  unfold markStep
  rw [startsText_append, startsNumber_append, markAt?_append]
  split
  · exact .stuck stuck_fails stuck_fails
  cases hm : markAt? l with
  | none => exact .stuck stuck_fails stuck_fails
  | some x =>
    simp only [Option.map_some, beforeEnd]
    split
    · exact .stuck stuck_fails stuck_fails
    · exact .goes (getLast?_ne_of_suffix (behind_markAt hm).1 hl) fun _ => hi

theorem tokenStep_append (st : Reading) (hi : st.indents = []) (hl : l.getLast? ≠ some '\n') :
    Alongside (tokenStep st l) (tokenStep st (l ++ ['\n'])) := by
  unfold tokenStep
  rw [literalAt?_append]
  cases ht : literalAt? l with
  | none => exact markStep_append st hi hl
  | some x =>
    simp only [Option.map_some, beforeEnd, linesRead_append]
    exact .goes (getLast?_ne_of_suffix (inner_literalAt ht).2.1 hl) fun _ => hi

theorem innerStep_append (st : Reading) (hi : st.indents = []) (hl : l.getLast? ≠ some '\n') :
    Alongside (innerStep st l) (innerStep st (l ++ ['\n'])) := by
  fun_cases innerStep st l with
  | case1 hb =>
    rw [List.nil_append, innerStep, if_pos hb]
    exact .ends [⟨.newline, st.line⟩] hi hb (Or.inl rfl)
  | case2 hb =>
    rw [Bool.not_eq_true] at hb
    exact .stuck stuck_fails (stuck_goes_nil { st with line := st.line + 1 } hb _ true)
  | case3 r =>
    have hdrop := (List.dropWhile_suffix (· != '\n') (l := r)).trans (List.suffix_cons '#' r)
    simp only [List.cons_append, innerStep]
    rw [dropWhile_append_end (by decide)]
    exact .goes (getLast?_ne_of_suffix hdrop hl) fun _ => hi
  | case4 r =>
    exact .goes (getLast?_ne_of_suffix (List.suffix_cons ..) hl) fun _ => hi
  | case5 r hr =>
    rw [List.isEmpty_iff.1 hr] at hl
    exact absurd rfl hl
  | case6 r hr =>
    have hr' : ¬ (r ++ ['\n']).isEmpty = true := by simp
    have hsuffix : r <:+ '\\' :: '\n' :: r := (List.suffix_cons _ r).trans (List.suffix_cons ..)
    simp only [List.cons_append, innerStep, if_neg hr']
    exact .goes (getLast?_ne_of_suffix hsuffix hl) fun _ => hi
  | case7 _ hnil hcomment hfeed hjoined =>
    by_cases hslash : l = ['\\']
    · subst hslash
      exact .stuck stuck_fails stuck_fails
    · obtain ⟨c, r, rfl⟩ := List.exists_cons_of_ne_nil hnil
      rw [List.cons_append, innerStep]
      · exact tokenStep_append st hi hl
      · exact nofun
      · intro r' h
        cases h
        exact hcomment r rfl
      · intro r' h
        cases h
        exact hfeed r rfl
      · intro r' h
        rcases r with _ | ⟨d, r⟩
        · cases h
          exact hslash rfl
        · cases h
          exact hjoined r rfl

theorem step_append (st : Reading) (hi : st.indents = []) (start : Bool)
    (hl : l.getLast? ≠ some '\n') :
    Alongside (step st start l) (step st start (l ++ ['\n'])) := by
  cases start with
  | true => exact startStep_append st hi hl
  | false =>
    have hdrop := List.dropWhile_suffix isSkipped (l := l)
    simp only [step, Bool.false_eq_true, ↓reduceIte]
    rw [dropWhile_append_end (by decide)]
    exact innerStep_append st hi (getLast?_ne_of_suffix hdrop hl)

/-- **One more line end makes no lexeme** where none is about indentation. -/
theorem lex_append_of_flat {fuel fuel' : Nat} (hfuel : fuel < fuel') {st : Reading}
    (hi : st.indents = []) {start : Bool} {ls : List Lexeme} (hl : l.getLast? ≠ some '\n')
    (h : lex fuel st start l = some ls) (hflat : Flat ls) :
    lex fuel' st start (l ++ ['\n']) = some ls := by
  induction fuel generalizing fuel' st start l ls with
  | zero => cases h
  | succ fuel ih =>
    obtain ⟨fuel', rfl⟩ : ∃ n, fuel' = n + 1 := ⟨fuel' - 1, by omega⟩
    have hfuel := Nat.lt_of_succ_lt_succ hfuel
    have halong := step_append st hi start hl
    rw [lex_succ] at h ⊢
    generalize step st start l = s at h halong
    generalize step st start (l ++ ['\n']) = s' at halong ⊢
    cases halong with
    | goes hrest hst =>
      obtain ⟨next, hnext, rfl⟩ := Option.map_eq_some_iff.1 h
      have hfirst := hst fun x hx => hflat x (List.mem_append_left _ hx)
      have hlater := ih hfuel hfirst hrest hnext fun x hx => hflat x (List.mem_append_right _ hx)
      rw [Step.followedBy, hlater, Option.map_some]
    | ends emitted hindents hbrackets htail =>
      cases h
      rcases htail with rfl | ⟨line, rfl⟩
      · obtain ⟨k, rfl⟩ : ∃ n, fuel' = n + 1 := ⟨fuel' - 1, by omega⟩
        rw [Step.followedBy, lex_emptyLine hindents hbrackets]
        rfl
      · cases hflat _ (List.mem_append_right _ (.head _))
    | stuck hs =>
      rw [hs fuel] at h
      cases h

/-- **Without the last line end** an indentation may come behind, where there was none. -/
theorem lex_of_append_of_flat {fuel fuel' : Nat} {st : Reading} (hi : st.indents = [])
    {start : Bool} {ls : List Lexeme} (hl : l.getLast? ≠ some '\n') (hsize : size start l < fuel)
    (h : lex fuel' st start (l ++ ['\n']) = some ls) (hflat : Flat ls) :
    ∃ tail, IsTail tail ∧ lex fuel st start l = some (ls ++ tail) := by
  induction fuel' generalizing fuel st start l ls with
  | zero => cases h
  | succ fuel' ih =>
    obtain ⟨fuel, rfl⟩ : ∃ n, fuel = n + 1 := ⟨fuel - 1, by omega⟩
    have halong := step_append st hi start hl
    rw [lex_succ] at h ⊢
    generalize hs : step st start l = s at halong ⊢
    generalize step st start (l ++ ['\n']) = s' at h halong
    cases halong with
    | goes hrest hst =>
      have hless := size_step hs
      obtain ⟨next, hnext, rfl⟩ := Option.map_eq_some_iff.1 h
      have hfirst := hst fun x hx => hflat x (List.mem_append_left _ hx)
      have hfuel := Nat.lt_of_lt_of_le hless (Nat.le_of_lt_succ hsize)
      obtain ⟨tail, htail, hlater⟩ := ih hfirst hrest hfuel hnext fun x hx =>
        hflat x (List.mem_append_right _ hx)
      refine ⟨tail, htail, ?_⟩
      rw [Step.followedBy, hlater, Option.map_some, List.append_assoc]
    | @ends emitted tail st' hindents hbrackets htail =>
      obtain ⟨next, hnext, rfl⟩ := Option.map_eq_some_iff.1 h
      cases fuel' with
      | zero => cases hnext
      | succ k =>
        rw [lex_emptyLine hindents hbrackets] at hnext
        cases hnext
        exact ⟨tail, htail, by rw [Step.followedBy, List.append_nil]⟩
    | stuck _ hs' =>
      rw [hs' fuel'] at h
      cases h

end Appended

/-! ## Blocks -/

/-- The characters of a block with its last line ended. -/
def withLastEnd (l : List Char) : List Char :=
  if l.isEmpty || l.getLast? = some '\n' then l else l ++ ['\n']

theorem tokens?_eq (source : String) :
    tokens? source = lexemes? (withLastEnd (unifyBreaks source.toList)) := rfl

theorem lexemes?_append (l : List Char) :
    lexemes? (l ++ ['\n']) = if l.contains (Char.ofNat 0) then none
      else lex (2 * l.length + 4) ⟨[], [], 1⟩ true (l ++ ['\n']) := by
  have hnull : (l ++ ['\n']).contains (Char.ofNat 0) = l.contains (Char.ofNat 0) := by
    rw [Bool.eq_iff_iff]
    simp
  unfold lexemes?
  rw [hnull, List.length_append]
  rfl

/-- **What a block is with its last line ended** is what it is as it stands. -/
theorem tokens?_of_asGiven {source : String} {ls : List Lexeme}
    (h : tokensAsGiven? source = some ls) (hflat : Flat ls) : tokens? source = some ls := by
  rw [tokens?_eq]
  unfold tokensAsGiven? at h
  generalize unifyBreaks source.toList = l at h ⊢
  unfold withLastEnd
  split
  · exact h
  · next hend =>
    simp only [Bool.or_eq_true, decide_eq_true_eq, not_or] at hend
    rw [lexemes?_append]
    unfold lexemes? at h
    split at h
    · cases h
    · next hnull =>
      rw [if_neg hnull]
      exact lex_append_of_flat (by omega) rfl hend.2 h hflat

/-- **What a block is as it stands**: what it is with its last line ended, and in front of no
line end perhaps an indentation. -/
theorem tokensAsGiven?_of_tokens {source : String} {ls : List Lexeme}
    (h : tokens? source = some ls) (hflat : Flat ls) :
    ∃ tail, IsTail tail ∧ tokensAsGiven? source = some (ls ++ tail) := by
  rw [tokens?_eq] at h
  unfold tokensAsGiven?
  generalize unifyBreaks source.toList = l at h ⊢
  unfold withLastEnd at h
  split at h
  · exact ⟨[], Or.inl rfl, by rw [List.append_nil, h]⟩
  · next hend =>
    simp only [Bool.or_eq_true, decide_eq_true_eq, not_or] at hend
    rw [lexemes?_append] at h
    unfold lexemes?
    split at h
    · cases h
    · next hnull =>
      rw [if_neg hnull]
      exact lex_of_append_of_flat rfl hend.2 (by simp [size]) h hflat

/-- The lexemes of a block come in lines. -/
theorem lined_tokensAsGiven {source : String} {ls : List Lexeme}
    (h : tokensAsGiven? source = some ls) : Lined true ls := by
  unfold tokensAsGiven? lexemes? at h
  split at h
  · cases h
  · exact (lined_lex h).1

end LiterateConfig.Script
