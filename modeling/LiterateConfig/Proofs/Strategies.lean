import LiterateConfig.Proofs.Lexing
import LiterateConfig.Proofs.Reading
import LiterateConfig.Script.Compiled

/-!
# Which strategy a block is compiled by

A block is read as a module, and by the second strategy as an expression. The two readings
agree on lone expressions: an expression is a module whose one statement it is, and a lone
expression is refused by the second strategy for what ends the block only, a semicolon or
blanks that no line end follows. So what the module reads as settles the strategy.

Results:
* `module?_of_expression`: a block that is an expression is the module of that expression;
* `expression?_of_module`: when the module of an expression is an expression;
* `strategy_iff`: the strategy of every block.
-/
namespace LiterateConfig.Script

/-! ## Ends of blocks -/

/-- Whether a block has a semicolon in front of its last line end. -/
def endsInSemicolon (source : String) : Bool :=
  match (tokens? source).map List.reverse with
  | some (⟨.newline, _⟩ :: ⟨.mark .semicolon, _⟩ :: _) => true
  | _ => false

/-- Whether a block ends in blanks that open an indentation, with no line end behind them. -/
def endsInBlanks (source : String) : Bool :=
  match (tokensAsGiven? source).map List.reverse with
  | some (⟨.indent, _⟩ :: _) => true
  | _ => false

theorem endsInSemicolon_of_tokens {source : String} {p : List Lexeme} {line line' : Nat}
    (h : tokens? source = some (p ++ [⟨.mark .semicolon, line⟩, ⟨.newline, line'⟩])) :
    endsInSemicolon source = true := by
  simp [endsInSemicolon, h]

theorem endsInBlanks_of_tokens {source : String} {p : List Lexeme} {line : Nat}
    (h : tokensAsGiven? source = some (p ++ [⟨.indent, line⟩])) : endsInBlanks source = true := by
  simp [endsInBlanks, h]

/-! ## Lines and statements -/

theorem readLine_ne_nil {n : Nat} {l rest : List Lexeme} {ss : List Stmt}
    (h : readLine n l = some (ss, rest)) : ss ≠ [] := by
  cases n with
  | zero => cases h
  | succ n =>
    rw [readLine] at h
    obtain ⟨⟨s, l₁⟩, -, h⟩ := Option.bind_eq_some_iff.1 h
    dsimp only at h
    split at h
    · cases h
      exact List.cons_ne_nil _ _
    obtain ⟨l₂, -, h⟩ := Option.bind_eq_some_iff.1 h
    split at h
    · cases h
      exact List.cons_ne_nil _ _
    · obtain ⟨⟨more, l₃⟩, -, h⟩ := Option.bind_eq_some_iff.1 h
      cases h
      exact List.cons_ne_nil _ _

/-- A line of one statement ends behind it, perhaps with a semicolon. -/
theorem readLine_singleton {n : Nat} {l rest : List Lexeme} {s : Stmt}
    (h : readLine n l = some ([s], rest)) :
    ∃ k l₁, readSmall k l = some (s, l₁) ∧ ∃ line, l₁ = ⟨.newline, line⟩ :: rest ∨
      ∃ line', l₁ = ⟨.mark .semicolon, line'⟩ :: ⟨.newline, line⟩ :: rest := by
  cases n with
  | zero => cases h
  | succ n =>
    rw [readLine] at h
    obtain ⟨⟨s₁, l₁⟩, hsmall, h⟩ := Option.bind_eq_some_iff.1 h
    dsimp only at h
    split at h
    · next hnewline =>
      cases h
      obtain ⟨line, rfl⟩ := newline?_eq_some.1 hnewline
      exact ⟨n, _, hsmall, line, Or.inl rfl⟩
    obtain ⟨l₂, hsemicolon, h⟩ := Option.bind_eq_some_iff.1 h
    split at h
    · next hnewline =>
      cases h
      obtain ⟨line', rfl⟩ := mark?_eq_some.1 hsemicolon
      obtain ⟨line, rfl⟩ := newline?_eq_some.1 hnewline
      exact ⟨n, _, hsmall, line, Or.inr ⟨line', rfl⟩⟩
    · obtain ⟨⟨more, l₃⟩, hmore, h⟩ := Option.bind_eq_some_iff.1 h
      have hne := readLine_ne_nil hmore
      cases h
      exact absurd rfl hne

/-- Whether a statement holds others, and so stands on lines of its own. -/
def Stmt.isCompound : Stmt → Bool
  | .define .. | .branch .. => true
  | _ => false

theorem isCompound_of_readDefinition {n : Nat} {ds : List Expr} {l rest : List Lexeme} {s : Stmt}
    (h : readDefinition n ds l = some (s, rest)) : s.isCompound = true := by
  induction n generalizing ds l with
  | zero => cases h
  | succ n ih =>
    unfold readDefinition at h
    split at h
    · obtain ⟨⟨d, l₁⟩, -, h⟩ := Option.bind_eq_some_iff.1 h
      obtain ⟨l₂, -, h⟩ := Option.bind_eq_some_iff.1 h
      exact ih h
    split at h
    · obtain ⟨⟨params, l₁⟩, -, h⟩ := Option.bind_eq_some_iff.1 h
      obtain ⟨⟨body, l₂⟩, -, h⟩ := Option.bind_eq_some_iff.1 h
      cases h
      rfl
    · cases h

/-- A statement on lines of its own is none that a line could hold. -/
theorem readStmt_cases {n : Nat} {l rest : List Lexeme} {ss : List Stmt}
    (h : readStmt (n + 1) l = some (ss, rest)) :
    readLine n l = some (ss, rest) ∨ ∃ s, ss = [s] ∧ s.isCompound = true := by
  rw [readStmt] at h
  split at h
  · obtain ⟨⟨cond, l₁⟩, -, h⟩ := Option.bind_eq_some_iff.1 h
    obtain ⟨⟨yes, l₂⟩, -, h⟩ := Option.bind_eq_some_iff.1 h
    dsimp only at h
    split at h
    · obtain ⟨⟨no, l₃⟩, -, h⟩ := Option.bind_eq_some_iff.1 h
      cases h
      exact Or.inr ⟨_, rfl, rfl⟩
    · cases h
      exact Or.inr ⟨_, rfl, rfl⟩
  split at h
  · obtain ⟨⟨s, l₁⟩, hdefinition, h⟩ := Option.bind_eq_some_iff.1 h
    cases h
    exact Or.inr ⟨s, rfl, isCompound_of_readDefinition hdefinition⟩
  · exact Or.inl h

theorem readStmt_ne_nil {n : Nat} {l rest : List Lexeme} {ss : List Stmt}
    (h : readStmt n l = some (ss, rest)) : ss ≠ [] := by
  cases n with
  | zero => cases h
  | succ n =>
    rcases readStmt_cases h with hline | ⟨s, rfl, -⟩
    · exact readLine_ne_nil hline
    · exact List.cons_ne_nil _ _

theorem readModule_eq_nil {n : Nat} {l : List Lexeme} (h : readModule n l = some []) : l = [] := by
  cases l with
  | nil => rfl
  | cons x l =>
    cases n with
    | zero => cases h
    | succ n =>
      rw [readModule] at h
      · obtain ⟨⟨ss, l₁⟩, hstmt, h⟩ := Option.bind_eq_some_iff.1 h
        obtain ⟨more, -, h⟩ := Option.bind_eq_some_iff.1 h
        have hnil := List.append_eq_nil_iff.1 (Option.some.inj h)
        exact absurd hnil.1 (readStmt_ne_nil hstmt)
      · exact List.cons_ne_nil _ _

/-! ## Expressions among statements -/

/-- What follows an expression assigns it, or the expression is the statement. -/
theorem readAssigned_cases {line n : Nat} {targets : List Target} {e : Expr} {s : Stmt}
    {l rest : List Lexeme} (h : readAssigned line n targets e l = some (s, rest)) :
    (s = .expr line e ∧ targets = [] ∧ rest = l) ∨ ∃ ts e', s = .assign ts e' := by
  induction n generalizing targets e l with
  | zero => cases h
  | succ n ih =>
    rw [readAssigned] at h
    split at h
    · obtain ⟨t, -, h⟩ := Option.bind_eq_some_iff.1 h
      obtain ⟨⟨next, l₁⟩, -, h⟩ := Option.bind_eq_some_iff.1 h
      rcases ih h with ⟨-, htargets, -⟩ | hassign
      · cases htargets
      · exact Or.inr hassign
    · cases targets with
      | nil =>
        cases h
        exact Or.inl ⟨rfl, rfl, rfl⟩
      | cons t targets =>
        cases h
        exact Or.inr ⟨_, _, rfl⟩

theorem readExprs_of_readSmall {n line : Nat} {e : Expr} {l rest : List Lexeme}
    (h : readSmall n l = some (.expr line e, rest)) : readExprs n l = some (e, rest) := by
  unfold readSmall at h
  split at h
  · cases h
  · split at h
    · obtain ⟨x, -, h⟩ := Option.map_eq_some_iff.1 h
      cases h
    · cases h
  · obtain ⟨x, -, h⟩ := Option.map_eq_some_iff.1 h
    cases h
  · cases h
  · obtain ⟨x, -, h⟩ := Option.map_eq_some_iff.1 h
    cases h
  · obtain ⟨⟨e₁, l₁⟩, hread, h⟩ := Option.bind_eq_some_iff.1 h
    rcases readAssigned_cases h with ⟨heq, -, rfl⟩ | ⟨ts, e', heq⟩
    · cases heq
      exact hread
    · cases heq
  · cases h

/-- The words that expressions start with. -/
theorem eq_of_startsExpr_word {w : String} {line : Nat} {l : List Lexeme}
    (h : startsExpr (⟨.word w, line⟩ :: l) = true) :
    w = "None" ∨ w = "True" ∨ w = "False" ∨ w = "not" ∨ w = "lambda" := by
  simpa [startsExpr] using h

/-- Where an expression starts no other statement of a line does. -/
theorem readSmall_of_startsExpr {n : Nat} {x : Lexeme} {l : List Lexeme}
    (h : startsExpr (x :: l) = true) :
    readSmall n (x :: l) =
      (readExprs n (x :: l)).bind fun r => readAssigned x.line n [] r.1 r.2 := by
  obtain ⟨token, line⟩ := x
  cases token with
  | word w => rcases eq_of_startsExpr_word h with rfl | rfl | rfl | rfl | rfl <;> rfl
  | mark m =>
    cases m with
    | star => cases h
    | _ => rfl
  | newline | indent | dedent => cases h
  | _ => rfl

theorem readStmt_of_startsExpr {n : Nat} {l : List Lexeme} (h : startsExpr l = true) :
    readStmt (n + 1) l = readLine n l := by
  cases l with
  | nil => cases h
  | cons x l =>
    obtain ⟨token, line⟩ := x
    cases token with
    | word w => rcases eq_of_startsExpr_word h with rfl | rfl | rfl | rfl | rfl <;> rfl
    | mark m =>
      cases m with
      | decorate => cases h
      | _ => rfl
    | newline | indent | dedent => cases h
    | _ => rfl

/-! ## Two readings of one block -/

/-- Tokens within a statement are no changes of indentation. -/
theorem flat_of_spans {p ls : List Lexeme} (hp : ∀ x ∈ p, x.token.endsStatement = false)
    (hls : ∀ x ∈ ls, x.token = .newline) : Flat (p ++ ls) := by
  intro x hx
  rcases List.mem_append.1 hx with hx | hx
  · have hinner := hp x hx
    cases htoken : x.token <;> simp_all [Token.endsStatement, Token.isChange]
  · rw [hls x hx]
    rfl

theorem isLayout_of_endsStatement {t : Token} (h : t.endsStatement = false) :
    t.isLayout = false := by
  cases t <;> first | rfl | cases h

/-- What an expression of a block has read: all but the line end. -/
theorem tokens_of_expression {source : String} {e : Expr} (h : expression? source = some e) :
    ∃ p line, (∀ x ∈ p, x.token.endsStatement = false) ∧
      tokensAsGiven? source = some (p ++ [⟨.newline, line⟩]) ∧
      tokens? source = some (p ++ [⟨.newline, line⟩]) ∧
      startsExpr (p ++ [⟨.newline, line⟩]) = true ∧
      Obtains 7 (readExprs · (p ++ [⟨.newline, line⟩])) (p ++ [⟨.newline, line⟩])
        [⟨.newline, line⟩] (e, [⟨.newline, line⟩]) := by
  obtain ⟨ls, hgiven, h⟩ := Option.bind_eq_some_iff.1 h
  obtain ⟨⟨e₁, rest⟩, hread, h⟩ := Option.bind_eq_some_iff.1 h
  dsimp only at h
  split at h
  case isFalse => cases h
  next hrest =>
  cases h
  obtain ⟨hstarts, hobtains⟩ := readExprs_obtains hread
  obtain ⟨p, rfl, hp⟩ := hobtains.spans
  have hnewlines : ∀ x ∈ rest, x.token = .newline := by
    intro x hx
    have hx := List.all_eq_true.1 hrest x hx
    split at hx
    · assumption
    · cases hx
  have hne : p ≠ [] := by
    rintro rfl
    cases rest with
    | nil => cases hstarts
    | cons x rest =>
      have hx := hnewlines x (.head _)
      obtain ⟨token, line⟩ := x
      cases hx
      cases hstarts
  have hlined := (lined_tokensAsGiven hgiven).of_append hne fun x hx =>
    isLayout_of_endsStatement (hp x hx)
  obtain ⟨line, rfl⟩ := hlined.eq_singleton hnewlines
  have hflat := flat_of_spans hp hnewlines
  exact ⟨p, line, hp, hgiven, tokens?_of_asGiven hgiven hflat, hstarts, hobtains⟩

theorem readLine_of_readExprs {n line : Nat} {x : Lexeme} {l : List Lexeme} {e : Expr}
    (hstarts : startsExpr (x :: l) = true)
    (hread : readExprs (n + 1) (x :: l) = some (e, [⟨.newline, line⟩])) :
    readLine (n + 2) (x :: l) = some ([.expr x.line e], []) := by
  have hsmall : readSmall (n + 1) (x :: l) = some (.expr x.line e, [⟨.newline, line⟩]) := by
    rw [readSmall_of_startsExpr hstarts, hread]
    rfl
  rw [readLine, hsmall]
  rfl

/-- **A block that is an expression** is the module of that expression. -/
theorem module?_of_expression {source : String} {e : Expr} (h : expression? source = some e) :
    ∃ line, module? source = some [.expr line e] := by
  obtain ⟨p, line, hp, -, htokens, hstarts, hobtains⟩ := tokens_of_expression h
  generalize p ++ [⟨.newline, line⟩] = l at htokens hstarts hobtains
  cases l with
  | nil => cases hstarts
  | cons x l =>
    have hfuel : fuelFor (x :: l) = (16 * (x :: l).length + 28) + 1 + 3 := by
      simp only [fuelFor]
      omega
    have hread := hobtains.enough (16 * (x :: l).length + 28 + 1) (by omega)
    have hline := readLine_of_readExprs hstarts hread
    refine ⟨x.line, ?_⟩
    simp only [module?, htokens, hfuel, Option.bind_eq_bind, Option.bind_some]
    rw [readModule, readStmt_of_startsExpr hstarts, hline]
    · rfl
    · exact List.cons_ne_nil _ _

/-- A module of one statement has read it on a line, unless it holds others. -/
theorem readSmall_of_readModule {n : Nat} {s : Stmt} {l : List Lexeme}
    (h : readModule n l = some [s]) (hs : s.isCompound = false) :
    ∃ k rest, readSmall k l = some (s, rest) ∧ ∃ end', rest = [⟨.newline, end'⟩] ∨
      ∃ line', rest = [⟨.mark .semicolon, line'⟩, ⟨.newline, end'⟩] := by
  cases l with
  | nil =>
    have hnil : some [] = some [s] := by
      rw [← h]
      cases n <;> rfl
    cases hnil
  | cons x l =>
    rcases n with _ | _ | n
    · cases h
    · cases h
    rw [readModule] at h
    case x_2 => exact List.cons_ne_nil _ _
    obtain ⟨⟨ss, l₁⟩, hstmt, h⟩ := Option.bind_eq_some_iff.1 h
    obtain ⟨more, hmore, h⟩ := Option.bind_eq_some_iff.1 h
    have happend : ss ++ more = [s] := Option.some.inj h
    have hss : ss = [s] ∧ more = [] := by
      rcases List.append_eq_singleton_iff.1 happend with ⟨hnil, -⟩ | hss
      · exact absurd hnil (readStmt_ne_nil hstmt)
      · exact hss
    obtain ⟨rfl, rfl⟩ := hss
    cases readModule_eq_nil hmore
    rcases readStmt_cases hstmt with hline | ⟨s', hs', hcompound⟩
    · exact readLine_singleton hline
    · cases hs'
      cases hs.symm.trans hcompound

/-- **A module of one expression** is an expression, but for what ends it. -/
theorem expression?_of_module {source : String} {line : Nat} {e : Expr}
    (h : module? source = some [.expr line e]) :
    expression? source = some e ∨ endsInSemicolon source = true ∨ endsInBlanks source = true := by
  obtain ⟨l, htokens, hmodule⟩ := Option.bind_eq_some_iff.1 h
  obtain ⟨k, rest, hsmall, end', hend⟩ := readSmall_of_readModule hmodule rfl
  have hread := readExprs_of_readSmall hsmall
  rcases hend with rfl | ⟨line', rfl⟩
  · have hobtains := (readExprs_obtains hread).2
    obtain ⟨p, rfl, hp⟩ := hobtains.spans
    have hflat : Flat (p ++ [⟨.newline, end'⟩]) := flat_of_spans hp (by simp)
    obtain ⟨tail, rfl | ⟨line', rfl⟩, hgiven⟩ := tokensAsGiven?_of_tokens htokens hflat
    · rw [List.append_nil] at hgiven
      have hread := hobtains.enough (fuelFor (p ++ [⟨.newline, end'⟩]))
        (by simp only [fuelFor]; omega)
      refine Or.inl ?_
      simp only [expression?, hgiven, hread, Option.bind_eq_bind, Option.bind_some]
      rfl
    · exact Or.inr (Or.inr (endsInBlanks_of_tokens hgiven))
  · obtain ⟨p, rfl, -⟩ := (readExprs_obtains hread).2.spans
    exact Or.inr (Or.inl (endsInSemicolon_of_tokens htokens))

/-- An expression ends in no semicolon, and in no blanks without a line end. -/
theorem ends_of_expression {source : String} {e : Expr} (h : expression? source = some e) :
    endsInSemicolon source = false ∧ endsInBlanks source = false := by
  obtain ⟨p, line, hp, hgiven, htokens, -, -⟩ := tokens_of_expression h
  refine ⟨?_, by simp [endsInBlanks, hgiven]⟩
  unfold endsInSemicolon
  split
  · next heq =>
    simp only [htokens, Option.map_some, List.reverse_append, List.reverse_cons, List.reverse_nil,
      List.nil_append, List.singleton_append, Option.some.injEq, List.cons.injEq] at heq
    have hmem := List.mem_reverse.1 (heq.2 ▸ List.mem_cons_self)
    cases hp _ hmem
  · rfl

/-! ## Returns -/

mutual

/-- Whether a statement returns where it stands, and not in a function of its own. -/
def Stmt.returns : Stmt → Bool
  | .return _ => true
  | .branch _ yes no => anyReturns yes || anyReturns no
  | _ => false

def anyReturns : List Stmt → Bool
  | [] => false
  | s :: rest => s.returns || anyReturns rest

end

mutual

/-- Outside a function a statement can run that could inside, unless it returns. -/
theorem runnable_outside (s : Stmt) : s.runnable false = (s.runnable true && !s.returns) := by
  cases s with
  | «return» e => rfl
  | branch cond yes no =>
    simp only [Stmt.runnable, Stmt.returns, allRunnable_outside yes, allRunnable_outside no]
    cases allRunnable true yes <;> cases allRunnable true no <;> cases anyReturns yes <;> simp
  | _ => simp [Stmt.runnable, Stmt.returns]

theorem allRunnable_outside (body : List Stmt) :
    allRunnable false body = (allRunnable true body && !anyReturns body) := by
  cases body with
  | nil => rfl
  | cons s rest =>
    simp only [allRunnable, anyReturns, runnable_outside s, allRunnable_outside rest]
    cases s.runnable true <;> cases s.returns <;> simp

end

/-! ## The strategy of a block -/

/-- Whether a body is one expression other than a call. -/
def isLone : List Stmt → Bool
  | [.expr _ e] => !e.isCall
  | _ => false

/-- What the first strategy has against a body that no strategy accepts. -/
def refusalOf (body : List Stmt) : Refusal :=
  match loneExpression? body with
  | some line => .notAStatement line
  | none => .malformed

theorem loneExpression?_cases (body : List Stmt) :
    (isLone body = true ∧ ∃ line e, body = [.expr line e] ∧ loneExpression? body = some line) ∨
    (isLone body = false ∧ ∃ line e, body = [.starred line e] ∧ loneExpression? body = some line) ∨
    (isLone body = false ∧ loneExpression? body = none) := by
  fun_cases loneExpression? body with
  | case1 line e hcall => exact Or.inr (Or.inr ⟨by simp [isLone, hcall], rfl⟩)
  | case2 line e hcall => exact Or.inl ⟨by simp [isLone, hcall], line, e, rfl, rfl⟩
  | case3 line e => exact Or.inr (Or.inl ⟨rfl, line, e, rfl, rfl⟩)
  | case4 _ hexpr hstarred =>
    refine Or.inr (Or.inr ⟨?_, rfl⟩)
    unfold isLone
    split
    · exact absurd rfl (hexpr _ _)
    · rfl

/-- A body that cannot run as a module is no expression. -/
theorem expression?_eq_none {source : String} {body : List Stmt}
    (hbody : module? source = some body) (hrunnable : allRunnable false body = false) :
    expression? source = none := by
  cases h : expression? source with
  | none => rfl
  | some e =>
    obtain ⟨line, hmodule⟩ := module?_of_expression h
    rw [hmodule] at hbody
    cases hbody
    cases hrunnable

/-- A lone expression is no expression of its own for what ends the block alone. -/
theorem ends_iff_of_lone {source : String} {body : List Stmt} (hbody : module? source = some body)
    (hlone : isLone body = true) :
    expression? source = none ↔ endsInSemicolon source = true ∨ endsInBlanks source = true := by
  constructor
  · intro hnone
    unfold isLone at hlone
    split at hlone
    · next line e =>
      rcases expression?_of_module hbody with hsome | hends
      · rw [hnone] at hsome
        cases hsome
      · exact hends
    · cases hlone
  · intro hends
    cases h : expression? source with
    | none => rfl
    | some e =>
      obtain ⟨hsemicolon, hblanks⟩ := ends_of_expression h
      rw [hsemicolon, hblanks] at hends
      rcases hends with hends | hends <;> cases hends

/-- When the second strategy takes a block. -/
def TakenAsExpression (source : String) (body : List Stmt) : Prop :=
  isLone body = true ∧ (expression? source).isSome = true

/-- When the first strategy takes a block. -/
def TakenAsIs (body : List Stmt) : Prop := isLone body = false ∧ allRunnable false body = true

/-- What comes of compiling a block that reads as a body. -/
inductive Chosen (source : String) (body : List Stmt) : Except CompileError Code → Prop
  | expression {line : Nat} {e : Expr} (h : TakenAsExpression source body)
      (hbody : body = [.expr line e]) : Chosen source body (.ok (.value e))
  | asIs (h : TakenAsIs body) : Chosen source body (.ok (.statements body))
  | block (hexpression : ¬ TakenAsExpression source body) (hasIs : ¬ TakenAsIs body)
      (h : allRunnable true body = true) : Chosen source body (.ok (.function body))
  | none (hexpression : ¬ TakenAsExpression source body) (hasIs : ¬ TakenAsIs body)
      (h : allRunnable true body = false) :
      Chosen source body (.error ⟨source, refusalOf body⟩)

theorem TakenAsIs.not_expression {source : String} {body : List Stmt} (h : TakenAsIs body) :
    ¬ TakenAsExpression source body := by
  intro hexpression
  rw [TakenAsIs, hexpression.1] at h
  cases h.1

theorem chosen_lone {source : String} {line : Nat} {e : Expr}
    (hbody : module? source = some [.expr line e]) (hlone : isLone [.expr line e] = true) :
    Chosen source [.expr line e] (compile source) := by
  have hasIs : ¬ TakenAsIs [.expr line e] := fun h => by
    rw [TakenAsIs, hlone] at h
    cases h.1
  have hrefused : compileAsIs (some [.expr line e]) = .error (.notAStatement line) := by
    have hcall : e.isCall = false := by simpa [isLone] using hlone
    simp [compileAsIs, loneExpression?, hcall]
  simp only [compile, hbody, hrefused]
  cases hexpression : expression? source with
  | some e' =>
    obtain ⟨line', hmodule⟩ := module?_of_expression hexpression
    rw [hmodule] at hbody
    cases hbody
    exact .expression ⟨hlone, by rw [hexpression]; rfl⟩ rfl
  | none => exact .block (fun h => by rw [TakenAsExpression, hexpression] at h; cases h.2) hasIs rfl

/-- **What comes of compiling** is settled by the body, but for lone expressions. -/
theorem chosen {source : String} {body : List Stmt} (hbody : module? source = some body) :
    Chosen source body (compile source) := by
  rcases loneExpression?_cases body with ⟨hlone, line, e, rfl, -⟩ |
    ⟨hlone, line, e, rfl, -⟩ | ⟨hlone, hline⟩
  · exact chosen_lone hbody hlone
  · have hnone := expression?_eq_none hbody rfl
    simp only [compile, hbody, hnone]
    refine .none (fun h => ?_) (fun h => ?_) rfl
    · cases hlone.symm.trans h.1
    · cases h.2
  · have hexpression : ¬ TakenAsExpression source body := fun h => by
      cases hlone.symm.trans h.1
    simp only [compile, hbody, compileAsIs, hline]
    cases hrunnable : allRunnable false body with
    | true => exact .asIs ⟨hlone, hrunnable⟩
    | false =>
      have hasIs : ¬ TakenAsIs body := fun h => by cases hrunnable.symm.trans h.2
      simp only [Bool.false_eq_true, if_false, expression?_eq_none hbody hrunnable,
        compileAsBlock?]
      cases hfunction : allRunnable true body with
      | true => exact .block hexpression hasIs hfunction
      | false =>
        have hnone := Chosen.none hexpression hasIs hfunction
        simpa [refusalOf, hline] using hnone

/-- The strategy of a block that reads as a body. -/
structure StrategyOf (source : String) (body : List Stmt) : Prop where
  /-- The value is that of the one expression. -/
  expression : ∀ code, (compile source = .ok code ∧ code.strategy = .expression) ↔
    TakenAsExpression source body ∧ ∃ line e, body = [.expr line e] ∧ code = .value e
  /-- The statements are those of the module. -/
  asIs : ∀ code, (compile source = .ok code ∧ code.strategy = .asIs) ↔
    TakenAsIs body ∧ code = .statements body
  /-- No statement of a module returns outside a function. -/
  returns : TakenAsIs body → anyReturns body = false
  /-- The body is that of a function. -/
  block : ∀ code, (compile source = .ok code ∧ code.strategy = .block) ↔
    ¬ TakenAsExpression source body ∧ ¬ TakenAsIs body ∧ allRunnable true body = true ∧
      code = .function body
  /-- Why a body is that of a function. -/
  because : allRunnable true body = true →
    (¬ TakenAsExpression source body ∧ ¬ TakenAsIs body ↔
      anyReturns body = true ∨
        isLone body = true ∧ (endsInSemicolon source = true ∨ endsInBlanks source = true))
  /-- Otherwise the block is given back with what is wrong with it. -/
  otherwise : ¬ TakenAsExpression source body → ¬ TakenAsIs body →
    allRunnable true body = false → compile source = .error ⟨source, refusalOf body⟩

theorem anyReturns_of_lone {body : List Stmt} (h : isLone body = true) :
    anyReturns body = false := by
  unfold isLone at h
  split at h
  · rfl
  · cases h

/-- Why neither strategy takes a body before that of a function. -/
theorem not_taken_iff {source : String} {body : List Stmt}
    (hbody : module? source = some body) (hrunnable : allRunnable true body = true) :
    ¬ TakenAsExpression source body ∧ ¬ TakenAsIs body ↔
      anyReturns body = true ∨
        isLone body = true ∧ (endsInSemicolon source = true ∨ endsInBlanks source = true) := by
  have houtside := allRunnable_outside body
  rw [hrunnable, Bool.true_and] at houtside
  cases hlone : isLone body with
  | true =>
    simp [TakenAsExpression, TakenAsIs, hlone, anyReturns_of_lone hlone,
      ← ends_iff_of_lone hbody hlone]
  | false => simp [TakenAsExpression, TakenAsIs, hlone, houtside]

theorem strategyOf {source : String} {body : List Stmt} (hbody : module? source = some body) :
    StrategyOf source body where
  expression code := by
    have hchosen := chosen hbody
    constructor
    · rintro ⟨hok, hstrategy⟩
      rw [hok] at hchosen
      cases hchosen with
      | expression h hshape => exact ⟨h, _, _, hshape, rfl⟩
      | asIs | block => cases hstrategy
    · rintro ⟨h, line, e, rfl, rfl⟩
      generalize compile source = result at hchosen
      cases hchosen with
      | expression _ hshape =>
        cases hshape
        exact ⟨rfl, rfl⟩
      | asIs hasIs => exact absurd h hasIs.not_expression
      | block hexpression | none hexpression => exact absurd h hexpression
  asIs code := by
    have hchosen := chosen hbody
    constructor
    · rintro ⟨hok, hstrategy⟩
      rw [hok] at hchosen
      cases hchosen with
      | asIs h => exact ⟨h, rfl⟩
      | expression | block => cases hstrategy
    · rintro ⟨h, rfl⟩
      generalize compile source = result at hchosen
      cases hchosen with
      | asIs => exact ⟨rfl, rfl⟩
      | expression hexpression => exact absurd hexpression h.not_expression
      | block _ hasIs | none _ hasIs => exact absurd h hasIs
  returns h := by
    have houtside := allRunnable_outside body
    rw [h.2] at houtside
    cases hreturns : anyReturns body with
    | false => rfl
    | true => simp [hreturns] at houtside
  block code := by
    have hchosen := chosen hbody
    constructor
    · rintro ⟨hok, hstrategy⟩
      rw [hok] at hchosen
      cases hchosen with
      | block hexpression hasIs h => exact ⟨hexpression, hasIs, h, rfl⟩
      | expression | asIs => cases hstrategy
    · rintro ⟨hexpression, hasIs, h, rfl⟩
      generalize compile source = result at hchosen
      cases hchosen with
      | block => exact ⟨rfl, rfl⟩
      | expression h => exact absurd h hexpression
      | asIs h => exact absurd h hasIs
      | none _ _ hfunction => cases h.symm.trans hfunction
  because := not_taken_iff hbody
  otherwise hexpression hasIs h := by
    have hchosen := chosen hbody
    generalize compile source = result at hchosen
    cases hchosen with
    | none => rfl
    | expression h => exact absurd h hexpression
    | asIs h => exact absurd h hasIs
    | block _ _ hfunction => cases h.symm.trans hfunction

/-- A name with blanks below it is read as a module of that name. -/
theorem module?_blank_end : module? "x\n  " = some [.expr 1 (.name "x")] := by
  have htokens : tokens? "x\n  " = some [⟨.name "x", 1⟩, ⟨.newline, 1⟩] := rfl
  unfold module?
  rw [htokens]
  rfl

end LiterateConfig.Script
