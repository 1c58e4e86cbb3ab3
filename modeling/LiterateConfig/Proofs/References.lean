import LiterateConfig.Proofs.Composition
import LiterateConfig.Proofs.Lexing
import LiterateConfig.Proofs.QuotedTexts

/-!
# Bare references are built as they are written

A bare reference is wrapped in code, the code is compiled and run, and the component is
taken from its value. Nothing of the reference is lost on the way: it is quoted, read back
as a literal, and ends up as the source of one component.

Results:
* `lex_reference`: the tokens of the code around a text;
* `compile_wrapReference`: it compiles to a list of one dictionary that has the text;
* `valueOf?_wrapReference`: its value, and the heap that is left;
* `build_bareReference`: a bare reference alone gives one spec, and its source is the body.
-/
namespace LiterateConfig

open LiterateConfig.Text

namespace Script

/-! ## The tokens -/

/-- A quoted text is one token. -/
theorem step_quoteChars (st : Reading) (l : List Char) {rest : List Char}
    (hrest : ∀ q ∈ rest.head?, q ≠ '\'' ∧ q ≠ '"') :
    step st false (quoteChars l ++ rest) =
      .goes [⟨.text (String.ofList l), st.line⟩] st false rest := by
  have hline : linesRead (quoteChars l ++ rest) rest = 0 := by
    have hcount : (quoteChars l).count '\n' = 0 :=
      List.count_eq_zero.2 fun h => (mem_quoteChars h).1 rfl
    simpa [linesRead] using hcount
  have hliteral : literalAt? (quoteChars l ++ rest) = some (.text (String.ofList l), rest) := by
    unfold literalAt?
    rw [if_pos (startsText_quoteChars l rest), textAt?_quoteChars l hrest]
  have hstep : step st false (quoteChars l ++ rest) = tokenStep st (quoteChars l ++ rest) := by
    unfold quoteChars
    rcases quoteFor_eq_or l with hq | hq <;> rw [hq] <;> rfl
  rw [hstep]
  unfold tokenStep
  rw [hliteral]
  dsimp only
  rw [hline, Nat.add_zero]

/-- The lexemes of a list of one dictionary whose `source` is a text. -/
def referenceLexemes (reference : String) : List Lexeme :=
  [.mark .openSquare, .mark .openCurly, .text "source", .mark .colon, .text reference,
    .mark .closeCurly, .mark .closeSquare, .newline].map (⟨·, 1⟩)

/-- The last line may have an end or not. -/
theorem lex_behindReference (fuel : Nat) {rest : List Char} (hrest : rest = [] ∨ rest = ['\n']) :
    lex (fuel + 4) ⟨[], [.openCurly, .openSquare], 1⟩ false ('}' :: ']' :: rest) =
      some [⟨.mark .closeCurly, 1⟩, ⟨.mark .closeSquare, 1⟩, ⟨.newline, 1⟩] := by
  rcases hrest with rfl | rfl <;> rfl

/-- **The tokens of the code around a text.** -/
theorem lex_reference (fuel : Nat) (l : List Char) {rest : List Char}
    (hrest : rest = [] ∨ rest = ['\n']) :
    lex (fuel + 10) ⟨[], [], 1⟩ true
      ("[\x7b'source': ".toList ++ (quoteChars l ++ '}' :: ']' :: rest)) =
      some (referenceLexemes (String.ofList l)) := by
  have hquoted : step ⟨[], [.openCurly, .openSquare], 1⟩ false
      (' ' :: (quoteChars l ++ '}' :: ']' :: rest)) =
      .goes [⟨.text (String.ofList l), 1⟩] ⟨[], [.openCurly, .openSquare], 1⟩ false
        ('}' :: ']' :: rest) :=
    step_quoteChars ⟨[], [.openCurly, .openSquare], 1⟩ l (by simp)
  have hbehind := lex_of_goes hquoted (lex_behindReference fuel hrest)
  generalize quoteChars l ++ '}' :: ']' :: rest = r at hbehind ⊢
  have hstart : step ⟨[], [], 1⟩ true ("[\x7b'source': ".toList ++ r) =
      .goes [] ⟨[], [], 1⟩ false ("[\x7b'source': ".toList ++ r) := rfl
  have hsquare : step ⟨[], [], 1⟩ false ("[\x7b'source': ".toList ++ r) =
      .goes [⟨.mark .openSquare, 1⟩] ⟨[], [.openSquare], 1⟩ false
        ("\x7b'source': ".toList ++ r) := rfl
  have hcurly : step ⟨[], [.openSquare], 1⟩ false ("\x7b'source': ".toList ++ r) =
      .goes [⟨.mark .openCurly, 1⟩] ⟨[], [.openCurly, .openSquare], 1⟩ false
        ("'source': ".toList ++ r) := rfl
  have hclose : ∀ q ∈ (':' :: ' ' :: r).head?, q ≠ '\'' ∧ q ≠ '"' := by simp
  have hkey : step ⟨[], [.openCurly, .openSquare], 1⟩ false ("'source': ".toList ++ r) =
      .goes [⟨.text "source", 1⟩] ⟨[], [.openCurly, .openSquare], 1⟩ false (':' :: ' ' :: r) :=
    step_quoteChars ⟨[], [.openCurly, .openSquare], 1⟩ "source".toList hclose
  have hcolon : step ⟨[], [.openCurly, .openSquare], 1⟩ false (':' :: ' ' :: r) =
      .goes [⟨.mark .colon, 1⟩] ⟨[], [.openCurly, .openSquare], 1⟩ false (' ' :: r) := rfl
  exact lex_of_goes hstart <| lex_of_goes hsquare <| lex_of_goes hcurly <| lex_of_goes hkey <|
    lex_of_goes hcolon hbehind

/-! ## The code -/

/-- A list of one dictionary whose `source` is a text. -/
def referenceExpr (reference : String) : Expr := .list [.dict [(.text "source", .text reference)]]

theorem toList_wrapReference (reference : String) :
    (Component.wrapReference reference).toList =
      "[\x7b'source': ".toList ++ (quoteChars reference.toList ++ ['}', ']']) := by
  simp [Component.wrapReference, quoted]

/-- The code stays on one line. -/
theorem staysOnLine_of_mem_wrapReference {reference : String} {c : Char}
    (h : c ∈ (Component.wrapReference reference).toList) : StaysOnLine c := by
  have hfront : "[\x7b'source': ".toList.all (fun c => decide (StaysOnLine c)) := by decide
  have hback : ['}', ']'].all (fun c => decide (StaysOnLine c)) := by decide
  rw [toList_wrapReference, List.mem_append, List.mem_append] at h
  rcases h with h | h | h
  · exact of_decide_eq_true (List.all_eq_true.1 hfront c h)
  · exact mem_quoteChars h
  · exact of_decide_eq_true (List.all_eq_true.1 hback c h)

theorem lexemes?_wrapReference (reference : String) {rest : List Char}
    (hrest : rest = [] ∨ rest = ['\n']) :
    lexemes? ((Component.wrapReference reference).toList ++ rest) =
      some (referenceLexemes reference) := by
  have hnull : ((Component.wrapReference reference).toList ++ rest).contains (Char.ofNat 0) =
      false := by
    rw [Bool.eq_false_iff, ne_eq, List.contains_iff_mem, List.mem_append, not_or]
    refine ⟨fun h => (staysOnLine_of_mem_wrapReference h).2.2 rfl, ?_⟩
    rcases hrest with rfl | rfl <;> decide
  have hlex (fuel : Nat) := lex_reference fuel reference.toList hrest
  rw [String.ofList_toList] at hlex
  unfold lexemes?
  rw [hnull, if_neg Bool.false_ne_true, toList_wrapReference]
  simp only [List.append_assoc, List.cons_append, List.nil_append]
  obtain ⟨fuel, hfuel⟩ : ∃ fuel, 2 * ("[\x7b'source': ".toList ++
      (quoteChars reference.toList ++ '}' :: ']' :: rest)).length + 2 = fuel + 10 := by
    refine ⟨2 * ((quoteChars reference.toList).length + rest.length) + 20, ?_⟩
    have hlength : "[\x7b'source': ".toList.length = 12 := rfl
    simp only [List.length_append, List.length_cons, hlength]
    omega
  rw [hfuel, hlex]

theorem tokens?_wrapReference (reference : String) :
    tokens? (Component.wrapReference reference) = some (referenceLexemes reference) ∧
      tokensAsGiven? (Component.wrapReference reference) = some (referenceLexemes reference) := by
  have hbreaks : unifyBreaks (Component.wrapReference reference).toList =
      (Component.wrapReference reference).toList :=
    unifyBreaks_of_not_mem fun h => (staysOnLine_of_mem_wrapReference h).2.1 rfl
  have hlast : (Component.wrapReference reference).toList.getLast? = some ']' := by
    rw [toList_wrapReference, ← List.append_assoc, List.getLast?_append]
    rfl
  have hnonempty : (Component.wrapReference reference).toList.isEmpty = false := by
    simp [toList_wrapReference]
  constructor
  · unfold tokens?
    dsimp only
    rw [hbreaks, hlast, hnonempty]
    exact lexemes?_wrapReference reference (Or.inr rfl)
  · unfold tokensAsGiven?
    rw [hbreaks]
    simpa using lexemes?_wrapReference reference (Or.inl rfl)

/-- **The code around a text** has the value of a list of one dictionary. -/
theorem compile_wrapReference (reference : String) :
    compile (Component.wrapReference reference) = .ok (.value (referenceExpr reference)) := by
  obtain ⟨hmodule, hgiven⟩ := tokens?_wrapReference reference
  have hread : module? (Component.wrapReference reference) =
      some [.expr 1 (referenceExpr reference)] := by
    unfold module?
    rw [hmodule]
    rfl
  have hexpr : expression? (Component.wrapReference reference) =
      some (referenceExpr reference) := by
    unfold expression?
    rw [hgiven]
    rfl
  rw [compile, hread, hexpr]
  rfl

end Script

namespace Component

open LiterateConfig.Block (Classified)
open LiterateConfig.Script (Heap Machine Value)

/-! ## The value -/

/-- The pairs of the dictionary. -/
def referencePairs (reference : String) : List (Value × Value) :=
  [(.text "source", .text reference)]

/-- **The value of the code around a text**, and where it stands. -/
theorem valueOf?_wrapReference (host : Script.Host) (convention reference : String)
    (m : Machine) :
    ∃ a d m', valueOf? (compiled? host convention (wrapReference reference)) m =
        (.ok (some (.ref a)), m') ∧
      m'.heap.get? a = some (.list [.ref d]) ∧
      m'.heap.get? d = some (.dict (referencePairs reference)) := by
  let h₁ := m.heap.alloc (.globals (Script.startNames host))
  let h₂ := h₁.2.alloc (.dict (referencePairs reference))
  let h₃ := h₂.2.alloc (.list [.ref h₂.1])
  have hcode : compiled? host convention (wrapReference reference) =
      some ⟨.value (Script.referenceExpr reference), some convention, host⟩ := by
    unfold compiled?
    rw [Script.compile_wrapReference]
    rfl
  have hold : h₂.1 < h₂.2.size := by simp [h₂, Heap.alloc, Heap.size]
  refine ⟨h₃.1, h₂.1, ⟨h₃.2, m.printed⟩, ?_, Heap.get?_alloc_new _ _, ?_⟩
  · rw [hcode]
    rfl
  · rw [Heap.get?_alloc_old hold]
    exact Heap.get?_alloc_new _ _

/-! ## The component -/

/-- A component that has a source and nothing else. -/
def Spec.ofSource (source : String) (manual : Bool) (blockIndex : Option Int) : Spec :=
  { Spec.empty with source := some source, manual, blockIndex }

theorem valueOf_singleton (key k : String) (v : Value) :
    valueOf key [(.text k, v)] = if k = key then v else .nothing := by
  have hpair : valueOf key [(.text k, v)] =
      (if Value.isSame (.text k) (.text key) then some v else none).getD .nothing := rfl
  rw [hpair]
  by_cases hkey : k = key
  · simp [hkey, Value.isSame]
  · simp [hkey, Value.isSame]

theorem filledText?_source {reference : String} (hne : reference ≠ "") :
    filledText? (valueOf "source" (referencePairs reference)) = some reference := by
  simp [referencePairs, valueOf_singleton, filledText?, hne]

theorem isSpecLike_referencePairs {h : Heap} {d : Nat} {reference : String}
    (hd : h.get? d = some (.dict (referencePairs reference))) (hne : reference ≠ "") :
    isSpecLike h (.ref d) = true := by
  have hpairs : pairs? h (.ref d) = some (referencePairs reference) :=
    pairs?_eq_some_iff.2 ⟨d, rfl, hd⟩
  simp [isSpecLike, hpairs, describesComponent, filledText?_source hne]

/-- A dictionary without a hook, a path, an import and a mark of its own. -/
theorem ofPairs_of_nothing {pairs : List (Value × Value)}
    (hconfig : valueOf "config" pairs = .nothing) (hpath : valueOf "path" pairs = .nothing)
    (himport : valueOf "import" pairs = .nothing) (hmanual : valueOf "manual" pairs = .nothing)
    (manual : Bool) (blockIndex : Option Int) (m : Machine) :
    Spec.ofPairs pairs manual blockIndex m =
      (.ok ⟨filledText? (valueOf "source" pairs), none, none,
        pairs.filter fun p => !isReserved p.1, manual, none, [], blockIndex⟩, m) := by
  have hnone : textIfTrue .nothing m = (.ok none, m) := rfl
  unfold Spec.ofPairs
  rw [Script.heap_bind, hconfig, hpath, himport, hmanual]
  rw [Try.bind_of_ok hnone, Try.bind_of_ok hnone]
  simp only [Value.isTrue, Value.isCallable, Bool.false_eq_true, ↓reduceIte, List.append_nil,
    Bool.or_false]
  rfl

theorem ofValue_referencePairs {m : Machine} {d : Nat} {reference : String}
    (hd : m.heap.get? d = some (.dict (referencePairs reference))) (hne : reference ≠ "")
    (manual : Bool) (blockIndex : Option Int) :
    Spec.ofValue (.ref d) manual blockIndex m =
      (.ok (Spec.ofSource reference manual blockIndex), m) := by
  have hpairs : pairs? m.heap (.ref d) = some (referencePairs reference) :=
    pairs?_eq_some_iff.2 ⟨d, rfl, hd⟩
  have hattributes : (referencePairs reference).filter (fun p => !isReserved p.1) = [] := by
    have hreserved : isReserved (.text "source") = true := by decide
    simp [referencePairs, hreserved]
  rw [ofValue_of_pairs? hpairs, ofPairs_of_nothing, filledText?_source hne, hattributes]
  · rfl
  all_goals exact (valueOf_singleton _ _ _).trans (if_neg (by decide))

/-- A list of one item that describes a component declares it. -/
theorem valueParts_item (c : Classified) (source : String) {a : Nat} {v : Value} {s : Spec}
    {w : World} (ha : w.heap.get? a = some (.list [v])) (hv : isSpecLike w.heap v = true)
    (hs : Spec.ofValue v c.block.manual (some c.index) w.machine = (.ok s, w.machine)) :
    (valueParts c source (.ref a) w).1 = .ok [.spec s] := by
  have hitems : items? w.heap (.ref a) = some ([v], true) := by
    simp [items?, Heap.object?, ha]
  have hparts : (itemPart c v w).1 = .ok (.spec s) := by
    unfold itemPart
    rw [Try.getWorld_bind, if_pos hv, Try.bind_of_ok (onMachine_of_ok hs)]
    rfl
  have hpart : itemPart c v w = (.ok _, _) := Prod.ext hparts rfl
  unfold valueParts
  rw [Try.getWorld_bind, shapeOf_of_items? hitems, hitems]
  show (itemParts c [v] w).1 = _
  unfold itemParts
  rw [Try.bind_of_ok hpart]
  rfl

/-- The parts of code that gives a value are those of the value. -/
theorem specParts_of_value {host : Script.Host} {convention source : String} {c : Classified}
    {w : World} {u : Value} {m : Machine} {ps : List Part}
    (hu : valueOf? (compiled? host convention source) w.machine = (.ok (some u), m))
    (hparts : ∀ w', w'.machine = m → (valueParts c source u w').1 = .ok ps) :
    (specParts host convention c source w).1 = .ok ps := by
  obtain ⟨w', hw', hm⟩ := (runs_evaluate host "component spec" c.index _ _).of_ok hu
  unfold specParts
  rw [Try.bind_of_ok hw']
  exact hparts w' hm

/-- **A bare reference declares one component**, whose source is the body. -/
theorem blockParts_bareReference (host : Script.Host) (convention : String) {c : Classified}
    (hc : c.kind = .bareReference) (hne : c.body ≠ "") (w : World) :
    (blockParts host convention c w).1 =
      .ok [.spec (Spec.ofSource c.body c.block.manual (some c.index))] := by
  unfold blockParts
  rw [hc]
  dsimp only
  rw [Try.act_bind]
  generalize (note _ _ _ _ w).2 = w
  obtain ⟨a, d, m', hvalue, hlist, hdict⟩ :=
    valueOf?_wrapReference host convention c.body w.machine
  refine specParts_of_value hvalue ?_
  rintro w' rfl
  exact valueParts_item c _ hlist (isSpecLike_referencePairs hdict hne)
    (ofValue_referencePairs hdict hne _ _)

/-! ## The block -/

/-- A bare reference has a slash. -/
theorem ne_empty_of_bareReference {convention : String} {b : Block}
    (hb : (Block.classify convention b).kind = .bareReference) :
    (Block.classify convention b).body ≠ "" := by
  intro hempty
  have hslash : ¬ Block.isBareReference convention.toList [] = true := by
    simp [Block.isBareReference]
  have hkind : (Block.classify convention b).kind =
      if (Block.readMarkers (Block.normalize b.normalized)).1.contains .disable then .disabled
      else Block.bodyKind convention.toList (Block.classify convention b).body.toList := rfl
  rw [hkind, hempty] at hb
  split at hb
  · cases hb
  · simp only [Block.bodyKind, String.toList_empty, if_neg hslash] at hb
    split at hb
    · cases hb
    split at hb
    · cases hb
    · cases hb

/-- **Bare references are built as they are written.** -/
theorem build_bareReference (convention convention' : String) (host : Script.Host)
    {b : Block} (hb : (Block.classify convention b).kind = .bareReference) (w : World) :
    ∃ s, (build host convention' [Block.classify convention b] w).1 = .ok ([s], []) ∧
      s.source = some (Block.classify convention b).body ∧
      s.identifier = some (Block.classify convention b).body ∧
      s.desiredKey = some (Block.classify convention b).body ∧
      s.path = none ∧ s.importName = none ∧ s.config = none ∧ s.attributes = [] ∧
      s.manual = (Block.readMarkers (Block.normalize b.normalized)).1.contains .manual := by
  have hne := ne_empty_of_bareReference hb
  have hmanual : (Block.classify convention b).block.manual =
      (Block.readMarkers (Block.normalize b.normalized)).1.contains .manual := rfl
  rw [← hmanual]
  generalize Block.classify convention b = c at *
  have hgiven : Spec.given (some c.body) = some c.body := by simp [Spec.given, hne]
  refine ⟨Spec.ofSource c.body c.block.manual (some c.index),
    build_singleton (blockParts_bareReference host convention' hb hne w), rfl, ?_, ?_, rfl, rfl,
    rfl, rfl, rfl⟩
  · simp [Spec.identifier, Spec.ofSource, hgiven]
  · exact Spec.desiredKey_of_source hgiven

/-- A reference with a backslash, brackets, a hash sign and a character that is not printed,
under a marker. -/
def oddReference : Block :=
  ⟨3, "", "# @ manual\na\\x/[b]#\u200b", .unspecified, false, false, none⟩

/-- Every character of it is kept, and the marker is read. -/
theorem build_bareReference_oddReference :
    (Block.classify "spec" oddReference).kind = .bareReference ∧
      ∀ w, ∃ s, (build [] "spec" [Block.classify "spec" oddReference] w).1 = .ok ([s], []) ∧
        s.source = some "a\\x/[b]#\u200b" ∧ s.manual = true := by
  have hkind : (Block.classify "spec" oddReference).kind = .bareReference := by decide +kernel
  have hread : Block.readMarkers (Block.normalize oddReference.normalized) =
      ([.manual], "a\\x/[b]#\u200b") := by decide +kernel
  refine ⟨hkind, fun w => ?_⟩
  obtain ⟨s, hs, hsource, -, -, -, -, -, -, hmanual⟩ := build_bareReference "spec" "spec" [] hkind w
  have hbody : (Block.classify "spec" oddReference).body = "a\\x/[b]#\u200b" :=
    congrArg Prod.snd hread
  rw [hread] at hmanual
  exact ⟨s, hs, hbody ▸ hsource, hmanual⟩

end Component

end LiterateConfig
