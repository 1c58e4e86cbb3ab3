import LiterateConfig.Proofs.Markers
import LiterateConfig.Proofs.Names
import LiterateConfig.Proofs.Opening
import LiterateConfig.Proofs.References

/-!
# Which conventions declare anything

Loading settings accepts every name as the convention. A block that assigns to that name is
taken for one that declares components, whatever the name is. But three kinds of names cannot
be used so: the code cannot bind reserved words and `__debug__`, and a name that is not in
composed form is bound in that form, while the value is looked up under the name as it stands.

**Declarations.** `declaration name`: the text that assigns a list of one reference to the
name. `Usable name`: the name can be bound and is what it is bound as.

Results:
* `isName_of_load`: the convention of loaded settings is a name;
* `compile_declaration`, `compile_declaration_reserved`: what declarations compile to;
* `Script.run_assignment`: the value of an assignment under a name;
* `classify_declaration`: a declaration is taken for one;
* `build_declaration_iff`: what is built from a declaration, by its name.
-/
namespace LiterateConfig

open LiterateConfig.Text

/-! ## Conventions that are accepted -/

namespace Settings

open LiterateConfig.Files (Disk Path)
open LiterateConfig.Yaml (Datum Document)

variable {α β : Type}

theorem bind_ok_iff {x : Except Problem α} {f : α → Except Problem β} {b : β} :
    (x >>= f) = .ok b ↔ ∃ a, x = .ok a ∧ f a = .ok b := by
  cases x with
  | error e =>
    show (Except.error e : Except Problem β) = .ok b ↔ _
    simp
  | ok a =>
    show f a = .ok b ↔ _
    simp

theorem isName_of_readAt {pairs : List (Datum × Datum)} {c : Option String}
    (h : readAt "convention" pairs requireName = .ok c) : ∀ s ∈ c, isName s = true := by
  obtain ⟨s?, -, h⟩ := bind_ok_iff.1 h
  cases s? with
  | none =>
    cases h
    exact nofun
  | some s =>
    change some <$> requireName s = .ok c at h
    unfold requireName at h
    split at h
    · cases h
      rintro _ ⟨⟩
      assumption
    · cases h

theorem isName_usual (root : Path) : isName (usual root).convention = true := by
  have hspec : isName "spec" = true := by decide +kernel
  exact hspec

theorem isName_of_ofPairs {disk : Disk} {root : Path} {doc : Document}
    {pairs : List (Datum × Datum)} {s : Settings} (h : ofPairs disk root doc pairs = .ok s) :
    isName s.convention = true := by
  obtain ⟨document, -, h⟩ := bind_ok_iff.1 h
  obtain ⟨languages, -, h⟩ := bind_ok_iff.1 h
  obtain ⟨stateDirectory, -, h⟩ := bind_ok_iff.1 h
  obtain ⟨convention, hconvention, h⟩ := bind_ok_iff.1 h
  obtain ⟨keyPattern, -, h⟩ := bind_ok_iff.1 h
  obtain ⟨logFile, -, h⟩ := bind_ok_iff.1 h
  cases h
  cases convention with
  | none => exact isName_usual root
  | some c => exact isName_of_readAt hconvention c rfl

/-- **The convention of loaded settings is a name.** -/
theorem isName_of_load {disk : Disk} {p : Path} {s : Settings} (h : load disk p = .ok s) :
    isName s.convention = true := by
  obtain ⟨file, -, h⟩ := bind_ok_iff.1 h
  obtain ⟨root, -, h⟩ := bind_ok_iff.1 h
  obtain ⟨there, -, h⟩ := bind_ok_iff.1 h
  split at h
  · obtain ⟨text, -, h⟩ := bind_ok_iff.1 h
    obtain ⟨⟨doc, pairs⟩, -, h⟩ := bind_ok_iff.1 h
    exact isName_of_ofPairs h
  · cases h
    exact isName_usual root

end Settings

/-! ## Declarations -/

/-- The text that assigns a list of one reference to a name. -/
def declaration (name : String) : String := name ++ " = ['a/b']"

/-- What stands behind the name. -/
def declarationEnd : List Char := " = ['a/b']".toList

theorem toList_declaration (name : String) :
    (declaration name).toList = name.toList ++ declarationEnd := String.toList_append

namespace Script

/-- The name can be bound, and is what it is bound as. -/
structure Usable (name : String) : Prop where
  free : name ∉ reservedWords
  bindable : canBind name = true
  composed : composeName name = name

instance (name : String) : Decidable (Usable name) :=
  decidable_of_iff (name ∉ reservedWords ∧ canBind name = true ∧ composeName name = name)
    ⟨fun ⟨hfree, hbind, hcomposed⟩ => ⟨hfree, hbind, hcomposed⟩,
      fun h => ⟨h.free, h.bindable, h.composed⟩⟩

/-! ## The tokens -/

/-- The lexemes of a declaration, `t` being the token of its name. -/
def declarationLexemes (t : Token) : List Lexeme :=
  [t, .mark .assign, .mark .openSquare, .text "a/b", .mark .closeSquare, .newline].map (⟨·, 1⟩)

/-- The last line may have an end or not. -/
theorem lex_behindText (fuel : Nat) {rest : List Char} (hrest : rest = [] ∨ rest = ['\n']) :
    lex (fuel + 4) ⟨[], [.openSquare], 1⟩ false (']' :: rest) =
      some [⟨.mark .closeSquare, 1⟩, ⟨.newline, 1⟩] := by
  rcases hrest with rfl | rfl <;> rfl

theorem lex_declared (fuel : Nat) {rest : List Char} (hrest : rest = [] ∨ rest = ['\n']) :
    lex (fuel + 7) ⟨[], [], 1⟩ false (declarationEnd ++ rest) =
      some ([.mark .assign, .mark .openSquare, .text "a/b", .mark .closeSquare, .newline].map
        (⟨·, 1⟩)) := by
  have hassign : step ⟨[], [], 1⟩ false (declarationEnd ++ rest) =
      .goes [⟨.mark .assign, 1⟩] ⟨[], [], 1⟩ false (" ['a/b']".toList ++ rest) := rfl
  have hsquare : step ⟨[], [], 1⟩ false (" ['a/b']".toList ++ rest) =
      .goes [⟨.mark .openSquare, 1⟩] ⟨[], [.openSquare], 1⟩ false ("'a/b']".toList ++ rest) := rfl
  have hclose : ∀ q ∈ (']' :: rest).head?, q ≠ '\'' ∧ q ≠ '"' := by simp
  have htext : step ⟨[], [.openSquare], 1⟩ false ("'a/b']".toList ++ rest) =
      .goes [⟨.text "a/b", 1⟩] ⟨[], [.openSquare], 1⟩ false (']' :: rest) :=
    step_quoteChars ⟨[], [.openSquare], 1⟩ "a/b".toList hclose
  exact lex_of_goes hassign <| lex_of_goes hsquare <| lex_of_goes htext <|
    lex_behindText fuel hrest

/-- **The tokens of a declaration.** -/
theorem lex_declaration {name : String} (h : isName name = true) (fuel : Nat) {rest : List Char}
    (hrest : rest = [] ∨ rest = ['\n']) :
    lex (fuel + 9) ⟨[], [], 1⟩ true (name.toList ++ (declarationEnd ++ rest)) =
      some (declarationLexemes (nameToken name)) := by
  have hchars : isNameChars name.toList = true := h
  have hstart := step_start_name hchars (declarationEnd ++ rest)
  have hspace : mayBeInName ' ' = false ∧ ' ' ≠ '\'' ∧ ' ' ≠ '"' := by decide
  have hname := step_name ⟨[], [], 1⟩ h hspace.1 hspace.2 ("= ['a/b']".toList ++ rest)
  exact lex_of_goes hstart (lex_of_goes hname (lex_declared fuel hrest))

/-- The text stays on one line. -/
theorem getLast?_declaration (name : String) : (declaration name).toList.getLast? = some ']' := by
  have hend : declarationEnd.getLast? = some ']' := by decide
  rw [toList_declaration, List.getLast?_append, hend, Option.some_or]

theorem not_mem_declaration {name : String} (h : isName name = true) {c : Char}
    (hc : mayBeInName c = false) (hother : c ∉ declarationEnd) :
    c ∉ (declaration name).toList := by
  rw [toList_declaration, List.mem_append, not_or]
  exact ⟨not_mem_of_isNameChars h hc, hother⟩

theorem lexemes?_declaration {name : String} (h : isName name = true) {rest : List Char}
    (hrest : rest = [] ∨ rest = ['\n']) :
    lexemes? ((declaration name).toList ++ rest) = some (declarationLexemes (nameToken name)) := by
  have hnull : ((declaration name).toList ++ rest).contains (Char.ofNat 0) = false := by
    rw [Bool.eq_false_iff, ne_eq, List.contains_iff_mem, List.mem_append, not_or]
    refine ⟨not_mem_declaration h (by decide) (by decide), ?_⟩
    rcases hrest with rfl | rfl <;> decide
  unfold lexemes?
  rw [hnull, if_neg Bool.false_ne_true, toList_declaration, List.append_assoc]
  obtain ⟨fuel, hfuel⟩ :
      ∃ fuel, 2 * (name.toList ++ (declarationEnd ++ rest)).length + 2 = fuel + 9 := by
    refine ⟨2 * (name.toList.length + rest.length) + 13, ?_⟩
    have hlength : declarationEnd.length = 10 := rfl
    simp only [List.length_append, hlength]
    omega
  rw [hfuel, lex_declaration h fuel hrest]

theorem tokens?_declaration {name : String} (h : isName name = true) :
    tokens? (declaration name) = some (declarationLexemes (nameToken name)) ∧
      tokensAsGiven? (declaration name) = some (declarationLexemes (nameToken name)) := by
  have hreturn : mayBeInName '\r' = false ∧ '\r' ∉ declarationEnd := by decide
  have hbreaks : unifyBreaks (declaration name).toList = (declaration name).toList :=
    unifyBreaks_of_not_mem (not_mem_declaration h hreturn.1 hreturn.2)
  have hnonempty : (declaration name).toList.isEmpty = false := by
    have hne : declarationEnd ≠ [] := by decide
    rw [toList_declaration, List.isEmpty_eq_false_iff]
    exact List.append_ne_nil_of_right_ne_nil _ hne
  constructor
  · unfold tokens?
    dsimp only
    rw [hbreaks, getLast?_declaration, hnonempty, if_neg (by decide)]
    exact lexemes?_declaration h (Or.inr rfl)
  · unfold tokensAsGiven?
    rw [hbreaks]
    simpa using lexemes?_declaration h (Or.inl rfl)

/-! ## The code -/

/-- The assignment that a declaration is. -/
def assignment (target : String) : Stmt := .assign [.name target] (.list [.text "a/b"])

/-- What a declaration reads as. -/
theorem read_declaration {name : String} (h : isName name = true) :
    module? (declaration name) = readModule 128 (declarationLexemes (nameToken name)) ∧
      expression? (declaration name) = (do
        let (e, l) ← readExprs 128 (declarationLexemes (nameToken name))
        if l.all fun x => x.token matches .newline then some e else none) := by
  obtain ⟨hmodule, hgiven⟩ := tokens?_declaration h
  constructor
  · unfold module?
    rw [hmodule]
    rfl
  · unfold expression?
    rw [hgiven]
    rfl

/-- A declaration of a reserved word is not read at all. -/
theorem compile_declaration_reserved {name : String} (h : isName name = true)
    (hreserved : name ∈ reservedWords) : ∃ e, compile (declaration name) = .error e := by
  have hmodule : ∀ w ∈ reservedWords, (readModule 128 (declarationLexemes (.word w))).isNone := by
    decide +kernel
  have hexpr : ∀ w ∈ reservedWords, (do
      let (e, l) ← readExprs 128 (declarationLexemes (.word w))
      if l.all fun x => x.token matches .newline then some e else none).isNone := by
    decide +kernel
  obtain ⟨hm, he⟩ := read_declaration h
  rw [nameToken, if_pos hreserved] at hm he
  rw [Option.isNone_iff_eq_none.1 (hmodule name hreserved)] at hm
  rw [Option.isNone_iff_eq_none.1 (hexpr name hreserved)] at he
  unfold compile
  rw [hm, he]
  exact ⟨_, rfl⟩

/-- **The code of a declaration**: an assignment, if the composed name can be bound. -/
theorem compile_declaration {name : String} (h : isName name = true)
    (hfree : name ∉ reservedWords) :
    compile (declaration name) =
      if canBind (composeName name) then .ok (.statements [assignment (composeName name)])
      else .error ⟨declaration name, .malformed⟩ := by
  obtain ⟨hm, he⟩ := read_declaration h
  rw [nameToken, if_neg hfree] at hm he
  have hmodule : module? (declaration name) = some [assignment (composeName name)] := hm
  have hexpr : expression? (declaration name) = none := he
  have hrunnable : ∀ inside, allRunnable inside [assignment (composeName name)] =
      canBind (composeName name) := by
    intro inside
    simp [allRunnable, Stmt.runnable, assignment, Target.bound]
  have hasIs : compileAsIs (some [assignment (composeName name)]) =
      if canBind (composeName name) then .ok (.statements [assignment (composeName name)])
      else .error .malformed := by
    rw [← hrunnable false]
    rfl
  have hasBlock : compileAsBlock? (some [assignment (composeName name)]) =
      if canBind (composeName name) then some (.function [assignment (composeName name)])
      else none := by
    rw [← hrunnable true]
    rfl
  simp only [compile, hmodule, hexpr, hasIs, hasBlock]
  cases canBind (composeName name) <;> rfl

/-! ## The value -/

/-- **The value of an assignment** under the exported name: the list if that is the name that
is bound, and otherwise what the host has under it. -/
theorem run_assignment (host : Host) (target : String) {exported : String} (hne : exported ≠ "")
    (m : Machine) :
    ∃ a m', (Compiled.run ⟨.statements [assignment target], some exported, host⟩ m) =
        (.ok (if exported = target then .ref a
          else (Keyed.get? exported (startNames host)).getD .nothing), m') ∧
      m'.heap.get? a = some (.list [.text "a/b"]) := by
  let h₁ := m.heap.alloc (.globals (startNames host))
  let h₂ := h₁.2.alloc (.list [.text "a/b"])
  let names := Keyed.put target (.ref h₂.1) (startNames host)
  let h₃ := h₂.2.set h₁.1 (.globals names)
  let at' : Place := ⟨[], h₁.1, ""⟩
  have hold : h₁.1 < h₁.2.size := by simp [h₁, Heap.alloc, Heap.size]
  have hnew : h₁.1 < h₂.2.size := by
    simp only [h₁, h₂, Heap.alloc, Heap.size, Array.size_push]
    omega
  have hlater : h₂.1 ≠ h₁.1 := by simp [h₁, h₂, Heap.alloc]
  have hstart : h₂.2.get? h₁.1 = some (.globals (startNames host)) :=
    (Heap.get?_alloc_old hold _).trans (Heap.get?_alloc_new _ _)
  have hbind : assignName at' target (.ref h₂.1) ⟨h₂.2, m.printed⟩ =
      (.ok (), ⟨h₃, m.printed⟩) := by
    unfold assignName
    rw [heap_bind]
    simp only [at', List.headD_nil, hstart]
    rfl
  have hexec : execAll callTop at' [assignment target] ⟨h₁.2, m.printed⟩ =
      (.ok .done, ⟨h₃, m.printed⟩) := by
    have hlist : evalExpr callTop at' (.list [.text "a/b"]) ⟨h₁.2, m.printed⟩ =
        (.ok (.ref h₂.1), ⟨h₂.2, m.printed⟩) := rfl
    have hall : assignAll callTop at' (.ref h₂.1) [.name target] ⟨h₂.2, m.printed⟩ =
        (.ok (), ⟨h₃, m.printed⟩) := Try.bind_of_ok hbind _
    have hstmt : execStmt callTop at' (assignment target) ⟨h₁.2, m.printed⟩ =
        (.ok .done, ⟨h₃, m.printed⟩) :=
      (Try.bind_of_ok hlist _).trans (Try.bind_of_ok hall _)
    exact Try.bind_of_ok hstmt _
  have hexported : exportedValue h₁.1 (some exported) ⟨h₃, m.printed⟩ =
      (.ok ((Keyed.get? exported names).getD .nothing), ⟨h₃, m.printed⟩) := by
    have hnames : globalName? h₃ h₁.1 exported = Keyed.get? exported names := by
      unfold globalName?
      rw [show h₃.get? h₁.1 = some (.globals names) from Heap.get?_set_self hnew _]
    unfold exportedValue
    dsimp only
    rw [if_neg (by simpa using hne), heap_bind, hnames]
    rfl
  refine ⟨h₂.1, ⟨h₃, m.printed⟩, ?_, ?_⟩
  · have hvalue : (Keyed.get? exported names).getD .nothing =
        if exported = target then .ref h₂.1
        else (Keyed.get? exported (startNames host)).getD .nothing := by
      by_cases heq : exported = target
      · rw [if_pos heq, heq, Keyed.get?_put_self]
        rfl
      · rw [if_neg heq, Keyed.get?_put_of_ne heq]
    rw [← hvalue, ← hexported]
    exact Try.bind_of_ok hexec _
  · exact (Heap.get?_set_of_ne hlater.symm _ _).trans (Heap.get?_alloc_new _ _)

end Script

/-! ## The block -/

namespace Block

variable {name : String}

/-- A name and its first character, which is no blank and starts no marker. -/
theorem exists_cons_of_isName (h : isName name = true) :
    ∃ c r, (declaration name).toList = c :: r ∧ isBlank c = false ∧ c ≠ '#' ∧ c ≠ '@' := by
  have hchars : isNameChars name.toList = true := h
  obtain ⟨c, r, hname, hc, -⟩ := exists_cons_of_isNameChars hchars
  have hmem : c ∈ name.toList := by simp [hname]
  refine ⟨c, r ++ declarationEnd, by rw [toList_declaration, hname, List.cons_append],
    isBlank_of_isNameStart hc, ?_, ?_⟩
  · rintro rfl
    exact Script.not_mem_of_isNameChars hchars (by decide) hmem
  · rintro rfl
    exact Script.not_mem_of_isNameChars hchars (by decide) hmem

/-- Normalizing leaves a declaration alone. -/
theorem normalize_declaration (h : isName name = true) :
    normalize (declaration name) = declaration name := by
  have hkept : ∀ c ∈ (declaration name).toList, (!isDropped c) = true := by
    have hend : declarationEnd.all (fun c => !isDropped c) = true := by decide
    rw [toList_declaration, List.forall_mem_append]
    exact ⟨fun c hc => by simp [isDropped_of_isNameChars h c hc], List.all_eq_true.1 hend⟩
  have hfirst : ∀ c ∈ (declaration name).toList.head?, isBlank c = false := by
    obtain ⟨c, r, hlist, hc, -⟩ := exists_cons_of_isName h
    rw [hlist]
    rintro _ ⟨⟩
    exact hc
  have hlast : ∀ c ∈ (declaration name).toList.getLast?, isBlank c = false := by
    rw [Script.getLast?_declaration]
    rintro _ ⟨⟩
    decide
  rw [normalize, normalizeChars, List.filter_eq_self.2 hkept, strip_eq_self hfirst hlast,
    String.ofList_toList]

/-- A declaration has no markers. -/
theorem readMarkers_declaration (h : isName name = true) :
    readMarkers (declaration name) = ([], declaration name) := by
  obtain ⟨c, r, hlist, hblank, hhash, hat⟩ := exists_cons_of_isName h
  have hindent : isIndent c = false := by
    rw [Bool.eq_false_iff]
    intro hc
    simp only [isIndent, Bool.or_eq_true, beq_iff_eq] at hc
    rcases hc with rfl | rfl <;> cases hblank
  have hstart : stripStart (c :: r) = c :: r := by
    rw [stripStart, List.dropWhile_cons_of_neg (by simp [hblank])]
  have hnone : markerLine? (stripStart (c :: r)) = none := by
    have hdrop : dropHash (dropIndent (c :: r)) = c :: r := by
      rw [dropIndent_cons hindent]
      unfold dropHash
      split
      · next heq => exact absurd (List.cons.inj heq).1 hhash
      · rfl
    rw [hstart, markerLine?, hdrop]
    split
    · next heq => exact absurd (List.cons.inj heq).1 hat
    · rfl
  rw [readMarkers, hlist, readMarkerChars_of_none hnone, hstart, ← hlist]
  dsimp only
  rw [String.ofList_toList]

/-- What stands behind the equals sign of a declaration. -/
theorem behindAssignment?_declaration (name : String) :
    behindAssignment? name.toList (declaration name).toList = some " ['a/b']".toList := by
  have hlead : dropLead? name.toList (declaration name).toList = some declarationEnd :=
    dropLead?_eq_some_iff.2 (toList_declaration name)
  unfold behindAssignment?
  rw [hlead]
  rfl

theorem bodyKind_declaration (name : String) :
    bodyKind name.toList (declaration name).toList = .componentSpec := by
  have hreserved : startsReserved name.toList (declaration name).toList = true := by
    rw [startsReserved, behindAssignment?_declaration, Option.isSome_some, Bool.or_true]
  have hbare : isBareReference name.toList (declaration name).toList = false := by
    rw [isBareReference, hreserved, Bool.not_true, Bool.and_false, Bool.false_and, Bool.false_and]
  have hcollection : opensCollection " ['a/b']".toList = true := by decide
  have hshape : isSpecShape name.toList (declaration name).toList = true := by
    rw [isSpecShape, behindAssignment?_declaration]
    dsimp only
    rw [hcollection, Bool.or_true]
  rw [bodyKind, hbare, hshape]
  rfl

/-- **A declaration is taken for one**, whatever its name is. -/
theorem classify_declaration (h : isName name = true) {b : Block}
    (hb : b.normalized = declaration name) :
    (classify name b).kind = .componentSpec ∧ (classify name b).body = declaration name := by
  have hread : readMarkers (normalize b.normalized) = ([], declaration name) := by
    rw [hb, normalize_declaration h, readMarkers_declaration h]
  have hbody : (classify name b).body = declaration name := congrArg Prod.snd hread
  have hdisabled : (classify name b).block.disabled = false := by
    rw [Bool.eq_false_iff, ne_eq, disabled_classify, hread]
    exact List.not_mem_nil
  rw [kind_classify, hdisabled, hbody]
  exact ⟨bodyKind_declaration name, rfl⟩

end Block

namespace Component

open LiterateConfig.Block (Classified)
open LiterateConfig.Script (Usable)

variable {name : String} {c : Classified}

/-! ## The component -/

/-- The code of a declaration, if it compiles. -/
theorem compiled?_declaration (h : isName name = true) (hfree : name ∉ Script.reservedWords)
    (host : Script.Host) (exported : String) :
    compiled? host exported (declaration name) =
      if Script.canBind (composeName name) then
        some ⟨.statements [Script.assignment (composeName name)], some exported, host⟩
      else none := by
  unfold compiled?
  rw [Script.compile_declaration h hfree]
  cases Script.canBind (composeName name) <;> rfl

theorem ne_empty_of_isName (h : isName name = true) : name ≠ "" := by
  rintro rfl
  cases h

/-- **A usable name declares one component.** -/
theorem build_usable (h : isName name = true) (hkind : c.kind = .componentSpec)
    (hbody : c.body = declaration name) (huse : Usable name) (host : Script.Host) (w : World) :
    (build host name [c] w).1 =
      .ok ([Spec.ofSource "a/b" c.block.manual (some c.index)], []) := by
  have hcode : compiled? host name c.body =
      some ⟨.statements [Script.assignment name], some name, host⟩ := by
    rw [hbody, compiled?_declaration h huse.free, huse.composed, if_pos huse.bindable]
  obtain ⟨a, m', hrun, hlist⟩ :=
    Script.run_assignment host name (ne_empty_of_isName h) w.machine
  rw [if_pos rfl] at hrun
  have hvalue := valueOf?_of_ok hrun
  rw [← hcode] at hvalue
  have hblock : (blockParts host name c w).1 =
      .ok [.spec (Spec.ofSource "a/b" c.block.manual (some c.index))] := by
    unfold blockParts
    rw [hkind]
    refine specParts_of_value hvalue ?_
    rintro w' rfl
    exact valueParts_item c _ hlist (by simp [isSpecLike]) rfl
  exact build_singleton hblock

/-- What is not bound under the name has no value there. -/
theorem idle_of_not_usable (h : isName name = true) (hkind : c.kind = .componentSpec)
    (hbody : c.body = declaration name) (huse : ¬Usable name) {host : Script.Host}
    (hhost : Keyed.get? name (Script.startNames host) = none) (m : Script.Machine) :
    Idle host name m c := by
  have hcode : code? host name c = compiled? host name (declaration name) := by
    rw [code?, hkind, hbody]
  by_cases hfree : name ∈ Script.reservedWords
  · obtain ⟨e, he⟩ := Script.compile_declaration_reserved h hfree
    exact .uncompilable (by simp [hkind]) (by rw [hcode, compiled?, he]; rfl)
  rw [compiled?_declaration h hfree] at hcode
  by_cases hbind : Script.canBind (composeName name) = true
  · have hother : name ≠ composeName name := by
      intro heq
      exact huse ⟨hfree, heq ▸ hbind, heq.symm⟩
    rw [if_pos hbind] at hcode
    obtain ⟨a, m', hrun, -⟩ := Script.run_assignment host (composeName name)
      (ne_empty_of_isName h) m
    rw [if_neg hother, hhost] at hrun
    exact .invalid (by simp [hkind]) hcode hrun rfl
  · rw [if_neg hbind] at hcode
    exact .uncompilable (by simp [hkind]) hcode

/-- A disk with a settings file whose convention is a quoted name. -/
def conventionDisk (name : String) : Files.Disk where
  entries := [(["p"], .directory),
    (["p", ".mdconf.yml"], .file ("'convention': '" ++ name ++ "'\n").toUTF8)]
  here := ⟨1, []⟩
  home := ⟨1, []⟩

/-- A block that assigns to a name. -/
def declarationBlock (name : String) : Block :=
  ⟨1, declaration name, declaration name, .unspecified, false, false, none⟩

/-- The name is accepted as the convention, and a declaration gives so many specs. -/
def Gives (name : String) (n : Nat) : Prop :=
  ∃ s, Settings.load (conventionDisk name) ⟨1, ["p"]⟩ = .ok s ∧ s.convention = name ∧
    ∀ w, ∃ specs, (build [] name [Block.classify name (declarationBlock name)] w).1 =
      .ok (specs, []) ∧ specs.length = n

theorem exists_load_of_toOption {name : String}
    (h : (Settings.load (conventionDisk name) ⟨1, ["p"]⟩).toOption.map Settings.convention =
      some name) :
    ∃ s, Settings.load (conventionDisk name) ⟨1, ["p"]⟩ = .ok s ∧ s.convention = name := by
  cases hr : Settings.load (conventionDisk name) ⟨1, ["p"]⟩ with
  | error e =>
    rw [hr] at h
    cases h
  | ok s =>
    rw [hr] at h
    exact ⟨s, rfl, Option.some.inj h⟩

end Component

end LiterateConfig
