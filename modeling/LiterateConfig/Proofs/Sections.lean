import LiterateConfig.Proofs.Headings
import LiterateConfig.Proofs.Segmentation

/-!
# The section of a block

A block stands in the section of the last heading in front of it, fences left out. This is
stated by what stands where in the document, without the walk that keeps the section.

**Outside.** `Outside before`: the lines are whole fences and lines that open none, so what
stands behind them stands outside every fence.

**Headings of a document.** `Heads lines pre line s`: the line stands in the document behind
`pre`, outside every fence, is no fence itself and opens the section `s`. `SectionAt before s`:
the last of these lines opens `s`, or there is none and `s` is no section.

Results:
* `linesInduction`: documents line by line and fence by fence;
* `outside_iff`: the walk has no open fence behind exactly these lines;
* `sectionAt_ending`: what one line or one fence adds, and from it the section behind all of
  them;
* `extractLines_sections`: the blocks of a document with their sections.
-/
namespace LiterateConfig.Document

open LiterateConfig.Text

/-! ## Documents line by line and fence by fence -/

/-- The lines of a fence with what stands behind them: nothing if the fence has no end. -/
def FenceBefore (o : Opening) (fence after : List (List Char)) : Prop :=
  WholeFence o fence ∨ OpenFence o fence ∧ after = []

@[elab_as_elim]
theorem linesInduction {motive : List (List Char) → Prop} (nil : motive [])
    (line : ∀ line rest, opening? (strip line) = none → motive rest → motive (line :: rest))
    (fence : ∀ o fence after, FenceBefore o fence after → motive after → motive (fence ++ after))
    (lines : List (List Char)) : motive lines := by
  -- the walk gives the cases, whatever the section it starts in
  generalize Section.unspecified = current
  fun_induction ending current lines with
  | case1 => exact nil
  | case2 current l rest ho ih => exact line l rest ho ih
  | case3 current l rest o ho hone ih => exact fence o [l] rest (.inl (.oneLine ho hone)) ih
  | case4 current l rest o ho hone hany ih =>
    obtain ⟨body, closing, behind, rfl, hbody, hclosing⟩ := takeBody_of_any hany
    rw [takeBody_append_closing hbody hclosing] at ih
    have hone : o.isOneLine = false := by simpa using hone
    have hwhole := fence o _ behind (.inl (.lines ho hone hbody hclosing)) ih
    simpa using hwhole
  | case5 current l rest o ho hone hany =>
    have hone : o.isOneLine = false := by simpa using hone
    have hbody : ∀ l ∈ rest, closes o l = false := by simpa using hany
    have hopen := fence o (l :: rest) [] (.inr ⟨.lines ho hone hbody, rfl⟩) nil
    rwa [List.append_nil] at hopen

/-- A fence is one fence, whatever the section. -/
theorem scan_fenceBefore {o : Opening} {fence after : List (List Char)}
    (h : FenceBefore o fence after) :
    ∃ text, ∀ current, scan current fence = [⟨language? o.info, text, current⟩] := by
  rcases h with hwhole | ⟨hopen, -⟩
  · obtain ⟨text, htext⟩ := scan_wholeFence hwhole
    refine ⟨text, fun current => ?_⟩
    have halone := htext current []
    rwa [List.append_nil, scan_nil] at halone
  · exact scan_openFence hopen

/-- The walk goes on behind a fence as from in front of it. -/
theorem scan_fenceBefore_append {o : Opening} {fence after : List (List Char)}
    (h : FenceBefore o fence after) (current : Section) :
    scan current (fence ++ after) = scan current fence ++ scan current after := by
  rcases h with hwhole | ⟨-, rfl⟩
  · obtain ⟨text, htext⟩ := scan_wholeFence hwhole
    have halone := htext current []
    rw [List.append_nil, scan_nil] at halone
    rw [htext, halone, List.singleton_append]
  · rw [List.append_nil, scan_nil, List.append_nil]

theorem ending_wholeFence {o : Opening} {fence : List (List Char)} (h : WholeFence o fence)
    (current : Section) (after : List (List Char)) :
    ending current (fence ++ after) = ending current after := by
  cases h with
  | oneLine opens same => exact ending_oneLine opens same
  | @lines line closing body opens more inside ends =>
    have hany : (body ++ closing :: after).any (closes o) = true := by simp [ends]
    rw [List.cons_append, List.append_assoc, List.singleton_append, ending.eq_2]
    simp only [opens, more, hany, if_true, Bool.false_eq_true, if_false]
    rw [takeBody_append_closing inside ends]

theorem ending_openFence {o : Opening} {fence : List (List Char)} (h : OpenFence o fence)
    (current : Section) : ending current fence = ⟨current, some o⟩ := by
  cases h with
  | @lines line body opens more inside =>
    have hany : body.any (closes o) = false := by simpa using inside
    rw [ending.eq_2]
    simp [opens, more, hany]

/-- The walk goes on behind lines with no open fence as from their section. -/
theorem ending_append_of_outside {current : Section} {lines : List (List Char)}
    (h : (ending current lines).fence = none) (more : List (List Char)) :
    ending current (lines ++ more) = ending (ending current lines).within more := by
  induction lines using linesInduction generalizing current with
  | nil => rw [ending_nil, List.nil_append]
  | line line rest plain ih =>
    rw [ending_outside plain] at h
    rw [List.cons_append, ending_outside plain, ending_outside plain, ih h]
  | fence o fence after hfence ih =>
    rcases hfence with hwhole | ⟨hopen, rfl⟩
    · rw [ending_wholeFence hwhole] at h
      rw [List.append_assoc, ending_wholeFence hwhole, ending_wholeFence hwhole, ih h]
    · rw [List.append_nil, ending_openFence hopen] at h
      cases h

/-! ## Outside every fence -/

/-- Lines that are whole fences and lines that open none. -/
inductive Outside : List (List Char) → Prop
  | none : Outside []
  | line {lines : List (List Char)} {line : List Char} (before : Outside lines)
      (plain : opening? (strip line) = none) : Outside (lines ++ [line])
  | fence {lines fence : List (List Char)} {o : Opening} (before : Outside lines)
      (whole : WholeFence o fence) : Outside (lines ++ fence)

theorem Outside.append {lines more : List (List Char)} (h : Outside lines) (h' : Outside more) :
    Outside (lines ++ more) := by
  induction h' with
  | none => rwa [List.append_nil]
  | line before plain ih => rw [← List.append_assoc]; exact .line ih plain
  | fence before whole ih => rw [← List.append_assoc]; exact .fence ih whole

/-- **The walk has no open fence behind exactly these lines.** -/
theorem outside_iff {lines : List (List Char)} (current : Section) :
    Outside lines ↔ (ending current lines).fence = none := by
  constructor
  · intro h
    induction h with
    | none => rw [ending_nil]
    | line before plain ih =>
      rw [ending_append_of_outside ih, ending_outside plain, ending_nil]
    | @fence lines fence o before whole ih =>
      have hend := ending_wholeFence whole (ending current lines).within []
      rw [List.append_nil, ending_nil] at hend
      rw [ending_append_of_outside ih, hend]
  · intro h
    induction lines using linesInduction generalizing current with
    | nil => exact .none
    | line line rest plain ih =>
      rw [ending_outside plain] at h
      exact Outside.append (.line .none plain) (ih _ h)
    | fence o fence after hfence ih =>
      rcases hfence with hwhole | ⟨hopen, rfl⟩
      · rw [ending_wholeFence hwhole] at h
        exact Outside.append (.fence .none hwhole) (ih _ h)
      · rw [List.append_nil, ending_openFence hopen] at h
        cases h

theorem Outside.of_append {lines more : List (List Char)} (h : Outside lines)
    (h' : Outside (lines ++ more)) : Outside more := by
  have hend := (outside_iff .unspecified).1 h'
  rw [ending_append_of_outside ((outside_iff _).1 h)] at hend
  exact (outside_iff _).2 hend

instance (lines : List (List Char)) : Decidable (Outside lines) :=
  decidable_of_iff _ (outside_iff .unspecified).symm

theorem WholeFence.exists_opening {o : Opening} {fence : List (List Char)} (h : WholeFence o fence) :
    ∃ line rest, fence = line :: rest ∧ opening? (strip line) = some o := by
  cases h with
  | oneLine opens same => exact ⟨_, _, rfl, opens⟩
  | lines opens more inside ends => exact ⟨_, _, rfl, opens⟩

/-- Within a fence no line stands outside of it but its first. -/
theorem WholeFence.eq_nil_of_outside {o : Opening} {fence inner : List (List Char)}
    {line : List Char} (h : WholeFence o fence) (hinner : inner ++ [line] <+: fence)
    (houtside : Outside inner) : inner = [] := by
  cases h with
  | oneLine opens same =>
    have hlength := hinner.length_le
    rw [List.length_append, List.length_singleton, List.length_singleton] at hlength
    exact List.eq_nil_of_length_eq_zero (by omega)
  | @lines first closing body opens more inside ends =>
    cases inner with
    | nil => rfl
    | cons l inner =>
      rw [List.cons_append, List.cons_prefix_cons] at hinner
      obtain ⟨rfl, hbody⟩ := hinner
      have hbody : inner <+: body := by
        rcases List.prefix_concat_iff.1 hbody with heq | hbody
        · exact (List.append_inj_left' heq rfl).symm ▸ List.prefix_rfl
        · exact (List.prefix_append inner [line]).trans hbody
      have hopen : OpenFence o (l :: inner) :=
        .lines opens more fun k hk => inside k (hbody.subset hk)
      have hnone := (outside_iff .unspecified).1 houtside
      rw [ending_openFence hopen] at hnone
      cases hnone

/-! ## The section at a place of a document -/

/-- A line of a document that stands behind `pre` outside every fence, is no fence, and opens
a section. -/
structure Heads (lines pre : List (List Char)) (line : List Char) (s : Section) : Prop where
  split : pre ++ [line] <+: lines
  outside : Outside pre
  plain : opening? (strip line) = none
  opens : OpensSection line s

/-- The section that the last of these lines opens, or none if there is no such line. -/
inductive SectionAt (before : List (List Char)) : Section → Prop
  | unnamed (h : ∀ pre line s, ¬Heads before pre line s) : SectionAt before .unspecified
  | named {pre : List (List Char)} {line : List Char} {s : Section} (h : Heads before pre line s)
      (last : ∀ pre' line' s', Heads before pre' line' s' → pre'.length ≤ pre.length) :
      SectionAt before s

theorem OpensSection.unique {line : List Char} {s t : Section} (hs : OpensSection line s)
    (ht : OpensSection line t) : s = t :=
  Option.some.inj ((opensSection_iff.1 hs).symm.trans (opensSection_iff.1 ht))

theorem SectionAt.unique {before : List (List Char)} {s t : Section} (hs : SectionAt before s)
    (ht : SectionAt before t) : s = t := by
  cases hs with
  | unnamed hnone =>
    cases ht with
    | unnamed => rfl
    | named h => exact absurd h (hnone _ _ _)
  | @named pre line _ h last =>
    cases ht with
    | unnamed hnone => exact absurd h (hnone _ _ _)
    | @named pre' line' _ h' last' =>
      have hlength : (pre ++ [line]).length = (pre' ++ [line']).length := by
        have hle := last' _ _ _ h
        have hge := last _ _ _ h'
        simp only [List.length_append, List.length_singleton]
        omega
      have heq := (List.prefix_of_prefix_length_le h.split h'.split hlength.le).eq_of_length hlength
      obtain ⟨-, hline⟩ := List.append_inj' heq rfl
      rw [List.singleton_inj] at hline
      exact h.opens.unique (hline ▸ h'.opens)

/-- Only the lines that open sections count. -/
theorem SectionAt.congr {before before' : List (List Char)} {s : Section} (h : SectionAt before s)
    (hiff : ∀ pre line s, Heads before' pre line s ↔ Heads before pre line s) :
    SectionAt before' s := by
  cases h with
  | unnamed hnone => exact .unnamed fun pre line s h => hnone pre line s ((hiff _ _ _).1 h)
  | named h last =>
    exact .named ((hiff _ _ _).2 h) fun pre line s h' => last pre line s ((hiff _ _ _).1 h')

/-- A place in lines with more behind them is one of the first lines or one of the others. -/
theorem prefix_append_cases {pre lines more : List (List Char)} {line : List Char}
    (h : pre ++ [line] <+: lines ++ more) :
    pre ++ [line] <+: lines ∨ ∃ inner, pre = lines ++ inner ∧ inner ++ [line] <+: more := by
  rcases List.prefix_or_prefix_of_prefix h (List.prefix_append lines more) with hin | hout
  · exact .inl hin
  · rcases List.prefix_concat_iff.1 hout with heq | ⟨inner, rfl⟩
    · exact .inl (heq ▸ List.prefix_rfl)
    · rw [List.append_assoc, List.prefix_append_right_inj] at h
      exact .inr ⟨inner, rfl, h⟩

theorem Heads.mono {lines more pre : List (List Char)} {line : List Char} {s : Section}
    (h : Heads lines pre line s) : Heads (lines ++ more) pre line s :=
  { h with split := h.split.trans (List.prefix_append lines more) }

/-- Behind a line more the lines that open sections are those in front, and that line if it
opens one. -/
theorem heads_concat_iff {lines pre : List (List Char)} {line l : List Char} {s : Section}
    (hlines : Outside lines) (plain : opening? (strip line) = none) :
    Heads (lines ++ [line]) pre l s ↔
      Heads lines pre l s ∨ pre = lines ∧ l = line ∧ OpensSection line s := by
  constructor
  · intro h
    rcases prefix_append_cases h.split with hin | ⟨inner, rfl, hinner⟩
    · exact .inl { h with split := hin }
    · have hlength := hinner.length_le
      rw [List.length_append, List.length_singleton, List.length_singleton] at hlength
      obtain rfl : inner = [] := List.eq_nil_of_length_eq_zero (by omega)
      obtain rfl : l = line := by simpa using hinner
      exact .inr ⟨List.append_nil lines, rfl, h.opens⟩
  · rintro (h | ⟨rfl, rfl, hopens⟩)
    · exact h.mono
    · exact ⟨List.prefix_rfl, hlines, plain, hopens⟩

/-- The lines of a fence open no section. -/
theorem heads_fence_iff {lines fence pre : List (List Char)} {o : Opening} {l : List Char}
    {s : Section} (hlines : Outside lines) (whole : WholeFence o fence) :
    Heads (lines ++ fence) pre l s ↔ Heads lines pre l s := by
  refine ⟨fun h => ?_, Heads.mono⟩
  rcases prefix_append_cases h.split with hin | ⟨inner, rfl, hinner⟩
  · exact { h with split := hin }
  · obtain rfl := whole.eq_nil_of_outside hinner (hlines.of_append h.outside)
    obtain ⟨first, rest, rfl, hopens⟩ := whole.exists_opening
    obtain rfl : l = first := by simpa using hinner
    rw [h.plain] at hopens
    cases hopens

/-- A line outside every fence opens a section or leaves it. -/
theorem sectionAt_concat {lines : List (List Char)} {line : List Char} {current : Section}
    (hlines : Outside lines) (plain : opening? (strip line) = none)
    (h : SectionAt lines current) : SectionAt (lines ++ [line]) (sectionAfter current line) := by
  rw [sectionAfter]
  cases hopens : (title? line).bind titleSection? with
  | none =>
    refine h.congr fun pre l s => (heads_concat_iff hlines plain).trans (or_iff_left ?_)
    rintro ⟨-, -, hopens'⟩
    rw [opensSection_iff.1 hopens'] at hopens
    cases hopens
  | some s =>
    have hhere : Heads (lines ++ [line]) lines line s :=
      (heads_concat_iff hlines plain).2 (.inr ⟨rfl, rfl, opensSection_iff.2 hopens⟩)
    refine .named hhere fun pre l t h' => ?_
    have hlength := h'.split.length_le
    simp only [List.length_append, List.length_singleton] at hlength
    omega

/-- **The section that the walk keeps** is that of the last line that opens one. -/
theorem sectionAt_ending {before : List (List Char)} (h : Outside before) :
    SectionAt before (ending .unspecified before).within := by
  induction h with
  | none =>
    rw [ending_nil]
    refine .unnamed fun pre line s h => ?_
    have hnil := List.prefix_nil.1 h.split
    simp at hnil
  | line before plain ih =>
    rw [ending_append_of_outside ((outside_iff _).1 before), ending_outside plain, ending_nil]
    exact sectionAt_concat before plain ih
  | @fence lines fence o before whole ih =>
    have hend := ending_wholeFence whole (ending .unspecified lines).within []
    rw [List.append_nil, ending_nil] at hend
    rw [ending_append_of_outside ((outside_iff _).1 before), hend]
    exact ih.congr fun pre l s => heads_fence_iff before whole

theorem sectionAt_iff {before : List (List Char)} (h : Outside before) {s : Section} :
    SectionAt before s ↔ (ending .unspecified before).within = s :=
  ⟨fun hs => (sectionAt_ending h).unique hs, fun hs => hs ▸ sectionAt_ending h⟩

/-! ## The blocks of a document -/

/-- Every fence that the walk gives stands somewhere: what is in front of it is walked with no
fence left open, and gives the fences in front. -/
theorem exists_fenceBefore {current : Section} {lines : List (List Char)} {fs gs : List Fence}
    {f : Fence} (h : scan current lines = fs ++ f :: gs) :
    ∃ before o fence after, lines = before ++ (fence ++ after) ∧ Outside before ∧
      FenceBefore o fence after ∧ scan current before = fs ∧
      scan (ending current before).within fence = [f] := by
  induction lines using linesInduction generalizing current fs with
  | nil =>
    rw [scan_nil] at h
    simp at h
  | line line rest plain ih =>
    rw [scan_outside plain] at h
    obtain ⟨before, o, fence, after, rfl, hbefore, hfence, hfs, hf⟩ := ih h
    refine ⟨line :: before, o, fence, after, rfl, .append (.line .none plain) hbefore, hfence, ?_, ?_⟩
    · rw [scan_outside plain, hfs]
    · rw [ending_outside plain, hf]
  | fence o fence after hfence ih =>
    obtain ⟨text, htext⟩ := scan_fenceBefore hfence
    rw [scan_fenceBefore_append hfence, htext, List.singleton_append] at h
    cases fs with
    | nil =>
      refine ⟨[], o, fence, after, rfl, .none, hfence, scan_nil current, ?_⟩
      rw [ending_nil, htext, (List.cons.inj h).1]
    | cons g fs =>
      obtain ⟨rfl, hrest⟩ := List.cons.inj h
      obtain ⟨before, o', fence', after', rfl, hbefore, hfence', hfs, hf⟩ := ih hrest
      rcases hfence with hwhole | ⟨hopen, hnil⟩
      · refine ⟨fence ++ before, o', fence', after', (List.append_assoc _ _ _).symm,
          .append (.fence .none hwhole) hbefore, hfence', ?_, ?_⟩
        · rw [scan_fenceBefore_append (.inl hwhole), htext, hfs, List.singleton_append]
        · rw [ending_wholeFence hwhole, hf]
      · -- behind a fence without an end there is no other
        rw [hnil, scan_nil] at hrest
        simp at hrest

/-- An element of a filtered list stands in the list behind those that are kept in front. -/
theorem exists_of_getElem?_filter {α : Type} {p : α → Bool} {l : List α} {i : Nat} {x : α}
    (h : (l.filter p)[i]? = some x) :
    ∃ xs ys, l = xs ++ x :: ys ∧ (xs.filter p).length = i ∧ p x = true := by
  induction l generalizing i with
  | nil => cases h
  | cons y l ih =>
    by_cases hy : p y = true
    · rw [List.filter_cons_of_pos hy] at h
      cases i with
      | zero =>
        obtain rfl : y = x := by simpa using h
        exact ⟨[], l, rfl, rfl, hy⟩
      | succ i =>
        obtain ⟨xs, ys, rfl, hi, hx⟩ := ih (by simpa using h)
        exact ⟨y :: xs, ys, rfl, by simp [hy, hi], hx⟩
    · rw [List.filter_cons_of_neg hy] at h
      obtain ⟨xs, ys, rfl, hi, hx⟩ := ih h
      exact ⟨y :: xs, ys, rfl, by simp [hy, hi], hx⟩

/-- The fence of the block with number `i` among those of the languages stands behind `before`,
outside every other fence, and `text` is its text. -/
inductive BlockAt (languages before : List String) (i : Nat) (text : String) : List String → Prop
  | fenced {o : Opening} {fence after : List String} (outside : Outside (before.map String.toList))
      (lines : FenceBefore o (fence.map String.toList) (after.map String.toList))
      (names : o.Names languages) (number : (extractLines languages before).length = i)
      (content : extractLines languages fence = [(text, .unspecified)]) :
      BlockAt languages before i text (before ++ fence ++ after)

/-- From a fence of one of the languages one text is extracted, and it gets the section. -/
theorem extractFrom_of_names {languages : List String} {o : Opening} {fence : List String}
    {after : List (List Char)} (h : FenceBefore o (fence.map String.toList) after)
    (names : o.Names languages) :
    ∃ text, ∀ current, extractFrom languages current fence = [(text, current)] := by
  obtain ⟨text, htext⟩ := scan_fenceBefore h
  refine ⟨String.ofList text, fun current => ?_⟩
  rw [extractFrom, htext, List.filter_cons_of_pos (accepts_eq_true names text current)]
  rfl

theorem extractFrom_of_not_names {languages : List String} {o : Opening} {fence : List String}
    {after : List (List Char)} (h : FenceBefore o (fence.map String.toList) after)
    (names : ¬o.Names languages) (current : Section) :
    extractFrom languages current fence = [] := by
  obtain ⟨text, htext⟩ := scan_fenceBefore h
  rw [extractFrom, htext, List.filter_cons_of_neg (by rw [accepts_eq_false names]; simp)]
  rfl

/-- Extraction takes the lines in front, the fence, and the lines behind. -/
theorem extractLines_fence {o : Opening} {before fence after : List String}
    (outside : Outside (before.map String.toList))
    (lines : FenceBefore o (fence.map String.toList) (after.map String.toList))
    (languages : List String) :
    extractLines languages (before ++ fence ++ after) = extractLines languages before ++
      (extractFrom languages (endingOf before).within fence ++
        extractFrom languages (endingOf before).within after) := by
  rw [extractLines_eq_filter, List.map_append, List.map_append, List.append_assoc,
    scan_append_of_outside _ ((outside_iff _).1 outside), scan_fenceBefore_append lines,
    List.filter_append, List.filter_append, List.map_append, List.map_append]
  rfl

theorem extractLines_getElem?_iff {languages lines : List String} {i : Nat} {text : String}
    {s : Section} : (extractLines languages lines)[i]? = some (text, s) ↔
      ∃ before, BlockAt languages before i text lines ∧ SectionAt (before.map String.toList) s := by
  constructor
  · intro h
    rw [extractLines_eq_filter, List.getElem?_map, Option.map_eq_some_iff] at h
    obtain ⟨f, hf, hblock⟩ := h
    obtain ⟨fs, gs, hscan, hnumber, haccepts⟩ := exists_of_getElem?_filter hf
    obtain ⟨before, o, fence, after, hlines, houtside, hfence, hfs, hthis⟩ :=
      exists_fenceBefore hscan
    obtain ⟨before, rest, rfl, rfl, hrest⟩ := List.map_eq_append_iff.1 hlines
    obtain ⟨fence, after, rfl, rfl, rfl⟩ := List.map_eq_append_iff.1 hrest
    obtain ⟨chars, hchars⟩ := scan_fenceBefore hfence
    obtain rfl : ⟨language? o.info, chars, _⟩ = f :=
      List.singleton_inj.1 ((hchars _).symm.trans hthis)
    obtain ⟨rfl, rfl⟩ := Prod.mk.inj hblock
    have hnames : o.Names languages := accepts_iff.1 haccepts
    have hcontent : extractLines languages fence = [(String.ofList chars, .unspecified)] := by
      rw [extractLines_eq_filter, hchars,
        List.filter_cons_of_pos (accepts_eq_true hnames chars .unspecified)]
      rfl
    have hcount : (extractLines languages before).length = i := by
      rw [extractLines_eq_filter, List.length_map, hfs, hnumber]
    rw [← List.append_assoc]
    exact ⟨before, .fenced houtside hfence hnames hcount hcontent, sectionAt_ending houtside⟩
  · rintro ⟨before, ⟨outside, fence, names, number, content⟩, hsection⟩
    obtain ⟨text', htext⟩ := extractFrom_of_names fence names
    have hcontent : [(text', Section.unspecified)] = [(text, .unspecified)] :=
      (htext .unspecified).symm.trans content
    have hwithin : (endingOf before).within = s := (sectionAt_iff outside).1 hsection
    rw [extractLines_fence outside fence, htext, hwithin, ← number,
      List.getElem?_append_right (Nat.le_refl _), Nat.sub_self]
    simpa using hcontent

/-- A line that opens neither a fence nor a section leaves no trace. -/
theorem extractLines_without_line {before : List String} {line : String}
    (outside : Outside (before.map String.toList)) (plain : opening? (strip line.toList) = none)
    (opens : ∀ s, ¬OpensSection line.toList s) (languages after : List String) :
    extractLines languages (before ++ line :: after) =
      extractLines languages (before ++ after) := by
  have hplain : Plain line.toList :=
    ⟨plain, Option.eq_none_iff_forall_ne_some.2 fun s hs => opens s (opensSection_iff.2 hs)⟩
  have hbefore := (outside_iff .unspecified).1 outside
  rw [extractLines_eq_filter, extractLines_eq_filter, List.map_append, List.map_append,
    scan_append_of_outside _ hbefore, scan_append_of_outside _ hbefore, List.map_cons,
    scan_plain hplain]

/-- What stands in a fence opens no section. -/
theorem extractLines_inside {o : Opening} {before fence fence' after : List String}
    (outside : Outside (before.map String.toList))
    (lines : FenceBefore o (fence.map String.toList) (after.map String.toList))
    (lines' : FenceBefore o (fence'.map String.toList) (after.map String.toList))
    (languages : List String) :
    (extractLines languages (before ++ fence ++ after)).map Prod.snd =
      (extractLines languages (before ++ fence' ++ after)).map Prod.snd := by
  rw [extractLines_fence outside lines, extractLines_fence outside lines']
  by_cases names : o.Names languages
  · obtain ⟨text, htext⟩ := extractFrom_of_names lines names
    obtain ⟨text', htext'⟩ := extractFrom_of_names lines' names
    simp [htext, htext']
  · simp [extractFrom_of_not_names lines names, extractFrom_of_not_names lines' names]

/-- **A block stands in the section of the last heading in front of it.** The blocks of a
document are its fences of the languages. The section of each is the one that is opened by the
last line in front of the fence which stands outside every fence, is no fence itself and opens a
section, and it is unspecified if there is no such line. So any other line outside the fences
can be left out, and what stands in a fence can be replaced without a change to a section. -/
theorem extractLines_sections (languages : List String) :
    (∀ (lines : List String) (i : Nat) (text : String) (s : Section),
      (extractLines languages lines)[i]? = some (text, s) ↔
        ∃ before, BlockAt languages before i text lines ∧
          SectionAt (before.map String.toList) s) ∧
    (∀ (before : List String) (line : String) (after : List String),
      Outside (before.map String.toList) → opening? (strip line.toList) = none →
      (∀ s, ¬OpensSection line.toList s) →
      extractLines languages (before ++ line :: after) =
        extractLines languages (before ++ after)) ∧
    ∀ (o : Opening) (before fence fence' after : List String),
      Outside (before.map String.toList) →
      FenceBefore o (fence.map String.toList) (after.map String.toList) →
      FenceBefore o (fence'.map String.toList) (after.map String.toList) →
      (extractLines languages (before ++ fence ++ after)).map Prod.snd =
        (extractLines languages (before ++ fence' ++ after)).map Prod.snd :=
  ⟨fun _ _ _ _ => extractLines_getElem?_iff,
    fun _ _ after outside plain opens => extractLines_without_line outside plain opens languages after,
    fun _ _ _ _ _ outside lines lines' => extractLines_inside outside lines lines' languages⟩

/-- Lines of a main section and, behind a heading, of a plugins section with a fence that has no
end. -/
def mixedLines : List String := ["``` python a```", "   # My plugins", "```python", "# main"]

theorem extractLines_sections_mixedLines :
    (∃ before, BlockAt ["python"] before 1 "# main" (["## Main ##"] ++ shellFence ++ mixedLines) ∧
      SectionAt (before.map String.toList) .plugins) ∧
      extractLines ["python"] (["## Main ##"] ++ "# Domain" :: mixedLines) =
        [("a", .main), ("# main", .plugins)] ∧
      (extractLines ["SH"] (["## Main ##"] ++ shellFence ++ mixedLines)).map Prod.snd = [.main] := by
  have houtside : Outside (["## Main ##"].map String.toList) := by decide +kernel
  have hdomain : (title? "# Domain".toList).bind titleSection? = none := by decide +kernel
  have hnone : ∀ l ∈ ([] : List (List Char)), closes ⟨.tilde, 4, ['s', 'h']⟩ l = false := nofun
  have hempty : WholeFence ⟨.tilde, 4, ['s', 'h']⟩ (["~~~~sh", "~~~~"].map String.toList) :=
    .lines (by decide +kernel) (by decide) hnone (by decide +kernel)
  refine ⟨?_, ?_, ?_⟩
  · exact ((extractLines_sections _).1 _ _ _ _).1 (by decide +kernel)
  · rw [(extractLines_sections _).2.1 _ _ _ houtside (by decide +kernel) fun s hs => by
      rw [opensSection_iff, hdomain] at hs; cases hs]
    decide +kernel
  · rw [(extractLines_sections _).2.2 _ _ _ _ _ houtside (.inl wholeFence_shellFence)
      (.inl hempty)]
    decide +kernel

end LiterateConfig.Document
