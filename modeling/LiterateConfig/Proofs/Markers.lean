import LiterateConfig.Block.Kind
import LiterateConfig.Proofs.Dedent

/-!
# Marker lines in front of a block

Marker lines form a prefix of their own: how many of them stand in front of a text, and
in what order, decides which markers are read, and nothing else. The text behind them is
read as if they were not there, and the body that is left has no marker line in front.

**Marker lines.** `MarkerLines ms m` says that `m` consists of marker lines with the markers
`ms`, each ended by a line feed, and of any blanks in front of, between and behind the lines:
indentation, blank lines, and blanks in front of what follows.

Results:
* `readMarkerChars_strip_append`: reading marker lines and a text gives the markers of the lines,
  and then what reading the text gives;
* `readMarkerChars_sound`: what is read off a text is what stands there;
* `readMarkerChars_body`: behind the markers there are no more;
* `classify_markerLines`: the laws of classification that follow.
-/
namespace LiterateConfig

namespace Block

open LiterateConfig.Text

/-! ## Marker lines -/

/-- A marker from its hash or at-sign to the end of its name. -/
inductive MarkerText (m : Marker) : List Char → Prop
  | bare {gap : List Char} (hgap : ∀ c ∈ gap, isIndent c = true) :
      MarkerText m ('@' :: (gap ++ m.name.toList))
  | hashed {space gap : List Char} (hspace : ∀ c ∈ space, isIndent c = true)
      (hgap : ∀ c ∈ gap, isIndent c = true) :
      MarkerText m ('#' :: (space ++ '@' :: (gap ++ m.name.toList)))

/-- Marker lines with blanks around them, and their markers in order. -/
inductive MarkerLines : List Marker → List Char → Prop
  | none : MarkerLines [] []
  | blanks {pre l : List Char} {ms : List Marker} (hpre : ∀ c ∈ pre, isBlank c = true)
      (rest : MarkerLines ms l) : MarkerLines ms (pre ++ l)
  | line {m : Marker} {text behind l : List Char} {ms : List Marker} (htext : MarkerText m text)
      (hbehind : ∀ c ∈ behind, isIndent c = true) (rest : MarkerLines ms l) :
      MarkerLines (m :: ms) (text ++ (behind ++ '\n' :: l))

theorem toList_name_disable : Marker.disable.name.toList = ['d', 'i', 's', 'a', 'b', 'l', 'e'] := by
  decide

theorem toList_name_manual : Marker.manual.name.toList = ['m', 'a', 'n', 'u', 'a', 'l'] := by
  decide

theorem markerName?_append (m : Marker) (r : List Char) :
    markerName? (m.name.toList ++ r) = some (m, r) := by
  cases m with
  | disable => simp [markerName?, toList_name_disable, dropLead?]
  | manual => simp [markerName?, toList_name_manual, dropLead?]

theorem dropIndent_append {w : List Char} (hw : ∀ c ∈ w, isIndent c = true) (l : List Char) :
    dropIndent (w ++ l) = dropIndent l :=
  List.dropWhile_append_of_pos hw

theorem dropIndent_cons {c : Char} (hc : isIndent c = false) (l : List Char) :
    dropIndent (c :: l) = c :: l :=
  dropWhile_eq_self (by simpa using hc)

/-- The end of a marker line: the end of the text, or a line feed and what follows it. -/
inductive LineEnd : List Char → List Char → Prop
  | text : LineEnd [] []
  | feed (rest : List Char) : LineEnd ('\n' :: rest) rest

/-- A marker line is read with its marker. -/
theorem markerLine?_append {m : Marker} {text behind tail rest : List Char}
    (htext : MarkerText m text) (hbehind : ∀ c ∈ behind, isIndent c = true)
    (htail : LineEnd tail rest) : markerLine? (text ++ (behind ++ tail)) = some (m, rest) := by
  have hafter : ∀ gap, (∀ c ∈ gap, isIndent c = true) →
      markerName? (dropIndent (gap ++ (m.name.toList ++ (behind ++ tail)))) =
        some (m, behind ++ tail) := by
    intro gap hgap
    have hname : dropIndent (m.name.toList ++ (behind ++ tail)) =
        m.name.toList ++ (behind ++ tail) := by
      cases m with
      | disable => rw [toList_name_disable]; exact dropIndent_cons (by decide) _
      | manual => rw [toList_name_manual]; exact dropIndent_cons (by decide) _
    rw [dropIndent_append hgap, hname, markerName?_append]
  have hend : dropIndent (behind ++ tail) = tail := by
    rw [dropIndent_append hbehind]
    cases htail with
    | text => rfl
    | feed rest => exact dropIndent_cons (by decide) _
  have hsign : ∀ gap, (∀ c ∈ gap, isIndent c = true) → ∀ l,
      dropHash (dropIndent l) = '@' :: (gap ++ (m.name.toList ++ (behind ++ tail))) →
      markerLine? l = some (m, rest) := by
    intro gap hgap l hl
    unfold markerLine?
    rw [hl]
    simp only [hafter gap hgap, Option.bind_eq_bind, Option.bind_some, hend]
    cases htail <;> rfl
  cases htext with
  | @bare gap hgap =>
    refine hsign gap hgap _ ?_
    rw [List.cons_append, List.append_assoc, dropIndent_cons (by decide)]
    rfl
  | @hashed space gap hspace hgap =>
    refine hsign gap hgap _ ?_
    rw [List.cons_append, List.append_assoc, List.cons_append, List.append_assoc,
      dropIndent_cons (by decide)]
    show dropIndent (space ++ _) = _
    rw [dropIndent_append hspace, dropIndent_cons (by decide)]

theorem exists_dropIndent (l : List Char) :
    ∃ w, (∀ c ∈ w, isIndent c = true) ∧ l = w ++ dropIndent l :=
  ⟨l.takeWhile isIndent, fun _ hc => List.mem_takeWhile_imp hc,
    List.takeWhile_append_dropWhile.symm⟩

theorem eq_of_markerName? {l r : List Char} {m : Marker} (h : markerName? l = some (m, r)) :
    l = m.name.toList ++ r := by
  unfold markerName? at h
  split at h
  · next r' hr =>
    cases h
    rw [toList_name_disable]
    exact dropLead?_eq_some_iff.1 hr
  · obtain ⟨r', hr, he⟩ := Option.map_eq_some_iff.1 h
    cases he
    rw [toList_name_manual]
    exact dropLead?_eq_some_iff.1 hr

/-- What is read as a marker line is one. -/
theorem exists_of_markerLine? {l rest : List Char} {m : Marker}
    (h : markerLine? l = some (m, rest)) :
    ∃ indent text behind tail, l = indent ++ (text ++ (behind ++ tail)) ∧
      (∀ c ∈ indent, isIndent c = true) ∧ MarkerText m text ∧
      (∀ c ∈ behind, isIndent c = true) ∧ LineEnd tail rest := by
  obtain ⟨indent, hindent, hl⟩ := exists_dropIndent l
  unfold markerLine? at h
  split at h
  · next r hr =>
    cases hn : markerName? (dropIndent r) with
    | none => simp [hn] at h
    | some p =>
      obtain ⟨m', after⟩ := p
      simp only [hn, Option.bind_eq_bind, Option.bind_some] at h
      obtain ⟨gap, hgap, hgapr⟩ := exists_dropIndent r
      obtain ⟨behind, hbehind, hafter⟩ := exists_dropIndent after
      rw [eq_of_markerName? hn] at hgapr
      -- the end of the line, and with it the marker
      obtain ⟨rfl, htail⟩ : m' = m ∧ LineEnd (dropIndent after) rest := by
        split at h
        · next he => cases h; exact ⟨rfl, he ▸ .text⟩
        · next behind' he => cases h; exact ⟨rfl, he ▸ .feed _⟩
        · cases h
      unfold dropHash at hr
      split at hr
      · next r' hhash =>
        obtain ⟨space, hspace, hr'⟩ := exists_dropIndent r'
        rw [hr, hgapr, hafter] at hr'
        rw [hhash, hr'] at hl
        exact ⟨indent, _, behind, _, by simpa using hl, hindent, .hashed hspace hgap, hbehind,
          htail⟩
      · rw [hr, hgapr, hafter] at hl
        exact ⟨indent, _, behind, _, by simpa using hl, hindent, .bare hgap, hbehind, htail⟩
  · cases h

/-! ## Reading markers -/

theorem readMarkerChars_of_none {l : List Char} (h : markerLine? (stripStart l) = none) :
    readMarkerChars l = ([], stripStart l) := by
  rw [readMarkerChars]
  split
  · rfl
  · next hs => rw [h] at hs; cases hs

theorem readMarkerChars_of_some {l rest : List Char} {m : Marker}
    (h : markerLine? (stripStart l) = some (m, rest)) :
    readMarkerChars l = (m :: (readMarkerChars rest).1, (readMarkerChars rest).2) := by
  rw [readMarkerChars]
  split
  · next hs => rw [h] at hs; cases hs
  · next hs => rw [h] at hs; cases hs; rfl

/-- Induction along the marker lines of a text. -/
@[elab_as_elim]
theorem markerLine_induction {motive : List Char → Prop}
    (body : ∀ l, markerLine? (stripStart l) = none → motive l)
    (line : ∀ l m rest, markerLine? (stripStart l) = some (m, rest) → motive rest → motive l)
    (l : List Char) : motive l := by
  induction hn : l.length using Nat.strongRecOn generalizing l with
  | ind n ih =>
  cases h : markerLine? (stripStart l) with
  | none => exact body l h
  | some p =>
    have hlt := length_markerLine h
    have hle : (stripStart l).length ≤ l.length := (List.dropWhile_suffix _).length_le
    exact line l p.1 p.2 h (ih p.2.length (by omega) p.2 rfl)

/-- Blanks in front of a text do not matter. -/
theorem readMarkerChars_blanks {pre : List Char} (hpre : ∀ c ∈ pre, isBlank c = true)
    (l : List Char) : readMarkerChars (pre ++ l) = readMarkerChars l := by
  have hstart : stripStart (pre ++ l) = stripStart l := stripStart_append_blank hpre
  cases h : markerLine? (stripStart l) with
  | none => rw [readMarkerChars_of_none (hstart ▸ h), readMarkerChars_of_none h, hstart]
  | some p => rw [readMarkerChars_of_some (hstart ▸ h), readMarkerChars_of_some h]

/-- A marker starts and ends with a character that is not blank, and normalizing keeps it. -/
theorem MarkerText.firm {m : Marker} {text : List Char} (h : MarkerText m text) :
    text ≠ [] ∧ (∀ c ∈ text.head?, isBlank c = false) ∧ (∀ c ∈ text.getLast?, isBlank c = false) ∧
      text.filter (fun c => !isDropped c) = text := by
  have hname : m.name.toList ≠ [] ∧ (∀ c ∈ m.name.toList.getLast?, isBlank c = false) ∧
      m.name.toList.filter (fun c => !isDropped c) = m.name.toList := by
    cases m <;> simp [toList_name_disable, toList_name_manual, isBlank, isDropped]
  have hindent : ∀ w : List Char, (∀ c ∈ w, isIndent c = true) →
      w.filter (fun c => !isDropped c) = w := by
    refine fun w hw => List.filter_eq_self.2 fun c hc => ?_
    have hc : c = ' ' ∨ c = '\t' := by simpa [isIndent] using hw c hc
    rcases hc with rfl | rfl <;> decide
  have hlast : ∀ p, (p ++ m.name.toList).getLast? = m.name.toList.getLast? := fun p => by
    rw [List.getLast?_append_of_ne_nil _ hname.1]
  cases h with
  | @bare gap hgap =>
    refine ⟨List.cons_ne_nil _ _, by simp [isBlank], ?_, ?_⟩
    · rw [← List.cons_append, hlast]
      exact hname.2.1
    · rw [List.filter_cons_of_pos (by decide), List.filter_append, hindent _ hgap, hname.2.2]
  | @hashed space gap hspace hgap =>
    refine ⟨List.cons_ne_nil _ _, by simp [isBlank], ?_, ?_⟩
    · rw [← List.cons_append, ← List.cons_append, ← List.append_assoc, hlast]
      exact hname.2.1
    · rw [List.filter_cons_of_pos (by decide), List.filter_append, hindent _ hspace,
        List.filter_cons_of_pos (by decide), List.filter_append, hindent _ hgap, hname.2.2]

theorem readMarkerChars_line {m : Marker} {text behind tail rest : List Char}
    (htext : MarkerText m text) (hbehind : ∀ c ∈ behind, isIndent c = true)
    (htail : LineEnd tail rest) :
    readMarkerChars (text ++ (behind ++ tail)) =
      (m :: (readMarkerChars rest).1, (readMarkerChars rest).2) := by
  obtain ⟨hne, hhead, -, -⟩ := htext.firm
  have hstart : stripStart (text ++ (behind ++ tail)) = text ++ (behind ++ tail) :=
    dropWhile_eq_self (by rwa [List.head?_append_of_ne_nil _ hne])
  exact readMarkerChars_of_some (by rw [hstart]; exact markerLine?_append htext hbehind htail)

/-- A marker line in front of a text that is stripped. If the text is blank, stripping ends
the line, and else it keeps the line and what is left of the text. -/
theorem readMarkerChars_strip_line {m : Marker} {text behind : List Char}
    (htext : MarkerText m text) (hbehind : ∀ c ∈ behind, isIndent c = true) (l : List Char) :
    readMarkerChars (strip (text ++ (behind ++ '\n' :: l))) =
      (m :: (readMarkerChars (strip l)).1, (readMarkerChars (strip l)).2) := by
  obtain ⟨hne, hhead, hlast, -⟩ := htext.firm
  obtain ⟨pre, post, hl, hpre, hpost⟩ := exists_strip l
  cases hs : strip l with
  | nil =>
    have hblank : ∀ c ∈ behind ++ '\n' :: l, isBlank c = true := by
      have hbl : ∀ c ∈ behind, isBlank c = true := fun c hc => isBlank_of_isIndent (hbehind c hc)
      have hll : ∀ c ∈ l, isBlank c = true := by
        rw [hl, hs, List.append_nil]
        exact List.forall_mem_append.2 ⟨hpre, hpost⟩
      exact List.forall_mem_append.2 ⟨hbl, List.forall_mem_cons.2 ⟨by decide, hll⟩⟩
    have hstrip : strip ([] ++ (text ++ (behind ++ '\n' :: l))) = text :=
      strip_between nofun hblank hhead hlast
    have hnone : ∀ c ∈ ([] : List Char), isIndent c = true := nofun
    have hread := readMarkerChars_line htext hnone .text
    rw [List.nil_append] at hstrip
    rw [hstrip]
    simpa using hread
  | cons c r =>
    have hassoc : text ++ (behind ++ '\n' :: (pre ++ c :: r)) =
        text ++ (behind ++ '\n' :: pre) ++ c :: r := by simp
    have hstrip : strip (text ++ (behind ++ '\n' :: l)) =
        text ++ (behind ++ '\n' :: (pre ++ c :: r)) := by
      have hl' : text ++ (behind ++ '\n' :: l) =
          [] ++ (text ++ (behind ++ '\n' :: (pre ++ c :: r)) ++ post) := by
        rw [hl, hs]; simp
      rw [hl']
      refine strip_between nofun hpost ?_ fun d hd => ?_
      · rwa [List.head?_append_of_ne_nil _ hne]
      · rw [hassoc, List.getLast?_append_of_ne_nil _ (List.cons_ne_nil _ _), ← hs] at hd
        exact getLast?_strip hd
    rw [hstrip, readMarkerChars_line htext hbehind (.feed _), readMarkerChars_blanks hpre]

/-- **Marker lines in front of a text** are read first, and then the text is read. -/
theorem readMarkerChars_strip_append {ms : List Marker} {m : List Char} (h : MarkerLines ms m)
    (t : List Char) : readMarkerChars (strip (m ++ t)) =
      (ms ++ (readMarkerChars (strip t)).1, (readMarkerChars (strip t)).2) := by
  induction h with
  | none => rfl
  | blanks hpre rest ih => rw [List.append_assoc, strip_append_blank hpre, ih]
  | line htext hbehind rest ih =>
    rw [List.append_assoc, List.append_assoc, List.cons_append,
      readMarkerChars_strip_line htext hbehind, ih]
    rfl

theorem MarkerLines.filter {ms : List Marker} {m : List Char} (h : MarkerLines ms m) :
    MarkerLines ms (m.filter fun c => !isDropped c) := by
  induction h with
  | none => exact .none
  | blanks hpre rest ih =>
    rw [List.filter_append]
    exact .blanks (fun c hc => hpre c (List.mem_of_mem_filter hc)) ih
  | line htext hbehind rest ih =>
    obtain ⟨-, -, -, hkeep⟩ := htext.firm
    rw [List.filter_append, List.filter_append, hkeep, List.filter_cons_of_pos (by decide)]
    exact .line htext (fun c hc => hbehind c (List.mem_of_mem_filter hc)) ih

theorem readMarkerChars_normalize_append {ms : List Marker} {m : List Char}
    (h : MarkerLines ms m) (t : List Char) : readMarkerChars (normalizeChars (m ++ t)) =
      (ms ++ (readMarkerChars (normalizeChars t)).1, (readMarkerChars (normalizeChars t)).2) := by
  rw [normalizeChars, List.filter_append, readMarkerChars_strip_append h.filter, normalizeChars]

/-! ## The body -/

theorem LineEnd.suffix {tail rest : List Char} (h : LineEnd tail rest) : rest <:+ tail := by
  cases h with
  | text => exact List.suffix_refl _
  | feed => exact List.suffix_cons _ _

/-- Reading stops where no marker line stands behind the blanks. -/
theorem exists_body (l : List Char) :
    ∃ rest, rest <:+ l ∧ (readMarkerChars l).2 = stripStart rest ∧
      markerLine? (stripStart rest) = none := by
  induction l using markerLine_induction with
  | body l h => exact ⟨l, List.suffix_refl l, by rw [readMarkerChars_of_none h], h⟩
  | line l m behind h ih =>
    obtain ⟨rest, hrest, hbody, hnone⟩ := ih
    obtain ⟨indent, text, after, tail, hl, -, -, -, htail⟩ := exists_of_markerLine? h
    have htl : tail <:+ l := by
      have hs : tail <:+ stripStart l := by
        rw [hl, ← List.append_assoc, ← List.append_assoc]
        exact List.suffix_append _ _
      exact hs.trans (List.dropWhile_suffix _)
    exact ⟨rest, (hrest.trans htail.suffix).trans htl, by rw [readMarkerChars_of_some h, hbody],
      hnone⟩

/-- **The body has no marker in front**: reading it finds none and leaves it as it is. -/
theorem readMarkerChars_body (l : List Char) :
    readMarkerChars (readMarkerChars l).2 = ([], (readMarkerChars l).2) := by
  obtain ⟨rest, -, hbody, hnone⟩ := exists_body l
  have hstart : stripStart (stripStart rest) = stripStart rest :=
    dropWhile_eq_self fun c hc => head?_dropWhile hc
  rw [hbody, readMarkerChars_of_none (by rw [hstart, hnone]), hstart]

/-- The body of a normalized text is normalized. -/
theorem normalizeChars_body (l : List Char) :
    normalizeChars (readMarkerChars (normalizeChars l)).2 =
      (readMarkerChars (normalizeChars l)).2 := by
  obtain ⟨rest, hrest, hbody, -⟩ := exists_body (normalizeChars l)
  have hsuffix : stripStart rest <:+ normalizeChars l :=
    (List.dropWhile_suffix _).trans hrest
  have hkeep : (stripStart rest).filter (fun c => !isDropped c) = stripStart rest := by
    refine List.filter_eq_self.2 fun c hc => ?_
    have hc : c ∈ l.filter fun c => !isDropped c :=
      (strip_isInfix _).subset (hsuffix.subset hc)
    exact (List.mem_filter.1 hc).2
  have hlast : ∀ c ∈ (stripStart rest).getLast?, isBlank c = false := by
    intro c hc
    obtain ⟨pre, hpre⟩ := hsuffix
    refine getLast?_strip (l := l.filter fun c => !isDropped c) (c := c) ?_
    rw [← normalizeChars, ← hpre]
    exact List.mem_getLast?_append_of_mem_getLast? hc
  have hhead : ∀ c ∈ (stripStart rest).head?, isBlank c = false := fun c hc => head?_dropWhile hc
  rw [hbody, normalizeChars, hkeep, strip_eq_self hhead hlast]

/-- The markers `ms` stand in front of `body` in the text `l`, or are all there is of it; then
the last marker line may lack its line feed. -/
def Leads (ms : List Marker) (l body : List Char) : Prop :=
  (∃ m, MarkerLines ms m ∧ l = m ++ body) ∨ (body = [] ∧ MarkerLines ms (l ++ ['\n']))

/-- **What is read off a text stands in front of it.** -/
theorem readMarkerChars_sound (l : List Char) :
    Leads (readMarkerChars l).1 l (readMarkerChars l).2 := by
  induction l using markerLine_induction with
  | body l h =>
    rw [readMarkerChars_of_none h]
    refine .inl ⟨l.takeWhile isBlank, ?_, List.takeWhile_append_dropWhile.symm⟩
    simpa using MarkerLines.blanks (fun c hc => List.mem_takeWhile_imp hc) .none
  | line l m rest h ih =>
    obtain ⟨indent, text, behind, tail, hl, hindent, htext, hbehind, htail⟩ :=
      exists_of_markerLine? h
    obtain ⟨pre, hpre, hl⟩ : ∃ pre, (∀ c ∈ pre, isBlank c = true) ∧
        l = pre ++ (text ++ (behind ++ tail)) := by
      refine ⟨l.takeWhile isBlank ++ indent, List.forall_mem_append.2
        ⟨fun c hc => List.mem_takeWhile_imp hc, fun c hc => isBlank_of_isIndent (hindent c hc)⟩, ?_⟩
      rw [List.append_assoc, ← hl]
      exact List.takeWhile_append_dropWhile.symm
    have hlines : ∀ {ms after}, MarkerLines ms after →
        MarkerLines (m :: ms) (pre ++ (text ++ (behind ++ '\n' :: after))) :=
      fun hafter => .blanks hpre (.line htext hbehind hafter)
    rw [readMarkerChars_of_some h, hl]
    cases htail with
    | text =>
      rw [show readMarkerChars [] = ([], []) from readMarkerChars_of_none rfl]
      exact .inr ⟨rfl, by simpa using hlines .none⟩
    | feed =>
      rcases ih with ⟨after, hafter, hrest⟩ | ⟨hbody, hafter⟩
      · exact .inl ⟨_, hlines hafter, by simp [← hrest]⟩
      · exact .inr ⟨hbody, by simpa using hlines hafter⟩

/-! ## Classification -/

theorem readMarkers_normalize (text : String) :
    readMarkers (normalize text) =
      ((readMarkerChars (normalizeChars text.toList)).1,
        String.ofList (readMarkerChars (normalizeChars text.toList)).2) := by
  rw [readMarkers, normalize, String.toList_ofList]

theorem disabled_classify {convention : String} {b : Block} :
    (classify convention b).block.disabled = true ↔
      .disable ∈ (readMarkers (normalize b.normalized)).1 :=
  List.contains_iff_mem

theorem manual_classify {convention : String} {b : Block} :
    (classify convention b).block.manual = true ↔
      .manual ∈ (readMarkers (normalize b.normalized)).1 :=
  List.contains_iff_mem

theorem kind_classify (convention : String) (b : Block) :
    (classify convention b).kind =
      if (classify convention b).block.disabled then .disabled
      else bodyKind convention.toList (classify convention b).body.toList := rfl

theorem readMarkers_append {ms : List Marker} {m : String} (h : MarkerLines ms m.toList)
    (text : String) : readMarkers (normalize (m ++ text)) =
      (ms ++ (readMarkers (normalize text)).1, (readMarkers (normalize text)).2) := by
  rw [readMarkers_normalize, readMarkers_normalize, String.toList_append,
    readMarkerChars_normalize_append h]

/-- Marker lines in front of a block change its markers and, if one disables it, its kind. -/
theorem classify_behind_markers (convention : String) (b : Block) {ms : List Marker} {m : String}
    (h : MarkerLines ms m.toList) :
    let alone := classify convention b
    let c := classify convention { b with normalized := m ++ b.normalized }
    (c.block.disabled = true ↔ .disable ∈ ms ∨ alone.block.disabled = true) ∧
      (c.block.manual = true ↔ .manual ∈ ms ∨ alone.block.manual = true) ∧
      c.body = alone.body ∧ c.kind = if c.block.disabled then .disabled else alone.kind := by
  intro alone c
  have hread := readMarkers_append h b.normalized
  have hdisabled : c.block.disabled = true ↔ .disable ∈ ms ∨ alone.block.disabled = true := by
    rw [disabled_classify, disabled_classify, hread, List.mem_append]
  have hbody : c.body = alone.body := congrArg Prod.snd hread
  refine ⟨hdisabled, ?_, hbody, ?_⟩
  · rw [manual_classify, manual_classify, hread, List.mem_append]
  · cases hc : c.block.disabled with
    | true => rw [kind_classify, hc, if_pos rfl, if_pos rfl]
    | false =>
      have halone : alone.block.disabled = false := by
        rw [Bool.eq_false_iff]
        exact fun ha => by simp [hdisabled.2 (.inr ha)] at hc
      have hkind : alone.kind = bodyKind convention.toList alone.body.toList :=
        (kind_classify convention b).trans (if_neg (by simpa using halone))
      rw [kind_classify, hc, hkind, hbody]

/-- The markers of a block are those that stand in front of its body. -/
theorem exists_leads (convention : String) (b : Block) :
    ∃ ms, Leads ms (normalize b.normalized).toList (classify convention b).body.toList ∧
      ((classify convention b).block.disabled = true ↔ .disable ∈ ms) ∧
      ((classify convention b).block.manual = true ↔ .manual ∈ ms) := by
  refine ⟨_, ?_, disabled_classify, manual_classify⟩
  have hbody : (classify convention b).body = (readMarkers (normalize b.normalized)).2 := rfl
  rw [hbody, readMarkers_normalize, normalize, String.toList_ofList, String.toList_ofList]
  exact readMarkerChars_sound _

/-- The body of a block has no markers, and classifying it finds what it was classified as. -/
theorem classify_body (convention : String) (b : Block) :
    let c := classify convention b
    readMarkers c.body = ([], c.body) ∧ normalize c.body = c.body ∧
      ∀ b' : Block, b'.normalized = c.body →
        let again := classify convention b'
        again.block.disabled = false ∧ again.block.manual = false ∧ again.body = c.body ∧
          (c.block.disabled = false → again.kind = c.kind) := by
  intro c
  have hbody : c.body =
      String.ofList (readMarkerChars (normalizeChars b.normalized.toList)).2 :=
    congrArg Prod.snd (readMarkers_normalize b.normalized)
  have hread : readMarkers c.body = ([], c.body) := by
    rw [hbody, readMarkers, String.toList_ofList, readMarkerChars_body]
  have hnormal : normalize c.body = c.body := by
    rw [hbody, normalize, String.toList_ofList, normalizeChars_body]
  refine ⟨hread, hnormal, fun b' hb' => ?_⟩
  intro again
  have hagain : readMarkers (normalize b'.normalized) = ([], c.body) := by
    rw [hb', hnormal, hread]
  have hdisabled : again.block.disabled = false := by
    rw [Bool.eq_false_iff, ne_eq, disabled_classify, hagain]
    exact List.not_mem_nil
  have hsame : again.body = c.body := congrArg Prod.snd hagain
  refine ⟨hdisabled, ?_, hsame, fun hc => ?_⟩
  · rw [Bool.eq_false_iff, ne_eq, manual_classify, hagain]
    exact List.not_mem_nil
  · have hkind : c.kind = bodyKind convention.toList c.body.toList :=
      (kind_classify convention b).trans (if_neg (by simpa using hc))
    rw [kind_classify, hdisabled, hkind, hsame]
    rfl

/-- **Marker lines are a prefix of their own.** Classifying a block with marker lines put in
front of its text adds their markers to its own, leaves the body as it is, and makes the
block disabled if one of them disables it; else the kind is that of the block. The markers
of a block are those that stand in front of its body, at the start of its normalized text.
The body is normalized and has no marker in front, so classifying it finds no marker and
gives the same body, and the same kind unless the block was disabled. -/
theorem classify_markerLines (convention : String) :
    (∀ (b : Block) (ms : List Marker) (m : String), MarkerLines ms m.toList →
      let alone := classify convention b
      let c := classify convention { b with normalized := m ++ b.normalized }
      (c.block.disabled = true ↔ .disable ∈ ms ∨ alone.block.disabled = true) ∧
        (c.block.manual = true ↔ .manual ∈ ms ∨ alone.block.manual = true) ∧
        c.body = alone.body ∧ c.kind = if c.block.disabled then .disabled else alone.kind) ∧
    (∀ b : Block, ∃ ms,
      Leads ms (normalize b.normalized).toList (classify convention b).body.toList ∧
        ((classify convention b).block.disabled = true ↔ .disable ∈ ms) ∧
        ((classify convention b).block.manual = true ↔ .manual ∈ ms)) ∧
    ∀ b : Block,
      let c := classify convention b
      readMarkers c.body = ([], c.body) ∧ normalize c.body = c.body ∧
        ∀ b' : Block, b'.normalized = c.body →
          let again := classify convention b'
          again.block.disabled = false ∧ again.block.manual = false ∧ again.body = c.body ∧
            (c.block.disabled = false → again.kind = c.kind) :=
  ⟨fun b _ _ h => classify_behind_markers convention b h, exists_leads convention,
    classify_body convention⟩

/-- A manual reference. -/
def manualReference : Block :=
  ⟨1, "", "@manual\nowner/repo", .unspecified, false, false, none⟩

/-- A marker line behind a hash, a blank line, and one that is indented. -/
def twoMarkers : String := "# @ manual\t\n \n\t@disable \n"

theorem markerLines_twoMarkers : MarkerLines [.manual, .disable] twoMarkers.toList := by
  have hlines : twoMarkers.toList =
      '#' :: ([' '] ++ '@' :: ([' '] ++ Marker.manual.name.toList)) ++
        (['\t'] ++ '\n' :: ([' ', '\n', '\t'] ++
          ('@' :: ([] ++ Marker.disable.name.toList) ++ ([' '] ++ '\n' :: [])))) := by decide
  rw [hlines]
  exact .line (.hashed (by simp [isIndent]) (by simp [isIndent])) (by simp [isIndent])
    (.blanks (by simp [isBlank]) (.line (.bare nofun) (by simp [isIndent]) .none))

theorem classify_markerLines_twoMarkers :
    MarkerLines [.manual, .disable] twoMarkers.toList ∧
      (classify "spec" manualReference).kind = .bareReference ∧
      (classify "spec" { manualReference with
        normalized := twoMarkers ++ manualReference.normalized }).kind = .disabled ∧
      (classify "spec" { manualReference with
        normalized := twoMarkers ++ manualReference.normalized }).body = "owner/repo" := by
  obtain ⟨hdisabled, -, hbody, hkind⟩ :=
    (classify_markerLines "spec").1 manualReference _ twoMarkers markerLines_twoMarkers
  refine ⟨markerLines_twoMarkers, by decide +kernel, ?_, hbody.trans (by decide +kernel)⟩
  rw [hkind, hdisabled.2 (.inl (by decide)), if_pos rfl]

end Block

end LiterateConfig
