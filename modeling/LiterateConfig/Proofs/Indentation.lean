import LiterateConfig.Proofs.Segmentation

/-!
# Indented documents

Putting the same spaces and tabs in front of every line of a document moves its fences
to the right and leaves their texts alone. A line is stripped before it is taken for the
opening or the closing of a fence, so the fences open and close where they did; the
lines of a body get the new indentation as a further part of the margin that they share,
and the margin is removed.

Only a line feed within a line could spoil this: what follows it would be a line of the
body without the indentation.

Results:
* `margin_indented`: the shared margin grows by exactly the indentation;
* `bodyText_indented`: the text of a body does not depend on its indentation;
* `unplaced_scan_indented`: the walk finds the same fences, section apart;
* `texts_indented`: what is extracted has the same texts.
-/
namespace LiterateConfig

/-! ## Margins -/

namespace Text

variable {w : List Char}

theorem commonStart_append (w a b : List Char) :
    commonStart (w ++ a) (w ++ b) = w ++ commonStart a b := by
  induction w with
  | nil => rfl
  | cons c w ih => simp [commonStart, ih]

theorem isIndentOnly_append (hw : ∀ c ∈ w, isIndent c = true) (l : List Char) :
    isIndentOnly (w ++ l) = isIndentOnly l := by
  have hall : w.all isIndent = true := List.all_eq_true.2 hw
  simp [isIndentOnly, hall]

theorem takeWhile_isIndent_append (hw : ∀ c ∈ w, isIndent c = true) (l : List Char) :
    (w ++ l).takeWhile isIndent = w ++ l.takeWhile isIndent :=
  List.takeWhile_append_of_pos hw

theorem filter_indented (hw : ∀ c ∈ w, isIndent c = true) (ls : List (List Char)) :
    (ls.map (w ++ ·)).filter (fun l => !isIndentOnly l) =
      (ls.filter fun l => !isIndentOnly l).map (w ++ ·) := by
  rw [List.filter_map]
  congr 1
  refine List.filter_congr fun l _ => ?_
  rw [Function.comp_apply, isIndentOnly_append hw]

theorem foldl_commonStart_indented (hw : ∀ c ∈ w, isIndent c = true) (m : List Char)
    (ls : List (List Char)) :
    (ls.map (w ++ ·)).foldl (fun m k => commonStart m (k.takeWhile isIndent)) (w ++ m) =
      w ++ ls.foldl (fun m k => commonStart m (k.takeWhile isIndent)) m := by
  induction ls generalizing m with
  | nil => rfl
  | cons l ls ih =>
    rw [List.map_cons, List.foldl_cons, takeWhile_isIndent_append hw, commonStart_append, ih,
      List.foldl_cons]

/-- **The margin grows by exactly the indentation**, if there is a line to have one. -/
theorem margin_indented (hw : ∀ c ∈ w, isIndent c = true) {ls : List (List Char)} {l : List Char}
    (hl : l ∈ ls) (hi : isIndentOnly l = false) : margin (ls.map (w ++ ·)) = w ++ margin ls := by
  have hfilter : l ∈ ls.filter fun l => !isIndentOnly l := List.mem_filter.2 ⟨hl, by simp [hi]⟩
  unfold margin
  rw [filter_indented hw]
  cases hf : ls.filter fun l => !isIndentOnly l with
  | nil => rw [hf] at hfilter; cases hfilter
  | cons k rest =>
    simp only [List.map_cons]
    rw [takeWhile_isIndent_append hw, foldl_commonStart_indented hw]

theorem dedentLines_indented (hw : ∀ c ∈ w, isIndent c = true) (ls : List (List Char)) :
    dedentLines (ls.map (w ++ ·)) = dedentLines ls := by
  simp only [dedentLines, List.map_map]
  refine List.map_congr_left fun l hl => ?_
  simp only [Function.comp_apply, isIndentOnly_append hw]
  cases hi : isIndentOnly l with
  | true => rfl
  | false =>
    have hdrop : (w ++ l).drop (w ++ margin ls).length = l.drop (margin ls).length := by
      rw [List.length_append, List.drop_length_add_append]
    rw [margin_indented hw hl hi, hdrop]

theorem strip_indented (hw : ∀ c ∈ w, isIndent c = true) (l : List Char) :
    strip (w ++ l) = strip l :=
  strip_append_blank fun c hc => isBlank_of_isIndent (hw c hc)

end Text

/-! ## Fences -/

namespace Document

open LiterateConfig.Text

variable {w : List Char}

theorem bodyText_indented (hw : ∀ c ∈ w, isIndent c = true) {body : List (List Char)}
    (hbody : ∀ l ∈ body, '\n' ∉ l) : bodyText (body.map (w ++ ·)) = bodyText body := by
  have hw' : '\n' ∉ w := fun h => by simpa [isIndent] using hw _ h
  have hmap : ∀ l ∈ body.map (w ++ ·), '\n' ∉ l := by
    intro l hl
    obtain ⟨k, hk, rfl⟩ := List.mem_map.1 hl
    simpa [hw'] using hbody k hk
  cases hb : body with
  | nil => rfl
  | cons l rest =>
    rw [← hb]
    have hne : body ≠ [] := by simp [hb]
    have hmne : body.map (w ++ ·) ≠ [] := by simp [hb]
    rw [bodyText, bodyText, dedent, dedent, splitOn_joinWith hne hbody,
      splitOn_joinWith hmne hmap, dedentLines_indented hw]

theorem takeBody_indented (hw : ∀ c ∈ w, isIndent c = true) (o : Opening)
    (lines : List (List Char)) :
    takeBody o (lines.map (w ++ ·)) =
      ((takeBody o lines).1.map (w ++ ·), (takeBody o lines).2.map (w ++ ·)) := by
  have hcloses : (fun l => !closes o l) ∘ (w ++ ·) = fun l => !closes o l := by
    funext l
    simp [closes, strip_indented hw]
  simp only [takeBody, List.takeWhile_map, List.dropWhile_map, hcloses, List.map_drop]

/-- **The walk over indented lines finds the same fences**, whatever section each of the two
walks starts in. Only sections can differ: a heading may be indented too far to be one. -/
theorem unplaced_scan_indented (hw : ∀ c ∈ w, isIndent c = true) {lines : List (List Char)}
    (hlines : ∀ l ∈ lines, '\n' ∉ l) (current other : Section) :
    (scan other (lines.map (w ++ ·))).map Fence.unplaced =
      (scan current lines).map Fence.unplaced := by
  fun_induction scan current lines generalizing other with
  | case1 => rw [List.map_nil, scan_nil]
  | case2 current line rest ho ih =>
    rw [← strip_indented hw] at ho
    rw [List.map_cons, scan_outside ho]
    exact ih (fun l hl => hlines l (List.mem_cons_of_mem _ hl)) _
  | case3 current line rest o ho language hone ih =>
    rw [← strip_indented hw] at ho
    rw [List.map_cons, scan_oneLine ho hone, List.map_cons, List.map_cons,
      ih (fun l hl => hlines l (List.mem_cons_of_mem _ hl)) other]
    rfl
  | case4 current line rest o ho language hone ih =>
    rw [← strip_indented hw] at ho
    have hbody : ∀ l ∈ (takeBody o rest).1, '\n' ∉ l := fun l hl =>
      hlines l (List.mem_cons_of_mem _ ((List.takeWhile_prefix _).subset hl))
    have hbehind : ∀ l ∈ (takeBody o rest).2, '\n' ∉ l := fun l hl =>
      hlines l (List.mem_cons_of_mem _
        ((List.dropWhile_suffix _).subset ((List.drop_suffix _ _).subset hl)))
    rw [List.map_cons, scan_body ho (by simpa using hone), takeBody_indented hw, List.map_cons,
      List.map_cons, ih hbehind other, bodyText_indented hw hbody]
    rfl

theorem texts_eq_textsOf (languages lines : List String) :
    (extractLines languages lines).map Prod.fst =
      textsOf languages (scan .unspecified (lines.map String.toList)) := by
  rw [extractLines_eq_filter, List.map_map]
  rfl

/-- **Indentation does not change texts.** With the same spaces and tabs in front of every
line, the same texts are extracted in the same order, for all languages. -/
theorem texts_indented (languages : List String) {w : String} {lines : List String}
    (hw : ∀ c ∈ w.toList, c = ' ' ∨ c = '\t') (hlines : ∀ l ∈ lines, '\n' ∉ l.toList) :
    (extractLines languages (lines.map (w ++ ·))).map Prod.fst =
      (extractLines languages lines).map Prod.fst := by
  have hindent : ∀ c ∈ w.toList, isIndent c = true := by simpa [isIndent] using hw
  have hlines' : ∀ l ∈ lines.map String.toList, '\n' ∉ l := by simpa using hlines
  have hmap : (lines.map (w ++ ·)).map String.toList =
      (lines.map String.toList).map (w.toList ++ ·) := by
    simp [Function.comp_def]
  rw [texts_eq_textsOf, texts_eq_textsOf, hmap, ← textsOf_unplaced,
    unplaced_scan_indented hindent hlines' .unspecified, textsOf_unplaced]

/-- A heading, a fence whose lines are indented by tabs and by spaces with lines of mere
blanks between them, and a fence that is never closed. -/
def raggedLines : List String := [
  "# Main", "```python", "\t  a = 1", "\t", "\t\tb = 2", "", " ```", "~~~Python", "  c = 3", "    d"]

theorem texts_indented_raggedLines :
    (extractLines ["python"] (raggedLines.map (" \t  " ++ ·))).map Prod.fst =
        ["a = 1\n\n\tb = 2", "c = 3\n  d"] ∧
      extractLines ["python"] raggedLines =
        [("a = 1\n\n\tb = 2", .main), ("c = 3\n  d", .main)] := by
  have hw : ∀ c ∈ " \t  ".toList, c = ' ' ∨ c = '\t' := by simp
  have hlines : ∀ l ∈ raggedLines, '\n' ∉ l.toList := by decide +kernel
  refine ⟨?_, by decide +kernel⟩
  rw [texts_indented ["python"] hw hlines]
  decide +kernel

end Document

end LiterateConfig
