import LiterateConfig.Block.Basic
import LiterateConfig.Proofs.Rendering

/-!
# Cutting documents into pieces

The walk over the lines of a document can be stopped behind any line and taken up
again: all that it has to remember is the section and, inside a fence, the opening
of that fence. A fence that is still open is ended by a line of its own marks.

**Plain lines.** `Plain line` says that a line outside fences leaves no trace: it opens no
fence and names no section.

**Endings.** `ending current lines` is what the walk remembers behind the lines, and
`closed current lines` adds the line that ends a fence which is still open.

Results:
* `scan_closed_append`: the fences of lines and more lines are those of the lines, and
  then those that the walk gives when it is taken up behind them;
* `map_unplaced_scan`: the section in front of lines decides on sections only;
* `scan_wholeFence`: the lines of a fence are one fence, whatever they say;
* `extract_append`: extracting goes document by document and line by line;
* `extractLines_segments`: the languages that count only choose among the fences.
-/
namespace LiterateConfig

/-! ## Lines of documents that stand behind each other -/

namespace Text

theorem splitLines_ne_nil {l : List Char} (h : l ≠ []) : splitLines l ≠ [] := by
  fun_cases splitLines l
  all_goals first
    | exact absurd rfl h
    | exact List.cons_ne_nil _ _

/-- The lines of a text that ends with a line feed are not continued by what follows. -/
theorem splitLines_append {a b : List Char} (h : a.getLast? = some '\n') :
    splitLines (a ++ b) = splitLines a ++ splitLines b := by
  -- A carriage return meets its line feed within the text or not at all.
  have apart : ∀ {c : Char} {r : List Char}, (c :: r).getLast? = some '\n' →
      (∀ r', c = '\r' → r = '\n' :: r' → False) →
      ∀ r', c = '\r' → r ++ b = '\n' :: r' → False := by
    rintro c r hl hcr r' rfl he
    cases r with
    | nil => simp at hl
    | cons d r => exact hcr r rfl (by rw [(List.cons.inj he).1])
  fun_induction splitLines a with
  | case1 => cases h
  | case2 r ih =>
    cases r with
    | nil => simp [splitLines]
    | cons d r => simpa [splitLines] using ih (by simpa using h)
  | case3 c r hcr hc ih =>
    rw [List.cons_append, splitLines.eq_3 _ _ (apart h hcr), if_pos hc]
    cases r with
    | nil => simp [splitLines]
    | cons d r => rw [ih (by simpa using h), List.cons_append]
  | case4 c r hcr hc hs ih =>
    cases r with
    | nil => simp [isLineBreak, show c = '\n' by simpa using h] at hc
    | cons d r => exact absurd hs (splitLines_ne_nil (List.cons_ne_nil _ _))
  | case5 c r hcr hc l ls hs ih =>
    cases r with
    | nil => cases hs
    | cons d r =>
      rw [List.cons_append, splitLines.eq_3 _ _ (apart h hcr), if_neg hc,
        ih (by simpa using h), hs]
      rfl

theorem splitLines_flatten {texts : List (List Char)} (h : ∀ t ∈ texts, t.getLast? = some '\n') :
    splitLines texts.flatten = texts.flatMap splitLines := by
  induction texts with
  | nil => rfl
  | cons t rest ih =>
    rw [List.flatten_cons, splitLines_append (h t List.mem_cons_self),
      ih fun u hu => h u (List.mem_cons_of_mem _ hu), List.flatMap_cons]

end Text

namespace Document

open LiterateConfig.Text

/-! ## Stopping and going on -/

/-- What the walk over a document remembers. -/
structure Ending where
  /-- The section behind the lines. -/
  within : Section
  /-- The opening of the fence that is not closed yet. -/
  fence : Option Opening
  deriving DecidableEq, Repr

/-- What the walk remembers behind lines, `current` being the section in front of them. -/
def ending (current : Section) : List (List Char) → Ending
  | [] => ⟨current, none⟩
  | line :: rest =>
    match opening? (strip line) with
    | none => ending (sectionAfter current line) rest
    | some o =>
      if o.isOneLine then ending current rest
      else if rest.any (closes o) then ending current (takeBody o rest).2
      else ⟨current, some o⟩
termination_by lines => lines.length
decreasing_by
  all_goals simp_wf
  have := length_takeBody_snd o rest
  omega

theorem ending_nil (current : Section) : ending current [] = ⟨current, none⟩ := by rw [ending]

theorem ending_outside {current : Section} {line : List Char} {rest : List (List Char)}
    (h : opening? (strip line) = none) :
    ending current (line :: rest) = ending (sectionAfter current line) rest := by
  rw [ending]; simp [h]

theorem ending_oneLine {current : Section} {line : List Char} {rest : List (List Char)}
    {o : Opening} (h : opening? (strip line) = some o) (ho : o.isOneLine = true) :
    ending current (line :: rest) = ending current rest := by
  rw [ending]; simp [h, ho]

/-- The lines with one more that ends a fence which is open behind them. -/
def closed (current : Section) (lines : List (List Char)) : List (List Char) :=
  lines ++ (ending current lines).fence.toList.map Opening.marks

theorem closed_of_outside {current : Section} {lines : List (List Char)}
    (h : (ending current lines).fence = none) : closed current lines = lines := by
  simp [closed, h]

/-- A fence that opens has three marks or more. -/
theorem leastWidth_le {l : List Char} {o : Opening} (h : opening? l = some o) :
    leastWidth ≤ o.width := by
  have hw : ∀ mark o, openingWith? mark l = some o → leastWidth ≤ o.width := by
    intro mark o ho
    unfold openingWith? at ho
    dsimp only at ho
    split at ho
    · next hc =>
      cases ho
      simp only [Bool.and_eq_true, decide_eq_true_eq] at hc
      exact hc.1
    · cases ho
  unfold opening? at h
  cases hb : openingWith? .backtick l with
  | some o' => rw [hb] at h; cases h; exact hw _ _ hb
  | none => rw [hb] at h; exact hw _ _ h

/-- A body that is closed ends at its first closing line. -/
theorem takeBody_of_any {o : Opening} {lines : List (List Char)} (h : lines.any (closes o) = true) :
    ∃ body line rest, lines = body ++ line :: rest ∧ (∀ l ∈ body, closes o l = false) ∧
      closes o line = true := by
  induction lines with
  | nil => cases h
  | cons l ls ih =>
    cases hl : closes o l with
    | true => exact ⟨[], l, ls, rfl, nofun, hl⟩
    | false =>
      obtain ⟨body, line, rest, rfl, hbody, hline⟩ := ih (by simpa [hl] using h)
      exact ⟨l :: body, line, rest, rfl, List.forall_mem_cons.2 ⟨hl, hbody⟩, hline⟩

/-- A body that is never closed is all there is. -/
theorem takeBody_of_open {o : Opening} {lines : List (List Char)}
    (h : ∀ l ∈ lines, closes o l = false) : takeBody o lines = (lines, []) := by
  have hp : ∀ l ∈ lines, (!closes o l) = true := fun l hl => by rw [h l hl]; rfl
  have htake : lines.takeWhile (fun l => !closes o l) = lines := List.takeWhile_eq_self_iff.2 hp
  have hdrop : lines.dropWhile (fun l => !closes o l) = [] := List.dropWhile_eq_nil_iff.2 hp
  simp [takeBody, htake, hdrop]

/-- **The walk goes on where it stopped.** Behind lines whose open fence has been ended it
gives what it gives for the lines that follow, from the section in which it stopped. -/
theorem scan_closed_append (current : Section) (lines more : List (List Char)) :
    scan current (closed current lines ++ more) =
      scan current lines ++ scan (ending current lines).within more := by
  unfold closed
  rw [List.append_assoc]
  fun_induction ending current lines with
  | case1 current => simp [scan_nil]
  | case2 current line rest ho ih =>
    rw [List.cons_append, scan_outside ho, scan_outside ho, ih]
  | case3 current line rest o ho hone ih =>
    rw [List.cons_append, scan_oneLine ho hone, scan_oneLine ho hone, ih, List.cons_append]
  | case4 current line rest o ho hone hany ih =>
    obtain ⟨body, closing, behind, rfl, hbody, hclosing⟩ := takeBody_of_any hany
    have hone : o.isOneLine = false := by simpa using hone
    rw [takeBody_append_closing hbody hclosing] at ih ⊢
    rw [List.cons_append, List.append_assoc, List.cons_append, scan_body ho hone,
      scan_body ho hone, takeBody_append_closing hbody hclosing,
      takeBody_append_closing hbody hclosing, ih, List.cons_append]
  | case5 current line rest o ho hone hany =>
    have hone : o.isOneLine = false := by simpa using hone
    have hbody : ∀ l ∈ rest, closes o l = false := by simpa using hany
    have hmarks : closes o o.marks = true := closes_marks (leastWidth_le ho)
    rw [List.cons_append, scan_body ho hone, scan_body ho hone, takeBody_of_open hbody, scan_nil]
    show ⟨_, bodyText (takeBody o (rest ++ o.marks :: more)).1, _⟩ ::
      scan current (takeBody o (rest ++ o.marks :: more)).2 = _
    rw [takeBody_append_closing hbody hmarks]
    rfl

/-! ## Lines without a trace -/

/-- A line that opens no fence and names no section. -/
structure Plain (line : List Char) : Prop where
  opens : opening? (strip line) = none
  names : (title? line).bind titleSection? = none

instance (line : List Char) : Decidable (Plain line) :=
  decidable_of_iff (opening? (strip line) = none ∧ (title? line).bind titleSection? = none)
    ⟨fun h => ⟨h.1, h.2⟩, fun h => ⟨h.opens, h.names⟩⟩

theorem scan_plain {line : List Char} (h : Plain line) (current : Section)
    (rest : List (List Char)) : scan current (line :: rest) = scan current rest := by
  rw [scan_outside h.opens, sectionAfter, h.names, Option.getD_none]

/-! ## The sections do not matter for the rest -/

/-- Whether a fence is open behind lines does not depend on the section. -/
theorem fence_ending (current other : Section) (lines : List (List Char)) :
    (ending current lines).fence = (ending other lines).fence := by
  fun_induction ending current lines generalizing other with
  | case1 => rw [ending_nil]
  | case2 current line rest ho ih => rw [ending_outside ho, ih]
  | case3 current line rest o ho hone ih => rw [ending_oneLine ho hone, ih other]
  | case4 current line rest o ho hone hany ih =>
    rw [ending.eq_2]
    simp only [ho, hone, hany, if_true, Bool.false_eq_true, if_false]
    exact ih other
  | case5 current line rest o ho hone hany =>
    rw [ending.eq_2]
    simp [ho, hone, hany]

/-- A fence without its section. -/
def Fence.unplaced (f : Fence) : Fence := { f with within := .unspecified }

/-- The section in front of lines decides on sections only. -/
theorem map_unplaced_scan (current other : Section) (lines : List (List Char)) :
    (scan current lines).map Fence.unplaced = (scan other lines).map Fence.unplaced := by
  fun_induction scan current lines generalizing other with
  | case1 => rw [scan_nil]
  | case2 current line rest ho ih => rw [scan_outside ho, ih]
  | case3 current line rest o ho language hone ih =>
    rw [scan_oneLine ho hone, List.map_cons, List.map_cons, ih other]
    rfl
  | case4 current line rest o ho language hone ih =>
    rw [scan_body ho (by simpa using hone), List.map_cons, List.map_cons, ih other]
    rfl

/-- The texts of the fences of some languages among fences. -/
def textsOf (languages : List String) (fences : List Fence) : List String :=
  (fences.filter (accepts languages)).map fun f => String.ofList f.text

theorem textsOf_append (languages : List String) (fs gs : List Fence) :
    textsOf languages (fs ++ gs) = textsOf languages fs ++ textsOf languages gs := by
  simp [textsOf]

theorem textsOf_unplaced (languages : List String) (fs : List Fence) :
    textsOf languages (fs.map Fence.unplaced) = textsOf languages fs := by
  unfold textsOf
  rw [List.filter_map, List.map_map]
  rfl

theorem textsOf_scan (languages : List String) (current other : Section)
    (lines : List (List Char)) :
    textsOf languages (scan current lines) = textsOf languages (scan other lines) := by
  rw [← textsOf_unplaced, map_unplaced_scan current other, textsOf_unplaced]

/-- Documents that end outside a fence give their texts apart. -/
theorem textsOf_scan_flatten (languages : List String) {documents : List (List (List Char))}
    (h : ∀ d ∈ documents, (ending .unspecified d).fence = none) (current : Section) :
    textsOf languages (scan current documents.flatten) =
      documents.flatMap fun d => textsOf languages (scan .unspecified d) := by
  induction documents generalizing current with
  | nil => rw [List.flatten_nil, scan_nil]; rfl
  | cons d rest ih =>
    have hd : (ending current d).fence = none := by
      rw [fence_ending current .unspecified, h d List.mem_cons_self]
    have hcut := scan_closed_append current d rest.flatten
    rw [closed_of_outside hd] at hcut
    rw [List.flatten_cons, hcut, textsOf_append, List.flatMap_cons,
      ih fun e he => h e (List.mem_cons_of_mem _ he), textsOf_scan languages current .unspecified]

end Document

/-! ## Extraction -/

namespace Document

/-- What the walk remembers behind the lines at the head of a document. -/
def endingOf (lines : List String) : Ending := ending .unspecified (lines.map String.toList)

/-- The line of marks that ends the fence which is open behind lines, if one is. -/
def lastMarks (lines : List String) : List String :=
  (endingOf lines).fence.toList.map fun o => String.ofList o.marks

/-- What is extracted from lines that stand behind a section. -/
def extractFrom (languages : List String) (current : Section) (lines : List String) :
    List (String × Section) :=
  ((scan current (lines.map String.toList)).filter (accepts languages)).map
    fun f => (String.ofList f.text, f.within)

theorem toList_lastMarks (lines : List String) :
    (lines ++ lastMarks lines).map String.toList =
      closed .unspecified (lines.map String.toList) := by
  rw [List.map_append, lastMarks, List.map_map]
  unfold closed endingOf
  congr 2
  funext o
  exact String.toList_ofList

theorem extractLines_closed (languages xs ys : List String) :
    extractLines languages (xs ++ lastMarks xs ++ ys) =
      extractLines languages xs ++ extractFrom languages (endingOf xs).within ys := by
  rw [extractLines_eq_filter, List.map_append, toList_lastMarks, scan_closed_append,
    List.filter_append, List.map_append]
  rfl

theorem extractText_eq (languages : List String) (text : String) :
    extractText languages text =
      textsOf languages (scan .unspecified (Text.splitLines text.toList)) := by
  unfold extractText Text.lines
  rw [extractLines_eq_filter, List.map_map, List.map_map]
  simp [textsOf, Function.comp_def]

/-- The lines of a text as lists of characters. -/
theorem toList_lines (text : String) :
    (Text.lines text).map String.toList = Text.splitLines text.toList := by
  unfold Text.lines
  rw [List.map_map]
  exact (List.map_congr_left fun _ _ => String.toList_ofList).trans (List.map_id' _)

/-- The texts of documents that each end with a line feed and outside a fence are the
texts of the joined document. -/
theorem extractText_join (languages : List String) {documents : List String}
    (h : ∀ d ∈ documents, d.toList.getLast? = some '\n' ∧ (endingOf (Text.lines d)).fence = none) :
    extractText languages (String.join documents) = documents.flatMap (extractText languages) := by
  have hlines : Text.splitLines (String.join documents).toList =
      (documents.map fun d => Text.splitLines d.toList).flatten := by
    rw [String.toList_join, List.flatMap_def, Text.splitLines_flatten, List.flatMap_map,
      ← List.flatMap_def]
    rintro t ht
    obtain ⟨d, hd, rfl⟩ := List.mem_map.1 ht
    exact (h d hd).1
  have hends : ∀ ls ∈ documents.map fun d => Text.splitLines d.toList,
      (ending .unspecified ls).fence = none := by
    intro ls hls
    obtain ⟨d, hd, rfl⟩ := List.mem_map.1 hls
    rw [← toList_lines]
    exact (h d hd).2
  rw [extractText_eq, hlines, textsOf_scan_flatten languages hends, List.flatMap_map]
  simp only [← extractText_eq]

end Document

/-! ## Languages -/

namespace Document

open LiterateConfig.Text

/-- The lines of a fence from its opening to its end: one line, or a body that does not
close it and a line that does. -/
inductive WholeFence (o : Opening) : List (List Char) → Prop
  | oneLine {line : List Char} (opens : opening? (strip line) = some o)
      (same : o.isOneLine = true) : WholeFence o [line]
  | lines {line closing : List Char} {body : List (List Char)}
      (opens : opening? (strip line) = some o) (more : o.isOneLine = false)
      (inside : ∀ l ∈ body, closes o l = false) (ends : closes o closing = true) :
      WholeFence o (line :: (body ++ [closing]))

/-- The lines of a fence without an end. -/
inductive OpenFence (o : Opening) : List (List Char) → Prop
  | lines {line : List Char} {body : List (List Char)} (opens : opening? (strip line) = some o)
      (more : o.isOneLine = false) (inside : ∀ l ∈ body, closes o l = false) :
      OpenFence o (line :: body)

/-- The fence names one of the languages, whatever the case of letters. -/
def Opening.Names (languages : List String) (o : Opening) : Prop :=
  ∃ l, language? o.info = some l ∧ languageKey l ∈ languages.map lower

/-- **The lines of a fence are one fence**, whatever they say and whatever follows. -/
theorem scan_wholeFence {o : Opening} {fence : List (List Char)} (h : WholeFence o fence) :
    ∃ text, ∀ current more, scan current (fence ++ more) =
      ⟨language? o.info, text, current⟩ :: scan current more := by
  cases h with
  | oneLine opens same => exact ⟨_, fun _ _ => scan_oneLine opens same⟩
  | @lines line closing body opens more inside ends =>
    refine ⟨bodyText body, fun current rest => ?_⟩
    rw [List.cons_append, List.append_assoc, scan_body opens more, List.singleton_append,
      takeBody_append_closing inside ends]

theorem scan_openFence {o : Opening} {fence : List (List Char)} (h : OpenFence o fence) :
    ∃ text, ∀ current, scan current fence = [⟨language? o.info, text, current⟩] := by
  cases h with
  | @lines line body opens more inside =>
    refine ⟨bodyText body, fun current => ?_⟩
    rw [scan_body opens more, takeBody_of_open inside, scan_nil]

theorem accepts_iff {languages : List String} {f : Fence} :
    accepts languages f = true ↔ ∃ l, f.language = some l ∧ languageKey l ∈ languages.map lower := by
  unfold accepts
  cases hl : f.language with
  | none => simp
  | some l => rw [List.contains_iff_mem]; simp

theorem accepts_eq_true {languages : List String} {o : Opening} (h : o.Names languages)
    (text : List Char) (current : Section) :
    accepts languages ⟨language? o.info, text, current⟩ = true :=
  accepts_iff.2 h

theorem accepts_eq_false {languages : List String} {o : Opening} (h : ¬o.Names languages)
    (text : List Char) (current : Section) :
    accepts languages ⟨language? o.info, text, current⟩ = false := by
  rw [Bool.eq_false_iff]
  exact fun ha => h (accepts_iff.1 ha)

/-- Lines at the head of a document that end outside a fence. -/
theorem scan_append_of_outside {lines : List (List Char)} (current : Section)
    (h : (ending current lines).fence = none) (more : List (List Char)) :
    scan current (lines ++ more) =
      scan current lines ++ scan (ending current lines).within more := by
  rw [← scan_closed_append, closed_of_outside h]

/-- A fence of another language leaves no trace. -/
theorem extractLines_without {languages : List String} {o : Opening} (ho : ¬o.Names languages)
    {before fence : List String} (hbefore : (endingOf before).fence = none)
    (hfence : WholeFence o (fence.map String.toList)) (after : List String) :
    extractLines languages (before ++ fence ++ after) = extractLines languages (before ++ after) := by
  obtain ⟨text, htext⟩ := scan_wholeFence hfence
  simp only [extractLines_eq_filter, List.map_append, List.append_assoc]
  rw [scan_append_of_outside .unspecified hbefore, scan_append_of_outside .unspecified hbefore,
    htext, List.filter_append, List.filter_append,
    List.filter_cons_of_neg (by rw [accepts_eq_false ho]; exact Bool.false_ne_true)]

theorem extractLines_without_open {languages : List String} {o : Opening}
    (ho : ¬o.Names languages) {before fence : List String}
    (hbefore : (endingOf before).fence = none) (hfence : OpenFence o (fence.map String.toList)) :
    extractLines languages (before ++ fence) = extractLines languages before := by
  obtain ⟨text, htext⟩ := scan_openFence hfence
  simp only [extractLines_eq_filter, List.map_append]
  rw [scan_append_of_outside .unspecified hbefore, htext, List.filter_append,
    List.filter_cons_of_neg (by rw [accepts_eq_false ho]; exact Bool.false_ne_true),
    List.filter_nil, List.append_nil]

theorem accepts_of_subset {languages more : List String}
    (h : ∀ l ∈ languages, lower l ∈ more.map lower) {f : Fence}
    (hf : accepts languages f = true) : accepts more f = true := by
  obtain ⟨l, hl, hkey⟩ := accepts_iff.1 hf
  obtain ⟨k, hk, hlower⟩ := List.mem_map.1 hkey
  exact accepts_iff.2 ⟨l, hl, hlower ▸ h k hk⟩

/-- More languages only add to what is extracted. -/
theorem extractLines_sublist {languages more : List String}
    (h : ∀ l ∈ languages, lower l ∈ more.map lower) (lines : List String) :
    (extractLines languages lines).Sublist (extractLines more lines) := by
  rw [extractLines_eq_filter, extractLines_eq_filter]
  refine List.Sublist.map _ ?_
  have hfilter : (scan .unspecified (lines.map String.toList)).filter (accepts languages) =
      ((scan .unspecified (lines.map String.toList)).filter (accepts more)).filter
        (accepts languages) := by
    rw [List.filter_filter]
    refine List.filter_congr fun f _ => ?_
    cases hf : accepts languages f with
    | false => rfl
    | true => rw [accepts_of_subset h hf]; rfl
  rw [hfilter]
  exact List.filter_sublist

/-- A fence of shell code with a heading and another fence in it. -/
def shellFence : List String := ["~~~~sh", "# Plugins", "```python", "x", "~~~", "~~~~~"]

theorem wholeFence_shellFence :
    WholeFence ⟨.tilde, 4, ['s', 'h']⟩ (shellFence.map String.toList) := by
  have hinside : ∀ l ∈ ["# Plugins", "```python", "x", "~~~"].map String.toList,
      closes ⟨.tilde, 4, ['s', 'h']⟩ l = false := by decide +kernel
  exact .lines (by decide +kernel) (by decide) hinside (by decide +kernel)

end Document

/-! ## Blocks of documents -/

namespace Block

open LiterateConfig.Document (endingOf extractFrom extractLines extractText extractText_join
  extractLines_closed lastMarks)
open LiterateConfig.Files (Path)

/-- What a block is apart from its number. -/
def origin (b : Block) : Option Path × String × Document.Section := (b.document, b.raw, b.within)

/-- What does not depend on the number of a block can be read off what is numbered. -/
theorem map_numberFrom {α : Type} {g : Block → α} {p : Path} {f : String × Document.Section → α}
    (hg : ∀ i x, g (extracted i x.1 x.2 p) = f x) (next : Nat)
    (found : List (String × Document.Section)) : (numberFrom next p found).map g = found.map f := by
  induction found generalizing next with
  | nil => rfl
  | cons x rest ih => rw [numberFrom, List.map_cons, ih, hg, List.map_cons]

theorem length_numberFrom (next : Nat) (p : Path) (found : List (String × Document.Section)) :
    (numberFrom next p found).length = found.length := by
  rw [← List.length_map (f := Block.raw), numberFrom_raw, List.length_map]

theorem map_fromDocuments {α : Type} {g : Block → α} {f : Path → String × Document.Section → α}
    (hg : ∀ p i x, g (extracted i x.1 x.2 p) = f p x) (languages : List String) (next : Nat)
    (documents : List (Path × String)) :
    (fromDocuments languages next documents).map g = documents.flatMap fun d =>
      (extractLines languages (Text.lines d.2)).map (f d.1) := by
  induction documents generalizing next with
  | nil => rfl
  | cons d rest ih =>
    rw [fromDocuments, List.map_append, map_numberFrom (hg d.1), ih, List.flatMap_cons]

theorem fromDocuments_origin (languages : List String) (next : Nat)
    (documents : List (Path × String)) :
    (fromDocuments languages next documents).map origin = documents.flatMap fun d =>
      (extractLines languages (Text.lines d.2)).map fun f => (some d.1, f.1, f.2) :=
  map_fromDocuments (f := fun p x => (some p, x.1, x.2)) (fun _ _ _ => rfl) languages next
    documents

theorem fromDocuments_index (languages : List String) (next : Nat)
    (documents : List (Path × String)) :
    (fromDocuments languages next documents).map Block.index =
      (List.range' next (fromDocuments languages next documents).length).map Int.ofNat := by
  induction documents generalizing next with
  | nil => rfl
  | cons d rest ih =>
    rw [fromDocuments, List.map_append, numberFrom_index, ih, List.length_append,
      length_numberFrom, ← List.map_append, List.range'_append_1]

/-- **Extraction goes document by document and line by line.** Extracting from lines
that more lines follow gives what the first lines give, a fence that is open behind them
being ended by a line of its marks, and then what the walk gives for the others from
there. The blocks of documents are numbered without a gap, and each document starts
outside any section; if every document ends with a line feed and outside a fence, the
blocks have the texts of the joined document. -/
theorem extract_append (languages : List String) :
    (∀ xs ys : List String, extractLines languages (xs ++ lastMarks xs ++ ys) =
      extractLines languages xs ++ extractFrom languages (endingOf xs).within ys) ∧
    ∀ (documents : List (Path × String)) (w : World) (blocks : List Block),
      (extract languages documents w).1 = blocks →
      blocks.map Block.index = (List.range' 1 blocks.length).map Int.ofNat ∧
      (blocks.map fun b => (b.document, b.raw, b.within)) = (documents.flatMap fun d =>
        (extractLines languages (Text.lines d.2)).map fun f => (some d.1, f.1, f.2)) ∧
      ((∀ d ∈ documents, d.2.toList.getLast? = some '\n' ∧
          (endingOf (Text.lines d.2)).fence = none) →
        blocks.map Block.raw = extractText languages (String.join (documents.map Prod.snd))) := by
  refine ⟨extractLines_closed languages, ?_⟩
  rintro documents w _ rfl
  have horigin := fromDocuments_origin languages 1 documents
  refine ⟨fromDocuments_index languages 1 documents, horigin, fun h => ?_⟩
  have hjoin : ∀ d ∈ documents.map Prod.snd, d.toList.getLast? = some '\n' ∧
      (endingOf (Text.lines d)).fence = none := by
    intro text ht
    obtain ⟨d, hd, rfl⟩ := List.mem_map.1 ht
    exact h d hd
  have hraw := congrArg (List.map fun b => b.2.1) horigin
  rw [List.map_map, List.map_flatMap] at hraw
  rw [extractText_join languages hjoin, List.flatMap_map]
  refine hraw.trans (List.flatMap_congr fun d _ => ?_)
  rw [List.map_map]
  rfl

/-- Two documents, the first of which ends in a section and the second with a fence of
tildes. -/
def sampleDocuments : List (Path × String) := [
  (⟨1, ["a.md"]⟩, "# Main\n```python\na = 1\n```\n"),
  (⟨1, ["b.md"]⟩, "```sh\nb\n```\n~~~python\nc = 3\n~~~\n")]

/-- A world without files. -/
def bareWorld : World where
  machine := ⟨.empty, ""⟩
  disk := ⟨[], ⟨1, []⟩, ⟨1, []⟩⟩
  threshold := .info
  records := []
  logFile := none

theorem extract_append_sampleDocuments :
    (extract ["python"] sampleDocuments bareWorld).1.map Block.raw = ["a = 1", "c = 3"] := by
  rw [((extract_append ["python"]).2 sampleDocuments bareWorld _ rfl).2.2 (by decide +kernel)]
  decide +kernel

end Block

end LiterateConfig
