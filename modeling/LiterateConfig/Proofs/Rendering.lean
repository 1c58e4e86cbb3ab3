import LiterateConfig.Document.Extraction
import LiterateConfig.Proofs.Dedent

/-!
# Documents that are written from their texts

A document can be written from the texts that are to be extracted from it: each
text stands in a fence of enough marks, or between backticks on one line, and
other lines may stand in between. Extraction gives back exactly the texts.

A fence of `width` marks is long enough for a text that has no run of `width`
marks: then no line of the text closes it. The one-line form is for texts
without a line feed that do not end with a backtick, which would be taken for
part of the closing marks.

Results:
* `opening?_marks`: a line of marks and information opens a fence of all of its marks;
* `takeBody_append_closing`: the body of a fence reaches to its first closing line;
* `scan_lines`: a piece of a written document is scanned as its own fence, whatever
  follows;
* `isText_of_mem_scan`: the text of every fence has no margin, no blank ends, and no
  line break but line feeds;
* `extractText_render`: extraction is the inverse of writing, on the texts that
  extraction yields.
-/
namespace LiterateConfig.Document

open LiterateConfig.Text

/-! ## Written documents -/

/-- A text as extraction yields it: nothing is left to remove at its ends and in
its margin, and its lines are separated by line feeds. -/
def IsText (t : List Char) : Prop :=
  strip (dedent t) = t ∧ ∀ c ∈ t, isLineBreak c = true → c = '\n'

instance (t : List Char) : Decidable (IsText t) :=
  have : Decidable (∀ c ∈ t, isLineBreak c = true → c = '\n') := List.decidableBAll _ t
  inferInstanceAs (Decidable (_ ∧ _))

/-- A name for a language that is one token and is among `languages`, whatever
the case of its letters. -/
structure Accepted (languages : List String) (language : List Char) : Prop where
  ne_nil : language ≠ []
  chars : ∀ c ∈ language, isLanguageChar c = true
  listed : languageKey language ∈ languages.map lower

instance (languages : List String) (language : List Char) :
    Decidable (Accepted languages language) :=
  decidable_of_iff (language ≠ [] ∧ language.all isLanguageChar = true ∧
      languageKey language ∈ languages.map lower)
    ⟨fun ⟨h1, h2, h3⟩ => ⟨h1, List.all_eq_true.1 h2, h3⟩,
      fun h => ⟨h.ne_nil, List.all_eq_true.2 h.chars, h.listed⟩⟩

/-- A part of a written document. -/
inductive Piece where
  /-- A line between the texts. -/
  | plain (line : String)
  /-- A text between two lines of marks. -/
  | fenced (mark : FenceMark) (width : Nat) (language text : String)
  /-- A text on one line with its marks. -/
  | oneLine (language text : String)
  deriving DecidableEq, Repr

namespace Piece

def backticks : List Char := ['`', '`', '`']

def tildes : List Char := ['~', '~', '~']

def lines : Piece → List (List Char)
  | .plain line => [line.toList]
  | .fenced mark width language text =>
    (List.replicate width mark.char ++ language.toList) ::
      (splitOn '\n' text.toList ++ [List.replicate width mark.char])
  | .oneLine language text =>
    [backticks ++ (language.toList ++ ' ' :: (text.toList ++ backticks))]

def text? : Piece → Option String
  | .plain _ => none
  | .fenced _ _ _ text | .oneLine _ text => some text

/-- What is asked of a piece so that its text can be told from the document. -/
def WellWritten (languages : List String) : Piece → Prop
  | .plain line =>
    IsLine line.toList ∧ ¬backticks <+: strip line.toList ∧ ¬tildes <+: strip line.toList
  | .fenced mark width language text =>
    Accepted languages language.toList ∧ IsText text.toList ∧ leastWidth ≤ width ∧
      ¬List.replicate width mark.char <:+: text.toList
  | .oneLine language text =>
    Accepted languages language.toList ∧ IsText text.toList ∧ '\n' ∉ text.toList ∧
      text.toList.getLast? ≠ some '`'

instance (languages : List String) : ∀ p, Decidable (WellWritten languages p)
  | .plain _ => inferInstanceAs (Decidable (_ ∧ _ ∧ _))
  | .fenced .. => inferInstanceAs (Decidable (_ ∧ _ ∧ _ ∧ _))
  | .oneLine .. => inferInstanceAs (Decidable (_ ∧ _ ∧ _ ∧ _))

end Piece

/-- The document of the pieces, each line ended by a line feed. -/
def render (pieces : List Piece) : String :=
  String.ofList ((pieces.flatMap Piece.lines).flatMap (· ++ ['\n']))

/-! ## Characters -/

theorem isBlank_markChar (mark : FenceMark) : isBlank mark.char = false := by
  cases mark <;> decide

theorem isLanguageChar_iff {c : Char} :
    isLanguageChar c = true ↔ isBlank c = false ∧ c ≠ '`' ∧ c ≠ '~' ∧ c ≠ '{' := by
  simp [isLanguageChar, and_assoc]

theorem ne_markChar {c : Char} (h : isLanguageChar c = true) (mark : FenceMark) :
    c ≠ mark.char := by
  obtain ⟨-, h1, h2, -⟩ := isLanguageChar_iff.1 h
  cases mark
  · exact h1
  · exact h2

theorem isLine_append {a b : List Char} (ha : IsLine a) (hb : IsLine b) : IsLine (a ++ b) :=
  fun c hc => (List.mem_append.1 hc).elim (ha c) (hb c)

theorem isLineBreak_of_not_isBlank {c : Char} (h : isBlank c = false) : isLineBreak c = false := by
  cases hb : isLineBreak c with
  | false => rfl
  | true => rw [isBlank_of_isLineBreak hb] at h; cases h

theorem isLine_replicate (width : Nat) (mark : FenceMark) :
    IsLine (List.replicate width mark.char) := by
  intro c hc
  rw [(List.mem_replicate.1 hc).2]
  exact isLineBreak_of_not_isBlank (isBlank_markChar mark)

/-- A line that starts and ends with characters that are not blank is stripped. -/
theorem strip_marks_append (mark : FenceMark) {width : Nat} (hw : leastWidth ≤ width)
    (info : List Char) (he : ∀ c ∈ info.getLast?, isBlank c = false) :
    strip (List.replicate width mark.char ++ info) = List.replicate width mark.char ++ info := by
  have hm : ∀ c ∈ List.replicate width mark.char, isBlank c = false := fun c hc => by
    rw [(List.mem_replicate.1 hc).2]
    exact isBlank_markChar mark
  apply strip_eq_self
  · intro c hc
    obtain ⟨n, rfl⟩ : ∃ n, width = n + 1 := ⟨width - 1, by simp only [leastWidth] at hw; omega⟩
    simp only [List.replicate_succ, List.cons_append, List.head?_cons, Option.mem_def,
      Option.some.injEq] at hc
    rw [← hc]
    exact isBlank_markChar mark
  · intro c hc
    rw [List.getLast?_append, Option.mem_def] at hc
    cases hi : info.getLast? with
    | none => rw [hi] at hc; exact hm c (List.mem_of_getLast? hc)
    | some d =>
      rw [hi] at hc
      cases hc
      exact he c hi

/-! ## Opening lines -/

theorem takeWhile_marks (width : Nat) {m : Char} {info : List Char} (hi : info.head? ≠ some m) :
    (List.replicate width m ++ info).takeWhile (· == m) = List.replicate width m := by
  induction width with
  | zero =>
    cases info with
    | nil => rfl
    | cons c r =>
      have hc : (c == m) = false := by simpa using fun e : c = m => hi (by simp [e])
      simp [hc]
  | succ n ih => simp [List.replicate_succ, ih]

theorem dropWhile_marks (width : Nat) {m : Char} {info : List Char} (hi : info.head? ≠ some m) :
    (List.replicate width m ++ info).dropWhile (· == m) = info := by
  have h : (List.replicate width m ++ info).takeWhile (· == m) ++
      (List.replicate width m ++ info).dropWhile (· == m) = List.replicate width m ++ info :=
    List.takeWhile_append_dropWhile
  rw [takeWhile_marks width hi] at h
  exact List.append_cancel_left h

theorem openingWith?_marks {mark : FenceMark} {width : Nat} (hw : leastWidth ≤ width)
    {info : List Char} (hi : info.head? ≠ some mark.char) (hn : '\n' ∉ info) :
    openingWith? mark (List.replicate width mark.char ++ info) = some ⟨mark, width, info⟩ := by
  simp [openingWith?, takeWhile_marks width hi, dropWhile_marks width hi, hw, hn]

theorem opening?_marks (mark : FenceMark) {width : Nat} (hw : leastWidth ≤ width)
    {info : List Char} (hi : info.head? ≠ some mark.char) (hn : '\n' ∉ info) :
    opening? (List.replicate width mark.char ++ info) = some ⟨mark, width, info⟩ := by
  cases mark with
  | backtick =>
    simp only [opening?, openingWith?_marks hw hi hn]
    rfl
  | tilde =>
    have hb : openingWith? .backtick (List.replicate width FenceMark.tilde.char ++ info) = none := by
      obtain ⟨n, rfl⟩ : ∃ n, width = n + 1 := ⟨width - 1, by simp only [leastWidth] at hw; omega⟩
      simp [openingWith?, FenceMark.char, leastWidth, List.replicate_succ]
    simp only [opening?, hb, openingWith?_marks hw hi hn]
    rfl

/-- A line that opens a fence starts with three marks. -/
theorem prefix_of_openingWith? {mark : FenceMark} {l : List Char} {o : Opening}
    (h : openingWith? mark l = some o) : List.replicate 3 mark.char <+: l := by
  by_cases hw : leastWidth ≤ (l.takeWhile (· == mark.char)).length
  · have hr : l.takeWhile (· == mark.char) =
        List.replicate (l.takeWhile (· == mark.char)).length mark.char :=
      List.eq_replicate_of_mem fun c hc => by simpa using List.mem_takeWhile_imp hc
    refine List.IsPrefix.trans ?_ (List.takeWhile_prefix (· == mark.char))
    rw [hr]
    simp only [leastWidth] at hw
    exact ⟨List.replicate ((l.takeWhile (· == mark.char)).length - 3) mark.char, by
      rw [← List.replicate_add]; congr 1; omega⟩
  · simp [openingWith?, hw] at h

theorem opening?_eq_none {l : List Char} (hb : ¬Piece.backticks <+: l) (ht : ¬Piece.tildes <+: l) :
    opening? l = none := by
  have h : ∀ mark, ¬List.replicate 3 mark.char <+: l → openingWith? mark l = none := by
    intro mark hm
    cases ho : openingWith? mark l with
    | none => rfl
    | some o => exact absurd (prefix_of_openingWith? ho) hm
  simp only [opening?, h .backtick hb, h .tilde ht]
  rfl

theorem info_suffix {l : List Char} {o : Opening} (h : opening? l = some o) : o.info <:+ l := by
  have hw : ∀ mark o, openingWith? mark l = some o → o.info <:+ l := by
    intro mark o ho
    simp only [openingWith?] at ho
    split at ho
    · cases ho; exact List.dropWhile_suffix _
    · cases ho
  simp only [opening?] at h
  cases hb : openingWith? .backtick l with
  | some o' => rw [hb] at h; cases h; exact hw _ _ hb
  | none => rw [hb] at h; exact hw _ _ h

/-! ## Languages -/

theorem Accepted.head? {languages : List String} {language : List Char}
    (h : Accepted languages language) (r : List Char) :
    ∃ c, (language ++ r).head? = some c ∧ isLanguageChar c = true := by
  cases hl : language with
  | nil => exact absurd hl h.ne_nil
  | cons c l => exact ⟨c, rfl, h.chars c (by rw [hl]; exact List.mem_cons_self)⟩

theorem Accepted.head?_ne {languages : List String} {language : List Char}
    (h : Accepted languages language) (r : List Char) (mark : FenceMark) :
    (language ++ r).head? ≠ some mark.char := by
  obtain ⟨c, hc, hl⟩ := h.head? r
  rw [hc]
  exact fun e => ne_markChar hl mark (Option.some.inj e)

theorem Accepted.isLine {languages : List String} {language : List Char}
    (h : Accepted languages language) : IsLine language := fun c hc =>
  isLineBreak_of_not_isBlank (isLanguageChar_iff.1 (h.chars c hc)).1

/-- The language in front of the end or of something that is not part of a name. -/
theorem language?_append {languages : List String} {language : List Char}
    (h : Accepted languages language) (rest : List Char)
    (hs : strip (language ++ rest) = language ++ rest)
    (hr : ∀ c ∈ rest.head?, isLanguageChar c = false) :
    language? (language ++ rest) = some language := by
  have ht : (language ++ rest).takeWhile isLanguageChar = language := by
    rw [List.takeWhile_append_of_pos h.chars]
    cases rest with
    | nil => simp
    | cons c r => simp [hr c rfl]
  rw [language?, hs, ht]
  cases hl : language with
  | nil => exact absurd hl h.ne_nil
  | cons c l => rfl

theorem Accepted.accepts {languages : List String} {language text : List Char} {current : Section}
    (h : Accepted languages language) :
    accepts languages ⟨some language, text, current⟩ = true := by
  simpa [Document.accepts] using h.listed

/-! ## Closing lines -/

/-- A line of a text without a run of `width` marks does not close a fence of as many. -/
theorem closes_eq_false {o : Opening} {text line : List Char} (hl : line ∈ splitOn '\n' text)
    (hm : ¬List.replicate o.width o.mark.char <:+: text) : closes o line = false := by
  rw [Bool.eq_false_iff]
  intro hc
  simp only [closes, Bool.and_eq_true, decide_eq_true_eq, List.all_eq_true, beq_iff_eq] at hc
  obtain ⟨hw, hall⟩ := hc
  obtain ⟨-, a, b, ht, -, -⟩ := mem_splitOn_iff.1 hl
  have hr : strip line = List.replicate (strip line).length o.mark.char :=
    List.eq_replicate_of_mem hall
  have h1 : List.replicate o.width o.mark.char <:+: strip line := by
    rw [hr]
    exact ⟨[], List.replicate ((strip line).length - o.width) o.mark.char, by
      rw [List.nil_append, ← List.replicate_add]; congr 1; omega⟩
  have h2 : line <:+: text := ⟨a, b, ht.symm⟩
  exact hm ((h1.trans (strip_isInfix line)).trans h2)

theorem closes_marks {o : Opening} (hw : leastWidth ≤ o.width) :
    closes o (List.replicate o.width o.mark.char) = true := by
  have hs := strip_marks_append o.mark hw [] (by simp)
  rw [List.append_nil] at hs
  simp [closes, hs]

theorem takeBody_append_closing {o : Opening} {body rest : List (List Char)} {line : List Char}
    (hb : ∀ l ∈ body, closes o l = false) (hc : closes o line = true) :
    takeBody o (body ++ line :: rest) = (body, rest) := by
  have hp : ∀ l ∈ body, (!closes o l) = true := fun l hl => by rw [hb l hl]; rfl
  simp [takeBody, List.takeWhile_append_of_pos hp, List.dropWhile_append_of_pos hp, hc]

/-! ## Fences on one line -/

theorem hasThreeBackticks_append (l : List Char) :
    hasThreeBackticks (l ++ Piece.backticks) = true := by
  induction l with
  | nil => rfl
  | cons c l ih =>
    rw [List.cons_append, hasThreeBackticks.eq_def]
    split
    · rfl
    · next h => cases h; exact ih
    · next h => cases h

theorem hasThreeBackticks_of_not_mem {l : List Char} (h : '`' ∉ l) :
    hasThreeBackticks l = false := by
  induction l with
  | nil => rfl
  | cons c l ih =>
    rw [hasThreeBackticks.eq_def]
    split
    · next h' => cases h'; simp at h
    · next h' => cases h'; exact ih fun m => h (List.mem_cons_of_mem _ m)
    · rfl

/-- The closing marks of the one-line form are exactly its last three backticks. -/
theorem oneLineText_append {language text : List Char} (hl : ∀ c ∈ language.head?, isBlank c = false)
    (hne : language ≠ []) (he : text.getLast? ≠ some '`') :
    oneLineText (language ++ ' ' :: (text ++ Piece.backticks)) language = strip text := by
  have hs : stripStart (language ++ ' ' :: (text ++ Piece.backticks)) =
      language ++ ' ' :: (text ++ Piece.backticks) := by
    refine dropWhile_eq_self fun c hc => hl c ?_
    rwa [List.head?_append_of_ne_nil _ hne] at hc
  have hrev : (' ' :: (text ++ Piece.backticks)).reverse =
      List.replicate 3 '`' ++ (text.reverse ++ [' ']) := by
    simp [Piece.backticks, List.replicate]
  have hhead : (text.reverse ++ [' ']).head? ≠ some '`' := by
    cases ht : text.reverse with
    | nil => simp
    | cons c r =>
      have : text.getLast? = some c := by rw [← List.head?_reverse, ht]; rfl
      intro e
      simp only [List.cons_append, List.head?_cons, Option.some.injEq] at e
      rw [this, e] at he
      exact he rfl
  have hc := takeWhile_marks 3 hhead
  have htake : (' ' :: (text ++ Piece.backticks)).take
      ((' ' :: (text ++ Piece.backticks)).length - 3) = ' ' :: text := by
    rw [← List.cons_append, List.length_append]
    exact List.take_left
  simp only [oneLineText, hs, List.drop_left, hrev, hc, List.length_replicate, leastWidth,
    Nat.le_refl, if_true, htake]
  refine strip_append_blank (w := [' ']) fun c hc => ?_
  rw [List.mem_singleton.1 hc]
  decide

/-! ## Scanning what was written -/

namespace Piece

/-- The fence that a piece is. -/
def fence? (current : Section) : Piece → Option Fence
  | .plain _ => none
  | .fenced _ _ language text | .oneLine language text =>
    some ⟨some language.toList, text.toList, current⟩

/-- The section behind a piece. -/
def sectionBehind (current : Section) : Piece → Section
  | .plain line => sectionAfter current line.toList
  | .fenced .. | .oneLine .. => current

end Piece

theorem IsText.strip_eq {t : List Char} (h : IsText t) : strip t = t := by
  rw [← h.1, strip_strip]

theorem scan_fenced {languages : List String} {mark : FenceMark} {width : Nat}
    {language text : List Char} (hl : Accepted languages language) (ht : IsText text)
    (hw : leastWidth ≤ width) (hm : ¬List.replicate width mark.char <:+: text)
    (current : Section) (rest : List (List Char)) :
    scan current ((List.replicate width mark.char ++ language) ::
        (splitOn '\n' text ++ [List.replicate width mark.char]) ++ rest) =
      ⟨some language, text, current⟩ :: scan current rest := by
  have hlast : ∀ c ∈ language.getLast?, isBlank c = false := fun c hc =>
    (isLanguageChar_iff.1 (hl.chars c (List.mem_of_mem_getLast? hc))).1
  have hs := strip_marks_append mark hw language hlast
  have hn : '\n' ∉ language := fun h => by
    have := hl.chars _ h
    simp [isLanguageChar, isBlank] at this
  have hhead : language.head? ≠ some mark.char := by simpa using hl.head?_ne [] mark
  have ho : opening? (strip (List.replicate width mark.char ++ language)) =
      some ⟨mark, width, language⟩ := by
    rw [hs]
    exact opening?_marks mark hw hhead hn
  have hone : Opening.isOneLine ⟨mark, width, language⟩ = false := by
    have hb : '`' ∉ language := fun h => (isLanguageChar_iff.1 (hl.chars _ h)).2.1 rfl
    simp [Opening.isOneLine, hasThreeBackticks_of_not_mem hb]
  have hlang : language? language = some language := by
    have hstrip : strip language = language := strip_eq_self
      (fun c hc => (isLanguageChar_iff.1 (hl.chars c (List.mem_of_mem_head? hc))).1) hlast
    simpa using language?_append hl [] (by simpa using hstrip) (by simp)
  have hbody : takeBody ⟨mark, width, language⟩
      (splitOn '\n' text ++ List.replicate width mark.char :: rest) = (splitOn '\n' text, rest) :=
    takeBody_append_closing (fun l h => closes_eq_false h hm)
      (closes_marks (o := ⟨mark, width, language⟩) hw)
  rw [List.cons_append, List.append_assoc, List.singleton_append, scan_body ho hone]
  simp only [hlang, hbody, bodyText, joinWith_splitOn, ht.1]

theorem scan_oneLineForm {languages : List String} {language text : List Char}
    (hl : Accepted languages language) (ht : IsText text) (hn : '\n' ∉ text)
    (he : text.getLast? ≠ some '`') (current : Section) (rest : List (List Char)) :
    scan current ((Piece.backticks ++ (language ++ ' ' :: (text ++ Piece.backticks))) :: rest) =
      ⟨some language, text, current⟩ :: scan current rest := by
  have hlast : ∀ c ∈ (language ++ ' ' :: (text ++ Piece.backticks)).getLast?, isBlank c = false := by
    intro c hc
    have hb : language ++ ' ' :: (text ++ Piece.backticks) =
        (language ++ ' ' :: (text ++ ['`', '`'])) ++ ['`'] := by simp [Piece.backticks]
    rw [hb, List.getLast?_concat] at hc
    cases hc
    decide
  have hs : strip (Piece.backticks ++ (language ++ ' ' :: (text ++ Piece.backticks))) =
      Piece.backticks ++ (language ++ ' ' :: (text ++ Piece.backticks)) :=
    strip_marks_append .backtick (Nat.le_refl 3) _ hlast
  have hnl : '\n' ∉ language ++ ' ' :: (text ++ Piece.backticks) := by
    have : '\n' ∉ language := fun h => by
      have := hl.chars _ h
      simp [isLanguageChar, isBlank] at this
    simp [this, hn, Piece.backticks]
  have ho : opening? (strip (Piece.backticks ++ (language ++ ' ' :: (text ++ Piece.backticks)))) =
      some ⟨.backtick, 3, language ++ ' ' :: (text ++ Piece.backticks)⟩ := by
    rw [hs]
    exact opening?_marks .backtick (Nat.le_refl 3)
      (hl.head?_ne _ .backtick) hnl
  have hone : Opening.isOneLine
      ⟨.backtick, 3, language ++ ' ' :: (text ++ Piece.backticks)⟩ = true := by
    have := hasThreeBackticks_append (language ++ ' ' :: text)
    simpa [Opening.isOneLine] using this
  have hfirst : ∀ c ∈ language.head?, isBlank c = false := fun c hc =>
    (isLanguageChar_iff.1 (hl.chars c (List.mem_of_mem_head? hc))).1
  have hlang : language? (language ++ ' ' :: (text ++ Piece.backticks)) = some language := by
    refine language?_append hl _ (strip_eq_self (fun c hc => hfirst c ?_) hlast) ?_
    · rwa [List.head?_append_of_ne_nil _ hl.ne_nil] at hc
    · intro c hc
      cases hc
      decide
  rw [scan_oneLine ho hone]
  simp only [hlang, Option.getD_some, oneLineText_append hfirst hl.ne_nil he, ht.strip_eq]

/-- A piece of a written document is scanned as its own fence, whatever follows. -/
theorem scan_lines {languages : List String} {p : Piece} (h : p.WellWritten languages)
    (current : Section) (rest : List (List Char)) :
    scan current (p.lines ++ rest) =
      (p.fence? current).toList ++ scan (p.sectionBehind current) rest := by
  cases p with
  | plain line =>
    obtain ⟨-, hb, ht⟩ := h
    simp [Piece.lines, Piece.fence?, Piece.sectionBehind, scan_outside (opening?_eq_none hb ht)]
  | fenced mark width language text =>
    obtain ⟨hl, ht, hw, hm⟩ := h
    simpa [Piece.lines, Piece.fence?, Piece.sectionBehind] using
      scan_fenced hl ht hw hm current rest
  | oneLine language text =>
    obtain ⟨hl, ht, hn, he⟩ := h
    simpa [Piece.lines, Piece.fence?, Piece.sectionBehind] using
      scan_oneLineForm hl ht hn he current rest

/-- The accepted texts of the lines of well written pieces are the texts of the pieces. -/
theorem texts_scan_flatMap_lines {languages : List String} {pieces : List Piece}
    (h : ∀ p ∈ pieces, p.WellWritten languages) (current : Section) :
    ((scan current (pieces.flatMap Piece.lines)).filter (accepts languages)).map
        (fun f => String.ofList f.text) = pieces.filterMap Piece.text? := by
  induction pieces generalizing current with
  | nil => simp [scan_nil]
  | cons p ps ih =>
    have hp := h p List.mem_cons_self
    have hps := ih (fun q hq => h q (List.mem_cons_of_mem _ hq)) (p.sectionBehind current)
    rw [List.flatMap_cons, scan_lines hp, List.filter_append, List.map_append, hps]
    cases p with
    | plain line => simp [Piece.fence?, List.filterMap_cons, Piece.text?]
    | fenced mark width language text =>
      simp [Piece.fence?, Piece.text?, hp.1.accepts]
    | oneLine language text =>
      simp [Piece.fence?, Piece.text?, hp.1.accepts]

theorem isLine_of_mem_lines {languages : List String} {p : Piece} (h : p.WellWritten languages)
    {l : List Char} (hl : l ∈ p.lines) : IsLine l := by
  have text_isLine : ∀ {t : List Char}, IsText t → '\n' ∉ t → IsLine t := by
    intro t ht hn c hc
    cases hb : isLineBreak c with
    | false => rfl
    | true => exact absurd (ht.2 c hc hb ▸ hc) hn
  cases p with
  | plain line =>
    rw [Piece.lines, List.mem_singleton] at hl
    rw [hl]
    exact h.1
  | fenced mark width language text =>
    obtain ⟨ha, ht, -, -⟩ := h
    simp only [Piece.lines, List.mem_cons, List.mem_append, List.not_mem_nil, or_false] at hl
    rcases hl with rfl | hl | rfl
    · exact isLine_append (isLine_replicate width mark) ha.isLine
    · obtain ⟨hn, a, b, htext, -, -⟩ := mem_splitOn_iff.1 hl
      intro c hc
      cases hb : isLineBreak c with
      | false => rfl
      | true =>
        have hmem : c ∈ text.toList := by rw [htext]; simp [hc]
        exact absurd (ht.2 c hmem hb ▸ hc) hn
    · exact isLine_replicate width mark
  | oneLine language text =>
    obtain ⟨ha, ht, hn, -⟩ := h
    have hb : IsLine Piece.backticks := isLine_replicate 3 .backtick
    rw [Piece.lines, List.mem_singleton] at hl
    rw [hl]
    refine isLine_append hb (isLine_append ha.isLine ?_)
    have hspace : IsLine [' '] := by simp [IsLine, isLineBreak]
    exact isLine_append hspace (isLine_append (text_isLine ht hn) hb)

/-! ## The texts of all documents -/

theorem mem_dedent {text : List Char} {c : Char} (h : c ∈ dedent text) : c = '\n' ∨ c ∈ text := by
  rcases mem_joinWith h with h | ⟨k, hk, hc⟩
  · exact Or.inl (by simpa using h)
  · rcases mem_dedentLines hk with rfl | ⟨-, l, hl, hs⟩
    · cases hc
    · obtain ⟨-, a, b, ht, -, -⟩ := mem_splitOn_iff.1 hl
      right
      rw [ht]
      simp [hs.subset hc]

theorem isText_bodyText {body : List (List Char)} (h : ∀ l ∈ body, IsLine l) :
    IsText (bodyText body) := by
  constructor
  · rw [bodyText, dedent_strip_dedent, strip_strip]
  · intro c hc hb
    rcases mem_dedent ((strip_isInfix _).subset hc) with rfl | hc
    · rfl
    · rcases mem_joinWith hc with hc | ⟨l, hl, hc⟩
      · simpa using hc
      · rw [h l hl c hc] at hb; cases hb

theorem isText_strip_of_isLine {l : List Char} (h : IsLine l) : IsText (strip l) := by
  have hl : IsLine (strip l) := fun c hc => h c ((strip_isInfix l).subset hc)
  have hn : '\n' ∉ strip l := fun hm => by
    have := hl _ hm
    simp [isLineBreak] at this
  have ht : Tidy (strip l) := by
    intro k hk hi
    rw [splitOn_of_not_mem hn, List.mem_singleton] at hk
    subst hk
    cases hs : strip l with
    | nil => rfl
    | cons c r =>
      have hc := head?_strip (l := l) (c := c) (by rw [hs]; rfl)
      rw [hs] at hi
      rw [isBlank_of_isIndent (List.all_eq_true.1 hi c List.mem_cons_self)] at hc
      cases hc
  constructor
  · rw [dedent_eq_self (fun _ h => head?_strip h) ht, strip_strip]
  · intro c hc hb
    rw [hl c hc] at hb
    cases hb

theorem isText_oneLineText {info : List Char} (h : IsLine info) (language : List Char) :
    IsText (oneLineText info language) := by
  have hr : IsLine ((stripStart info).drop language.length) := fun c hc =>
    h c ((List.dropWhile_suffix _).subset ((List.drop_suffix _ _).subset hc))
  simp only [oneLineText]
  split
  · exact isText_strip_of_isLine fun c hc => hr c ((List.take_prefix _ _).subset hc)
  · exact isText_strip_of_isLine hr

theorem isText_of_mem_scan {current : Section} {lines : List (List Char)}
    (h : ∀ l ∈ lines, IsLine l) {f : Fence} (hf : f ∈ scan current lines) : IsText f.text := by
  fun_induction scan current lines with
  | case1 => cases hf
  | case2 current line rest ho ih =>
    exact ih (fun l hl => h l (List.mem_cons_of_mem _ hl)) hf
  | case3 current line rest o ho language hone ih =>
    rcases List.mem_cons.1 hf with rfl | hf
    · refine isText_oneLineText (fun c hc => h line List.mem_cons_self c ?_) _
      exact (strip_isInfix line).subset ((info_suffix ho).subset hc)
    · exact ih (fun l hl => h l (List.mem_cons_of_mem _ hl)) hf
  | case4 current line rest o ho language hone ih =>
    rcases List.mem_cons.1 hf with rfl | hf
    · exact isText_bodyText fun l hl =>
        h l (List.mem_cons_of_mem _ ((List.takeWhile_prefix _).subset hl))
    · refine ih (fun l hl => h l (List.mem_cons_of_mem _ ?_)) hf
      exact (List.dropWhile_suffix _).subset ((List.drop_suffix _ _).subset hl)

/-- **Writing and extracting.** A document that is written from texts gives
back exactly these texts, in order; and every text that any document gives is
one that can be written. -/
theorem extractText_render {languages : List String} :
    (∀ pieces : List Piece, (∀ p ∈ pieces, p.WellWritten languages) →
      extractText languages (render pieces) = pieces.filterMap Piece.text?) ∧
    ∀ document : String, ∀ t ∈ extractText languages document, IsText t.toList := by
  constructor
  · intro pieces h
    have hlines : ∀ l ∈ pieces.flatMap Piece.lines, IsLine l := by
      intro l hl
      obtain ⟨p, hp, hl⟩ := List.mem_flatMap.1 hl
      exact isLine_of_mem_lines (h p hp) hl
    have hs : (Text.lines (render pieces)).map String.toList = pieces.flatMap Piece.lines := by
      simp [Text.lines, render, splitLines_terminated hlines]
    rw [extractText, extractLines, hs, ← texts_scan_flatMap_lines h .unspecified]
    simp
  · intro document t ht
    simp only [extractText, extractLines, List.map_map, List.mem_map, List.mem_filter] at ht
    obtain ⟨f, ⟨hf, -⟩, rfl⟩ := ht
    have := isText_of_mem_scan (fun l hl => isLine_of_mem_splitLines (l := document.toList) ?_) hf
    · simpa using this
    · simpa [Text.lines] using hl

/-- A document with all kinds of pieces, the texts having marks in them. -/
def sampleDocument : List Piece := [
  .plain "# Notes", .fenced .backtick 4 "Python" "x = '```'\n\n  y = 2", .plain " ``",
  .fenced .tilde 3 "python" "", .oneLine "PYTHON" "a/b ``` c"]

theorem extractText_render_sampleDocument :
    (∀ p ∈ sampleDocument, p.WellWritten ["python"]) ∧
      extractText ["python"] (render sampleDocument) = ["x = '```'\n\n  y = 2", "", "a/b ``` c"] ∧
      IsText "a/b ``` c".toList := by
  have h : ∀ p ∈ sampleDocument, p.WellWritten ["python"] := by decide +kernel
  have he := extractText_render.1 sampleDocument h
  exact ⟨h, he, extractText_render.2 (render sampleDocument) _ (by rw [he]; decide)⟩

end LiterateConfig.Document
