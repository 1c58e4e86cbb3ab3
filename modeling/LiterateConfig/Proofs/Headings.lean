import Mathlib.Data.List.Forall2
import LiterateConfig.Document.Heading
import LiterateConfig.Proofs.Dedent

/-!
# Which lines open sections

A line opens a section if it has the form of a heading and its title has a word that names
the section. Both are stated here by what stands where in the line.

**Words.** `HasWord words text`: some part of the text spells one of the words, whatever the
case of its letters, and no letter, numeral or underscore stands next to it.

**Headings.** `IsHeading line title`: the line is the title in the frame of a heading, with at
most three blanks and one to six hash signs in front of the blanks that the title stands
behind, and hash signs between blanks at its end. The frame may be read in several ways, as
blanks and hash signs may also be part of the title; for the words in the title this makes
no difference.

Results:
* `hasWord_iff`: the search for words finds exactly these;
* `isHeading_of_title?`, `hasWord_title?`: the title that is read off a line is one that the
  line has, and it has the words of every other one;
* `opensSection_iff`: the section behind a line changes exactly if the line opens one.
-/
namespace LiterateConfig

namespace Text

theorem dropEndWhile_isPrefix (p : Char → Bool) (l : List Char) : dropEndWhile p l <+: l := by
  have hs := List.dropWhile_suffix p (l := l.reverse)
  simpa [dropEndWhile] using List.reverse_prefix.2 hs

theorem exists_dropEndWhile (p : Char → Bool) (l : List Char) :
    ∃ post, (∀ c ∈ post, p c = true) ∧ l = dropEndWhile p l ++ post := by
  refine ⟨(l.reverse.takeWhile p).reverse,
    fun c hc => List.mem_takeWhile_imp (List.mem_reverse.1 hc), ?_⟩
  rw [dropEndWhile, ← List.reverse_append, List.takeWhile_append_dropWhile, List.reverse_reverse]

theorem dropEndWhile_concat_of_neg {p : Char → Bool} {c : Char} (hc : p c = false)
    (l : List Char) : dropEndWhile p (l ++ [c]) = l ++ [c] := by
  rw [dropEndWhile, dropWhile_eq_self (by simpa using hc), List.reverse_reverse]

/-- Nothing is dropped of a text in front of which dropping stops. -/
theorem dropEndWhile_append_of_neg {p : Char → Bool} {c : Char} (hc : p c = false)
    (l post : List Char) :
    dropEndWhile p (l ++ [c] ++ post) = l ++ [c] ++ dropEndWhile p post := by
  have hl : (l ++ [c]).reverse.dropWhile p = (l ++ [c]).reverse :=
    dropWhile_eq_self (by simpa using hc)
  rw [dropEndWhile, dropEndWhile, List.reverse_append, List.dropWhile_append]
  split
  · next hempty =>
    rw [hl, List.isEmpty_iff.1 hempty, List.reverse_reverse, List.reverse_nil, List.append_nil]
  · rw [List.reverse_append, List.reverse_reverse]

theorem stripStart_append {m : List Char} (hm : ∀ c ∈ m.head?, isBlank c = false) (l : List Char) :
    stripStart (l ++ m) = stripStart l ++ m := by
  rw [stripStart, stripStart, List.dropWhile_append, dropWhile_eq_self hm]
  split
  · next hempty => rw [List.isEmpty_iff.1 hempty, List.nil_append]
  · rfl

end Text

namespace Document

open LiterateConfig.Text

/-! ## Words -/

/-- The characters of a text are the letters of a word, each in some case. -/
def Spells (word text : List Char) : Prop := List.Forall₂ (fun k c => isLetter k c = true) word text

/-- One of the words stands in the text, apart from other words. -/
def HasWord (words : List (List Char)) (text : List Char) : Prop :=
  ∃ before found after, text = before ++ (found ++ after) ∧ (∃ w ∈ words, Spells w found) ∧
    (∀ c ∈ before.getLast?, isWord c = false) ∧ ∀ c ∈ after.head?, isWord c = false

/-- The letters of the words that name sections. -/
def wordLetters : List Char := ['a', 'g', 'i', 'l', 'm', 'n', 'p', 's', 'u']

/-- Words that have a letter, and only letters of those that name sections. -/
def Lettered (words : List (List Char)) : Prop := ∀ w ∈ words, w ≠ [] ∧ ∀ k ∈ w, k ∈ wordLetters

theorem lettered_mainWords : Lettered mainWords := by
  simp [Lettered, mainWords, wordLetters]

theorem lettered_pluginWords : Lettered pluginWords := by
  simp [Lettered, pluginWords, wordLetters]

/-- A letter of such a word, in any case, is a word character and not part of a frame. -/
theorem solid_of_isLetter {k c : Char} (hk : k ∈ wordLetters) (h : isLetter k c = true) :
    isWord c = true ∧ isBlank c = false ∧ c ≠ '#' := by
  have hsmall : ∀ k ∈ wordLetters, (isWord k = true ∧ isBlank k = false ∧ k ≠ '#') ∧
      isWord k.toUpper = true ∧ isBlank k.toUpper = false ∧ k.toUpper ≠ '#' := by
    simp only [wordLetters, List.forall_mem_cons]
    simp only [List.not_mem_nil, false_implies, implies_true, and_true]
    decide
  have hranges : ∀ n ∈ [0x130, 0x131, 0x17f], wordRanges.has n = true := by decide +kernel
  have hbeyond : ∀ n ∈ [0x130, 0x131, 0x17f], c.toNat = n →
      isWord c = true ∧ isBlank c = false ∧ c ≠ '#' := by
    intro n hn hc
    have hword := hranges n hn
    simp only [List.mem_cons, List.not_mem_nil, or_false] at hn
    refine ⟨?_, ?_, ?_⟩
    · rw [isWord, hc, if_neg (by omega), hword]
    · rcases hn with rfl | rfl | rfl <;> simp [isBlank, hc]
    · rintro rfl
      rcases hn with rfl | rfl | rfl <;> cases hc
  simp only [isLetter, Bool.or_eq_true, Bool.and_eq_true, beq_iff_eq] at h
  rcases h with ((rfl | rfl) | ⟨-, h | h⟩) | ⟨-, h⟩
  · exact (hsmall _ hk).1
  · exact (hsmall _ hk).2
  · exact hbeyond _ (by decide) h
  · exact hbeyond _ (by decide) h
  · exact hbeyond _ (by decide) h

theorem Spells.solid {word text : List Char} (h : Spells word text)
    (hword : ∀ k ∈ word, k ∈ wordLetters) :
    ∀ c ∈ text, isWord c = true ∧ isBlank c = false ∧ c ≠ '#' := by
  induction h with
  | nil => exact nofun
  | cons hletter rest ih =>
    rw [List.forall_mem_cons] at hword ⊢
    exact ⟨solid_of_isLetter hword.1 hletter, ih hword.2⟩

theorem Spells.ne_nil {word text : List Char} (h : Spells word text) (hword : word ≠ []) :
    text ≠ [] := by
  rintro rfl
  exact hword (List.forall₂_nil_right_iff.1 h)

theorem dropWord?_eq_some_iff {word l r : List Char} :
    dropWord? word l = some r ↔ ∃ text, l = text ++ r ∧ Spells word text := by
  induction word generalizing l with
  | nil => simp [dropWord?, Spells]
  | cons k ks ih =>
    cases l with
    | nil => simp [dropWord?, Spells, List.forall₂_cons_left_iff]
    | cons c l =>
      rw [dropWord?]
      split
      · next hletter =>
        rw [ih]
        constructor
        · rintro ⟨text, rfl, htext⟩
          exact ⟨c :: text, rfl, .cons hletter htext⟩
        · rintro ⟨text, hl, htext⟩
          obtain ⟨c', text', -, htext', rfl⟩ := List.forall₂_cons_left_iff.1 htext
          exact ⟨text', (List.cons.inj hl).2, htext'⟩
      · next hletter =>
        refine ⟨nofun, ?_⟩
        rintro ⟨text, hl, htext⟩
        obtain ⟨c', text', hletter', -, rfl⟩ := List.forall₂_cons_left_iff.1 htext
        rw [(List.cons.inj hl).1] at hletter
        exact absurd hletter' hletter

theorem startsWithWord_iff {words : List (List Char)} {l : List Char} :
    startsWithWord words l = true ↔ ∃ found after, l = found ++ after ∧
      (∃ w ∈ words, Spells w found) ∧ atWordEdge found.getLast? after.head? = true := by
  rw [startsWithWord, List.any_eq_true]
  constructor
  · rintro ⟨w, hw, hedge⟩
    split at hedge
    · next rest hrest =>
      obtain ⟨found, rfl, hfound⟩ := dropWord?_eq_some_iff.1 hrest
      rw [hfound.length_eq, List.take_left] at hedge
      exact ⟨found, rest, rfl, ⟨w, hw, hfound⟩, hedge⟩
    · cases hedge
  · rintro ⟨found, after, rfl, ⟨w, hw, hfound⟩, hedge⟩
    refine ⟨w, hw, ?_⟩
    rw [dropWord?_eq_some_iff.2 ⟨found, rfl, hfound⟩]
    simp only
    rw [hfound.length_eq, List.take_left, hedge]

theorem getLast?_cons_or (c : Char) (l : List Char) (before : Option Char) :
    (c :: l).getLast?.or before = l.getLast?.or (some c) := by
  rw [List.getLast?_cons]
  cases l.getLast? <;> rfl

/-- The search by edges: `before` is what stands in front of the text. -/
theorem hasWord_eq_true_iff {words : List (List Char)} (hwords : ∀ w ∈ words, w ≠ [])
    (before : Option Char) (l : List Char) :
    hasWord words before l = true ↔ ∃ pre found after, l = pre ++ (found ++ after) ∧
      (∃ w ∈ words, Spells w found) ∧ atWordEdge (pre.getLast?.or before) found.head? = true ∧
      atWordEdge found.getLast? after.head? = true := by
  have hne : ∀ found, (∃ w ∈ words, Spells w found) → found ≠ [] :=
    fun _ ⟨w, hw, hfound⟩ => hfound.ne_nil (hwords w hw)
  induction l generalizing before with
  | nil =>
    refine ⟨nofun, ?_⟩
    rintro ⟨pre, found, after, hl, hfound, -⟩
    exact absurd (List.append_eq_nil_iff.1 (List.append_eq_nil_iff.1 hl.symm).2).1 (hne _ hfound)
  | cons c r ih =>
    rw [hasWord, Bool.or_eq_true, Bool.and_eq_true, startsWithWord_iff]
    -- a found word is not empty, so it starts with the character it stands at
    have hhead : ∀ found after, c :: r = found ++ after → (∃ w ∈ words, Spells w found) →
        found.head? = some c := by
      intro found after hl hfound
      rw [← List.head?_append_of_ne_nil _ (hne _ hfound), ← hl]
      rfl
    constructor
    · rintro (⟨hfront, found, after, hl, hfound, hedge⟩ | hrest)
      · exact ⟨[], found, after, hl, hfound, by rwa [hhead _ _ hl hfound], hedge⟩
      · obtain ⟨pre, found, after, rfl, hfound, hfront, hedge⟩ := (ih _).1 hrest
        exact ⟨c :: pre, found, after, rfl, hfound, getLast?_cons_or c pre before ▸ hfront, hedge⟩
    · rintro ⟨pre, found, after, hl, hfound, hfront, hedge⟩
      cases pre with
      | nil =>
        rw [List.nil_append] at hl
        rw [hhead _ _ hl hfound] at hfront
        exact .inl ⟨hfront, found, after, hl, hfound, hedge⟩
      | cons d pre =>
        obtain ⟨rfl, hr⟩ := List.cons.inj hl
        rw [getLast?_cons_or] at hfront
        exact .inr ((ih _).2 ⟨pre, found, after, hr, hfound, hfront, hedge⟩)

/-- **The search finds the words that stand apart.** -/
theorem hasWord_iff {words : List (List Char)} (hwords : Lettered words) {text : List Char} :
    hasWord words none text = true ↔ HasWord words text := by
  rw [hasWord_eq_true_iff fun w hw => (hwords w hw).1]
  have hedges : ∀ before found after : List Char, (∃ w ∈ words, Spells w found) →
      (atWordEdge (before.getLast?.or none) found.head? = true ↔
        ∀ c ∈ before.getLast?, isWord c = false) ∧
      (atWordEdge found.getLast? after.head? = true ↔ ∀ c ∈ after.head?, isWord c = false) := by
    rintro before found after ⟨w, hw, hfound⟩
    have hword : ∀ c ∈ found, isWord c = true := fun c hc => (hfound.solid (hwords w hw).2 c hc).1
    have hne := hfound.ne_nil (hwords w hw).1
    have hfirst : found.head?.any isWord = true := by
      rw [List.head?_eq_some_head hne]
      exact hword _ (List.head_mem hne)
    have hlast : found.getLast?.any isWord = true := by
      rw [List.getLast?_eq_some_getLast hne]
      exact hword _ (List.getLast_mem hne)
    rw [atWordEdge, atWordEdge, hfirst, hlast, Option.or_none]
    cases before.getLast? <;> cases after.head? <;> simp
  unfold HasWord
  constructor
  · rintro ⟨before, found, after, hl, hfound, hfront, hedge⟩
    obtain ⟨hb, ha⟩ := hedges before found after hfound
    exact ⟨before, found, after, hl, hfound, hb.1 hfront, ha.1 hedge⟩
  · rintro ⟨before, found, after, hl, hfound, hfront, hedge⟩
    obtain ⟨hb, ha⟩ := hedges before found after hfound
    exact ⟨before, found, after, hl, hfound, hb.2 hfront, ha.2 hedge⟩

/-! ## Headings -/

/-- A line that is a title in the frame of a heading. -/
inductive IsHeading : List Char → List Char → Prop
  | framed {margin gap title near far : List Char} {n k : Nat}
      (hmargin : ∀ c ∈ margin, isBlank c = true) (hshort : margin.length ≤ 3)
      (hmarks : 1 ≤ n ∧ n ≤ 6) (hgap : ∀ c ∈ gap, isBlank c = true) (hne : gap ≠ [])
      (htitle : '\n' ∉ title) (hnear : ∀ c ∈ near, isBlank c = true)
      (hfar : ∀ c ∈ far, isBlank c = true) :
      IsHeading (margin ++ (List.replicate n '#' ++
        (gap ++ (title ++ (near ++ (List.replicate k '#' ++ far)))))) title

theorem beq_hash_of_isBlank {c : Char} (h : isBlank c = true) : (c == '#') = false := by
  simp only [beq_eq_false_iff_ne, ne_eq]
  rintro rfl
  exact absurd h (by decide)

/-- A text without the frame at its end. -/
def unframed (l : List Char) : List Char := stripEnd (dropEndWhile (· == '#') (stripEnd l))

theorem unframed_isPrefix (l : List Char) : unframed l <+: l :=
  (dropEndWhile_isPrefix _ _).trans ((dropEndWhile_isPrefix _ _).trans (dropEndWhile_isPrefix _ _))

/-- What is dropped is the end of a frame. -/
theorem exists_unframed (l : List Char) :
    ∃ near k far, l = unframed l ++ (near ++ (List.replicate k '#' ++ far)) ∧
      (∀ c ∈ near, isBlank c = true) ∧ ∀ c ∈ far, isBlank c = true := by
  obtain ⟨far, hfar, hl⟩ := exists_dropEndWhile isBlank l
  obtain ⟨marks, hmarks, hl'⟩ := exists_dropEndWhile (· == '#') (stripEnd l)
  obtain ⟨near, hnear, hl''⟩ := exists_dropEndWhile isBlank (dropEndWhile (· == '#') (stripEnd l))
  have hreplicate : marks = List.replicate marks.length '#' :=
    List.eq_replicate_of_mem fun c hc => by simpa using hmarks c hc
  refine ⟨near, marks.length, far, ?_, hnear, hfar⟩
  rw [← hreplicate, unframed, stripEnd, ← List.append_assoc, ← hl'', ← List.append_assoc, ← hl']
  exact hl

/-- Of a text in front of the end of a frame nothing is left but a part of the text. -/
theorem unframed_append_isPrefix {near far : List Char} (hnear : ∀ c ∈ near, isBlank c = true)
    (hfar : ∀ c ∈ far, isBlank c = true) (k : Nat) (l : List Char) :
    unframed (l ++ (near ++ (List.replicate k '#' ++ far))) <+: l := by
  have hmarks : ∀ c ∈ List.replicate k '#', (c == '#') = true := fun c hc => by
    simpa using (List.mem_replicate.1 hc).2
  have hassoc : l ++ (near ++ (List.replicate k '#' ++ far)) =
      (l ++ near ++ List.replicate k '#') ++ far := by simp
  rw [unframed, hassoc, stripEnd, stripEnd, dropEndWhile_append_of_pos hfar]
  cases k with
  | zero =>
    rw [List.replicate_zero, List.append_nil, dropEndWhile_append_of_pos hnear]
    exact unframed_isPrefix l
  | succ k =>
    have hend : dropEndWhile isBlank (l ++ near ++ List.replicate (k + 1) '#') =
        l ++ near ++ List.replicate (k + 1) '#' := by
      rw [List.replicate_succ', ← List.append_assoc]
      exact dropEndWhile_concat_of_neg (by decide) _
    rw [hend, dropEndWhile_append_of_pos hmarks]
    -- the blanks in front of the hash signs end the frame, if there are any
    rcases List.eq_nil_or_concat near with rfl | ⟨near, c, rfl⟩
    · rw [List.append_nil]
      exact (dropEndWhile_isPrefix _ _).trans (dropEndWhile_isPrefix _ _)
    · have hc : (c == '#') = false := beq_hash_of_isBlank (hnear c (by simp))
      have hkeep : dropEndWhile (· == '#') (l ++ near.concat c) = l ++ near.concat c := by
        rw [List.concat_eq_append, ← List.append_assoc]
        exact dropEndWhile_concat_of_neg (p := (· == '#')) hc _
      rw [hkeep, dropEndWhile_append_of_pos hnear]
      exact dropEndWhile_isPrefix _ _

/-- A text is kept up to a word that is not part of a frame. -/
theorem unframed_append {found : List Char} (hne : found ≠ [])
    (hsolid : ∀ c ∈ found, isBlank c = false ∧ c ≠ '#') (l post : List Char) :
    unframed (l ++ (found ++ post)) = l ++ (found ++ unframed post) := by
  obtain ⟨f, d, rfl⟩ : ∃ f d, found = f ++ [d] :=
    ⟨_, _, (List.dropLast_append_getLast hne).symm⟩
  obtain ⟨hblank, hmark⟩ := hsolid d (by simp)
  have hmark : (d == '#') = false := by simpa using hmark
  have hassoc : ∀ m, l ++ (f ++ [d] ++ m) = l ++ f ++ [d] ++ m := fun m => by simp
  rw [hassoc, hassoc, unframed, stripEnd, stripEnd, dropEndWhile_append_of_neg hblank,
    dropEndWhile_append_of_neg (p := (· == '#')) hmark, dropEndWhile_append_of_neg hblank]
  rfl

theorem dropShortMargin_append {margin l : List Char} (hmargin : ∀ c ∈ margin, isBlank c = true)
    (hshort : margin.length ≤ 3) (hl : ∀ c ∈ l.head?, isBlank c = false) :
    dropShortMargin (margin ++ l) = l := by
  have htake : (margin ++ l).takeWhile isBlank = margin := by
    rw [List.takeWhile_append_of_pos hmargin]
    cases l with
    | nil => simp
    | cons c r => simp [hl c rfl]
  rw [dropShortMargin, htake]
  simp only [if_pos hshort, List.drop_left]

/-- The title that is read off a heading. -/
theorem title?_append {margin gap : List Char} {n : Nat} (hmargin : ∀ c ∈ margin, isBlank c = true)
    (hshort : margin.length ≤ 3) (hmarks : 1 ≤ n ∧ n ≤ 6) (hgap : ∀ c ∈ gap, isBlank c = true)
    (hne : gap ≠ []) (l : List Char) :
    title? (margin ++ (List.replicate n '#' ++ (gap ++ l))) =
      if (unframed (stripStart l)).contains '\n' then none else some (unframed (stripStart l)) := by
  obtain ⟨c, gap', rfl⟩ := List.exists_cons_of_ne_nil hne
  have hc : isBlank c = true := hgap c List.mem_cons_self
  have hhash : (c == '#') = false := beq_hash_of_isBlank hc
  have htake : ((List.replicate n '#' ++ (c :: gap' ++ l)).takeWhile (· == '#')).length = n := by
    rw [List.takeWhile_append_of_pos fun d hd => by simpa using (List.mem_replicate.1 hd).2]
    simp [hhash]
  have hbehind : behindHashes? (List.replicate n '#' ++ (c :: gap' ++ l)) = some (c :: gap' ++ l) := by
    have hdrop : (List.replicate n '#' ++ (c :: gap' ++ l)).drop n = c :: gap' ++ l :=
      List.drop_left' List.length_replicate
    rw [behindHashes?, htake, hdrop]
    simp [hmarks]
  have hfirst : ∀ d ∈ (List.replicate n '#' ++ (c :: gap' ++ l)).head?, isBlank d = false := by
    obtain ⟨m, rfl⟩ : ∃ m, n = m + 1 := ⟨n - 1, by omega⟩
    simp [List.replicate_succ, isBlank]
  have hstart : stripStart (c :: gap' ++ l) = stripStart l := stripStart_append_blank hgap
  rw [title?, dropShortMargin_append hmargin hshort hfirst, hbehind]
  simp only [Option.bind_eq_bind, Option.bind_some, List.cons_append, hc, if_true]
  rw [← List.cons_append, hstart]
  rfl

theorem exists_behindHashes? {l rest : List Char} (h : behindHashes? l = some rest) :
    ∃ n, (1 ≤ n ∧ n ≤ 6) ∧ l = List.replicate n '#' ++ rest := by
  have hmarks : l.takeWhile (· == '#') = List.replicate (l.takeWhile (· == '#')).length '#' :=
    List.eq_replicate_of_mem fun c hc => by simpa using List.mem_takeWhile_imp hc
  rw [behindHashes?] at h
  split at h
  · next hn =>
    refine ⟨_, by simpa using hn, ?_⟩
    rw [← hmarks, ← Option.some.inj h]
    exact (List.prefix_iff_eq_append.1 (List.takeWhile_prefix _)).symm
  · cases h

/-- A line whose title is read has at most three blanks in front of its hash signs. -/
theorem exists_dropShortMargin {line rest : List Char}
    (h : behindHashes? (dropShortMargin line) = some rest) :
    ∃ margin, (∀ c ∈ margin, isBlank c = true) ∧ margin.length ≤ 3 ∧
      line = margin ++ dropShortMargin line := by
  have hmargin : ∀ c ∈ line.takeWhile isBlank, isBlank c = true := fun c hc =>
    List.mem_takeWhile_imp hc
  have hline := List.takeWhile_append_dropWhile (p := isBlank) (l := line)
  by_cases hshort : (line.takeWhile isBlank).length ≤ 3
  · refine ⟨_, hmargin, hshort, ?_⟩
    rw [dropShortMargin, if_pos hshort]
    exact (List.prefix_iff_eq_append.1 (List.takeWhile_prefix _)).symm
  · -- the fourth blank is no hash sign
    obtain ⟨n, ⟨hn, -⟩, hmarks⟩ := exists_behindHashes? h
    obtain ⟨m, rfl⟩ : ∃ m, n = m + 1 := ⟨n - 1, by omega⟩
    have hfourth : (line.takeWhile isBlank).drop 3 <+: List.replicate (m + 1) '#' ++ rest := by
      rw [← hmarks, dropShortMargin, if_neg hshort]
      refine ⟨line.dropWhile isBlank, ?_⟩
      rw [← List.drop_append_of_le_length (by omega), List.takeWhile_append_dropWhile]
    obtain ⟨c, r, hc⟩ := List.exists_cons_of_length_pos (l := (line.takeWhile isBlank).drop 3)
      (by rw [List.length_drop]; omega)
    rw [hc, List.replicate_succ, List.cons_append, List.cons_prefix_cons] at hfourth
    have hblank := hmargin c (List.mem_of_mem_drop (hc ▸ List.mem_cons_self))
    exact absurd hfourth.1 (by simpa using beq_hash_of_isBlank hblank)

/-- The title that is read off a line is a title that the line has. -/
theorem isHeading_of_title? {line title : List Char} (h : title? line = some title) :
    IsHeading line title := by
  obtain ⟨rest, hrest, hbody⟩ := Option.bind_eq_some_iff.1 h
  obtain ⟨margin, hmargin, hshort, hline⟩ := exists_dropShortMargin hrest
  obtain ⟨n, hn, hmarks⟩ := exists_behindHashes? hrest
  cases rest with
  | nil => cases hbody
  | cons c r =>
    simp only at hbody
    split at hbody
    · next hc =>
      split at hbody
      · cases hbody
      · next hfeed =>
        obtain ⟨near, k, far, hframe, hnear, hfar⟩ := exists_unframed (stripStart (c :: r))
        have htitle : unframed (stripStart (c :: r)) = title := Option.some.inj hbody
        have hgap : (c :: r).takeWhile isBlank ≠ [] := by simp [hc]
        have hsplit : c :: r = (c :: r).takeWhile isBlank ++ stripStart (c :: r) :=
          List.takeWhile_append_dropWhile.symm
        rw [htitle] at hframe
        rw [hframe] at hsplit
        rw [hline, hmarks, hsplit]
        exact .framed hmargin hshort hn (fun d hd => List.mem_takeWhile_imp hd) hgap
          (by simpa [← htitle, unframed] using hfeed) hnear hfar
    · cases hbody

/-- **The title that is read has the words of every title of the line.** -/
theorem hasWord_title? {words : List (List Char)} (hwords : Lettered words)
    {line title : List Char} (h : IsHeading line title) (hword : HasWord words title) :
    ∃ t, title? line = some t ∧ HasWord words t := by
  obtain @⟨margin, gap, title, near, far, n, k, hmargin, hshort, hmarks, hgap, hne, htitle, hnear,
    hfar⟩ := h
  obtain ⟨before, found, after, rfl, ⟨w, hw, hfound⟩, hfront, hback⟩ := hword
  have hsolid := hfound.solid (hwords w hw).2
  have hfoundne := hfound.ne_nil (hwords w hw).1
  obtain ⟨post, hpost⟩ := unframed_append_isPrefix hnear hfar k after
  generalize near ++ (List.replicate k '#' ++ far) = frame at hpost ⊢
  have hbefore : before.takeWhile isBlank ++ stripStart before = before :=
    List.takeWhile_append_dropWhile
  have hhead : ∀ c ∈ (found ++ (after ++ frame)).head?, isBlank c = false := by
    intro c hc
    rw [List.head?_append_of_ne_nil _ hfoundne] at hc
    exact (hsolid c (List.mem_of_mem_head? hc)).2.1
  have hkept : unframed (stripStart (before ++ (found ++ after) ++ frame)) =
      stripStart before ++ (found ++ unframed (after ++ frame)) := by
    rw [List.append_assoc, List.append_assoc, stripStart_append hhead,
      unframed_append hfoundne fun c hc => (hsolid c hc).2]
  have hfeed : '\n' ∉ stripStart before ++ (found ++ unframed (after ++ frame)) := by
    intro hmem
    refine htitle ?_
    rw [← hbefore, ← hpost]
    simp only [List.mem_append] at hmem ⊢
    tauto
  refine ⟨stripStart before ++ (found ++ unframed (after ++ frame)), ?_, stripStart before,
    found, unframed (after ++ frame), rfl, ⟨w, hw, hfound⟩, fun c hc => ?_, fun c hc => ?_⟩
  · rw [title?_append hmargin hshort hmarks hgap hne, hkept, if_neg (by simpa using hfeed)]
  · exact hfront c (hbefore ▸ List.mem_getLast?_append_of_mem_getLast? hc)
  · exact hback c (hpost ▸ List.mem_head?_append_of_mem_head? hc)

/-! ## Sections -/

/-- The line is a heading that opens a section: a word of the main section decides. -/
inductive OpensSection (line : List Char) : Section → Prop
  | main {title : List Char} (heading : IsHeading line title) (word : HasWord mainWords title) :
      OpensSection line .main
  | plugins {title : List Char} (heading : IsHeading line title)
      (word : HasWord pluginWords title)
      (other : ∀ t, IsHeading line t → ¬HasWord mainWords t) : OpensSection line .plugins

theorem titleSection?_eq_some_iff {title : List Char} {s : Section} :
    titleSection? title = some s ↔ (s = .main ∧ HasWord mainWords title) ∨
      (s = .plugins ∧ HasWord pluginWords title ∧ ¬HasWord mainWords title) := by
  rw [titleSection?, ← hasWord_iff lettered_mainWords, ← hasWord_iff lettered_pluginWords]
  cases hasWord mainWords none title <;> cases hasWord pluginWords none title <;> cases s <;> simp

/-- **The section behind a line is another one only if the line opens one.** -/
theorem opensSection_iff {line : List Char} {s : Section} :
    OpensSection line s ↔ (title? line).bind titleSection? = some s := by
  rw [Option.bind_eq_some_iff]
  constructor
  · rintro (⟨heading, word⟩ | ⟨heading, word, other⟩)
    · obtain ⟨t, ht, hword⟩ := hasWord_title? lettered_mainWords heading word
      exact ⟨t, ht, titleSection?_eq_some_iff.2 (.inl ⟨rfl, hword⟩)⟩
    · obtain ⟨t, ht, hword⟩ := hasWord_title? lettered_pluginWords heading word
      exact ⟨t, ht, titleSection?_eq_some_iff.2
        (.inr ⟨rfl, hword, other t (isHeading_of_title? ht)⟩)⟩
  · rintro ⟨t, ht, hs⟩
    have heading := isHeading_of_title? ht
    rcases titleSection?_eq_some_iff.1 hs with ⟨rfl, word⟩ | ⟨rfl, word, hother⟩
    · exact .main heading word
    · refine .plugins heading word fun t' heading' word' => hother ?_
      obtain ⟨u, hu, huword⟩ := hasWord_title? lettered_mainWords heading' word'
      exact Option.some.inj (hu.symm.trans ht) ▸ huword

end Document

end LiterateConfig
