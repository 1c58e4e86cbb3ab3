import Mathlib.Data.List.Basic
import Mathlib.Data.List.TakeWhile
import LiterateConfig.Text.Lines

/-!
# Stripping, cutting into lines and removing the margin

What `strip`, `splitOn`, `splitLines` and `dedent` do to each other.

Results:
* `strip_strip`, `head?_strip`, `getLast?_strip`: a stripped text has no blank at
  its ends, so stripping it again changes nothing;
* `mem_splitOn_iff`: the pieces of a text are its parts that lie between two
  separators or an end;
* `splitLines_terminated`: lines that are each ended by a line feed are read back;
* `dedent_strip_dedent`: the text of a body has no margin left, so removing it
  once more changes nothing.
-/
namespace LiterateConfig.Text

/-! ## Stripping -/

/-- The text between the blanks at both ends. -/
theorem exists_strip (l : List Char) :
    ∃ pre post, l = pre ++ strip l ++ post ∧ (∀ c ∈ pre, isBlank c = true) ∧
      ∀ c ∈ post, isBlank c = true := by
  have h1 : l = l.takeWhile isBlank ++ stripStart l := List.takeWhile_append_dropWhile.symm
  have h2 : stripStart l = strip l ++ ((stripStart l).reverse.takeWhile isBlank).reverse := by
    have h : (stripStart l).reverse =
        (stripStart l).reverse.takeWhile isBlank ++ (stripStart l).reverse.dropWhile isBlank :=
      List.takeWhile_append_dropWhile.symm
    have hr := congrArg List.reverse h
    rw [List.reverse_reverse, List.reverse_append] at hr
    exact hr
  refine ⟨l.takeWhile isBlank, ((stripStart l).reverse.takeWhile isBlank).reverse, ?_, ?_, ?_⟩
  · rw [List.append_assoc, ← h2]
    exact h1
  · intro c hc
    exact List.mem_takeWhile_imp hc
  · intro c hc
    exact List.mem_takeWhile_imp (List.mem_reverse.1 hc)

theorem strip_isInfix (l : List Char) : strip l <:+: l := by
  obtain ⟨pre, post, h, -, -⟩ := exists_strip l
  exact ⟨pre, post, h.symm⟩

theorem head?_dropWhile {p : Char → Bool} {l : List Char} {c : Char}
    (h : c ∈ (l.dropWhile p).head?) : p c = false := by
  have hn := List.head?_dropWhile_not p l
  rw [Option.mem_def.1 h] at hn
  exact hn

theorem getLast?_strip {l : List Char} {c : Char} (h : c ∈ (strip l).getLast?) :
    isBlank c = false := by
  simp only [strip, stripEnd, dropEndWhile, List.getLast?_reverse] at h
  exact head?_dropWhile h

theorem strip_isPrefix (l : List Char) : strip l <+: stripStart l := by
  have hs := List.dropWhile_suffix isBlank (l := (stripStart l).reverse)
  simpa [strip, stripEnd, dropEndWhile] using List.reverse_prefix.2 hs

theorem head?_strip {l : List Char} {c : Char} (h : c ∈ (strip l).head?) : isBlank c = false := by
  obtain ⟨post, hpost⟩ := strip_isPrefix l
  have hc : c ∈ (stripStart l).head? := by
    rw [← hpost]
    exact List.mem_head?_append_of_mem_head? h
  exact head?_dropWhile hc

theorem strip_strip (l : List Char) : strip (strip l) = strip l :=
  strip_eq_self (fun _ h => head?_strip h) (fun _ h => getLast?_strip h)

theorem dropEndWhile_append_of_pos {p : Char → Bool} {post : List Char}
    (h : ∀ c ∈ post, p c = true) (l : List Char) :
    dropEndWhile p (l ++ post) = dropEndWhile p l := by
  have hpost : ∀ c ∈ post.reverse, p c = true := fun c hc => h c (List.mem_reverse.1 hc)
  rw [dropEndWhile, dropEndWhile, List.reverse_append, List.dropWhile_append_of_pos hpost]

/-- What stands between blanks and has none at its ends is what stripping leaves. -/
theorem strip_between {pre l post : List Char} (hpre : ∀ c ∈ pre, isBlank c = true)
    (hpost : ∀ c ∈ post, isBlank c = true) (hs : ∀ c ∈ l.head?, isBlank c = false)
    (he : ∀ c ∈ l.getLast?, isBlank c = false) : strip (pre ++ (l ++ post)) = l := by
  rw [strip_append_blank hpre]
  cases l with
  | nil => rw [List.nil_append, ← List.append_nil post, strip_append_blank hpost]; rfl
  | cons c r =>
    have hstart : stripStart (c :: r) = c :: r := dropWhile_eq_self hs
    have hstart' : stripStart (c :: r ++ post) = c :: r ++ post :=
      dropWhile_eq_self (by simpa using hs)
    have hself : strip (c :: r) = c :: r := strip_eq_self hs he
    rw [strip, hstart] at hself
    rw [strip, hstart', stripEnd, dropEndWhile_append_of_pos hpost, ← stripEnd, hself]

theorem isBlank_of_isIndent {c : Char} (h : isIndent c = true) : isBlank c = true := by
  simp only [isIndent, Bool.or_eq_true, beq_iff_eq] at h
  rcases h with rfl | rfl <;> decide

theorem isBlank_of_isLineBreak {c : Char} (h : isLineBreak c = true) : isBlank c = true := by
  simp only [isLineBreak, isBlank, Bool.or_eq_true, Bool.and_eq_true, decide_eq_true_eq,
    beq_iff_eq] at h ⊢
  omega

/-! ## Cutting at a separator -/

theorem splitOn_of_not_mem {sep : Char} {l : List Char} (h : sep ∉ l) : splitOn sep l = [l] := by
  induction l with
  | nil => rfl
  | cons c r ih =>
    have hc : c ≠ sep := fun e => h (e ▸ List.mem_cons_self)
    simp [splitOn, hc, ih fun m => h (List.mem_cons_of_mem _ m)]

theorem splitOn_append_cons {sep : Char} {l : List Char} (h : sep ∉ l) (r : List Char) :
    splitOn sep (l ++ sep :: r) = l :: splitOn sep r := by
  induction l with
  | nil => simp [splitOn]
  | cons c l ih =>
    have hc : c ≠ sep := fun e => h (e ▸ List.mem_cons_self)
    simp [splitOn, hc, ih fun m => h (List.mem_cons_of_mem _ m)]

/-- `a` can stand in front of a piece: it is empty or ends with a separator. -/
def EndsAt (sep : Char) (a : List Char) : Prop := a = [] ∨ ∃ b, a = b ++ [sep]

/-- `b` can stand behind a piece: it is empty or starts with a separator. -/
def StartsAt (sep : Char) (b : List Char) : Prop := b = [] ∨ ∃ r, b = sep :: r

theorem splitOn_cons_cases (sep : Char) (l : List Char) :
    (sep ∉ l ∧ splitOn sep l = [l]) ∨
      ∃ first rest, sep ∉ first ∧ l = first ++ sep :: rest ∧
        splitOn sep l = first :: splitOn sep rest := by
  by_cases h : sep ∈ l
  · right
    obtain ⟨first, rest, hl, hf⟩ := List.eq_append_cons_of_mem h
    exact ⟨first, rest, hf, hl, by rw [hl, splitOn_append_cons hf]⟩
  · exact Or.inl ⟨h, splitOn_of_not_mem h⟩

theorem exists_of_mem_splitOn {sep : Char} {l p : List Char} (h : p ∈ splitOn sep l) :
    sep ∉ p ∧ ∃ a b, l = a ++ p ++ b ∧ EndsAt sep a ∧ StartsAt sep b := by
  induction hn : l.length using Nat.strongRecOn generalizing l with
  | ind n ih =>
  rcases splitOn_cons_cases sep l with ⟨hl, he⟩ | ⟨first, rest, hf, hl, he⟩
  · rw [he, List.mem_singleton] at h
    subst h
    exact ⟨hl, [], [], by simp, Or.inl rfl, Or.inl rfl⟩
  · rw [he, List.mem_cons] at h
    rcases h with rfl | h
    · exact ⟨hf, [], sep :: rest, by simpa using hl, Or.inl rfl, Or.inr ⟨rest, rfl⟩⟩
    · have hlt : rest.length < n := by rw [← hn, hl]; simp; omega
      obtain ⟨hp, a, b, hrest, ha, hb⟩ := ih rest.length hlt h rfl
      refine ⟨hp, first ++ sep :: a, b, by simp [hl, hrest], Or.inr ?_, hb⟩
      rcases ha with rfl | ⟨a', rfl⟩
      · exact ⟨first, rfl⟩
      · exact ⟨first ++ sep :: a', by simp⟩

theorem mem_splitOn_of_eq {sep : Char} {p a b : List Char} (hp : sep ∉ p) (ha : EndsAt sep a)
    (hb : StartsAt sep b) : p ∈ splitOn sep (a ++ p ++ b) := by
  induction hn : a.length using Nat.strongRecOn generalizing a with
  | ind n ih =>
  by_cases hm : sep ∈ a
  · obtain ⟨first, rest, rfl, hf⟩ := List.eq_append_cons_of_mem hm
    have hrest : EndsAt sep rest := by
      rcases ha with ha | ⟨a', ha⟩
      · simp at ha
      · rcases List.eq_nil_or_concat rest with rfl | ⟨r', d, rfl⟩
        · exact Or.inl rfl
        · rw [List.concat_eq_append] at ha ⊢
          have hl : first ++ sep :: r' ++ [d] = a' ++ [sep] := by simpa using ha
          obtain ⟨-, hd⟩ := List.append_inj' hl rfl
          exact Or.inr ⟨r', by rw [hd]⟩
    have := ih rest.length (by rw [← hn]; simp; omega) hrest rfl
    rw [List.append_assoc, List.append_assoc, List.cons_append, splitOn_append_cons hf]
    exact List.mem_cons_of_mem _ (by simpa [List.append_assoc] using this)
  · have ha' : a = [] := by
      rcases ha with rfl | ⟨a', rfl⟩
      · rfl
      · simp at hm
    subst ha'
    rcases hb with rfl | ⟨r, rfl⟩
    · simp [splitOn_of_not_mem hp]
    · simp [splitOn_append_cons hp]

theorem mem_splitOn_iff {sep : Char} {l p : List Char} :
    p ∈ splitOn sep l ↔ sep ∉ p ∧ ∃ a b, l = a ++ p ++ b ∧ EndsAt sep a ∧ StartsAt sep b :=
  ⟨exists_of_mem_splitOn, fun ⟨hp, _, _, hl, ha, hb⟩ => hl ▸ mem_splitOn_of_eq hp ha hb⟩

/-- A joined text is cut into its pieces again. -/
theorem splitOn_joinWith {sep : Char} {ls : List (List Char)} (hne : ls ≠ [])
    (h : ∀ l ∈ ls, sep ∉ l) : splitOn sep (joinWith [sep] ls) = ls := by
  induction ls with
  | nil => exact absurd rfl hne
  | cons l rest ih =>
    have hl := h l List.mem_cons_self
    cases rest with
    | nil => exact splitOn_of_not_mem hl
    | cons k ks =>
      have hrest := ih (by simp) fun m hm => h m (List.mem_cons_of_mem _ hm)
      rw [joinWith, List.append_assoc, List.singleton_append, splitOn_append_cons hl, hrest]
      simp

theorem mem_joinWith {sep : List Char} {ls : List (List Char)} {c : Char}
    (h : c ∈ joinWith sep ls) : c ∈ sep ∨ ∃ l ∈ ls, c ∈ l := by
  induction ls with
  | nil => simp [joinWith] at h
  | cons l rest ih =>
    cases rest with
    | nil => exact Or.inr ⟨l, List.mem_cons_self, h⟩
    | cons k ks =>
      simp only [joinWith, List.mem_append] at h
      rcases h with (h | h) | h
      · exact Or.inr ⟨l, List.mem_cons_self, h⟩
      · exact Or.inl h
      · rcases ih h with hs | ⟨m, hm, hc⟩
        · exact Or.inl hs
        · exact Or.inr ⟨m, List.mem_cons_of_mem _ hm, hc⟩

/-! ## Lines of a document -/

/-- No character of the line ends a line. -/
def IsLine (l : List Char) : Prop := ∀ c ∈ l, isLineBreak c = false

instance (l : List Char) : Decidable (IsLine l) :=
  List.decidableBAll (fun c => isLineBreak c = false) l

theorem splitLines_append_cons {l : List Char} (h : IsLine l) (r : List Char) :
    splitLines (l ++ '\n' :: r) = l :: splitLines r := by
  induction l with
  | nil => simp [splitLines, isLineBreak]
  | cons c l ih =>
    have hc : isLineBreak c = false := h c List.mem_cons_self
    have hr : c ≠ '\r' := by rintro rfl; simp [isLineBreak] at hc
    have hl := ih fun d hd => h d (List.mem_cons_of_mem _ hd)
    rw [List.cons_append, splitLines, hl]
    · simp [hc]
    · intro r' e
      exact absurd e hr

theorem splitLines_terminated {ls : List (List Char)} (h : ∀ l ∈ ls, IsLine l) :
    splitLines (ls.flatMap (· ++ ['\n'])) = ls := by
  induction ls with
  | nil => simp [splitLines]
  | cons l rest ih =>
    have hl := h l List.mem_cons_self
    have hrest := ih fun m hm => h m (List.mem_cons_of_mem _ hm)
    simp only [List.flatMap_cons, List.append_assoc, List.singleton_append]
    rw [splitLines_append_cons hl, hrest]

theorem isLine_of_mem_splitLines {l line : List Char} (h : line ∈ splitLines l) : IsLine line := by
  fun_induction splitLines l generalizing line with
  | case1 => simp at h
  | case2 r ih =>
    rcases List.mem_cons.1 h with rfl | h
    · simp [IsLine]
    · exact ih h
  | case3 c r hr hc ih =>
    rcases List.mem_cons.1 h with rfl | h
    · simp [IsLine]
    · exact ih h
  | case4 c r hr hc hs ih =>
    rw [List.mem_singleton] at h
    subst h
    simpa [IsLine] using hc
  | case5 c r hr hc l' ls hs ih =>
    rcases List.mem_cons.1 h with rfl | h
    · intro d hd
      rcases List.mem_cons.1 hd with rfl | hd
      · simpa using hc
      · exact ih (by rw [hs]; exact List.mem_cons_self) d hd
    · exact ih (by rw [hs]; exact List.mem_cons_of_mem _ h)

/-! ## The margin -/

/-- Lines of mere indentation are empty. -/
def Tidy (text : List Char) : Prop := ∀ l ∈ splitOn '\n' text, isIndentOnly l = true → l = []

theorem margin_eq_nil {text : List Char} (hs : ∀ c ∈ text.head?, isBlank c = false)
    (ht : Tidy text) : margin (splitOn '\n' text) = [] := by
  have fold : ∀ ls : List (List Char),
      ls.foldl (fun m k => commonStart m (k.takeWhile isIndent)) [] = [] := by
    intro ls
    induction ls with
    | nil => rfl
    | cons l ls ih => simpa [commonStart] using ih
  cases text with
  | nil => simp [splitOn, margin, isIndentOnly]
  | cons c r =>
    have hc : isBlank c = false := hs c rfl
    have hnl : c ≠ '\n' := by rintro rfl; simp [isBlank] at hc
    have hi : isIndent c = false := by
      by_contra h
      rw [isBlank_of_isIndent (by simpa using h)] at hc
      cases hc
    -- the first line starts with `c`, so it holds more than indentation and has no indentation
    obtain ⟨k, ks, hk⟩ : ∃ k ks, splitOn '\n' (c :: r) = (c :: k) :: ks := by
      simp only [splitOn, if_neg hnl]
      split
      · exact ⟨[], [], rfl⟩
      · exact ⟨_, _, rfl⟩
    rw [hk]
    simp [margin, isIndentOnly, hi, fold]

theorem dedent_eq_self {text : List Char} (hs : ∀ c ∈ text.head?, isBlank c = false)
    (ht : Tidy text) : dedent text = text := by
  have hm := margin_eq_nil hs ht
  have hl : dedentLines (splitOn '\n' text) = splitOn '\n' text := by
    rw [dedentLines, hm]
    refine (List.map_congr_left fun l hl => ?_).trans (List.map_id _)
    by_cases hi : isIndentOnly l = true
    · simp [ht l hl hi]
    · simp [hi]
  rw [dedent, hl, joinWith_splitOn]

theorem commonStart_isPrefix_right (a b : List Char) : commonStart a b <+: b := by
  induction a generalizing b with
  | nil => simp [commonStart]
  | cons x as ih =>
    cases b with
    | nil => simp [commonStart]
    | cons y bs =>
      simp only [commonStart]
      split
      · next h => rw [h]; exact (List.prefix_cons_inj y).2 (ih bs)
      · exact List.nil_prefix

/-- The margin is part of the indentation of every line that holds more. -/
theorem margin_isPrefix {ls : List (List Char)} {l : List Char} (hl : l ∈ ls)
    (hi : isIndentOnly l = false) : margin ls <+: l.takeWhile isIndent := by
  have fold : ∀ (rest : List (List Char)) (m : List Char),
      rest.foldl (fun m k => commonStart m (k.takeWhile isIndent)) m <+: m ∧
        ∀ k ∈ rest, rest.foldl (fun m k => commonStart m (k.takeWhile isIndent)) m <+:
          k.takeWhile isIndent := by
    intro rest
    induction rest with
    | nil => intro m; simp
    | cons k ks ih =>
      intro m
      obtain ⟨h1, h2⟩ := ih (commonStart m (k.takeWhile isIndent))
      refine ⟨h1.trans (commonStart_isPrefix_left _ _), fun j hj => ?_⟩
      rcases List.mem_cons.1 hj with rfl | hj
      · exact h1.trans (commonStart_isPrefix_right _ _)
      · exact h2 j hj
  have hf : l ∈ ls.filter fun l => !isIndentOnly l := List.mem_filter.2 ⟨hl, by simp [hi]⟩
  unfold margin
  split
  · next h => rw [h] at hf; cases hf
  · next k rest h =>
    rw [h] at hf
    obtain ⟨h1, h2⟩ := fold rest (k.takeWhile isIndent)
    rcases List.mem_cons.1 hf with rfl | hf
    · exact h1
    · exact h2 l hf

/-- A line that holds more than indentation still does without a part of its indentation. -/
theorem isIndentOnly_drop {l m : List Char} (hm : m <+: l.takeWhile isIndent)
    (hi : isIndentOnly l = false) : isIndentOnly (l.drop m.length) = false := by
  obtain ⟨n, hn⟩ := hm
  have hl : l = m ++ (n ++ l.dropWhile isIndent) := by
    rw [← List.append_assoc, hn, List.takeWhile_append_dropWhile]
  have hall : ∀ c ∈ m, isIndent c = true := fun c hc =>
    List.mem_takeWhile_imp (by rw [← hn]; exact List.mem_append_left _ hc)
  have hd : l.drop m.length = n ++ l.dropWhile isIndent := by
    have := congrArg (List.drop m.length) hl
    rwa [List.drop_left] at this
  rw [hd]
  simp only [isIndentOnly, List.all_eq_false] at hi ⊢
  obtain ⟨c, hc, hci⟩ := hi
  rw [hl] at hc
  rcases List.mem_append.1 hc with hc | hc
  · exact absurd (hall c hc) hci
  · exact ⟨c, hc, hci⟩

theorem mem_dedentLines {ls : List (List Char)} {k : List Char} (h : k ∈ dedentLines ls) :
    k = [] ∨ isIndentOnly k = false ∧ ∃ l ∈ ls, k <:+ l := by
  simp only [dedentLines, List.mem_map] at h
  obtain ⟨l, hl, rfl⟩ := h
  by_cases hi : isIndentOnly l = true
  · simp [hi]
  · have hi : isIndentOnly l = false := by simpa using hi
    refine Or.inr ⟨?_, l, hl, ?_⟩
    · simpa [hi] using isIndentOnly_drop (margin_isPrefix hl hi) hi
    · simpa [hi] using List.drop_suffix _ _

theorem splitOn_dedent (text : List Char) :
    splitOn '\n' (dedent text) = dedentLines (splitOn '\n' text) := by
  refine splitOn_joinWith ?_ fun k hk => ?_
  · simpa [dedentLines] using splitOn_ne_nil '\n' text
  · rcases mem_dedentLines hk with rfl | ⟨-, l, hl, hs⟩
    · simp
    · exact fun hm => (mem_splitOn_iff.1 hl).1 (hs.subset hm)

theorem tidy_dedent (text : List Char) : Tidy (dedent text) := by
  intro k hk hi
  rw [splitOn_dedent] at hk
  rcases mem_dedentLines hk with h | ⟨h, -⟩
  · exact h
  · rw [h] at hi; cases hi

/-- Stripping keeps a text tidy: a line of mere indentation touches neither end
of the stripped text, so it is a line of the whole text. -/
theorem Tidy.strip {text : List Char} (h : Tidy text) : Tidy (strip text) := by
  intro l hl hi
  obtain ⟨hnl, a, b, hs, ha, hb⟩ := mem_splitOn_iff.1 hl
  obtain ⟨pre, post, ht, -, -⟩ := exists_strip text
  cases hlc : l with
  | nil => rfl
  | cons c r =>
    have hblank : ∀ d ∈ l, isBlank d = true := fun d hd =>
      isBlank_of_isIndent (List.all_eq_true.1 hi d hd)
    have ha' : ∃ a', a = a' ++ ['\n'] := by
      rcases ha with rfl | ha
      · have := head?_strip (l := text) (c := c) (by rw [hs, hlc]; rfl)
        rw [hblank c (by rw [hlc]; exact List.mem_cons_self)] at this
        cases this
      · exact ha
    have hb' : ∃ b', b = '\n' :: b' := by
      rcases hb with rfl | hb
      · obtain ⟨d, hd⟩ : ∃ d, d ∈ l.getLast? := by rw [hlc]; exact ⟨_, List.getLast?_cons⟩
        have := getLast?_strip (l := text) (c := d) (by
          rw [hs, List.append_nil]; exact List.mem_getLast?_append_of_mem_getLast? hd)
        rw [hblank d (List.mem_of_mem_getLast? hd)] at this
        cases this
      · exact hb
    obtain ⟨a', rfl⟩ := ha'
    obtain ⟨b', rfl⟩ := hb'
    have hmem : l ∈ splitOn '\n' text := by
      refine mem_splitOn_iff.2 ⟨hnl, pre ++ (a' ++ ['\n']), '\n' :: b' ++ post, ?_, ?_, ?_⟩
      · rw [ht, hs]; simp
      · exact Or.inr ⟨pre ++ a', by simp⟩
      · exact Or.inr ⟨b' ++ post, rfl⟩
    rw [← hlc]
    exact h l hmem hi

theorem dedent_strip_dedent (text : List Char) :
    dedent (strip (dedent text)) = strip (dedent text) :=
  dedent_eq_self (fun _ h => head?_strip h) (tidy_dedent text).strip

end LiterateConfig.Text
