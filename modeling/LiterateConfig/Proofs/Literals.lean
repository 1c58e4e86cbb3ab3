import LiterateConfig.Script.Lexer

/-!
# Literals in front of a line end

A literal is read from the front of a line, and the readers look no further than its end.
So one more line end behind the text changes nothing but the rest, which it ends as well.

Results:
* `literalAt?_append`, `markAt?_append`, `measure_append`: what is read in front of one more
  line end;
* `inner_literalAt`, `behind_markAt`, `suffix_measure`: what is left stood at the end, and a
  literal is no token about lines.
-/
namespace LiterateConfig.Script

open LiterateConfig.Text

variable {α β : Type}

/-- Whether a token is about lines, and not in one. -/
def Token.isLayout : Token → Bool
  | .newline | .indent | .dedent => true
  | _ => false

/-- What was read, and the rest in front of one more line end. -/
def beforeEnd (p : α × List Char) : α × List Char := (p.1, p.2 ++ ['\n'])

theorem map_beforeEnd (f : α → β) (o : Option (α × List Char)) :
    (o.map beforeEnd).map (fun x => (f x.1, x.2)) =
      (o.map fun x => (f x.1, x.2)).map beforeEnd := by
  cases o <;> rfl

theorem bind_beforeEnd {o o' : Option (α × List Char)}
    {k : α × List Char → Option (β × List Char)} (ho : o' = o.map beforeEnd)
    (hk : ∀ x, k (beforeEnd x) = (k x).map beforeEnd) :
    o'.bind k = (o.bind k).map beforeEnd := by
  subst ho
  cases o with
  | none => rfl
  | some x => exact hk x

/-- Two characters at the front that are no line end stood there before. -/
theorem append_end_ne {c d : Char} (hd : d ≠ '\n') {l : List Char}
    (h : ∀ r, l = c :: d :: r → False) (r : List Char) : l ++ ['\n'] = c :: d :: r → False := by
  intro heq
  rcases l with _ | ⟨a, _ | ⟨b, l⟩⟩
  · cases heq
  · cases heq
    exact hd rfl
  · cases heq
    exact h l rfl

theorem takeWhile_append_end {p : Char → Bool} (hp : p '\n' = false) (l : List Char) :
    (l ++ ['\n']).takeWhile p = l.takeWhile p := by
  induction l with
  | nil => simp [hp]
  | cons c l ih => by_cases hc : p c = true <;> simp [hc, ih]

theorem dropWhile_append_end {p : Char → Bool} (hp : p '\n' = false) (l : List Char) :
    (l ++ ['\n']).dropWhile p = l.dropWhile p ++ ['\n'] := by
  induction l with
  | nil => simp [hp]
  | cons c l ih => by_cases hc : p c = true <;> simp [hc, ih]

/-- Whether `rest` is left of `l` once something was read. -/
def Behind (rest l : List Char) : Prop := rest <:+ l ∧ rest.length < l.length

theorem Behind.cons {rest r : List Char} (h : rest <:+ r) (c : Char) : Behind rest (c :: r) :=
  ⟨h.trans (List.suffix_cons c r), Nat.lt_succ_of_le h.length_le⟩

theorem Behind.trans_suffix {rest r l : List Char} (h : Behind rest r) (hr : r <:+ l) :
    Behind rest l :=
  ⟨h.1.trans hr, Nat.lt_of_lt_of_le h.2 hr.length_le⟩

theorem Behind.of_suffix {rest r l : List Char} (hrest : rest <:+ r) (h : Behind r l) :
    Behind rest l :=
  ⟨hrest.trans h.1, Nat.lt_of_le_of_lt hrest.length_le h.2⟩

/-! ## Digits -/

section Digits

variable {p : Char → Bool} {c d : Char}

theorem takeDigits_eq_none (hc : p c = false) (r : List Char) : takeDigits p (c :: r) = none := by
  rw [takeDigits.eq_def]
  simp [hc]

theorem takeDigits_underscore (hc : p c = true) (d : Char) (r : List Char) :
    takeDigits p (c :: '_' :: d :: r) =
      if p d then (takeDigits p (d :: r)).map fun x => (c :: x.1, x.2) else none := by
  rw [takeDigits.eq_def]
  simp [hc]

theorem takeDigits_cons_cons (hc : p c = true) (hd : d ≠ '_') (r : List Char) :
    takeDigits p (c :: d :: r) =
      if p d then (takeDigits p (d :: r)).map fun x => (c :: x.1, x.2)
      else some ([c], d :: r) := by
  rw [takeDigits.eq_def]
  simp [hc, hd]

theorem takeDigits_append (hp : p '\n' = false) (l : List Char) :
    takeDigits p (l ++ ['\n']) = (takeDigits p l).map beforeEnd := by
  induction hn : l.length using Nat.strongRecOn generalizing l with
  | ind n ih =>
    subst hn
    rcases l with _ | ⟨c, _ | ⟨d, r⟩⟩
    · rw [takeDigits]
      exact takeDigits_eq_none hp []
    · by_cases hc : p c = true
      · have hfeed : '\n' ≠ '_' := by decide
        simp [takeDigits_cons_cons hc hfeed, hp, takeDigits, hc, beforeEnd]
      · simp [takeDigits_eq_none (Bool.eq_false_iff.2 hc)]
    · by_cases hc : p c = true
      · have hnext := ih (d :: r).length (by simp) (d :: r) rfl
        by_cases hd : d = '_'
        · subst hd
          cases r with
          | nil => simp [takeDigits_underscore hc, hp, takeDigits, hc]
          | cons e r =>
            have hnext := ih (e :: r).length (by simp) (e :: r) rfl
            simp only [List.cons_append, takeDigits_underscore hc] at hnext ⊢
            rw [hnext]
            split
            · exact map_beforeEnd (c :: ·) _
            · rfl
        · simp only [List.cons_append, takeDigits_cons_cons hc hd] at hnext ⊢
          rw [hnext]
          split
          · exact map_beforeEnd (c :: ·) _
          · rfl
      · simp [takeDigits_eq_none (Bool.eq_false_iff.2 hc)]

theorem behind_takeDigits {l ds rest : List Char} (h : takeDigits p l = some (ds, rest)) :
    Behind rest l := by
  fun_induction takeDigits p l generalizing ds with
  | case1 => cases h
  | case2 => cases h
  | case3 c hc d r hd ih =>
    obtain ⟨⟨ds', t⟩, ht, he⟩ := Option.map_eq_some_iff.1 h
    cases he
    exact .cons ((ih ht).1.trans (List.suffix_cons ..)) c
  | case4 => cases h
  | case5 => cases h
  | case6 c hc d r _ _ hd ih =>
    obtain ⟨⟨ds', t⟩, ht, he⟩ := Option.map_eq_some_iff.1 h
    cases he
    exact .cons (ih ht).1 c
  | case7 =>
    cases h
    exact .cons (List.suffix_refl _) _
  | case8 =>
    cases h
    exact .cons (List.suffix_refl _) _

end Digits

/-! ## Numbers -/

/-- The words that can follow a number without a blank. -/
def numberFollowers : List (List Char) :=
  [['a', 'n', 'd'], ['e', 'l', 's', 'e'], ['f', 'o', 'r'], ['i', 'f'], ['i', 'n'], ['i', 's'],
    ['o', 'r'], ['n', 'o', 't']]

theorem mayEndNumber_eq (l : List Char) :
    mayEndNumber l = (numberFollowers.any (·.isPrefixOf l) || !l.head?.any mayBeInName) := by
  unfold mayEndNumber
  split
  case h_9 c r _ _ _ _ _ _ _ _ =>
    have hnone : ∀ w ∈ numberFollowers, ¬ w <+: c :: r := by
      simp only [numberFollowers, List.mem_cons, List.not_mem_nil, or_false, forall_eq_or_imp,
        forall_eq, List.prefix_iff_eq_append]
      grind
    have hany : numberFollowers.any (·.isPrefixOf (c :: r)) = false := by
      simpa only [List.any_eq_false, List.isPrefixOf_iff_prefix] using hnone
    rw [hany]
    rfl
  all_goals simp [numberFollowers]

theorem isPrefixOf_append_end {w : List Char} (hw : '\n' ∉ w) (l : List Char) :
    w.isPrefixOf (l ++ ['\n']) = w.isPrefixOf l := by
  induction w generalizing l with
  | nil => simp
  | cons c w ih =>
    rw [List.mem_cons, not_or] at hw
    cases l with
    | nil => simp [List.isPrefixOf, Ne.symm hw.1]
    | cons d l => simp [List.isPrefixOf, ih hw.2]

theorem mayEndNumber_append (l : List Char) : mayEndNumber (l ++ ['\n']) = mayEndNumber l := by
  have hfeed : mayBeInName '\n' = false := by decide
  have hwords : numberFollowers.any (·.isPrefixOf (l ++ ['\n'])) =
      numberFollowers.any (·.isPrefixOf l) := by
    simp [numberFollowers, isPrefixOf_append_end]
  rw [mayEndNumber_eq, mayEndNumber_eq, hwords]
  cases l with
  | nil => simp [hfeed]
  | cons c l => rfl

theorem ended_append (t : Token) (l : List Char) :
    ended t (l ++ ['\n']) = (ended t l).map beforeEnd := by
  unfold ended
  rw [mayEndNumber_append]
  split <;> rfl

theorem ended_eq_some {t u : Token} {l rest : List Char} (h : ended t l = some (u, rest)) :
    u = t ∧ rest = l := by
  unfold ended at h
  split at h
  · cases h
    exact ⟨rfl, rfl⟩
  · cases h

/-- The digits behind a sign that may be an underscore. -/
theorem readBased_eq (base : Nat) (p : Char → Bool) (c : Char) (r : List Char) :
    readBased base p (c :: r) = (takeDigits p (if c = '_' then r else c :: r)).bind fun x =>
      ended (.int (digitsNumber base x.1)) x.2 := by
  unfold readBased
  by_cases hc : c = '_'
  · subst hc
    rfl
  · rw [if_neg hc]
    simp [hc]

theorem readBased_append (base : Nat) {p : Char → Bool} (hp : p '\n' = false) (l : List Char) :
    readBased base p (l ++ ['\n']) = (readBased base p l).map beforeEnd := by
  cases l with
  | nil =>
    have hfeed : takeDigits p ['\n'] = none := takeDigits_eq_none hp []
    simp [readBased, hfeed, takeDigits]
  | cons c r =>
    rw [List.cons_append, readBased_eq, readBased_eq]
    refine bind_beforeEnd ?_ fun x => ended_append _ x.2
    rw [← takeDigits_append hp]
    split <;> rfl

theorem inner_readBased {base : Nat} {p : Char → Bool} {l rest : List Char} {t : Token}
    (h : readBased base p l = some (t, rest)) : t.isLayout = false ∧ Behind rest l := by
  cases l with
  | nil => simp [readBased, takeDigits] at h
  | cons c r =>
    rw [readBased_eq] at h
    obtain ⟨⟨ds, r'⟩, hdigits, hended⟩ := Option.bind_eq_some_iff.1 h
    obtain ⟨rfl, rfl⟩ := ended_eq_some hended
    have hd := behind_takeDigits hdigits
    refine ⟨rfl, ?_⟩
    split at hd
    · exact .cons hd.1 c
    · exact hd

/-- The sign of an exponent, and what stands behind it. -/
def signed : List Char → Int × List Char
  | '-' :: t => (-1, t)
  | '+' :: t => (1, t)
  | t => (1, t)

theorem signed_append (r : List Char) : signed (r ++ ['\n']) = beforeEnd (signed r) := by
  cases r with
  | nil => rfl
  | cons c r =>
    unfold signed
    simp only [List.cons_append]
    split <;> simp_all [beforeEnd]

theorem suffix_signed (r : List Char) : (signed r).2 <:+ r := by
  unfold signed
  split
  · exact List.suffix_cons ..
  · exact List.suffix_cons ..
  · exact List.suffix_refl _

/-- The double with an exponent. -/
def doubleToken (whole fraction : List Char) (e : Int) : Token :=
  .float (Number.ofDecimal false (digitsNumber 10 (whole ++ fraction)) (e - fraction.length))

/-- A number without an exponent. -/
def readPlain (whole fraction : List Char) (pointed : Bool) (l : List Char) :
    Option (Token × List Char) :=
  if pointed then ended (doubleToken whole fraction 0) l
  else if 1 < whole.length && whole.head? == some '0' && whole.any (· != '0') then none
  else if digitLimit < whole.length then none
  else ended (.int (digitsNumber 10 whole)) l

/-- The digits of an exponent. -/
def readExponent (whole fraction : List Char) (s : Int × List Char) : Option (Token × List Char) :=
  (takeDigits Char.isDigit s.2).bind fun x =>
    ended (doubleToken whole fraction (s.1 * digitsNumber 10 x.1)) x.2

theorem readPower_signed (whole fraction : List Char) (pointed : Bool) (c : Char) (r : List Char) :
    readPower whole fraction pointed (c :: r) =
      if c = 'e' || c = 'E' then
        match (signed r).2 with
        | d :: _ =>
          if d.isDigit then readExponent whole fraction (signed r)
          else if (signed r).2.length < r.length then none
          else readPlain whole fraction pointed (c :: r)
        | [] =>
          if (signed r).2.length < r.length then none
          else readPlain whole fraction pointed (c :: r)
      else readPlain whole fraction pointed (c :: r) := rfl

theorem readPower_cons (whole fraction : List Char) (pointed : Bool) (c : Char) (r : List Char) :
    readPower whole fraction pointed (c :: r) =
      if c = 'e' || c = 'E' then
        if (signed r).2.head?.any Char.isDigit then readExponent whole fraction (signed r)
        else if (signed r).2.length < r.length then none
        else readPlain whole fraction pointed (c :: r)
      else readPlain whole fraction pointed (c :: r) := by
  rw [readPower_signed]
  cases (signed r).2 <;> rfl

theorem readPlain_append (whole fraction : List Char) (pointed : Bool) (l : List Char) :
    readPlain whole fraction pointed (l ++ ['\n']) =
      (readPlain whole fraction pointed l).map beforeEnd := by
  unfold readPlain
  rw [ended_append, ended_append]
  split
  · rfl
  split
  · rfl
  split <;> rfl

theorem inner_readPlain {whole fraction l rest : List Char} {pointed : Bool} {t : Token}
    (h : readPlain whole fraction pointed l = some (t, rest)) :
    t.isLayout = false ∧ rest <:+ l := by
  unfold readPlain at h
  split at h
  · obtain ⟨rfl, rfl⟩ := ended_eq_some h
    exact ⟨rfl, List.suffix_refl _⟩
  split at h
  · cases h
  split at h
  · cases h
  · obtain ⟨rfl, rfl⟩ := ended_eq_some h
    exact ⟨rfl, List.suffix_refl _⟩

theorem readPower_append (whole fraction : List Char) (pointed : Bool) (l : List Char) :
    readPower whole fraction pointed (l ++ ['\n']) =
      (readPower whole fraction pointed l).map beforeEnd := by
  cases l with
  | nil =>
    have hfeed : readPower whole fraction pointed ['\n'] =
        readPlain whole fraction pointed ['\n'] := rfl
    exact hfeed.trans (readPlain_append whole fraction pointed [])
  | cons c r =>
    have hplain := readPlain_append whole fraction pointed (c :: r)
    have hdigits : (signed (r ++ ['\n'])).2.head?.any Char.isDigit =
        (signed r).2.head?.any Char.isDigit := by
      rw [signed_append]
      cases h : (signed r).2 <;> simp [beforeEnd, h]
    have hsign : (signed (r ++ ['\n'])).2.length < (r ++ ['\n']).length ↔
        (signed r).2.length < r.length := by
      rw [signed_append]
      simp [beforeEnd]
    have hexponent : readExponent whole fraction (signed (r ++ ['\n'])) =
        (readExponent whole fraction (signed r)).map beforeEnd := by
      rw [signed_append]
      exact bind_beforeEnd (takeDigits_append (by decide) _) fun x => ended_append _ x.2
    rw [List.cons_append, readPower_cons, readPower_cons, hdigits, hexponent]
    simp only [hsign, List.cons_append] at hplain ⊢
    rw [hplain]
    split
    · split
      · rfl
      split <;> rfl
    · rfl

theorem inner_readPower {whole fraction l rest : List Char} {pointed : Bool} {t : Token}
    (h : readPower whole fraction pointed l = some (t, rest)) :
    t.isLayout = false ∧ rest <:+ l := by
  cases l with
  | nil =>
    have hplain : readPlain whole fraction pointed [] = some (t, rest) := h
    exact inner_readPlain hplain
  | cons c r =>
    rw [readPower_cons] at h
    split at h
    · split at h
      · obtain ⟨⟨ds, r'⟩, hdigits, hended⟩ := Option.bind_eq_some_iff.1 h
        obtain ⟨rfl, rfl⟩ := ended_eq_some hended
        have hr := (behind_takeDigits hdigits).1.trans (suffix_signed r)
        exact ⟨rfl, hr.trans (List.suffix_cons c r)⟩
      split at h
      · cases h
      · exact inner_readPlain h
    · exact inner_readPlain h

theorem readTail_append (whole l : List Char) :
    readTail whole (l ++ ['\n']) = (readTail whole l).map beforeEnd := by
  fun_cases readTail whole l with
  | case1 d r hd =>
    rw [List.cons_append, List.cons_append, readTail, if_pos hd]
    exact bind_beforeEnd (takeDigits_append (by decide) (d :: r)) fun x => readPower_append ..
  | case2 r hd =>
    rw [List.cons_append, List.cons_append, readTail, if_neg hd, if_pos rfl, Option.map_none]
  | case3 d r hd hunder =>
    rw [List.cons_append, List.cons_append, readTail, if_neg hd, if_neg hunder]
    exact readPower_append whole [] true (d :: r)
  | case4 => exact readPower_append whole [] true []
  | case5 _ h₁ h₂ =>
    rw [readTail]
    · exact readPower_append whole [] false l
    · intro d r h
      rcases l with _ | ⟨a, _ | ⟨b, l⟩⟩
      · cases h
      · cases h
        exact h₂ rfl
      · cases h
        exact h₁ _ l rfl
    · intro h
      rcases l with _ | ⟨a, l⟩
      · cases h
      · simp at h

theorem inner_readTail {whole l rest : List Char} {t : Token}
    (h : readTail whole l = some (t, rest)) : t.isLayout = false ∧ rest <:+ l := by
  fun_cases readTail whole l with
  | case1 d r hd =>
    rw [readTail, if_pos hd] at h
    obtain ⟨⟨ds, r'⟩, hdigits, hpower⟩ := Option.bind_eq_some_iff.1 h
    obtain ⟨hinner, hp⟩ := inner_readPower hpower
    exact ⟨hinner, (hp.trans (behind_takeDigits hdigits).1).trans (List.suffix_cons ..)⟩
  | case2 r hd =>
    rw [readTail, if_neg hd, if_pos rfl] at h
    cases h
  | case3 d r hd hunder =>
    rw [readTail, if_neg hd, if_neg hunder] at h
    obtain ⟨hinner, hp⟩ := inner_readPower h
    exact ⟨hinner, hp.trans (List.suffix_cons ..)⟩
  | case4 =>
    have hpower : readPower whole [] true [] = some (t, rest) := h
    obtain ⟨hinner, hp⟩ := inner_readPower hpower
    exact ⟨hinner, hp.trans (List.suffix_cons ..)⟩
  | case5 _ h₁ h₂ =>
    rw [readTail] at h
    · exact inner_readPower h
    · exact h₁
    · exact h₂

theorem readNumber_append (l : List Char) :
    readNumber (l ++ ['\n']) = (readNumber l).map beforeEnd := by
  fun_cases readNumber l with
  | case1 r => exact readBased_append 16 (by decide) r
  | case2 r => exact readBased_append 16 (by decide) r
  | case3 r => exact readBased_append 8 (by decide) r
  | case4 r => exact readBased_append 8 (by decide) r
  | case5 r => exact readBased_append 2 (by decide) r
  | case6 r => exact readBased_append 2 (by decide) r
  | case7 r => exact readTail_append [] ('.' :: r)
  | case8 _ h₁ h₂ h₃ h₄ h₅ h₆ h₇ =>
    rw [readNumber]
    · exact bind_beforeEnd (takeDigits_append (by decide) l) fun x => readTail_append x.1 x.2
    · exact append_end_ne (by decide) h₁
    · exact append_end_ne (by decide) h₂
    · exact append_end_ne (by decide) h₃
    · exact append_end_ne (by decide) h₄
    · exact append_end_ne (by decide) h₅
    · exact append_end_ne (by decide) h₆
    · intro r h
      cases l with
      | nil => cases h
      | cons a l =>
        cases h
        exact h₇ l rfl

theorem inner_readNumber {l rest : List Char} {t : Token} (hl : startsNumber l = true)
    (h : readNumber l = some (t, rest)) : t.isLayout = false ∧ Behind rest l := by
  fun_cases readNumber l with
  | case7 r =>
    rcases r with _ | ⟨d, r⟩
    · cases hl
    · have hd : d.isDigit = true := hl
      have htail : readTail [] ('.' :: d :: r) = some (t, rest) := h
      rw [readTail, if_pos hd] at htail
      obtain ⟨⟨ds, r'⟩, hdigits, hpower⟩ := Option.bind_eq_some_iff.1 htail
      obtain ⟨hinner, hp⟩ := inner_readPower hpower
      exact ⟨hinner, .cons (hp.trans (behind_takeDigits hdigits).1) '.'⟩
  | case8 _ h₁ h₂ h₃ h₄ h₅ h₆ h₇ =>
    rw [readNumber] at h
    · obtain ⟨⟨ds, r'⟩, hdigits, htail⟩ := Option.bind_eq_some_iff.1 h
      obtain ⟨hinner, ht⟩ := inner_readTail htail
      exact ⟨hinner, .of_suffix ht (behind_takeDigits hdigits)⟩
    all_goals assumption
  | _ r =>
    obtain ⟨hinner, hb⟩ := inner_readBased h
    exact ⟨hinner, .cons (hb.1.trans (List.suffix_cons ..)) '0'⟩

/-! ## Texts -/

theorem takeShort_quote {q : Char} (hslash : q ≠ '\\') (hfeed : q ≠ '\n') (r : List Char) :
    takeShort q (q :: r) = some ([], r) := by
  rw [takeShort, if_pos rfl]
  · exact hfeed
  · exact fun _ _ h => absurd h hslash

theorem takeShort_append {q : Char} (hq : q ≠ '\\') (l : List Char) :
    takeShort q (l ++ ['\n']) = (takeShort q l).map beforeEnd := by
  fun_induction takeShort q l with
  | case1 => rfl
  | case2 r => rfl
  | case3 c r ih =>
    rw [List.cons_append, List.cons_append, takeShort, ih]
    exact map_beforeEnd (fun cs => '\\' :: c :: cs) _
  | case4 r hn hs =>
    rw [List.cons_append, takeShort, if_pos rfl]
    · rfl
    · exact hn
    · exact fun _ _ hslash => absurd hslash hq
  | case5 c r hn hs hc ih =>
    by_cases hslash : c = '\\'
    · subst hslash
      cases r with
      | nil => rfl
      | cons d r => exact absurd rfl (hs d r rfl)
    · rw [List.cons_append, takeShort, if_neg hc, ih]
      · exact map_beforeEnd (c :: ·) _
      · exact hn
      · exact fun _ _ h => absurd h hslash

theorem behind_takeShort {q : Char} {l cs rest : List Char}
    (h : takeShort q l = some (cs, rest)) : Behind rest l := by
  fun_induction takeShort q l generalizing cs with
  | case1 => cases h
  | case2 r => cases h
  | case3 c r ih =>
    obtain ⟨⟨ds, t⟩, ht, he⟩ := Option.map_eq_some_iff.1 h
    cases he
    exact .cons ((ih ht).1.trans (List.suffix_cons ..)) '\\'
  | case4 r hn hs =>
    cases h
    exact .cons (List.suffix_refl _) q
  | case5 c r hn hs hc ih =>
    obtain ⟨⟨ds, t⟩, ht, he⟩ := Option.map_eq_some_iff.1 h
    cases he
    exact .cons (ih ht).1 c

/-- There is no room for three quotes. -/
theorem takeLong_pair (q a : Char) : takeLong q [a, '\n'] = none := by
  by_cases hslash : a = '\\'
  · subst hslash
    simp [takeLong]
  · rw [takeLong]
    · intro c r h
      cases h
      exact hslash rfl
    · intro _ _ _ _ h
      cases h

theorem takeLong_append {q : Char} (hq : q ≠ '\n') (l : List Char) :
    takeLong q (l ++ ['\n']) = (takeLong q l).map beforeEnd := by
  fun_induction takeLong q l with
  | case1 c r ih =>
    rw [List.cons_append, List.cons_append, takeLong, ih]
    exact map_beforeEnd (fun cs => '\\' :: c :: cs) _
  | case2 a b c t hs hend =>
    simp only [List.cons_append]
    rw [takeLong, if_pos hend]
    · rfl
    · exact hs
  | case3 a b c t hs hend ih =>
    simp only [List.cons_append] at ih ⊢
    rw [takeLong, if_neg hend, ih]
    · exact map_beforeEnd (a :: ·) _
    · exact hs
  | case4 l h₁ h₂ =>
    rcases l with _ | ⟨a, _ | ⟨b, _ | ⟨c, t⟩⟩⟩
    · simp [takeLong]
    · exact takeLong_pair q a
    · have hend : ¬ (a = q && b = q && '\n' = q) = true := by simp [Ne.symm hq]
      simp only [List.cons_append, List.nil_append]
      rw [takeLong, if_neg hend, takeLong_pair]
      · rfl
      · intro ha
        exact h₁ b [] (by rw [ha])
    · exact absurd rfl (h₂ a b c t)

theorem behind_takeLong {q : Char} {l cs rest : List Char}
    (h : takeLong q l = some (cs, rest)) : Behind rest l := by
  fun_induction takeLong q l generalizing cs with
  | case1 c r ih =>
    obtain ⟨⟨ds, t⟩, ht, he⟩ := Option.map_eq_some_iff.1 h
    cases he
    exact .cons ((ih ht).1.trans (List.suffix_cons ..)) '\\'
  | case2 a b c t =>
    cases h
    exact .cons ((List.suffix_cons ..).trans (List.suffix_cons ..)) a
  | case3 a b c t hs hq ih =>
    obtain ⟨⟨ds, t⟩, ht, he⟩ := Option.map_eq_some_iff.1 h
    cases he
    exact .cons (ih ht).1 a
  | case4 => cases h

theorem takeBody_append {q : Char} (hslash : q ≠ '\\') (hfeed : q ≠ '\n') (l : List Char) :
    takeBody q (l ++ ['\n']) = (takeBody q l).map beforeEnd := by
  rcases l with _ | ⟨a, _ | ⟨b, r⟩⟩
  · rfl
  · have hlong : ¬ (a = q && '\n' = q) = true := by simp [Ne.symm hfeed]
    simp only [List.cons_append, List.nil_append, takeBody, if_neg hlong]
    by_cases ha : a = q
    · subst ha
      rw [if_pos rfl, takeShort_quote hslash hfeed]
      rfl
    · rw [if_neg ha]
      exact takeShort_append hslash [a]
  · have hshort := takeShort_append hslash (a :: b :: r)
    have hlong := takeLong_append hfeed r
    simp only [List.cons_append, takeBody] at hshort ⊢
    rw [hshort, hlong]
    split
    · rfl
    split <;> rfl

theorem behind_takeBody {q : Char} {l cs rest : List Char}
    (h : takeBody q l = some (cs, rest)) : Behind rest l := by
  rcases l with _ | ⟨a, _ | ⟨b, r⟩⟩
  · cases h
  · have hshort : takeShort q [a] = some (cs, rest) := h
    exact behind_takeShort hshort
  · rw [takeBody] at h
    split at h
    · exact .cons ((behind_takeLong h).1.trans (List.suffix_cons ..)) a
    split at h
    · cases h
      exact .cons (List.suffix_refl _) a
    · exact behind_takeShort h

theorem textAt?_append (l : List Char) : textAt? (l ++ ['\n']) = (textAt? l).map beforeEnd := by
  have hfeed : Char.isAlpha '\n' = false := by decide
  unfold textAt?
  rw [takeWhile_append_end hfeed, dropWhile_append_end hfeed]
  rcases l.dropWhile Char.isAlpha with _ | ⟨q, r⟩
  · rfl
  · simp only [List.cons_append]
    split
    · next hq =>
      have hquote : q ≠ '\\' ∧ q ≠ '\n' := by
        simp only [Bool.or_eq_true, decide_eq_true_eq] at hq
        rcases hq with rfl | rfl <;> decide
      cases textKind? (l.takeWhile Char.isAlpha) with
      | none => rfl
      | some kind =>
        refine bind_beforeEnd (takeBody_append hquote.1 hquote.2 r) fun x => ?_
        simp only [beforeEnd]
        cases textToken? kind x.1 <;> rfl
    · rfl

theorem inner_textToken {kind : TextKind} {body : List Char} {t : Token}
    (h : textToken? kind body = some t) : t.isLayout = false := by
  unfold textToken? at h
  split at h
  · split at h
    · split at h
      · cases h
        rfl
      · cases h
    · obtain ⟨bs, -, rfl⟩ := Option.map_eq_some_iff.1 h
      rfl
  split at h
  · cases h
    rfl
  · obtain ⟨cs, -, rfl⟩ := Option.map_eq_some_iff.1 h
    rfl

theorem inner_textAt {l rest : List Char} {t : Token} (h : textAt? l = some (t, rest)) :
    t.isLayout = false ∧ Behind rest l := by
  have hdrop := List.dropWhile_suffix Char.isAlpha (l := l)
  unfold textAt? at h
  generalize l.dropWhile Char.isAlpha = behind at h hdrop
  rcases behind with _ | ⟨q, r⟩
  · cases h
  · dsimp only at h
    split at h
    · obtain ⟨kind, -, h⟩ := Option.bind_eq_some_iff.1 h
      obtain ⟨⟨body, r'⟩, hbody, h⟩ := Option.bind_eq_some_iff.1 h
      obtain ⟨u, htoken, h⟩ := Option.bind_eq_some_iff.1 h
      cases h
      have hbehind := Behind.cons (behind_takeBody hbody).1 q
      exact ⟨inner_textToken htoken, hbehind.trans_suffix hdrop⟩
    · cases h

theorem startsText_append (l : List Char) : startsText (l ++ ['\n']) = startsText l := by
  have hfeed : Char.isAlpha '\n' = false := by decide
  unfold startsText
  rw [takeWhile_append_end hfeed, dropWhile_append_end hfeed]
  rcases l.dropWhile Char.isAlpha with _ | ⟨q, r⟩ <;> rfl

theorem startsNumber_append (l : List Char) : startsNumber (l ++ ['\n']) = startsNumber l := by
  rcases l with _ | ⟨a, _ | ⟨b, r⟩⟩
  · rfl
  · by_cases ha : a = '.'
    · subst ha
      rfl
    · simp [startsNumber, ha]
  · by_cases ha : a = '.'
    · subst ha
      rfl
    · simp [startsNumber, ha]

/-! ## Literals and marks -/

theorem mayBeInName_of_mayStartName {c : Char} (h : mayStartName c = true) :
    mayBeInName c = true := by
  simp only [mayStartName, mayBeInName, Char.isAlphanum, Bool.or_eq_true] at h ⊢
  rcases h with (h | h) | h <;> simp [h]

/-- **What is read in front of a line end.** -/
theorem literalAt?_append (l : List Char) :
    literalAt? (l ++ ['\n']) = (literalAt? l).map beforeEnd := by
  have hfeed : mayBeInName '\n' = false := by decide
  unfold literalAt?
  rw [startsText_append, startsNumber_append, textAt?_append, readNumber_append,
    takeWhile_append_end hfeed, dropWhile_append_end hfeed]
  split
  · rfl
  split
  · rfl
  cases l with
  | nil => rfl
  | cons c r =>
    simp only [List.cons_append]
    split
    · cases wordToken? ((c :: r).takeWhile mayBeInName) <;> rfl
    · rfl

theorem inner_wordToken {w : List Char} {t : Token} (h : wordToken? w = some t) :
    t.isLayout = false := by
  unfold wordToken? at h
  dsimp only at h
  split at h
  · cases h
    rfl
  split at h
  · cases h
    rfl
  · cases h

/-- **What a literal comes to**: a token inside a line, and less is left. -/
theorem inner_literalAt {l rest : List Char} {t : Token} (h : literalAt? l = some (t, rest)) :
    t.isLayout = false ∧ Behind rest l := by
  unfold literalAt? at h
  split at h
  · exact inner_textAt h
  split at h
  · next hn => exact inner_readNumber hn h
  cases l with
  | nil => cases h
  | cons c r =>
    dsimp only at h
    split at h
    · next hc =>
      obtain ⟨u, htoken, hu⟩ := Option.map_eq_some_iff.1 h
      cases hu
      refine ⟨inner_wordToken htoken, ?_⟩
      rw [List.dropWhile_cons_of_pos (mayBeInName_of_mayStartName hc)]
      exact .cons (List.dropWhile_suffix mayBeInName) c
    · cases h

/-- One character is a mark, unless it is the first of two. -/
theorem markAt?_cons {c : Char} {r : List Char} (h : ¬ (c = '=' ∧ r.head? = some '=')) :
    markAt? (c :: r) = (markAt? [c]).map fun x => (x.1, r) := by
  unfold markAt?
  split
  · next heq =>
    cases heq
    exact absurd ⟨rfl, rfl⟩ h
  · next heq =>
    cases heq
    split
    case h_17 => simp_all
    all_goals rfl
  · next heq => cases heq

theorem markAt?_append (l : List Char) : markAt? (l ++ ['\n']) = (markAt? l).map beforeEnd := by
  cases l with
  | nil => rfl
  | cons c r =>
    by_cases hpair : c = '=' ∧ r.head? = some '='
    · obtain ⟨rfl, hr⟩ := hpair
      obtain ⟨r', rfl⟩ := List.head?_eq_some_iff.1 hr
      rfl
    · have hpair' : ¬ (c = '=' ∧ (r ++ ['\n']).head? = some '=') := by
        intro h
        cases r with
        | nil => simp at h
        | cons d r => exact hpair h
      rw [List.cons_append, markAt?_cons hpair', markAt?_cons hpair]
      cases markAt? [c] <;> rfl

theorem behind_markAt {l rest : List Char} {m : Mark} (h : markAt? l = some (m, rest)) :
    Behind rest l := by
  cases l with
  | nil => cases h
  | cons c r =>
    by_cases hpair : c = '=' ∧ r.head? = some '='
    · obtain ⟨rfl, hr⟩ := hpair
      obtain ⟨r', rfl⟩ := List.head?_eq_some_iff.1 hr
      cases h
      exact .cons (List.suffix_cons ..) '='
    · rw [markAt?_cons hpair] at h
      obtain ⟨x, -, hx⟩ := Option.map_eq_some_iff.1 h
      cases hx
      exact .cons (List.suffix_refl _) c

/-! ## Indentations -/

/-- An indentation that was measured, and the rest in front of one more line end. -/
def measuredBeforeEnd (x : Indentation × Nat × List Char) : Indentation × Nat × List Char :=
  (x.1, x.2.1, x.2.2 ++ ['\n'])

theorem getLast?_ne_of_suffix {l r : List Char} {c : Char} (hr : r <:+ l)
    (h : l.getLast? ≠ some c) : r.getLast? ≠ some c := by
  obtain ⟨p, rfl⟩ := hr
  intro hc
  rw [List.getLast?_append, hc] at h
  exact h rfl

theorem measure_append (joinedAt : Option Nat) (i : Indentation) (joins : Nat) {l : List Char}
    (hl : l.getLast? ≠ some '\n') :
    measure joinedAt i joins (l ++ ['\n']) =
      (measure joinedAt i joins l).map measuredBeforeEnd := by
  fun_induction measure joinedAt i joins l with
  | case1 joinedAt i joins r ih => exact ih (getLast?_ne_of_suffix (List.suffix_cons _ r) hl)
  | case2 joinedAt i joins r ih => exact ih (getLast?_ne_of_suffix (List.suffix_cons _ r) hl)
  | case3 joinedAt i joins r ih => exact ih (getLast?_ne_of_suffix (List.suffix_cons _ r) hl)
  | case4 joinedAt i joins r hr =>
    rw [List.isEmpty_iff.1 hr] at hl
    exact absurd rfl hl
  | case5 joinedAt i joins r hr ih =>
    have hr' : ¬ (r ++ ['\n']).isEmpty = true := by simp
    simp only [List.cons_append]
    rw [measure, if_neg hr']
    exact ih (getLast?_ne_of_suffix ((List.suffix_cons _ r).trans (List.suffix_cons _ _)) hl)
  | case6 joinedAt i joins r hr =>
    cases r with
    | nil => rfl
    | cons d r =>
      have hd : d ≠ '\n' := fun h => hr r (by rw [h])
      simp [measure, hd]
  | case7 joinedAt i joins l h₁ h₂ h₃ h₄ h₅ =>
    cases l with
    | nil => rfl
    | cons c r =>
      have hspace : c ≠ ' ' := fun h => h₁ r (by rw [h])
      have htab : c ≠ '\t' := fun h => h₂ r (by rw [h])
      have hfeed : c ≠ '\x0c' := fun h => h₃ r (by rw [h])
      have hslash : c ≠ '\\' := fun h => h₅ r (by rw [h])
      simp [measure, hspace, htab, hfeed, hslash, measuredBeforeEnd]

theorem suffix_measure {joinedAt : Option Nat} {i j : Indentation} {joins k : Nat}
    {l rest : List Char} (h : measure joinedAt i joins l = some (j, k, rest)) : rest <:+ l := by
  fun_induction measure joinedAt i joins l with
  | case1 joinedAt i joins r ih => exact (ih h).trans (List.suffix_cons ..)
  | case2 joinedAt i joins r ih => exact (ih h).trans (List.suffix_cons ..)
  | case3 joinedAt i joins r ih => exact (ih h).trans (List.suffix_cons ..)
  | case4 joinedAt i joins r hr => cases h
  | case5 joinedAt i joins r hr ih =>
    exact ((ih h).trans (List.suffix_cons ..)).trans (List.suffix_cons ..)
  | case6 joinedAt i joins r hr => cases h
  | case7 joinedAt i joins r =>
    cases h
    exact List.suffix_refl _

/-- An indentation is none by both measures or by neither. -/
theorem balanced_measure {joinedAt : Option Nat} {i j : Indentation} {joins k : Nat}
    {l rest : List Char} (h : measure joinedAt i joins l = some (j, k, rest))
    (hi : i.wide = 0 ↔ i.narrow = 0) : j.wide = 0 ↔ j.narrow = 0 := by
  fun_induction measure joinedAt i joins l with
  | case1 joinedAt i joins r ih => exact ih h (by simp)
  | case2 joinedAt i joins r ih => exact ih h (by simp)
  | case3 joinedAt i joins r ih => exact ih h (by simp)
  | case4 joinedAt i joins r hr => cases h
  | case5 joinedAt i joins r hr ih => exact ih h hi
  | case6 joinedAt i joins r hr => cases h
  | case7 joinedAt i joins l =>
    cases h
    cases joinedAt with
    | none => exact hi
    | some w => exact Iff.rfl

/-- Behind an indentation stands no blank, and no line end is joined. -/
def isMargin (c : Char) : Bool := isSkipped c || c == '\\'

theorem head?_measure {joinedAt : Option Nat} {i j : Indentation} {joins k : Nat}
    {l rest : List Char} (h : measure joinedAt i joins l = some (j, k, rest)) :
    ∀ c ∈ rest.head?, isMargin c = false := by
  fun_induction measure joinedAt i joins l with
  | case1 joinedAt i joins r ih => exact ih h
  | case2 joinedAt i joins r ih => exact ih h
  | case3 joinedAt i joins r ih => exact ih h
  | case4 joinedAt i joins r hr => cases h
  | case5 joinedAt i joins r hr ih => exact ih h
  | case6 joinedAt i joins r hr => cases h
  | case7 joinedAt i joins l h₁ h₂ h₃ h₄ h₅ =>
    cases h
    intro c hc
    obtain ⟨r, rfl⟩ := List.head?_eq_some_iff.1 hc
    have hspace : c ≠ ' ' := fun h => h₁ r (by rw [h])
    have htab : c ≠ '\t' := fun h => h₂ r (by rw [h])
    have hfeed : c ≠ '\x0c' := fun h => h₃ r (by rw [h])
    have hslash : c ≠ '\\' := fun h => h₅ r (by rw [h])
    simp [isMargin, isSkipped, hspace, htab, hfeed, hslash]

end LiterateConfig.Script
