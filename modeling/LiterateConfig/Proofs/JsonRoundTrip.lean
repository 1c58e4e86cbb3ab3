import Mathlib.Algebra.Group.Nat.Defs
import LiterateConfig.Json.Printer
import LiterateConfig.Json.Reader

/-!
# JSON that is written is read back

Data without floats are read back from their written form as they are, provided that
the names of a record are distinct, whole numbers have no more digits than are read,
and no more lists and records are nested than may be open at once.

**What follows.** Each reader is shown to stop behind what the writer wrote, whatever
follows it. Only a number needs to know what follows: nothing that would make it
longer (`Stops`).

Results:
* `readUnit_hexPadded`, `readChars_writeChar`: an escaped character is read back;
* `readText_writeText`: so is a text, every character of it;
* `readWordOrNumber_int`: so is a whole number;
* `readValue_write`: so are values, with fuel for their written form;
* `read_print`: so are whole files;
* `isPlain_write`: the written form has line feeds and printable ASCII only.
-/
namespace LiterateConfig.Text

theorem readHex?_append (l : List Char) (c : Char) :
    readHex? (l ++ [c]) = (readHex? l).bind fun n => (hexValue? c).map fun d => n * 16 + d := by
  unfold readHex?
  rw [List.foldlM_append]
  cases List.foldlM (fun n c => (hexValue? c).map fun d => n * 16 + d) 0 l with
  | none => rfl
  | some n => simp

/-- Digits that suffice for a number spell it. -/
theorem readHex?_hexPadded (width : Nat) {n : Nat} (h : n < 16 ^ width) :
    readHex? (hexPadded width n) = some n := by
  induction width generalizing n with
  | zero =>
    obtain rfl : n = 0 := by omega
    rfl
  | succ w ih =>
    have hdiv : n / 16 < 16 ^ w := by
      rw [Nat.pow_succ] at h
      omega
    rw [hexPadded, readHex?_append, ih hdiv, Option.bind_some, hexValue?_hexDigit _ (by omega)]
    simp only [Option.map_some, Option.some.injEq]
    omega

end LiterateConfig.Text

namespace LiterateConfig.Json

/-! ## Texts -/

theorem readUnit_hexPadded {n : Nat} (h : n < 0x10000) (rest : List Char) :
    readUnit (Text.hexPadded 4 n ++ rest) = some (n, rest) := by
  have hr := Text.readHex?_hexPadded 4 (n := n) (by omega)
  unfold Text.hexPadded Text.hexPadded Text.hexPadded Text.hexPadded Text.hexPadded at hr ⊢
  simp only [List.nil_append, List.cons_append] at hr ⊢
  simp only [readUnit, hr, Option.map_some]

/-- A unit that is no surrogate stands for its character. -/
theorem readEscape_unit {c : Char} (h : c.toNat < 0x10000) (rest : List Char) :
    readEscape ('u' :: (Text.hexPadded 4 c.toNat ++ rest)) = some (c, rest) := by
  have hv : c.toNat < 0xd800 ∨ 0xdfff < c.toNat ∧ c.toNat < 0x110000 := c.valid
  simp only [readEscape, readUnit_hexPadded h, Option.bind_eq_bind, Option.bind_some]
  rw [if_neg (by omega), if_neg (by omega), Char.ofNat_toNat]

/-- Two surrogates stand for the character that they are made from. -/
theorem readEscape_pair {c : Char} (h : 0x10000 ≤ c.toNat) (rest : List Char) :
    readEscape ('u' :: (Text.hexPadded 4 (0xd800 + (c.toNat - 0x10000) / 0x400) ++
      '\\' :: 'u' :: (Text.hexPadded 4 (0xdc00 + (c.toNat - 0x10000) % 0x400) ++ rest))) =
      some (c, rest) := by
  have hv : c.toNat < 0xd800 ∨ 0xdfff < c.toNat ∧ c.toNat < 0x110000 := c.valid
  have hhigh : 0xd800 + (c.toNat - 0x10000) / 0x400 < 0xdc00 := by omega
  have hlow : 0xdc00 + (c.toNat - 0x10000) % 0x400 < 0xe000 := by omega
  have hnat : 0x10000 + (0xd800 + (c.toNat - 0x10000) / 0x400 - 0xd800) * 0x400 +
      (0xdc00 + (c.toNat - 0x10000) % 0x400 - 0xdc00) = c.toNat := by omega
  simp only [readEscape, Option.bind_eq_bind]
  rw [readUnit_hexPadded (by omega), Option.bind_some]
  dsimp only
  rw [if_pos (by omega)]
  simp only [readUnit_hexPadded (show 0xdc00 + (c.toNat - 0x10000) % 0x400 < 0x10000 by omega)]
  rw [if_pos (by omega), hnat, Char.ofNat_toNat]

/-- **A written character is read back**, and reading goes on behind it. -/
theorem readChars_writeChar (c : Char) (fuel : Nat) (rest : List Char) :
    readChars (fuel + 1) (writeChar c ++ rest) =
      (readChars fuel rest).map fun r => (c :: r.1, r.2) := by
  have escaped : ∀ l : List Char, readEscape (l ++ rest) = some (c, rest) →
      readChars (fuel + 1) ('\\' :: l ++ rest) = (readChars fuel rest).map fun r => (c :: r.1, r.2) := by
    intro l hl
    simp only [List.cons_append, readChars, hl, Option.bind_eq_bind, Option.bind_some]
    cases readChars fuel rest <;> rfl
  unfold writeChar
  by_cases h₁ : c = '"'
  · rw [if_pos h₁]
    exact escaped ['"'] (by rw [h₁]; rfl)
  rw [if_neg h₁]
  by_cases h₂ : c = '\\'
  · rw [if_pos h₂]
    exact escaped ['\\'] (by rw [h₂]; rfl)
  rw [if_neg h₂]
  by_cases h₃ : c = '\n'
  · rw [if_pos h₃]
    exact escaped ['n'] (by rw [h₃]; rfl)
  rw [if_neg h₃]
  by_cases h₄ : c = '\r'
  · rw [if_pos h₄]
    exact escaped ['r'] (by rw [h₄]; rfl)
  rw [if_neg h₄]
  by_cases h₅ : c = '\t'
  · rw [if_pos h₅]
    exact escaped ['t'] (by rw [h₅]; rfl)
  rw [if_neg h₅]
  by_cases h₆ : c.toNat = 8
  · rw [if_pos h₆]
    exact escaped ['b'] (by rw [← Char.ofNat_toNat c, h₆]; rfl)
  rw [if_neg h₆]
  by_cases h₇ : c.toNat = 12
  · rw [if_pos h₇]
    exact escaped ['f'] (by rw [← Char.ofNat_toNat c, h₇]; rfl)
  rw [if_neg h₇]
  split
  · next h =>
    have hge : ¬ c.toNat < 32 := by
      simp only [Bool.and_eq_true, decide_eq_true_eq] at h
      omega
    rw [List.cons_append, List.nil_append, readChars.eq_5 _ _ _ h₁ h₂, if_neg hge]
    cases readChars fuel rest <;> rfl
  · split
    · next h => exact escaped _ (readEscape_unit h rest)
    · next h =>
      have hpair := escaped ('u' :: (Text.hexPadded 4 (0xd800 + (c.toNat - 0x10000) / 0x400) ++
        escapeUnit (0xdc00 + (c.toNat - 0x10000) % 0x400)))
        (by simpa [escapeUnit] using readEscape_pair (Nat.le_of_not_lt h) rest)
      simpa [escapeUnit] using hpair

theorem length_writeChar_pos (c : Char) : 0 < (writeChar c).length := by
  unfold writeChar
  repeat' split
  all_goals simp [escapeUnit]

theorem readChars_flatMap (cs : List Char) {fuel : Nat} (hfuel : cs.length < fuel)
    (rest : List Char) : readChars fuel (cs.flatMap writeChar ++ '"' :: rest) = some (cs, rest) := by
  induction cs generalizing fuel with
  | nil =>
    obtain ⟨k, rfl⟩ := Nat.exists_eq_add_of_lt hfuel
    rfl
  | cons c cs ih =>
    obtain ⟨k, rfl⟩ : ∃ k, fuel = k + 1 := ⟨fuel - 1, by simp only [List.length_cons] at hfuel; omega⟩
    rw [List.flatMap_cons, List.append_assoc, readChars_writeChar,
      ih (by simpa using hfuel), Option.map_some]

theorem length_le_length_flatMap (cs : List Char) : cs.length ≤ (cs.flatMap writeChar).length := by
  induction cs with
  | nil => simp
  | cons c cs ih =>
    have := length_writeChar_pos c
    simp only [List.flatMap_cons, List.length_cons, List.length_append]
    omega

/-- **A written text is read back**, whatever follows it. -/
theorem readText_writeText (s : String) (rest : List Char) :
    readText (s.toList.flatMap writeChar ++ '"' :: rest) = some (s, rest) := by
  unfold readText
  have hlen := length_le_length_flatMap s.toList
  rw [readChars_flatMap]
  · simp
  · simp only [List.length_append, List.length_cons]
    omega

/-! ## Whole numbers -/

/-- What follows does not continue a number. -/
def Stops (rest : List Char) : Prop :=
  ∀ c ∈ rest.head?, c.isDigit = false ∧ c ≠ '.' ∧ c ≠ 'e' ∧ c ≠ 'E'

theorem digitsValue_toDigits (n : Nat) : digitsValue (Nat.toDigits 10 n) = n := by
  have h := Nat.ofDigitChars_ten_toDigits (n := n)
  rw [Nat.ofDigitChars_eq_foldl] at h
  unfold digitsValue Text.ofDigits
  rw [List.foldl_map]
  simpa [Nat.mul_comm] using h

/-- Only zero is written with a leading zero. -/
theorem head?_toDigits {n : Nat} (h : 0 < n) : (Nat.toDigits 10 n).head? ≠ some '0' := by
  induction n using Nat.base_induction 10 (by decide) with
  | single m hm =>
    rw [Nat.toDigits_of_lt_base hm]
    revert m
    decide
  | digit m k hk hm ih =>
    rw [← Nat.toDigits_append_toDigits (by decide) hm hk, List.head?_append]
    cases hd : (Nat.toDigits 10 m).head? with
    | none => exact absurd (List.head?_eq_none_iff.1 hd) Nat.toDigits_ne_nil
    | some c =>
      rw [hd] at ih
      exact ih hm

theorem takeWhile_digits {ds rest : List Char} (hd : ∀ c ∈ ds, c.isDigit = true) (hr : Stops rest) :
    (ds ++ rest).takeWhile Char.isDigit = ds ∧ (ds ++ rest).dropWhile Char.isDigit = rest := by
  rw [List.takeWhile_append_of_pos hd, List.dropWhile_append_of_pos hd]
  cases rest with
  | nil => simp
  | cons c r =>
    have hc := (hr c rfl).1
    simp [hc]

theorem readFraction_of_stops {rest : List Char} (hr : Stops rest) : readFraction rest = none := by
  cases rest with
  | nil => rfl
  | cons c r =>
    have hc := (hr c rfl).2.1
    rw [readFraction.eq_2]
    intro r' h
    exact hc (List.cons.inj h).1

theorem readExponent_of_stops {rest : List Char} (hr : Stops rest) : readExponent rest = none := by
  cases rest with
  | nil => rfl
  | cons c r =>
    obtain ⟨-, -, he, hE⟩ := hr c rfl
    simp [readExponent, he, hE]

theorem readWhole_toDigits {n : Nat} {rest : List Char} (hr : Stops rest) :
    readWhole (Nat.toDigits 10 n ++ rest) = (Nat.toDigits 10 n, rest) := by
  rcases Nat.eq_zero_or_pos n with rfl | hpos
  · rfl
  have hds : ∀ c ∈ Nat.toDigits 10 n, c.isDigit = true := fun c hc =>
    Nat.isDigit_of_mem_toDigits (by decide) (by decide) hc
  obtain ⟨htake, hdrop⟩ := takeWhile_digits hds hr
  rw [readWhole.eq_2, htake, hdrop]
  intro r h
  have hhead := head?_toDigits hpos
  cases hd : Nat.toDigits 10 n with
  | nil => exact Nat.toDigits_ne_nil hd
  | cons c cs =>
    rw [hd] at h hhead
    exact hhead (congrArg some (List.cons.inj h).1)

/-- The digits of a number are read as that number. -/
theorem readNumber_toDigits (negative : Bool) {n : Nat} {rest : List Char} (hr : Stops rest)
    (hn : (Nat.toDigits 10 n).length ≤ Text.digitLimit) :
    readNumber negative (Nat.toDigits 10 n ++ rest) =
      some (.int (if negative then -n else n), rest) := by
  unfold readNumber
  simp [readWhole_toDigits hr, Nat.toDigits_ne_nil, readFraction_of_stops hr,
    readExponent_of_stops hr, digitsValue_toDigits, Nat.not_lt.2 hn]

/-- The word that begins like a number is one. -/
theorem readWordOrNumber_digit {c : Char} (hc : c.isDigit = true) (l : List Char) :
    readWordOrNumber (c :: l) = readNumber false (c :: l) := by
  have apart : ∀ d : Char, d.isDigit = false → c ≠ d := by
    rintro d hd rfl
    rw [hc] at hd
    cases hd
  unfold readWordOrNumber
  split
  all_goals first
    | rfl
    | exact absurd (List.cons.inj (by assumption)).1 (apart _ (by decide))

theorem readWordOrNumber_minus {c : Char} (hc : c.isDigit = true) (l : List Char) :
    readWordOrNumber ('-' :: c :: l) = readNumber true (c :: l) := by
  have apart : c ≠ 'I' := by
    rintro rfl
    cases hc
  unfold readWordOrNumber
  split
  case h_7 h => rw [(List.cons.inj h).2]
  case h_8 h => exact absurd rfl (h (c :: l))
  all_goals first
    | exact absurd (List.cons.inj (List.cons.inj (by assumption)).2).1 apart
    | exact absurd (List.cons.inj (by assumption)).1 (by decide)

theorem exists_toDigits (n : Nat) : ∃ c cs, Nat.toDigits 10 n = c :: cs ∧ c.isDigit = true := by
  cases hd : Nat.toDigits 10 n with
  | nil => exact absurd hd Nat.toDigits_ne_nil
  | cons c cs =>
    exact ⟨c, cs, rfl, Nat.isDigit_of_mem_toDigits (by decide) (by decide)
      (hd ▸ List.mem_cons_self : c ∈ Nat.toDigits 10 n)⟩

theorem exists_toString (n : Int) :
    ∃ c cs, (toString n).toList = c :: cs ∧ (c.isDigit = true ∨ c = '-') := by
  cases n with
  | ofNat m =>
    obtain ⟨c, cs, hd, hc⟩ := exists_toDigits m
    exact ⟨c, cs, by simp [Int.toString_eq_repr, Int.repr_eq_if, hd], Or.inl hc⟩
  | negSucc m =>
    refine ⟨'-', Nat.toDigits 10 (m + 1), ?_, Or.inr rfl⟩
    simp [Int.toString_eq_repr, Int.repr]

/-- **A written whole number is read back**, if nothing behind it makes it longer. -/
theorem readWordOrNumber_int {n : Int} {rest : List Char} (hr : Stops rest)
    (hn : (Nat.toDigits 10 n.natAbs).length ≤ Text.digitLimit) :
    readWordOrNumber ((toString n).toList ++ rest) = some (.int n, rest) := by
  cases n with
  | ofNat m =>
    have hw : (toString (Int.ofNat m)).toList = Nat.toDigits 10 m := by
      simp [Int.toString_eq_repr, Int.repr_eq_if]
    have hread := readNumber_toDigits false hr hn
    obtain ⟨c, cs, hd, hc⟩ := exists_toDigits m
    rw [hw, hd, List.cons_append, readWordOrNumber_digit hc, ← List.cons_append, ← hd]
    simpa using hread
  | negSucc m =>
    have hw : (toString (Int.negSucc m)).toList = '-' :: Nat.toDigits 10 (m + 1) := by
      simp [Int.toString_eq_repr, Int.repr]
    have hread := readNumber_toDigits true hr hn
    obtain ⟨c, cs, hd, hc⟩ := exists_toDigits (m + 1)
    rw [hw, hd, List.cons_append, List.cons_append, readWordOrNumber_minus hc, ← List.cons_append,
      ← hd]
    exact hread

/-! ## Values -/

/-- Data that are read back as they are, `room` being the lists and records that may
be nested in them. -/
inductive Faithful : Nat → Data → Prop
  | null {room : Nat} : Faithful room .null
  | bool {room : Nat} (b : Bool) : Faithful room (.bool b)
  | int {room : Nat} {n : Int} (digits : (Nat.toDigits 10 n.natAbs).length ≤ Text.digitLimit) :
      Faithful room (.int n)
  | text {room : Nat} (s : String) : Faithful room (.text s)
  | list {room : Nat} {items : List Data} (items_faithful : ∀ x ∈ items, Faithful room x) :
      Faithful (room + 1) (.list items)
  | record {room : Nat} {members : List (String × Data)}
      (members_faithful : ∀ m ∈ members, Faithful room m.2)
      (names : (members.map Prod.fst).Nodup) : Faithful (room + 1) (.record members)

theorem skipSpace_newline (level : Nat) (l : List Char) :
    skipSpace (newline level ++ l) = skipSpace l := by
  unfold skipSpace newline
  rw [List.dropWhile_append_of_pos]
  intro c hc
  rcases List.mem_cons.1 hc with rfl | hc
  · rfl
  · rw [List.eq_of_mem_replicate hc]
    rfl

theorem skipSpace_cons {c : Char} (hc : isSpace c = false) (l : List Char) :
    skipSpace (c :: l) = c :: l := by
  simp [skipSpace, hc]

theorem isSpace_of_isDigit {c : Char} (hc : c.isDigit = true) : isSpace c = false := by
  have apart : ∀ d : Char, d.isDigit = false → (c == d) = false := by
    intro d hd
    refine beq_false_of_ne ?_
    rintro rfl
    rw [hc] at hd
    cases hd
  simp [isSpace, apart]

/-- A written value starts with something that is neither a blank nor closes a list. -/
theorem exists_write {room : Nat} {d : Data} (h : Faithful room d) (level : Nat) :
    ∃ c cs, write level d = c :: cs ∧ isSpace c = false ∧ c ≠ ']' := by
  cases h with
  | null => exact ⟨'n', _, rfl, by decide, by decide⟩
  | bool b => cases b <;> exact ⟨_, _, rfl, by decide, by decide⟩
  | text s => exact ⟨'"', _, rfl, by decide, by decide⟩
  | @list _ items _ => cases items <;> exact ⟨'[', _, rfl, by decide, by decide⟩
  | @record _ members _ _ => cases members <;> exact ⟨'{', _, rfl, by decide, by decide⟩
  | @int _ n _ =>
    obtain ⟨c, cs, hw, hc | rfl⟩ := exists_toString n
    · refine ⟨c, cs, hw, isSpace_of_isDigit hc, ?_⟩
      rintro rfl
      cases hc
    · exact ⟨'-', cs, hw, by decide, by decide⟩

theorem stops_cons {c : Char} (hc : c.isDigit = false ∧ c ≠ '.' ∧ c ≠ 'e' ∧ c ≠ 'E')
    (l : List Char) : Stops (c :: l) := by
  intro d hd
  obtain rfl := Option.some.inj hd
  exact hc

theorem stops_newline (level : Nat) (l : List Char) : Stops (newline level ++ l) :=
  stops_cons (by decide) _

theorem stops_writeItems (level : Nat) (xs : List Data) {l : List Char} (hl : Stops l) :
    Stops (writeItems level xs ++ l) := by
  cases xs with
  | nil => exact hl
  | cons x xs => exact stops_cons (by decide) _

theorem stops_writeMembers (level : Nat) (ms : List (String × Data)) {l : List Char}
    (hl : Stops l) : Stops (writeMembers level ms ++ l) := by
  cases ms with
  | nil => exact hl
  | cons m ms => exact stops_cons (by decide) _

/-- That a value is read back, wherever it stands and whatever follows. -/
def ReadBack (room : Nat) (d : Data) : Prop :=
  ∀ (fuel depth level : Nat) (rest : List Char), depth + room ≤ depthLimit →
    (write level d).length ≤ fuel → Stops rest →
    readValue fuel depth (write level d ++ rest) = .ok (d, rest)

theorem readItems_write {room : Nat} (fuel depth level : Nat) (x : Data) (xs : List Data)
    (hx : ∀ y ∈ x :: xs, Faithful room y ∧ ReadBack room y) (hdepth : depth + room ≤ depthLimit)
    (hfuel : (write level x ++ writeItems level xs).length < fuel) (outer : Nat) (rest : List Char) :
    readItems fuel depth (write level x ++ writeItems level xs ++ newline outer ++ ']' :: rest) =
      .ok (x :: xs, rest) := by
  induction xs generalizing x fuel with
  | nil =>
    obtain ⟨k, rfl⟩ : ∃ k, fuel = k + 1 := ⟨fuel - 1, by omega⟩
    have hread := (hx x List.mem_cons_self).2 k depth level (newline outer ++ ']' :: rest) hdepth
      (by simp only [writeItems, List.append_nil] at hfuel; omega) (stops_newline _ _)
    simp only [writeItems, List.append_nil, List.append_assoc, readItems, hread, bind, Except.bind,
      skipSpace_newline, skipSpace_cons (show isSpace ']' = false by decide)]
    rfl
  | cons y ys ih =>
    obtain ⟨k, rfl⟩ : ∃ k, fuel = k + 1 := ⟨fuel - 1, by omega⟩
    have hread := (hx x List.mem_cons_self).2 k depth level
      (writeItems level (y :: ys) ++ newline outer ++ ']' :: rest) hdepth
      (by simp only [List.length_append] at hfuel; omega)
      (by rw [List.append_assoc]; exact stops_writeItems _ _ (stops_newline _ _))
    have hrest := ih k y (fun z hz => hx z (List.mem_cons_of_mem _ hz))
      (by
        simp only [writeItems, List.length_append, List.length_cons] at hfuel ⊢
        omega)
    obtain ⟨c, cs, hw, hc, -⟩ := exists_write (hx y (by simp)).1 level
    simp only [List.append_assoc] at hread hrest ⊢
    have hskip : skipSpace (newline level ++ (write level y ++ (writeItems level ys ++
        (newline outer ++ ']' :: rest)))) =
        write level y ++ (writeItems level ys ++ (newline outer ++ ']' :: rest)) := by
      rw [skipSpace_newline, hw, List.cons_append, skipSpace_cons hc]
    unfold readItems
    rw [hread]
    simp only [bind, Except.bind, writeItems, List.cons_append, List.append_assoc,
      skipSpace_cons (show isSpace ',' = false by decide), hskip, hrest]
    rfl

theorem not_mem_of_nodup {seen ms : List (String × Data)} {k : String} {v : Data}
    (h : ((seen ++ (k, v) :: ms).map Prod.fst).Nodup) : k ∉ seen.map Prod.fst := by
  intro hk
  rw [List.map_append] at h
  exact (List.nodup_append.1 h).2.2 k hk k (by simp) rfl

/-- One member is read; what follows decides whether it is the last. -/
theorem readMembers_member {room level n depth : Nat} {k : String} {v : Data}
    (hv : Faithful room v ∧ ReadBack room v) (hdepth : depth + room ≤ depthLimit)
    (hfuel : (write level v).length ≤ n) (seen : List (String × Data)) {tail r : List Char}
    (htail : Stops tail) :
    (skipSpace tail = ',' :: r →
      readMembers (n + 1) depth seen
          (writeText k.toList ++ ([':', ' '] ++ (write level v ++ tail))) =
        readMembers n depth (Keyed.put k v seen) (skipSpace r)) ∧
    (skipSpace tail = '}' :: r →
      readMembers (n + 1) depth seen
          (writeText k.toList ++ ([':', ' '] ++ (write level v ++ tail))) =
        .ok (Keyed.put k v seen, r)) := by
  obtain ⟨c, cs, hw, hc, -⟩ := exists_write hv.1 level
  have hread := hv.2 n depth level tail hdepth hfuel htail
  have htext : writeText k.toList ++ ([':', ' '] ++ (write level v ++ tail)) =
      '"' :: (k.toList.flatMap writeChar ++ '"' :: ':' :: ' ' :: (write level v ++ tail)) := by
    simp [writeText]
  have hblank : skipSpace (' ' :: (write level v ++ tail)) = write level v ++ tail := by
    show skipSpace (write level v ++ tail) = _
    rw [hw, List.cons_append, skipSpace_cons hc]
  rw [htext, readMembers, readText_writeText]
  simp only [orMalformed, bind, Except.bind, skipSpace_cons (show isSpace ':' = false by decide),
    hblank, hread]
  constructor
  · intro hnext
    simp only [hnext]
  · intro hend
    simp only [hend, pure, Except.pure]

theorem readMembers_write {room : Nat} (fuel depth level : Nat) (seen : List (String × Data))
    (k : String) (v : Data) (ms : List (String × Data))
    (hv : ∀ m ∈ (k, v) :: ms, Faithful room m.2 ∧ ReadBack room m.2)
    (hnames : ((seen ++ (k, v) :: ms).map Prod.fst).Nodup) (hdepth : depth + room ≤ depthLimit)
    (hfuel : (write level v ++ writeMembers level ms).length < fuel) (outer : Nat)
    (rest : List Char) :
    readMembers fuel depth seen (writeText k.toList ++ ([':', ' '] ++ (write level v ++
      (writeMembers level ms ++ (newline outer ++ '}' :: rest))))) =
        .ok (seen ++ (k, v) :: ms, rest) := by
  induction ms generalizing k v fuel seen with
  | nil =>
    have hnew := not_mem_of_nodup hnames
    obtain ⟨n, rfl⟩ : ∃ n, fuel = n + 1 := ⟨fuel - 1, by omega⟩
    rw [List.length_append] at hfuel
    have hend : skipSpace (writeMembers level [] ++ (newline outer ++ '}' :: rest)) =
        '}' :: rest := by
      rw [writeMembers, List.nil_append, skipSpace_newline,
        skipSpace_cons (show isSpace '}' = false by decide)]
    rw [(readMembers_member (hv (k, v) List.mem_cons_self) hdepth (by dsimp only; omega) seen
      (stops_writeMembers _ _ (stops_newline _ _))).2 hend, Keyed.put_of_not_mem hnew]
  | cons m ms ih =>
    obtain ⟨k', v'⟩ := m
    have hnew := not_mem_of_nodup hnames
    obtain ⟨n, rfl⟩ : ∃ n, fuel = n + 1 := ⟨fuel - 1, by omega⟩
    rw [List.length_append] at hfuel
    have hrest := ih n (seen ++ [(k, v)]) k' v'
      (fun m hm => hv m (List.mem_cons_of_mem _ hm)) (by simpa using hnames)
      (by
        simp only [writeMembers, List.length_append, List.length_cons] at hfuel ⊢
        omega)
    have hskip : skipSpace (writeText k'.toList ++ ([':', ' '] ++ (write level v' ++
        (writeMembers level ms ++ (newline outer ++ '}' :: rest))))) = writeText k'.toList ++
        ([':', ' '] ++ (write level v' ++ (writeMembers level ms ++ (newline outer ++ '}' :: rest)))) :=
      skipSpace_cons (by decide) _
    have hnext : skipSpace (writeMembers level ((k', v') :: ms) ++ (newline outer ++ '}' :: rest)) =
        ',' :: (newline level ++ (writeText k'.toList ++ ([':', ' '] ++ (write level v' ++
          (writeMembers level ms ++ (newline outer ++ '}' :: rest)))))) := by
      simp only [writeMembers, List.cons_append, List.append_assoc,
        skipSpace_cons (show isSpace ',' = false by decide)]
    rw [(readMembers_member (hv (k, v) List.mem_cons_self) hdepth (by dsimp only; omega) seen
      (stops_writeMembers _ _ (stops_newline _ _))).1 hnext, Keyed.put_of_not_mem hnew,
      skipSpace_newline, hskip, hrest]
    simp

theorem readValue_other {c : Char} (h : c ≠ '"' ∧ c ≠ '[' ∧ c ≠ '{') (fuel depth : Nat)
    (l : List Char) :
    readValue (fuel + 1) depth (c :: l) = orMalformed (readWordOrNumber (c :: l)) := by
  obtain ⟨h₁, h₂, h₃⟩ := h
  rw [readValue]
  · intro r hr
    exact h₁ (List.cons.inj hr).1
  · intro r hr
    exact h₂ (List.cons.inj hr).1
  · intro r hr
    exact h₃ (List.cons.inj hr).1

theorem readBack_text (room : Nat) (s : String) : ReadBack room (.text s) := by
  intro fuel depth level rest _ hfuel _
  obtain ⟨n, rfl⟩ : ∃ n, fuel = n + 1 :=
    ⟨fuel - 1, by simp [write, writeText] at hfuel; omega⟩
  have htext : writeText s.toList ++ rest =
      '"' :: (s.toList.flatMap writeChar ++ '"' :: rest) := by
    simp [writeText]
  rw [write, htext, readValue, readText_writeText]
  rfl

theorem readBack_int {n : Int} (digits : (Nat.toDigits 10 n.natAbs).length ≤ Text.digitLimit)
    (room : Nat) : ReadBack room (.int n) := by
  intro fuel depth level rest _ hfuel hstops
  obtain ⟨c, cs, hw, hc⟩ := exists_toString n
  have hother : c ≠ '"' ∧ c ≠ '[' ∧ c ≠ '{' := by
    rcases hc with hc | rfl
    · refine ⟨?_, ?_, ?_⟩ <;> rintro rfl <;> cases hc
    · decide
  have hread := readWordOrNumber_int hstops digits
  rw [write, hw] at hfuel ⊢
  rw [hw] at hread
  obtain ⟨k, rfl⟩ : ∃ k, fuel = k + 1 := ⟨fuel - 1, by simp at hfuel; omega⟩
  rw [List.cons_append, readValue_other hother, ← List.cons_append, hread]
  rfl

theorem readBack_list {room : Nat} {items : List Data}
    (h : ∀ x ∈ items, Faithful room x ∧ ReadBack room x) : ReadBack (room + 1) (.list items) := by
  intro fuel depth level rest hdepth hfuel _
  cases items with
  | nil =>
    obtain ⟨k, rfl⟩ : ∃ k, fuel = k + 1 := ⟨fuel - 1, by simp [write] at hfuel; omega⟩
    rw [write, List.cons_append, List.cons_append, readValue, if_neg (by omega),
      skipSpace_cons (by decide)]
    rfl
  | cons x xs =>
    simp only [write, List.cons_append, List.append_assoc, List.length_cons,
      List.length_append, List.nil_append] at hfuel ⊢
    obtain ⟨k, rfl⟩ : ∃ k, fuel = k + 1 := ⟨fuel - 1, by omega⟩
    obtain ⟨c, cs, hw, hc, hne⟩ := exists_write (h x List.mem_cons_self).1 (level + 1)
    have hread := readItems_write k (depth + 1) (level + 1) x xs h (by omega)
      (by rw [List.length_append]; omega) level rest
    simp only [List.append_assoc] at hread
    rw [readValue, if_neg (by omega), skipSpace_newline]
    rw [hw, List.cons_append] at hread ⊢
    rw [skipSpace_cons hc]
    split
    · next heq => exact absurd (List.cons.inj heq).1 hne
    · rw [hread]
      rfl

theorem readBack_record {room : Nat} {members : List (String × Data)}
    (h : ∀ m ∈ members, Faithful room m.2 ∧ ReadBack room m.2)
    (names : (members.map Prod.fst).Nodup) : ReadBack (room + 1) (.record members) := by
  intro fuel depth level rest hdepth hfuel _
  cases members with
  | nil =>
    obtain ⟨k, rfl⟩ : ∃ k, fuel = k + 1 := ⟨fuel - 1, by simp [write] at hfuel; omega⟩
    rw [write, List.cons_append, List.cons_append, readValue, if_neg (by omega),
      skipSpace_cons (by decide)]
    rfl
  | cons m ms =>
    obtain ⟨name, v⟩ := m
    simp only [write, List.cons_append, List.append_assoc, List.length_cons,
      List.length_append, List.nil_append] at hfuel ⊢
    obtain ⟨k, rfl⟩ : ∃ k, fuel = k + 1 := ⟨fuel - 1, by omega⟩
    have hread := readMembers_write k (depth + 1) (level + 1) [] name v ms h names (by omega)
      (by rw [List.length_append]; omega) level rest
    simp only [List.cons_append, List.nil_append] at hread
    rw [readValue, if_neg (by omega), skipSpace_newline]
    have hskip : skipSpace (writeText name.toList ++ ':' :: ' ' :: (write (level + 1) v ++
        (writeMembers (level + 1) ms ++ (newline level ++ '}' :: rest)))) =
        writeText name.toList ++ ':' :: ' ' :: (write (level + 1) v ++
        (writeMembers (level + 1) ms ++ (newline level ++ '}' :: rest))) :=
      skipSpace_cons (by decide) _
    rw [hskip]
    split
    · next heq => exact absurd (List.cons.inj heq).1 (by decide)
    · rw [hread]
      rfl

/-- **A written value is read back**, whatever follows it. -/
theorem readValue_write {room : Nat} {d : Data} (h : Faithful room d) : ReadBack room d := by
  induction h with
  | null =>
    intro fuel depth level rest _ hfuel _
    obtain ⟨n, rfl⟩ : ∃ n, fuel = n + 1 := ⟨fuel - 1, by simp [write] at hfuel; omega⟩
    rfl
  | bool b =>
    intro fuel depth level rest _ hfuel _
    cases b
    all_goals
      obtain ⟨n, rfl⟩ : ∃ n, fuel = n + 1 := ⟨fuel - 1, by simp [write] at hfuel; omega⟩
      rfl
  | text s => exact readBack_text _ s
  | int digits => exact readBack_int digits _
  | list hitems ih => exact readBack_list fun x hx => ⟨hitems x hx, ih x hx⟩
  | record hmembers names ih => exact readBack_record (fun m hm => ⟨hmembers m hm, ih m hm⟩) names

/-- **Data that are written are read back as they are.** -/
theorem read_print {d : Data} (h : Faithful depthLimit d) : read (print d) = .ok d := by
  obtain ⟨c, cs, hw, hc, -⟩ := exists_write h 0
  have hread := readValue_write h (2 * (write 0 d).length + 2) 0 0 [] (by omega) (by omega)
    (by intro c hc; cases hc)
  rw [List.append_nil] at hread
  have hskip : skipSpace (print d).toList = write 0 d := by
    rw [print, String.toList_ofList, hw, skipSpace_cons hc]
  unfold read
  rw [hskip]
  simp only [hread, bind, Except.bind]
  rfl

/-! ## What the written form is made of -/

/-- A line feed or an ASCII character that can be printed. -/
def IsPlain (c : Char) : Prop := c = '\n' ∨ 32 ≤ c.toNat ∧ c.toNat < 127

instance (c : Char) : Decidable (IsPlain c) :=
  inferInstanceAs (Decidable (c = '\n' ∨ 32 ≤ c.toNat ∧ c.toNat < 127))

theorem isPlain_of_all {cs : List Char} (h : cs.all fun c => decide (IsPlain c)) :
    ∀ c ∈ cs, IsPlain c := by simpa using h

theorem isPlain_hexDigit : ∀ n < 16, IsPlain (Text.hexDigit n) := by decide

theorem isPlain_hexPadded (width n : Nat) : ∀ c ∈ Text.hexPadded width n, IsPlain c := by
  induction width generalizing n with
  | zero => intro c hc; cases hc
  | succ w ih =>
    intro c hc
    rcases List.mem_append.1 hc with hc | hc
    · exact ih _ c hc
    · rw [List.mem_singleton.1 hc]
      exact isPlain_hexDigit _ (by omega)

theorem isPlain_escapeUnit (n : Nat) : ∀ c ∈ escapeUnit n, IsPlain c := by
  intro c hc
  rcases List.mem_cons.1 hc with rfl | hc
  · decide
  rcases List.mem_cons.1 hc with rfl | hc
  · decide
  exact isPlain_hexPadded 4 n c hc

theorem isPlain_writeChar (d : Char) : ∀ c ∈ writeChar d, IsPlain c := by
  unfold writeChar
  iterate 7
    split
    · exact isPlain_of_all (by decide)
  split
  · next h =>
    intro c hc
    rw [List.mem_singleton.1 hc]
    simp only [Bool.and_eq_true, decide_eq_true_eq] at h
    exact Or.inr h
  split
  · exact isPlain_escapeUnit _
  · intro c hc
    rcases List.mem_append.1 hc with hc | hc
    · exact isPlain_escapeUnit _ c hc
    · exact isPlain_escapeUnit _ c hc

theorem isPlain_writeText (l : List Char) : ∀ c ∈ writeText l, IsPlain c := by
  intro c hc
  rcases List.mem_append.1 hc with hc | hc
  · rcases List.mem_cons.1 hc with rfl | hc
    · decide
    · obtain ⟨d, -, hd⟩ := List.mem_flatMap.1 hc
      exact isPlain_writeChar d c hd
  · rw [List.mem_singleton.1 hc]
    decide

theorem isPlain_newline (level : Nat) : ∀ c ∈ newline level, IsPlain c := by
  intro c hc
  rcases List.mem_cons.1 hc with rfl | hc
  · decide
  · rw [List.eq_of_mem_replicate hc]
    decide

theorem isPlain_toDigits (n : Nat) : ∀ c ∈ Nat.toDigits 10 n, IsPlain c := by
  intro c hc
  have hd := Char.isDigit_iff_toNat.1 (Nat.isDigit_of_mem_toDigits (by decide) (by decide) hc)
  have h0 : '0'.toNat = 48 := rfl
  have h9 : '9'.toNat = 57 := rfl
  exact Or.inr (by omega)

theorem isPlain_toString (n : Int) : ∀ c ∈ (toString n).toList, IsPlain c := by
  cases n with
  | ofNat m => simpa [Int.toString_eq_repr, Int.repr] using isPlain_toDigits m
  | negSucc m =>
    intro c hc
    have hw : (toString (Int.negSucc m)).toList = '-' :: Nat.toDigits 10 (m + 1) := by
      simp [Int.toString_eq_repr, Int.repr]
    rw [hw] at hc
    rcases List.mem_cons.1 hc with rfl | hc
    · decide
    · exact isPlain_toDigits _ c hc

theorem isPlain_writeItems {level : Nat} {xs : List Data}
    (h : ∀ x ∈ xs, ∀ c ∈ write level x, IsPlain c) : ∀ c ∈ writeItems level xs, IsPlain c := by
  induction xs with
  | nil => intro c hc; cases hc
  | cons x xs ih =>
    simp only [writeItems, List.cons_append, List.forall_mem_cons, List.forall_mem_append]
    exact ⟨by decide, ⟨isPlain_newline level, h x List.mem_cons_self⟩,
      ih fun y hy => h y (List.mem_cons_of_mem _ hy)⟩

theorem isPlain_writeMembers {level : Nat} {ms : List (String × Data)}
    (h : ∀ m ∈ ms, ∀ c ∈ write level m.2, IsPlain c) : ∀ c ∈ writeMembers level ms, IsPlain c := by
  induction ms with
  | nil => intro c hc; cases hc
  | cons m ms ih =>
    obtain ⟨k, v⟩ := m
    simp only [writeMembers, List.cons_append, List.forall_mem_cons, List.forall_mem_append]
    refine ⟨by decide, ⟨⟨⟨isPlain_newline level, isPlain_writeText _⟩, ?_⟩, ?_⟩, ?_⟩
    · exact ⟨by decide, by decide, nofun⟩
    · exact h (k, v) List.mem_cons_self
    · exact ih fun m hm => h m (List.mem_cons_of_mem _ hm)

/-- **The written form is plain**: it has line feeds and printable ASCII only. -/
theorem isPlain_write {room : Nat} {d : Data} (h : Faithful room d) (level : Nat) :
    ∀ c ∈ write level d, IsPlain c := by
  induction h generalizing level with
  | null =>
    simp only [write]
    exact isPlain_of_all (by decide)
  | bool b =>
    cases b
    all_goals
      simp only [write]
      exact isPlain_of_all (by decide)
  | int _ => exact isPlain_toString _
  | text s => exact isPlain_writeText _
  | @list room items _ ih =>
    cases items with
    | nil =>
      simp only [write]
      exact isPlain_of_all (by decide)
    | cons x xs =>
      simp only [write, List.cons_append, List.forall_mem_cons, List.forall_mem_append]
      refine ⟨by decide, ⟨⟨⟨isPlain_newline _, ih x List.mem_cons_self _⟩, ?_⟩, isPlain_newline _⟩, ?_⟩
      · exact isPlain_writeItems fun y hy => ih y (List.mem_cons_of_mem _ hy) _
      · exact ⟨by decide, nofun⟩
  | @record room members _ _ ih =>
    cases members with
    | nil =>
      simp only [write]
      exact isPlain_of_all (by decide)
    | cons m ms =>
      obtain ⟨k, v⟩ := m
      simp only [write, List.cons_append, List.forall_mem_cons, List.forall_mem_append]
      refine ⟨by decide, ⟨⟨⟨⟨⟨isPlain_newline _, isPlain_writeText _⟩, ?_⟩, ?_⟩, ?_⟩,
        isPlain_newline _⟩, ?_⟩
      · exact ⟨by decide, by decide, nofun⟩
      · exact ih (k, v) List.mem_cons_self _
      · exact isPlain_writeMembers fun m hm => ih m (List.mem_cons_of_mem _ hm) _
      · exact ⟨by decide, nofun⟩

end LiterateConfig.Json
