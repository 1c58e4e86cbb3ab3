import LiterateConfig.Proofs.Segmentation
import LiterateConfig.Proofs.StateFile

/-!
# Texts by number, written and read

The ledger and the record of associations are files of one form: a JSON record with
texts under the decimal spelling of whole numbers, in the order of the numbers. What was
written is read back whatever the numbers and the texts are, and whatever the file held
before.

**Spelling numbers.** A number has one spelling, with a sign if it is negative, and what is
accepted as the spelling of a number gives it back. So names are told apart by the
numbers that they spell, and no name is written twice.

Results:
* `Text.readInt?_intText`: a number that is spelled is read back;
* `Keyed.get?_ascending`, `Keyed.pairwise_ascending`: sorting by number loses nothing and leaves
  every number once;
* `Json.faithful_numbered`, `Ledger.ofMembers_numbered`: texts by number are read back;
* `load_of_save`: a ledger is loaded as it was saved, and the record of associations
  is parsed as it was.
-/
namespace LiterateConfig

/-! ## Whole numbers as text -/

namespace Text

theorem digitValue?_of_isDigit {c : Char} (h : c.isDigit = true) :
    digitValue? c = some (c.toNat - 48) := by
  have hc := Char.isDigit_iff_toNat.1 h
  have h9 : '9'.toNat = 57 := rfl
  unfold digitValue?
  rw [if_pos (by omega), if_pos h]

theorem isNumeralSpace_of_isDigit {c : Char} (h : c.isDigit = true) : isNumeralSpace c = false := by
  have hc := Char.isDigit_iff_toNat.1 h
  have h0 : '0'.toNat = 48 := rfl
  have h9 : '9'.toNat = 57 := rfl
  have hspace : c ≠ ' ' := by
    rintro rfl
    cases h
  unfold isNumeralSpace
  rw [if_pos (by omega), Bool.or_eq_false_iff]
  exact ⟨by simpa using hspace, by simp; omega⟩

theorem readDigits?_of_isDigit {ds : List Char} (h : ∀ c ∈ ds, c.isDigit = true) (hne : ds ≠ []) :
    readDigits? ds = some (ds.map fun c => c.toNat - 48) := by
  fun_induction readDigits? ds with
  | case1 => exact absurd rfl hne
  | case2 c => rw [digitValue?_of_isDigit (h c List.mem_cons_self)]; rfl
  | case3 c r ih => exact absurd (h '_' (by simp)) (by decide)
  | case4 c r hr _ ih =>
    rw [digitValue?_of_isDigit (h c List.mem_cons_self),
      ih (fun d hd => h d (List.mem_cons_of_mem _ hd)) hr]
    rfl

theorem toList_natText (n : Nat) : (natText n).toList = Nat.toDigits 10 n := by
  show (Nat.repr n).toList = _
  exact String.toList_ofList

theorem isDigit_of_mem_toDigits {n : Nat} : ∀ c ∈ Nat.toDigits 10 n, c.isDigit = true :=
  fun _ hc => Nat.isDigit_of_mem_toDigits (by decide) (by decide) hc

/-- The digits of a number within the limit are read back. -/
theorem readDigits?_toDigits {n : Nat} (h : n < 10 ^ digitLimit) :
    ∃ ds, readDigits? (Nat.toDigits 10 n) = some ds ∧ ¬ digitLimit < ds.length ∧
      ofDigits 10 ds = n := by
  refine ⟨_, readDigits?_of_isDigit isDigit_of_mem_toDigits Nat.toDigits_ne_nil, ?_,
    Json.digitsValue_toDigits n⟩
  rw [List.length_map, Nat.not_lt]
  exact (Nat.length_toDigits_le_iff (by decide) (by decide)).2 h

/-- There is no space to be dropped where there is none at all. -/
theorem dropEndWhile_dropWhile_eq_self {p : Char → Bool} {l : List Char}
    (h : ∀ c ∈ l, p c = false) : dropEndWhile p (l.dropWhile p) = l := by
  unfold dropEndWhile
  rw [dropWhile_eq_self fun c hc => h c (List.mem_of_mem_head? hc),
    dropWhile_eq_self fun c hc => h c (List.mem_reverse.1 (List.mem_of_mem_head? hc)),
    List.reverse_reverse]

/-- **A number that is spelled is read back**, within the limit on digits. -/
theorem readInt?_intText {i : Int} (h : i.natAbs < 10 ^ digitLimit) :
    readInt? (intText i) = some i := by
  cases i with
  | ofNat n =>
    obtain ⟨ds, hds, hlength, hvalue⟩ := readDigits?_toDigits (n := n) h
    have hstrip : dropEndWhile isNumeralSpace
        ((intText (.ofNat n)).toList.dropWhile isNumeralSpace) = Nat.toDigits 10 n := by
      rw [show (intText (.ofNat n)).toList = Nat.toDigits 10 n from toList_natText n]
      exact dropEndWhile_dropWhile_eq_self fun c hc =>
        isNumeralSpace_of_isDigit (isDigit_of_mem_toDigits c hc)
    unfold readInt?
    rw [hstrip]
    -- A digit in front is no sign.
    obtain ⟨c, cs, hd, hc⟩ := Json.exists_toDigits n
    have hminus : c ≠ '-' := by
      rintro rfl
      cases hc
    have hplus : c ≠ '+' := by
      rintro rfl
      cases hc
    rw [hd] at hds ⊢
    simp [hminus, hplus, hds, hlength, hvalue]
  | negSucc n =>
    obtain ⟨ds, hds, hlength, hvalue⟩ := readDigits?_toDigits (n := n + 1) h
    have hstrip : dropEndWhile isNumeralSpace
        ((intText (.negSucc n)).toList.dropWhile isNumeralSpace) =
          '-' :: Nat.toDigits 10 (n + 1) := by
      rw [show (intText (.negSucc n)).toList = '-' :: Nat.toDigits 10 (n + 1) by
        rw [intText, String.toList_append, toList_natText]; rfl]
      refine dropEndWhile_dropWhile_eq_self fun c hc => ?_
      rcases List.mem_cons.1 hc with rfl | hc
      · decide
      · exact isNumeralSpace_of_isDigit (isDigit_of_mem_toDigits c hc)
    unfold readInt?
    rw [hstrip]
    simp [hds, hlength, hvalue, Int.negSucc_eq]

end Text

/-! ## Sorting by number -/

namespace Keyed

variable {α β : Type}

theorem get?_eq_some_iff [DecidableEq α] {m : Keyed α β} (h : (keys m).Nodup) {key : α} {v : β} :
    get? key m = some v ↔ (key, v) ∈ m := by
  induction m with
  | nil => exact iff_of_false nofun nofun
  | cons p rest ih =>
    rw [keys, List.map_cons, List.nodup_cons] at h
    rw [get?, List.mem_cons]
    split
    · next hp =>
      subst hp
      refine ⟨fun hv => Or.inl (Prod.ext rfl (Option.some.inj hv).symm), ?_⟩
      rintro (he | hmem)
      · rw [← he]
      · exact absurd (List.mem_map_of_mem hmem) h.1
    · next hp =>
      rw [ih h.2]
      refine ⟨Or.inr, ?_⟩
      rintro (rfl | hmem)
      · exact absurd rfl hp
      · exact hmem

/-- What has the same pairs has the same values. -/
theorem get?_perm [DecidableEq α] {m m' : Keyed α β} (hm : (keys m).Nodup) (h : m'.Perm m)
    (key : α) : get? key m' = get? key m := by
  have hm' : (keys m').Nodup := (h.map Prod.fst).nodup_iff.2 hm
  refine Option.ext fun v => ?_
  rw [get?_eq_some_iff hm', get?_eq_some_iff hm, h.mem_iff]

theorem perm_ascending (m : Keyed Int β) : (ascending m).Perm m := List.mergeSort_perm _ _

theorem nodup_keys_ascending {m : Keyed Int β} (h : (keys m).Nodup) : (keys (ascending m)).Nodup :=
  ((perm_ascending m).map Prod.fst).nodup_iff.2 h

theorem get?_ascending {m : Keyed Int β} (h : (keys m).Nodup) (i : Int) :
    get? i (ascending m) = get? i m :=
  get?_perm h (perm_ascending m) i

/-- Numbers that do not repeat are in ascending order once they are sorted. -/
theorem pairwise_ascending {m : Keyed Int β} (h : (keys m).Nodup) :
    (keys (ascending m)).Pairwise (· < ·) := by
  have hle : (ascending m).Pairwise fun a b => decide (a.1 ≤ b.1) = true := by
    refine List.pairwise_mergeSort (fun a b c hab hbc => ?_) (fun a b => ?_) m
    · exact decide_eq_true (Int.le_trans (of_decide_eq_true hab) (of_decide_eq_true hbc))
    · rcases Int.le_total a.1 b.1 with h | h <;> simp [h]
  have hkeys : (keys (ascending m)).Pairwise (· ≤ ·) :=
    List.pairwise_map.2 (hle.imp of_decide_eq_true)
  have hne : (keys (ascending m)).Pairwise (· ≠ ·) := nodup_keys_ascending h
  exact (hkeys.and hne).imp fun h => by omega

end Keyed

/-! ## Records of texts by number -/

/-- No number occurs twice, and each can be spelled. -/
structure Spellable (m : Keyed Int String) : Prop where
  once : (Keyed.keys m).Nodup
  digits : ∀ i ∈ Keyed.keys m, i.natAbs < 10 ^ Text.digitLimit

/-- The members of the record that spells texts by number. -/
def membersOf (m : Keyed Int String) : List (String × Json.Data) :=
  m.ascending.map fun (i, s) => (Text.intText i, .text s)

namespace Spellable

variable {m : Keyed Int String}

theorem readInt? (h : Spellable m) {p : Int × String} (hp : p ∈ m) :
    Text.readInt? (Text.intText p.1) = some p.1 :=
  Text.readInt?_intText (h.digits _ (List.mem_map_of_mem hp))

theorem ascending (h : Spellable m) : Spellable m.ascending := by
  refine ⟨Keyed.nodup_keys_ascending h.once, fun i hi => h.digits i ?_⟩
  exact ((Keyed.perm_ascending m).map Prod.fst).mem_iff.1 hi

/-- No name is written twice. -/
theorem nodup_names (h : Spellable m) : ((membersOf m).map Prod.fst).Nodup := by
  -- Reading tells the names apart.
  have hnames : ((m.ascending.map fun p => Text.intText p.1).map Text.readInt?) =
      (Keyed.keys m.ascending).map some := by
    rw [Keyed.keys, List.map_map, List.map_map]
    exact List.map_congr_left fun p hp => h.ascending.readInt? hp
  have hapart : ((m.ascending.map fun p => Text.intText p.1).map Text.readInt?).Nodup := by
    rw [hnames]
    exact List.Pairwise.map _ (fun _ _ hne he => hne (Option.some.inj he)) h.ascending.once
  unfold membersOf
  rw [List.map_map]
  exact List.Pairwise.of_map Text.readInt? (fun _ _ hne he => hne (congrArg _ he)) hapart

theorem faithful (h : Spellable m) : Json.Faithful Json.depthLimit (.record (membersOf m)) := by
  refine .record (fun p hp => ?_) h.nodup_names
  obtain ⟨q, -, rfl⟩ := List.mem_map.1 hp
  exact .text q.2

theorem read_print (h : Spellable m) :
    Json.read (Json.print (.numbered m)) = .ok (.record (membersOf m)) :=
  Json.read_print h.faithful

theorem not_mem_print (h : Spellable m) : '\r' ∉ (Json.print (.numbered m)).toList := by
  unfold Json.print
  rw [String.toList_ofList]
  intro hr
  exact absurd (Json.isPlain_write h.faithful 0 _ hr) (show ¬ Json.IsPlain '\r' by decide)

/-- The texts that a ledger makes of the members. -/
theorem ofMembers (h : Spellable m) : Ledger.ofMembers (membersOf m) = m.ascending := by
  have hmembers : m.ascending.filterMap (fun p => Ledger.hashOf? (Text.intText p.1, .text p.2)) =
      m.ascending := by
    refine (List.filterMap_congr fun p hp => ?_).trans List.filterMap_some
    rw [Ledger.hashOf?, h.ascending.readInt? hp]
    rfl
  unfold Ledger.ofMembers membersOf
  rw [List.filterMap_map]
  exact (congrArg (Keyed.putAll · []) hmembers).trans (Keyed.putAll_of_nodup h.ascending.once)

end Spellable

/-! ## Files -/

open LiterateConfig.Files (Path Disk)
open LiterateConfig.Install (LogsElsewhere)

/-- A file that is read at a path is still read there, the log being elsewhere. -/
def StillReads (path : Path) (text : String) (w w' : World) : Prop :=
  LogsElsewhere path w → w.disk.readText path = .ok text →
    LogsElsewhere path w' ∧ w'.disk.readText path = .ok text

theorem quiet_stillReads (path : Path) (text : String) : Quiet (StillReads path text) where
  refl _ he hr := ⟨he, hr⟩
  trans h h' he hr := h' (h he hr).1 (h he hr).2
  write w r he hr :=
    ⟨((Install.quiet_proceeds path).write w r).elsewhere he, Install.readText_write he hr r⟩

/-- Messages for debugging are written only then. -/
theorem note_debug {w : World} (h : w.debugging = false) (source : Log.Source) (message : String) :
    note .debug source message false w = ((), w) := by
  show ((), if w.threshold.rank ≤ Log.Level.debug.rank then _ else _) = _
  have hrank : ¬ w.threshold.rank ≤ Log.Level.debug.rank := by
    unfold World.debugging at h
    cases ht : w.threshold <;> rw [ht] at h <;> first | exact absurd h (by decide) | decide
  rw [if_neg hrank]

/-- What is saved is read back: what is noted then goes elsewhere, if anything is. -/
theorem readText_saveJson {source : Log.Source} {what : String} {told : Option String}
    {path : Path} {data : Json.Data} {w w' : World}
    (h : saveJson source what told path data w = (.ok true, w'))
    (hplain : '\r' ∉ (Json.print data).toList)
    (hlog : told.isSome = true → w.debugging = true → LogsElsewhere path w) :
    w'.disk.readText path = .ok (Json.print data) := by
  unfold saveJson at h
  simp only [Try.getWorld_bind, Try.modifyWorld_bind] at h
  have hlater := ((Install.saves_proceeds path) w path (Json.print data)).elsewhere
  have hread := @Disk.readText_saveText w.disk path (Json.print data)
  rcases hs : w.disk.saveText path (Json.print data) with ⟨e | ⟨⟩, d⟩ <;>
    rw [hs] at h hlater hread
  · cases e <;> cases h
  · cases told with
    | none =>
      cases h
      exact hread rfl hplain
    | some s =>
      dsimp only at h
      rw [Try.act_bind] at h
      obtain rfl : (note .debug source s!"Saved {s} to {path.toString}" false
        { w with disk := d }).2 = w' := congrArg Prod.snd h
      cases hdebug : w.debugging with
      | true =>
        have hmove : StillReads path (Json.print data) { w with disk := d }
            (note .debug source s!"Saved {s} to {path.toString}" false { w with disk := d }).2 :=
          (quiet_stillReads path _).note _
        exact (hmove (hlater (hlog rfl hdebug)) (hread rfl hplain)).2
      | false =>
        rw [note_debug (w := { w with disk := d }) hdebug]
        exact hread rfl hplain

/-- The ledger is loaded from the text that spells texts by number. -/
theorem Ledger.load_of_readText {path : Path} {m : Keyed Int String} (h : Spellable m) {w : World}
    (hread : w.disk.readText path = .ok (Json.print (.numbered m))) :
    Ledger.load path w = (.ok m.ascending, w) := by
  unfold Ledger.load
  simp only [Try.getWorld_bind, hread, h.read_print, h.ofMembers]
  rfl

/-- **What is saved by number is read back by number**, whatever the numbers and the texts are and
whatever was there before. A ledger that was saved is loaded as it was. It is a
record whose names spell the numbers, each of them once and in ascending order, and so is
the record of associations, unless messages for debugging go into the same file. -/
theorem load_of_save (m : Keyed Int String) (hm : Spellable m) :
    (Keyed.keys m.ascending).Pairwise (· < ·) ∧ m.ascending.Perm m ∧
    (∀ i, m.ascending.get? i = m.get? i) ∧
    ((membersOf m).map Prod.fst).Nodup ∧
    (∀ path w w', Ledger.save path m w = (.ok true, w') →
      w'.disk.readText path = .ok (Json.print (.record (membersOf m))) ∧
      Json.read (Json.print (.record (membersOf m))) = .ok (.record (membersOf m)) ∧
      Ledger.load path w' = (.ok m.ascending, w')) ∧
    ∀ path w w', (w.debugging = true → LogsElsewhere path w) →
      Association.save m path w = (.ok true, w') →
      w'.disk.readText path = .ok (Json.print (.record (membersOf m))) ∧
      Json.read (Json.print (.record (membersOf m))) = .ok (.record (membersOf m)) := by
  refine ⟨Keyed.pairwise_ascending hm.once, Keyed.perm_ascending m, Keyed.get?_ascending hm.once,
    hm.nodup_names, fun path w w' hsave => ?_, fun path w w' hlog hsave => ?_⟩
  · unfold Ledger.save at hsave
    rw [Try.adapt_apply] at hsave
    have hjson : saveJson Ledger.logSource "hash ledger" none path (.numbered m) w =
        (.ok true, w') := by
      rcases hr : saveJson Ledger.logSource "hash ledger" none path (.numbered m) w with ⟨e | b, w₁⟩
      · rw [hr] at hsave
        cases hsave
      · rw [hr] at hsave
        cases hsave
        rfl
    have hread := readText_saveJson hjson hm.not_mem_print nofun
    exact ⟨hread, hm.read_print, Ledger.load_of_readText hm hread⟩
  · exact ⟨readText_saveJson hsave hm.not_mem_print fun _ => hlog, hm.read_print⟩

/-- Numbers of either sign, out of order, with texts that are escaped. -/
def sampleNumbers : Keyed Int String :=
  [(10, "a \"quoted\" \\ path\n"), (-3, "é and 𝄞"), (2, ""), (0, "\t\x01")]

/-- A directory with one file, which holds no JSON. -/
def staleWorld : World :=
  { Block.bareWorld with disk := ⟨[(["h.json"], .file "[[".toUTF8)], ⟨1, []⟩, ⟨1, []⟩⟩ }

theorem load_of_save_sampleNumbers :
    ∃ w₁ w₂, Ledger.save ⟨1, ["h.json"]⟩ sampleNumbers staleWorld = (.ok true, w₁) ∧
      Ledger.load ⟨1, ["h.json"]⟩ w₁ = (.ok sampleNumbers.ascending, w₁) ∧
      sampleNumbers.ascending =
        [(-3, "é and 𝄞"), (0, "\t\x01"), (2, ""), (10, "a \"quoted\" \\ path\n")] ∧
      Association.save sampleNumbers ⟨1, ["h.json"]⟩ staleWorld = (.ok true, w₂) ∧
      w₂.disk.readText ⟨1, ["h.json"]⟩ =
        .ok (Json.print (.record (membersOf sampleNumbers))) := by
  have hsmall : ∀ i ∈ Keyed.keys sampleNumbers, i.natAbs < 10 ^ 2 := by decide
  have hm : Spellable sampleNumbers := ⟨by decide, fun i hi =>
    Nat.lt_of_lt_of_le (hsmall i hi) (Nat.pow_le_pow_right (by decide) (by decide))⟩
  obtain ⟨hascending, hperm, -, -, hledger, hassociations⟩ := load_of_save sampleNumbers hm
  obtain ⟨w₁, hsaved⟩ :
      ∃ w₁, Ledger.save ⟨1, ["h.json"]⟩ sampleNumbers staleWorld = (.ok true, w₁) :=
    ⟨_, Prod.ext (by decide +kernel) rfl⟩
  obtain ⟨w₂, hrecorded⟩ :
      ∃ w₂, Association.save sampleNumbers ⟨1, ["h.json"]⟩ staleWorld = (.ok true, w₂) :=
    ⟨_, Prod.ext (by decide +kernel) rfl⟩
  obtain ⟨-, -, hload⟩ := hledger _ _ _ hsaved
  obtain ⟨hread, -⟩ := hassociations ⟨1, ["h.json"]⟩ staleWorld w₂ nofun hrecorded
  refine ⟨w₁, w₂, hsaved, hload, ?_, hrecorded, hread⟩
  have hsorted : sampleNumbers.ascending.Pairwise fun a b => a.1 < b.1 :=
    List.pairwise_map.1 hascending
  refine List.Perm.eq_of_pairwise (fun a b _ _ hab hba => absurd hab (Int.lt_asymm hba)) hsorted
    (by decide) (hperm.trans ?_)
  decide +kernel

end LiterateConfig
