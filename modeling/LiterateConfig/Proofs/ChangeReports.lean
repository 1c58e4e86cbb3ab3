import LiterateConfig.Proofs.NumberedTexts

/-!
# Reports of changes over any history

Calls compare blocks with the ledger, and those that detect changes also replace it.
The file that one call writes is parsed by the next, and the ledger that is read is
the one that was written.

**The ledger.** `held` is what a file holds, whoever wrote it, by what reading it
gives. `Holds path previous w` is the invariant: the ledger can be written, the log
goes elsewhere, and the file holds `previous`. A call keeps it (`Holds.perform_ok`),
and so does a history (`Holds.performAll_ok`), unless a write fails.

Results:
* `held_print`: the ledger of numbered blocks is read back;
* `differences_hashes`: comparing hashes is comparing texts;
* `reports_of_history`: a call reports what is different from the blocks that were
  detected last.
-/
namespace LiterateConfig

/-! ## Other files -/

namespace Files.Disk

theorem walk_put_file {d : Disk} {q : List String} {content : ByteArray}
    (h : d.node? q = some (.file content)) (content' : ByteArray) (place names : List String) :
    (d.put q (.file content')).walk place names = d.walk place names := by
  induction names generalizing place with
  | nil => rfl
  | cons n rest ih =>
    unfold walk
    by_cases hq : place = q
    · have hne : q ≠ [] := by
        rintro rfl
        cases h
      rw [hq, node?_put_self hne, h]
    · rw [node?_put_of_ne hq]
      simp only [ih]

/-- What is read at a path stays when another file is changed. -/
theorem readText_put_file {d : Disk} {p : Path} {q : List String} {content : ByteArray}
    (h : d.node? q = some (.file content)) (hq : q ≠ (p.resolve d.here).parts)
    (content' : ByteArray) : (d.put q (.file content')).readText p = d.readText p := by
  have hlocate : (d.put q (.file content')).locate p = d.locate p := by
    unfold locate
    simp only [walk_put_file h]
    rfl
  unfold readText readBytes
  rw [hlocate]
  cases hl : d.locate p with
  | error e => rfl
  | ok place =>
    have hne : place ≠ q := fun e => hq (e ▸ locate_eq hl)
    simp only [bind, Except.bind, node?_put_of_ne hne]

end Files.Disk

/-! ## Numbered blocks -/

namespace Ledger

open LiterateConfig.Files (Path Disk)
open LiterateConfig.Install (Nameable LogsElsewhere)

/-- The blocks are numbered from 1 without a gap. -/
def Numbered (blocks : List Block) : Prop :=
  blocks.map Block.index = (List.range' 1 blocks.length).map Int.ofNat

instance (blocks : List Block) : Decidable (Numbered blocks) :=
  inferInstanceAs (Decidable (_ = _))

theorem numbered_extract (languages : List String) (documents : List (Path × String)) (w : World) :
    Numbered (Block.extract languages documents w).1 :=
  Block.fromDocuments_index languages 1 documents

/-- What is different between two lists of numbered blocks: the places at which the older one
has no block of the same text, and the places that only the older one has. -/
def changesFrom (a b : List Block) : Changes where
  changed := (b.zipIdx.filter fun (x, i) =>
    a[i]?.map Block.normalized != some x.normalized).map fun (_, i) => (i : Int) + 1
  removed := (List.range' (b.length + 1) (a.length - b.length)).map Int.ofNat

/-- Blocks with what belongs to them, by their places. -/
theorem map_index_eq {β : Type} (g : Block → β) {blocks : List Block} (n : Nat)
    (h : blocks.map Block.index = (List.range' (n + 1) blocks.length).map Int.ofNat) :
    blocks.map (fun b => (b.index, g b)) =
      (blocks.zipIdx n).map fun (x, i) => ((i : Int) + 1, g x) := by
  induction blocks generalizing n with
  | nil => rfl
  | cons b rest ih =>
    simp only [List.map_cons, List.length_cons, List.range'_succ, List.cons.injEq] at h
    rw [List.map_cons, List.zipIdx_cons, List.map_cons, ih (n + 1) h.2, h.1]
    rfl

theorem Numbered.nodup {blocks : List Block} (h : Numbered blocks) :
    (blocks.map Block.index).Nodup := by
  rw [h]
  exact List.Pairwise.map _ (fun _ _ hne he => hne (Int.ofNat.inj he)) List.nodup_range'

theorem Numbered.hashes_eq {blocks : List Block} (h : Numbered blocks) :
    hashes blocks = blocks.zipIdx.map fun (x, i) => ((i : Int) + 1, hash x.normalized) := by
  unfold hashes
  rw [Keyed.putAll_of_nodup (by simpa [Keyed.keys, Function.comp_def] using h.nodup),
    map_index_eq (fun b => hash b.normalized) 0 h]

theorem get?_zipIdx {α β : Type} (g : α → β) (l : List α) (n i : Nat) :
    Keyed.get? (((n + i : Nat) : Int) + 1) ((l.zipIdx n).map fun (x, j) => ((j : Int) + 1, g x)) =
      l[i]?.map g := by
  induction l generalizing n i with
  | nil => rfl
  | cons x rest ih =>
    rw [List.zipIdx_cons, List.map_cons, Keyed.get?]
    cases i with
    | zero => simp
    | succ i =>
      rw [if_neg (by omega), show n + (i + 1) = n + 1 + i by omega, ih]
      rfl

theorem Numbered.get?_hashes {blocks : List Block} (h : Numbered blocks) (i : Nat) :
    Keyed.get? ((i : Int) + 1) (hashes blocks) = blocks[i]?.map fun x => hash x.normalized := by
  have hget := get?_zipIdx (fun x : Block => hash x.normalized) blocks 0 i
  rw [Nat.zero_add] at hget
  rw [h.hashes_eq, hget]

theorem Numbered.keys_hashes {blocks : List Block} (h : Numbered blocks) :
    Keyed.keys (hashes blocks) = (List.range' 1 blocks.length).map Int.ofNat := by
  rw [← h]
  unfold hashes
  rw [Keyed.putAll_of_nodup (by simpa [Keyed.keys, Function.comp_def] using h.nodup)]
  simp [Keyed.keys, Function.comp_def]

theorem Numbered.ascending_hashes {blocks : List Block} (h : Numbered blocks) :
    Keyed.ascending (hashes blocks) = hashes blocks := by
  refine List.mergeSort_of_pairwise ?_
  have hkeys : ((hashes blocks).map Prod.fst).Pairwise (· ≤ ·) := by
    show (Keyed.keys (hashes blocks)).Pairwise (· ≤ ·)
    rw [h.keys_hashes]
    exact List.Pairwise.map _ (fun _ _ hlt => Int.ofNat_le.2 (Nat.le_of_lt hlt))
      List.pairwise_lt_range'
  simpa [List.pairwise_map] using hkeys

theorem filter_range' (m n : Nat) :
    (List.range' 1 n).filter (fun i => decide (m < i)) = List.range' (m + 1) (n - m) := by
  by_cases hmn : m ≤ n
  · have hsplit : List.range' 1 n = List.range' 1 m ++ List.range' (m + 1) (n - m) := by
      rw [Nat.add_comm m 1, List.range'_append_1, Nat.add_sub_cancel' hmn]
    have hbelow : (List.range' 1 m).filter (fun i => decide (m < i)) = [] := by
      simp [List.filter_eq_nil_iff, List.mem_range'_1]
      omega
    have habove : (List.range' (m + 1) (n - m)).filter (fun i => decide (m < i)) =
        List.range' (m + 1) (n - m) := by
      simp [List.filter_eq_self, List.mem_range'_1]
      omega
    rw [hsplit, List.filter_append, hbelow, habove, List.nil_append]
  · rw [Nat.sub_eq_zero_of_le (by omega), List.range'_zero]
    simp [List.filter_eq_nil_iff, List.mem_range'_1]
    omega

/-- **Comparing hashes is comparing texts.** -/
theorem differences_hashes {a b : List Block} (ha : Numbered a) (hb : Numbered b)
    (hinj : ∀ x ∈ a, ∀ y ∈ b, hash x.normalized = hash y.normalized → x.normalized = y.normalized) :
    differences (hashes a) (hashes b) = changesFrom a b := by
  have hsame : ∀ p ∈ b.zipIdx, (Keyed.get? ((p.2 : Int) + 1) (hashes a) != some (hash p.1.normalized)) =
      (a[p.2]?.map Block.normalized != some p.1.normalized) := by
    rintro ⟨y, i⟩ hp
    have hy : y ∈ b := (List.mem_zipIdx' hp).2 ▸ List.getElem_mem _
    rw [ha.get?_hashes]
    cases hx : a[i]? with
    | none => rfl
    | some x =>
      have hiff : hash x.normalized = hash y.normalized ↔ x.normalized = y.normalized :=
        ⟨hinj x (List.mem_of_getElem? hx) y hy, congrArg hash⟩
      simp [bne, hiff]
  have hlength : (hashes b).length = b.length := by rw [hb.hashes_eq]; simp
  unfold differences changesFrom
  rw [ha.ascending_hashes, hb.ascending_hashes, hlength, ha.keys_hashes]
  congr 1
  · rw [hb.hashes_eq, List.filter_map, Keyed.keys, List.map_map]
    congr 1
    exact List.filter_congr hsame
  · rw [List.filter_map]
    congr 1
    rw [← filter_range']
    refine List.filter_congr fun i _ => ?_
    simp

/-- Nothing is different from what is the same. -/
theorem changesFrom_self (a : List Block) : changesFrom a a = .none := by
  have hnone : (a.zipIdx.filter fun (x, i) => a[i]?.map Block.normalized != some x.normalized) = [] := by
    refine List.filter_eq_nil_iff.2 ?_
    rintro ⟨x, i⟩ hp
    have hx : a[i]? = some x := List.mk_mem_zipIdx_iff_getElem?.1 hp
    simp [hx]
  unfold changesFrom
  rw [hnone, Nat.sub_self]
  rfl

/-- The hashes of as many blocks as there are numbers within the limit. -/
theorem Numbered.spellable {blocks : List Block} (h : Numbered blocks)
    (hsize : blocks.length < 10 ^ Text.digitLimit) : Spellable (hashes blocks) := by
  refine ⟨by rw [h.keys_hashes, ← h]; exact h.nodup, fun i hi => ?_⟩
  rw [h.keys_hashes] at hi
  obtain ⟨n, hn, rfl⟩ := List.mem_map.1 hi
  have hle : n ≤ blocks.length := by
    have := (List.mem_range'_1.1 hn).2
    omega
  exact Nat.lt_of_le_of_lt hle hsize

/-! ## Ledger files -/

/-- The hashes that a ledger file holds, by what reading it gives. A file that is nested too
deeply cannot be used at all. -/
def held : Except Files.Problem String → Option Hashes
  | .error _ => some []
  | .ok text =>
    match Json.read text with
    | .error .tooDeep => none
    | .ok (.record ms) => some (ofMembers ms)
    | _ => some []

theorem load_fst (path : Path) (w : World) :
    (load path w).1 = match held (w.disk.readText path) with
      | none => .error .tooDeep
      | some hs => .ok hs := by
  unfold load
  simp only [Try.getWorld_bind]
  cases w.disk.readText path with
  | error e => cases e <;> rfl
  | ok text =>
    dsimp only [held]
    cases Json.read text with
    | error e => cases e <;> rfl
    | ok d => cases d <;> rfl

theorem compare_fst (path : Path) (blocks : List Block) (w : World) :
    (compare path blocks w).1 = match held (w.disk.readText path) with
      | none => .error .tooDeep
      | some hs => .ok (differences hs (hashes blocks), hashes blocks) := by
  have hload := load_fst path w
  unfold compare
  rw [Try.bind_apply]
  rcases hr : load path w with ⟨r, w₁⟩
  rw [hr] at hload
  dsimp only at hload
  subst hload
  cases held (w.disk.readText path) <;> rfl

theorem held_print {blocks : List Block} (h : Numbered blocks)
    (hsize : blocks.length < 10 ^ Text.digitLimit) :
    held (.ok (Json.print (.numbered (hashes blocks)))) = some (hashes blocks) := by
  have hm := h.spellable hsize
  simp only [held, hm.read_print, hm.ofMembers, h.ascending_hashes]

/-- The number of writes of ledgers that failed. -/
def failures (w : World) : Nat :=
  w.records.countP fun r => r.source == logSource && r.level == .error

/-- What is read at a path stays, and so does the log. -/
def Spares (path : Path) (w w' : World) : Prop :=
  LogsElsewhere path w → LogsElsewhere path w' ∧ w'.disk.readText path = w.disk.readText path

theorem quiet_spares (path : Path) : Quiet (Spares path) where
  refl _ he := ⟨he, rfl⟩
  trans h h' he := ⟨(h' (h he).1).1, (h' (h he).1).2.trans (h he).2⟩
  write w r he := by
    refine ⟨((Install.quiet_proceeds path).write w r).elsewhere he, ?_⟩
    unfold World.write
    cases hl : w.logFile with
    | none => rfl
    | some q =>
      obtain ⟨⟨content, hfile⟩, hne⟩ := he q hl
      simp only [hfile]
      exact Disk.readText_put_file hfile hne _

/-- Failures are not taken back. -/
def Counts (w w' : World) : Prop := failures w ≤ failures w'

theorem quiet_counts : Quiet Counts where
  refl _ := Nat.le_refl _
  trans := Nat.le_trans
  write w r := by
    unfold Counts failures World.write
    rw [List.countP_cons]
    omega

theorem saves_counts : Saves Counts := fun _ _ _ => Nat.le_refl _

theorem moves_compare {R : World → World → Prop} (h : Quiet R) (path : Path) (bs : List Block) :
    Moves R (compare path bs) :=
  h.bindTry (moves_load h path) fun _ => h.pure _

/-! ## Calls -/

/-- What is asked of a ledger. -/
inductive Call where
  | detect (blocks : List Block)
  | compare (blocks : List Block)

namespace Call

def blocks : Call → List Block
  | .detect bs => bs
  | .compare bs => bs

/-- Answers a call. -/
def perform (path : Path) : Call → Try Problem Changes
  | .detect bs => Ledger.detect path bs
  | .compare bs => do return (← Ledger.compare path bs).1

/-- Answers calls one after the other. -/
def performAll (path : Path) : List Call → Try Problem (List Changes)
  | [] => return []
  | c :: rest => do
    let report ← c.perform path
    let reports ← performAll path rest
    return report :: reports

theorem performAll_cons {path : Path} {c : Call} {w w₁ : World} {report : Changes}
    (h : c.perform path w = (.ok report, w₁)) (rest : List Call) :
    performAll path (c :: rest) w =
      ((performAll path rest w₁).1.map (report :: ·), (performAll path rest w₁).2) := by
  show (c.perform path >>= fun report => _) w = _
  rw [Try.bind_of_ok h, Try.bind_apply]
  rcases performAll path rest w₁ with ⟨_ | _, _⟩ <;> rfl

theorem performAll_append (path : Path) (xs ys : List Call) :
    performAll path (xs ++ ys) = do
      let reports ← performAll path xs
      let more ← performAll path ys
      return reports ++ more := by
  induction xs with
  | nil => simp [performAll]
  | cons c rest ih => simp [performAll, ih]

/-- One more call behind a history that has ended well. -/
theorem performAll_concat {path : Path} {before : List Call} {w w₁ : World}
    {reports : List Changes} (h : performAll path before w = (.ok reports, w₁)) (c : Call) :
    performAll path (before ++ [c]) w =
      ((c.perform path w₁).1.map (reports ++ [·]), (c.perform path w₁).2) := by
  rw [performAll_append, Try.bind_of_ok h]
  simp only [performAll, Try.bind_apply]
  rcases c.perform path w₁ with ⟨_ | _, _⟩ <;> rfl

/-- The hashes in the ledger behind a call. -/
def after (previous : Hashes) : Call → Hashes
  | .detect bs => hashes bs
  | .compare _ => previous

/-- What calls report, one after the other. -/
def expected (previous : Hashes) : List Call → List Changes
  | [] => []
  | c :: rest => differences previous (hashes c.blocks) :: expected (c.after previous) rest

theorem length_expected (previous : Hashes) (calls : List Call) :
    (expected previous calls).length = calls.length := by
  induction calls generalizing previous with
  | nil => rfl
  | cons c rest ih => rw [expected, List.length_cons, ih, List.length_cons]

theorem expected_append (previous : Hashes) (xs ys : List Call) :
    expected previous (xs ++ ys) =
      expected previous xs ++ expected (xs.foldl after previous) ys := by
  induction xs generalizing previous with
  | nil => rfl
  | cons c rest ih => rw [List.cons_append, expected, ih]; rfl

theorem foldl_after_compare (previous : Hashes) (between : List (List Block)) :
    (between.map Call.compare).foldl after previous = previous := by
  induction between with
  | nil => rfl
  | cons bs rest ih => exact ih

/-- The report of a call compares with the blocks that were detected last. -/
theorem expected_detect (previous : Hashes) (before : List Call) (a : List Block)
    (between : List (List Block)) (c : Call) (rest : List Call) :
    (expected previous (before ++ .detect a :: (between.map Call.compare ++ c :: rest)))[
        before.length + 1 + between.length]? =
      some (differences (hashes a) (hashes c.blocks)) := by
  rw [expected_append, List.getElem?_append_right (by rw [length_expected]; omega), length_expected,
    show before.length + 1 + between.length - before.length = between.length + 1 by omega,
    expected, List.getElem?_cons_succ, expected_append,
    List.getElem?_append_right (by rw [length_expected, List.length_map]), length_expected,
    List.length_map, Nat.sub_self, foldl_after_compare]
  rfl

theorem moves_perform {R : World → World → Prop} (h : Quiet R) (hs : Saves R) (path : Path)
    (c : Call) : Moves R (c.perform path) := by
  cases c with
  | detect bs => exact moves_detect h hs path bs
  | compare bs => exact h.bindTry (moves_compare h path bs) fun _ => h.pure _

/-- A call that only compares leaves the file alone. -/
theorem spares_perform_compare (path : Path) (bs : List Block) :
    Moves (Spares path) (perform path (.compare bs)) :=
  (quiet_spares path).bindTry (moves_compare (quiet_spares path) path bs) fun _ =>
    (quiet_spares path).pure _

theorem moves_performAll {R : World → World → Prop} (h : Quiet R) (hs : Saves R) (path : Path)
    (calls : List Call) : Moves R (performAll path calls) := by
  induction calls with
  | nil => exact h.pure _
  | cons c rest ih =>
    exact h.bindTry (moves_perform h hs path c) fun _ => h.bindTry ih fun _ => h.pure _

theorem failures_performAll_append (path : Path) (xs ys : List Call) (w : World) :
    failures (performAll path xs w).2 ≤ failures (performAll path (xs ++ ys) w).2 := by
  rw [performAll_append, Try.bind_apply]
  rcases performAll path xs w with ⟨_ | reports, w₁⟩
  · exact Nat.le_refl _
  · exact quiet_counts.bindTry (moves_performAll quiet_counts saves_counts path ys)
      (fun _ => quiet_counts.pure _) w₁

end Call

/-- A ledger that cannot be used ends the first call. -/
theorem performAll_tooDeep {path : Path} {w : World} (h : held (w.disk.readText path) = none)
    {calls : List Call} (hne : calls ≠ []) :
    (Call.performAll path calls w).1 = .error .tooDeep := by
  have hcompare : ∀ bs, (compare path bs w).1 = .error .tooDeep := fun bs => by
    rw [compare_fst, h]
  cases calls with
  | nil => exact absurd rfl hne
  | cons c rest =>
    refine Try.fst_bind_of_error ?_ _
    cases c with
    | detect bs => exact Try.fst_bind_of_error (hcompare bs) _
    | compare bs => exact Try.fst_bind_of_error (hcompare bs) _

/-- The ledger can be named, the log goes elsewhere, and the file holds the hashes. -/
structure Holds (path : Path) (previous : Hashes) (w : World) : Prop where
  nameable : Nameable path w
  elsewhere : LogsElsewhere path w
  text : held (w.disk.readText path) = some previous

namespace Holds

variable {path : Path} {previous : Hashes} {w w' : World}

/-- What only writes to the log leaves the ledger as it is. -/
theorem of_quiet (h : Holds path previous w) (hp : Install.Proceeds path w w')
    (hs : Spares path w w') : Holds path previous w' :=
  ⟨hp.nameable h.nameable, hp.elsewhere h.elsewhere, by rw [(hs h.elsewhere).2, h.text]⟩

theorem compare_ok (h : Holds path previous w) (bs : List Block) :
    ∃ w', Ledger.compare path bs w = (.ok (differences previous (hashes bs), hashes bs), w') ∧
      Holds path previous w' := by
  have hfst := compare_fst path bs w
  rw [h.text] at hfst
  exact ⟨_, Prod.ext hfst rfl, h.of_quiet (moves_compare (Install.quiet_proceeds path) path bs w)
    (moves_compare (quiet_spares path) path bs w)⟩

theorem save_ok (h : Holds path previous w) {bs : List Block} (hbs : Numbered bs)
    (hsize : bs.length < 10 ^ Text.digitLimit) :
    ∃ saved w', save path (hashes bs) w = (.ok saved, w') ∧
      (failures w' ≤ failures w → Holds path (hashes bs) w') := by
  have hp := moves_save (Install.quiet_proceeds path) (Install.saves_proceeds path) path (hashes bs) w
  unfold save at hp ⊢
  simp only [Try.adapt_apply] at hp ⊢
  rcases Install.saveJson_cases h.nameable logSource "hash ledger" (.numbered (hashes bs))
    with ⟨d, hs, hw⟩ | ⟨d, message, hw⟩ <;> rw [hw] at hp ⊢
  · refine ⟨_, _, rfl, fun _ => ⟨hp.nameable h.nameable, hp.elsewhere h.elsewhere, ?_⟩⟩
    have hsaved : (w.disk.saveText path (Json.print (.numbered (hashes bs)))).1 = .ok () := by
      rw [hs]
    have hread := Disk.readText_saveText hsaved (hbs.spellable hsize).not_mem_print
    rw [hs] at hread
    show held (d.readText path) = _
    rw [hread, held_print hbs hsize]
  · refine ⟨_, _, rfl, fun hle => ?_⟩
    have hmore : failures ({ w with disk := d }.write ⟨.error, logSource, message, false⟩) =
        failures w + 1 := List.countP_cons_of_pos (by rfl)
    have hle' : failures ({ w with disk := d }.write ⟨.error, logSource, message, false⟩) ≤
        failures w := hle
    omega

theorem detect_ok (h : Holds path previous w) {bs : List Block} (hbs : Numbered bs)
    (hsize : bs.length < 10 ^ Text.digitLimit) :
    ∃ w', Ledger.detect path bs w = (.ok (differences previous (hashes bs)), w') ∧
      (failures w' ≤ failures w → Holds path (hashes bs) w') := by
  obtain ⟨w₁, hw₁, h₁⟩ := h.compare_ok bs
  have noted : ∀ {w₁ : World}, Holds path previous w₁ → ∀ (f : Int → String) (is : List Int),
      Holds path previous (noteIndices f is w₁).2 := fun h₁ f is =>
    h₁.of_quiet (moves_noteIndices (Install.quiet_proceeds path) f is _)
      (moves_noteIndices (quiet_spares path) f is _)
  have hcount : ∀ (w₁ : World) (f : Int → String) (is : List Int),
      failures w₁ ≤ failures (noteIndices f is w₁).2 := fun w₁ f is =>
    moves_noteIndices quiet_counts f is w₁
  unfold Ledger.detect
  rw [Try.bind_of_ok hw₁]
  simp only [Try.act_bind]
  obtain ⟨saved, w₂, hw₂, h₂⟩ := (noted (noted h₁ _ _) _ _).save_ok hbs hsize
  rw [Try.bind_of_ok hw₂]
  refine ⟨w₂, rfl, fun hle => h₂ (Nat.le_trans hle ?_)⟩
  have hcompare : failures w ≤ failures w₁ := by
    have := moves_compare quiet_counts path bs w
    rwa [hw₁] at this
  exact Nat.le_trans hcompare (Nat.le_trans (hcount _ _ _) (hcount _ _ _))

/-- **One call.** -/
theorem perform_ok (h : Holds path previous w) {c : Call} (hc : Numbered c.blocks)
    (hsize : c.blocks.length < 10 ^ Text.digitLimit) :
    ∃ w', c.perform path w = (.ok (differences previous (hashes c.blocks)), w') ∧
      (failures w' ≤ failures w → Holds path (c.after previous) w') := by
  cases c with
  | detect bs => exact h.detect_ok hc hsize
  | compare bs =>
    obtain ⟨w', hw, hw'⟩ := h.compare_ok bs
    refine ⟨w', ?_, fun _ => hw'⟩
    show (Ledger.compare path bs >>= fun r => pure r.1) w = _
    rw [Try.bind_of_ok hw]
    rfl

/-- **A history.** -/
theorem performAll_ok {calls : List Call} (h : Holds path previous w)
    (hcalls : ∀ c ∈ calls, Numbered c.blocks ∧ c.blocks.length < 10 ^ Text.digitLimit)
    (hsaved : failures (Call.performAll path calls w).2 ≤ failures w) :
    ∃ w', Call.performAll path calls w = (.ok (Call.expected previous calls), w') ∧
      Holds path (calls.foldl Call.after previous) w' := by
  induction calls generalizing previous w with
  | nil => exact ⟨w, rfl, h⟩
  | cons c rest ih =>
    obtain ⟨hc, hsize⟩ := hcalls c List.mem_cons_self
    obtain ⟨w₁, hw₁, hnext⟩ := h.perform_ok hc hsize
    have hcount : failures w ≤ failures w₁ := by
      have := Call.moves_perform quiet_counts saves_counts path c w
      rwa [hw₁] at this
    have hrest : failures w₁ ≤ failures (Call.performAll path rest w₁).2 :=
      Call.moves_performAll quiet_counts saves_counts path rest w₁
    rw [Call.performAll_cons hw₁] at hsaved ⊢
    have hle : failures (Call.performAll path rest w₁).2 ≤ failures w := hsaved
    obtain ⟨w₂, hw₂, h₂⟩ := ih (hnext (by omega)) (fun d hd => hcalls d (List.mem_cons_of_mem _ hd))
      (by omega)
    exact ⟨w₂, by rw [hw₂]; rfl, h₂⟩

end Holds

/-- **Reports over any history.** If the ledger that is found can be used, whatever it
holds, every call of a history without failed writes reports. Behind the first call that
detects changes, a report names the places at which the blocks detected last have no block
of the same text, and the places beyond the blocks of the call. So blocks that are detected
twice are reported as unchanged the second time. A call that only compares leaves the file
alone and the other reports what they are without it, and reports what a call that detects
would report in its place. A ledger that is nested too deeply ends the first call. -/
theorem reports_of_history (path : Path) (calls : List Call) (w : World)
    (hname : Nameable path w) (helse : LogsElsewhere path w)
    (hnum : ∀ c ∈ calls, Numbered c.blocks)
    (hsize : ∀ c ∈ calls, c.blocks.length < 10 ^ Text.digitLimit)
    (hinj : ∀ c ∈ calls, ∀ d ∈ calls, ∀ x ∈ c.blocks, ∀ y ∈ d.blocks,
      hash x.normalized = hash y.normalized → x.normalized = y.normalized)
    (hsaved : failures (Call.performAll path calls w).2 ≤ failures w) :
    (held (w.disk.readText path) = none → calls ≠ [] →
      (Call.performAll path calls w).1 = .error .tooDeep) ∧
    (held (w.disk.readText path) ≠ none →
      ∃ reports, (Call.performAll path calls w).1 = .ok reports ∧ reports.length = calls.length ∧
        (∀ before a between c after,
          calls = before ++ .detect a :: (List.map Call.compare between ++ c :: after) →
          reports[before.length + 1 + between.length]? = some (changesFrom a c.blocks)) ∧
        (∀ before a after, calls = before ++ .detect a :: .detect a :: after →
          reports[before.length + 1]? = some .none) ∧
        ∀ before bs after, calls = before ++ .compare bs :: after →
          (Call.performAll path (before ++ [.compare bs]) w).2.disk.readText path =
            (Call.performAll path before w).2.disk.readText path ∧
          (Call.performAll path (before ++ [.detect bs]) w).1 =
            .ok (reports.take (before.length + 1)) ∧
          (failures (Call.performAll path (before ++ after) w).2 ≤ failures w →
            (Call.performAll path (before ++ after) w).1 =
              .ok (reports.eraseIdx before.length))) := by
  refine ⟨fun hnone hne => performAll_tooDeep hnone hne, fun hsome => ?_⟩
  obtain ⟨previous, htext⟩ := Option.ne_none_iff_exists'.1 hsome
  have hcalls : ∀ c ∈ calls, Numbered c.blocks ∧ c.blocks.length < 10 ^ Text.digitLimit :=
    fun c hc => ⟨hnum c hc, hsize c hc⟩
  have h : Holds path previous w := ⟨hname, helse, htext⟩
  obtain ⟨w', hw', -⟩ := h.performAll_ok hcalls hsaved
  have hreport : ∀ before a between c after,
      calls = before ++ .detect a :: (List.map Call.compare between ++ c :: after) →
      (Call.expected previous calls)[before.length + 1 + between.length]? =
        some (changesFrom a c.blocks) := by
    rintro before a between c after rfl
    have ha : Call.detect a ∈
        before ++ .detect a :: (List.map Call.compare between ++ c :: after) := by simp
    have hc : c ∈ before ++ .detect a :: (List.map Call.compare between ++ c :: after) := by simp
    rw [Call.expected_detect]
    exact congrArg some (differences_hashes (hnum _ ha) (hnum _ hc) (hinj _ ha _ hc))
  refine ⟨_, by rw [hw'], Call.length_expected _ _, hreport, ?_, ?_⟩
  · intro before a after hcalls'
    have := hreport before a [] (.detect a) after hcalls'
    rwa [show (Call.detect a).blocks = a from rfl, changesFrom_self] at this
  rintro before bs after rfl
  have hprefix : failures (Call.performAll path before w).2 ≤ failures w :=
    Nat.le_trans (Call.failures_performAll_append path before _ w) hsaved
  have hbefore : ∀ c ∈ before, Numbered c.blocks ∧ c.blocks.length < 10 ^ Text.digitLimit :=
    fun c hc => hcalls c (List.mem_append_left _ hc)
  obtain ⟨w₁, hw₁, h₁⟩ := h.performAll_ok hbefore hprefix
  obtain ⟨hbs, hbsSize⟩ := hcalls (.compare bs) (by simp)
  refine ⟨?_, ?_, fun hless => ?_⟩
  · rw [Call.performAll_concat hw₁, hw₁]
    exact (Call.spares_perform_compare path bs w₁ h₁.elsewhere).2
  · obtain ⟨w₂, hw₂, -⟩ := h₁.detect_ok hbs hbsSize
    rw [Call.performAll_concat hw₁, show Call.perform path (.detect bs) w₁ = _ from hw₂,
      Call.expected_append, ← Call.length_expected previous before, List.take_length_add_append]
    rfl
  · have hrest : ∀ c ∈ before ++ after,
        Numbered c.blocks ∧ c.blocks.length < 10 ^ Text.digitLimit := by
      intro c hc
      refine hcalls c ?_
      rcases List.mem_append.1 hc with hc | hc
      · exact List.mem_append_left _ hc
      · exact List.mem_append_right _ (List.mem_cons_of_mem _ hc)
    obtain ⟨w₂, hw₂, -⟩ := h.performAll_ok hrest hless
    rw [hw₂, Call.expected_append, Call.expected_append, ← Call.length_expected previous before,
      List.eraseIdx_append_of_length_le (Nat.le_refl _), Nat.sub_self]
    rfl

/-- A directory with a ledger that someone else has written. -/
def sampleLedger : World where
  machine := ⟨.empty, ""⟩
  disk := {
    entries := [(["p"], .directory),
      (["p", "hashes.json"], .file "\x7b\" 07\": \"a\", \"x\": \"b\"\x7d".toUTF8)]
    here := ⟨1, []⟩
    home := ⟨1, []⟩ }
  threshold := .info
  records := []
  logFile := none

def sampleBlocks (texts : List String) : List Block :=
  Block.numberFrom 1 ⟨1, ["d.md"]⟩ (texts.map fun text => (text, .main))

/-- A block is detected, looked at when another one is new, and taken away. -/
def sampleCalls : List Call := [
  .detect (sampleBlocks ["x = 1"]),
  .compare (sampleBlocks ["x = 1 ", "y = 3"]),
  .detect (sampleBlocks [])]

theorem reports_of_history_sampleCalls :
    ∃ reports, (Call.performAll ⟨1, ["p", "hashes.json"]⟩ sampleCalls sampleLedger).1 = .ok reports ∧
      reports[1]? = some ⟨[2], []⟩ ∧ reports[2]? = some ⟨[], [1]⟩ := by
  have h := (reports_of_history ⟨1, ["p", "hashes.json"]⟩ sampleCalls sampleLedger
    (by unfold Nameable; decide +kernel) (by intro q hq; cases hq) (by decide +kernel)
    (by decide +kernel) (by decide +kernel) (by decide +kernel)).2 (by decide +kernel)
  obtain ⟨reports, hreports, -, hdetect, -⟩ := h
  have hnew := hdetect [] (sampleBlocks ["x = 1"]) []
    (.compare (sampleBlocks ["x = 1 ", "y = 3"])) [.detect (sampleBlocks [])] rfl
  have hgone := hdetect [] (sampleBlocks ["x = 1"]) [sampleBlocks ["x = 1 ", "y = 3"]]
    (.detect (sampleBlocks [])) [] rfl
  exact ⟨reports, hreports, hnew.trans (by decide +kernel), hgone.trans (by decide +kernel)⟩

end Ledger

end LiterateConfig
