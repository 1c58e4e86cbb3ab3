import LiterateConfig.Proofs.JsonRoundTrip
import LiterateConfig.Proofs.Movements

/-!
# Files that are written are read back

A path is walked through directories only, and nothing that is written takes one
away. So the place of a path stays what it is once it has been found, and what stands
there stays until something else is written to it.

**Growth.** `Grows d d'` says that `d'` is seen from the same place as `d`, that
directories are still directories, and that files are still files, whatever is in
them.

Results:
* `grows_saveText`: saving a text only lets a disk grow, whether it succeeds or not;
* `locate_of_grows`: a place that was found stays;
* `locate_eq`: it is the one that the resolved path names;
* `readText_saveText`: a text that was saved is read back;
* `saveText_ne_nullInName`: a path that a file can have stays one.
-/
namespace LiterateConfig

theorem Text.unifyBreaks_of_not_mem {l : List Char} (h : '\r' ∉ l) : unifyBreaks l = l := by
  induction l with
  | nil => rfl
  | cons c r ih =>
    rw [List.mem_cons, not_or] at h
    have hc : c ≠ '\r' := fun e => h.1 e.symm
    rw [unifyBreaks, ih h.2, if_neg hc]
    rintro r' rfl
    exact absurd rfl hc

namespace Files

namespace Disk

/-- Files stay files and directories stay directories, seen from the same place. -/
structure Grows (d d' : Disk) : Prop where
  here : d'.here = d.here
  directory : ∀ q, d.node? q = some .directory → d'.node? q = some .directory
  file : ∀ q content, d.node? q = some (.file content) →
    ∃ content', d'.node? q = some (.file content')

namespace Grows

theorem refl (d : Disk) : Grows d d := ⟨rfl, fun _ h => h, fun _ content h => ⟨content, h⟩⟩

theorem trans {d₁ d₂ d₃ : Disk} (h : Grows d₁ d₂) (h' : Grows d₂ d₃) : Grows d₁ d₃ := by
  refine ⟨h'.here.trans h.here, fun q hq => h'.directory q (h.directory q hq), fun q content hq => ?_⟩
  obtain ⟨content', hq'⟩ := h.file q content hq
  exact h'.file q content' hq'

end Grows

/-! ## What writing leaves in place -/

/-- A file is put where there is no directory. -/
theorem grows_put_file {d : Disk} {place : List String} (h : d.node? place ≠ some .directory)
    (content : ByteArray) : Grows d (d.put place (.file content)) := by
  have hne : place ≠ [] := fun e => h (by rw [e]; rfl)
  refine ⟨rfl, fun q hq => ?_, fun q c hq => ?_⟩
  · have hqp : q ≠ place := fun e => h (e ▸ hq)
    rw [node?_put_of_ne hqp, hq]
  · by_cases hqp : q = place
    · rw [hqp]
      exact ⟨content, node?_put_self hne d _⟩
    · exact ⟨c, by rw [node?_put_of_ne hqp, hq]⟩

theorem grows_put_directory {d : Disk} {place : List String} (h : d.node? place = none) :
    Grows d (d.put place .directory) := by
  refine ⟨rfl, fun q hq => ?_, fun q c hq => ⟨c, ?_⟩⟩
  all_goals
    have hqp : q ≠ place := by
      rintro rfl
      rw [h] at hq
      cases hq
    rw [node?_put_of_ne hqp, hq]

/-- What a write that succeeds has done. -/
theorem writeBytes_ok {d d' : Disk} {p : Path} {content : ByteArray}
    (h : d.writeBytes p content = .ok d') :
    ∃ place, d.locate p = .ok place ∧ d.node? place ≠ some .directory ∧
      d' = d.put place (.file content) := by
  unfold writeBytes at h
  cases hl : d.locate p with
  | error e => rw [hl] at h; cases h
  | ok place =>
    simp only [hl, bind, Except.bind] at h
    refine ⟨place, rfl, ?_⟩
    cases hn : d.node? place with
    | some n =>
      cases n with
      | directory => rw [hn] at h; cases h
      | file c =>
        rw [hn] at h
        cases h
        exact ⟨by simp, rfl⟩
    | none =>
      simp only [hn] at h
      cases hd : d.node? place.dropLast with
      | none => rw [hd] at h; cases h
      | some n =>
        cases n with
        | file c => rw [hd] at h; cases h
        | directory =>
          rw [hd] at h
          cases h
          exact ⟨by simp, rfl⟩

theorem grows_writeText {d d' : Disk} {p : Path} {text : String} (h : d.writeText p text = .ok d') :
    Grows d d' := by
  obtain ⟨place, -, hn, rfl⟩ := writeBytes_ok h
  exact grows_put_file hn _

theorem grows_makeDirectory {d d' : Disk} {p : Path} (h : d.makeDirectory p = .ok d') :
    Grows d d' := by
  unfold makeDirectory at h
  cases hl : d.locate p with
  | error e => rw [hl] at h; cases h
  | ok place =>
    simp only [hl, bind, Except.bind] at h
    cases hn : d.node? place with
    | some n => rw [hn] at h; cases h
    | none =>
      rw [hn] at h
      cases h
      exact grows_put_directory hn

/-- One name when directories are made: it is there already or made at once, or what is
missing above it is made first. -/
theorem makeFrom_cons {d : Disk} {slashes : Nat} {n : String} {above : List String}
    {r : Except Problem Disk} (h : d.makeFrom slashes (n :: above) = r) :
    r = .error .exists ∨ r = .ok d ∨ d.makeDirectory ⟨slashes, (n :: above).reverse⟩ = r ∨
      (∃ e, d.makeFrom slashes above = .error e ∧ r = .error e) ∨
      ∃ d₁, d.makeFrom slashes above = .ok d₁ ∧
        (r = .ok d₁ ∨ d₁.makeDirectory ⟨slashes, (n :: above).reverse⟩ = r) := by
  unfold makeFrom at h
  dsimp only at h
  split at h
  · cases hm : d.makeFrom slashes above with
    | error e =>
      rw [hm] at h
      exact Or.inr (Or.inr (Or.inr (Or.inl ⟨e, rfl, h.symm⟩)))
    | ok d₁ =>
      rw [hm] at h
      simp only [bind, Except.bind] at h
      split at h
      · split at h
        · exact Or.inr (Or.inr (Or.inr (Or.inr ⟨d₁, rfl, Or.inl h.symm⟩)))
        · exact Or.inl h.symm
      · exact Or.inr (Or.inr (Or.inr (Or.inr ⟨d₁, rfl, Or.inr h⟩)))
  · split at h
    · split at h
      · exact Or.inr (Or.inl h.symm)
      · exact Or.inl h.symm
    · exact Or.inr (Or.inr (Or.inl h))

theorem grows_makeFrom (slashes : Nat) (names : List String) {d d' : Disk}
    (h : d.makeFrom slashes names = .ok d') : Grows d d' := by
  induction names generalizing d' with
  | nil =>
    unfold makeFrom at h
    split at h
    · cases h
      exact .refl d
    · exact grows_makeDirectory h
  | cons n above ih =>
    rcases makeFrom_cons h with h | h | h | ⟨e, -, h⟩ | ⟨d₁, h₁, h | h⟩
    · cases h
    · cases h
      exact .refl _
    · exact grows_makeDirectory h
    · cases h
    · cases h
      exact ih h₁
    · exact (ih h₁).trans (grows_makeDirectory h)

/-- Saving a text only lets a disk grow, whether it succeeds or not. -/
theorem grows_saveText (d : Disk) (p : Path) (text : String) : Grows d (d.saveText p text).2 := by
  unfold saveText
  cases hm : d.makeDirectories p.parent with
  | error e => exact .refl d
  | ok d₁ =>
    have h₁ := grows_makeFrom _ _ hm
    dsimp only
    cases hw : d₁.writeText p text with
    | error e => exact h₁
    | ok d₂ => exact h₁.trans (grows_writeText hw)

/-! ## Places -/

theorem walk_of_grows {d d' : Disk} (h : Grows d d') {place q : List String} {names : List String}
    (hq : d.walk place names = .ok q) : d'.walk place names = .ok q := by
  induction names generalizing place with
  | nil => exact hq
  | cons n rest ih =>
    unfold walk at hq ⊢
    cases hn : d.node? place with
    | none => rw [hn] at hq; cases hq
    | some node =>
      cases node with
      | file content => rw [hn] at hq; cases hq
      | directory =>
        rw [h.directory place hn]
        rw [hn] at hq
        dsimp only at hq ⊢
        by_cases hup : n = ".."
        · rw [if_pos hup] at hq ⊢
          exact ih hq
        · rw [if_neg hup] at hq ⊢
          by_cases hlong : nameLimit < n.utf8ByteSize
          · rw [if_pos hlong] at hq
            cases hq
          · rw [if_neg hlong] at hq ⊢
            exact ih hq

/-- A walk that arrives has followed the names, `..` taking back the one before. -/
theorem walk_eq {d : Disk} {place q : List String} {names : List String}
    (hq : d.walk place names = .ok q) :
    q = names.foldl (fun done n => if n = ".." then done.dropLast else done ++ [n]) place := by
  induction names generalizing place with
  | nil =>
    cases hq
    rfl
  | cons n rest ih =>
    unfold walk at hq
    cases hn : d.node? place with
    | none => rw [hn] at hq; cases hq
    | some node =>
      cases node with
      | file content => rw [hn] at hq; cases hq
      | directory =>
        rw [hn] at hq
        dsimp only at hq
        rw [List.foldl_cons]
        by_cases hup : n = ".."
        · rw [if_pos hup] at hq ⊢
          exact ih hq
        · rw [if_neg hup] at hq ⊢
          by_cases hlong : nameLimit < n.utf8ByteSize
          · rw [if_pos hlong] at hq
            cases hq
          · rw [if_neg hlong] at hq
            exact ih hq

theorem walk_ne_nullInName (d : Disk) (place names : List String) :
    d.walk place names ≠ .error .nullInName := by
  induction names generalizing place with
  | nil => exact nofun
  | cons n rest ih =>
    unfold walk
    repeat' split
    all_goals first
      | exact ih _
      | exact nofun

/-- Whether a file can have a path depends on the names only. -/
theorem locate_eq_nullInName {d : Disk} {p : Path} :
    d.locate p = .error .nullInName ↔
      ∃ n ∈ (d.here.join p).parts, n.toList.contains (Char.ofNat 0) = true := by
  unfold locate
  dsimp only
  split
  · next h => exact ⟨fun _ => List.any_eq_true.1 h, fun _ => rfl⟩
  · next h =>
    refine iff_of_false (fun e => ?_) fun hn => absurd (List.any_eq_true.2 hn) h
    split at e
    · cases e
    · exact walk_ne_nullInName d _ _ e

/-- A place that was found stays. -/
theorem locate_of_grows {d d' : Disk} (h : Grows d d') {p : Path} {place : List String}
    (hp : d.locate p = .ok place) : d'.locate p = .ok place := by
  unfold locate at hp ⊢
  rw [h.here]
  dsimp only at hp ⊢
  split at hp
  · cases hp
  · next hn =>
    rw [if_neg hn]
    split at hp
    · cases hp
    · next hlong =>
      rw [if_neg hlong]
      exact walk_of_grows h hp

/-- The place that was found is the one that the resolved path names. -/
theorem locate_eq {d : Disk} {p : Path} {place : List String} (hp : d.locate p = .ok place) :
    place = (p.resolve d.here).parts := by
  unfold locate at hp
  dsimp only at hp
  repeat' split at hp
  · cases hp
  · cases hp
  · exact walk_eq hp

/-! ## Paths that a file can have -/

/-- A path with no other names than one that a file can have is another such path. -/
theorem locate_ne_nullInName {d d' : Disk} {p p' : Path} (hp : d.locate p ≠ .error .nullInName)
    (hhere : d'.here = d.here) (hslashes : p'.slashes = p.slashes)
    (hparts : ∀ n ∈ p'.parts, n ∈ p.parts) : d'.locate p' ≠ .error .nullInName := by
  rw [Ne, locate_eq_nullInName] at hp ⊢
  rintro ⟨n, hn, hnull⟩
  refine hp ⟨n, ?_, hnull⟩
  unfold Path.join Path.isAbsolute at hn ⊢
  rw [hhere, hslashes] at hn
  split at hn
  · next h =>
    rw [if_pos h]
    exact hparts n hn
  · next h =>
    rw [if_neg h]
    rcases List.mem_append.1 hn with hn | hn
    · exact List.mem_append_left _ hn
    · exact List.mem_append_right _ (hparts n hn)

theorem locate_of_makeDirectory {d : Disk} {p : Path}
    (h : d.makeDirectory p = .error .nullInName) : d.locate p = .error .nullInName := by
  unfold makeDirectory at h
  cases hl : d.locate p with
  | error e =>
    rw [hl] at h
    cases h
    rfl
  | ok place =>
    simp only [hl, bind, Except.bind] at h
    cases hn : d.node? place <;> rw [hn] at h <;> cases h

theorem locate_of_writeText {d : Disk} {p : Path} {text : String}
    (h : d.writeText p text = .error .nullInName) : d.locate p = .error .nullInName := by
  unfold writeText writeBytes at h
  cases hl : d.locate p with
  | error e =>
    rw [hl] at h
    cases h
    rfl
  | ok place =>
    simp only [hl, bind, Except.bind] at h
    repeat' split at h
    all_goals cases h

theorem makeFrom_ne_nullInName {d : Disk} {p : Path} (hp : d.locate p ≠ .error .nullInName)
    {slashes : Nat} (hslashes : slashes = p.slashes) {names : List String}
    (hnames : ∀ n ∈ names, n ∈ p.parts) : d.makeFrom slashes names ≠ .error .nullInName := by
  have made : ∀ {d₀ : Disk} {names : List String}, Grows d d₀ → (∀ n ∈ names, n ∈ p.parts) →
      d₀.makeDirectory ⟨slashes, names.reverse⟩ ≠ .error .nullInName := by
    intro d₀ names hg hnames h
    refine locate_ne_nullInName hp hg.here hslashes (fun n hn => ?_) (locate_of_makeDirectory h)
    exact hnames n (List.mem_reverse.1 hn)
  induction names with
  | nil =>
    intro h
    unfold makeFrom at h
    split at h
    · cases h
    · exact @made d [] (.refl d) hnames h
  | cons n above ih =>
    intro h
    rcases makeFrom_cons h with h | h | h | ⟨e, hm, h⟩ | ⟨d₁, hm, h | h⟩
    · cases h
    · cases h
    · exact made (.refl d) hnames h
    · cases h
      exact ih (fun n hn => hnames n (List.mem_cons_of_mem _ hn)) hm
    · cases h
    · exact made (grows_makeFrom _ _ hm) hnames h

/-- Saving fails in other ways only, if a file can have the path. -/
theorem saveText_ne_nullInName {d : Disk} {p : Path} (hp : d.locate p ≠ .error .nullInName)
    (text : String) : (d.saveText p text).1 ≠ .error .nullInName := by
  unfold saveText
  cases hm : d.makeDirectories p.parent with
  | error e =>
    intro h
    cases h
    refine makeFrom_ne_nullInName hp rfl (fun n hn => ?_) hm
    exact (List.dropLast_subset _) (List.mem_reverse.1 hn)
  | ok d₁ =>
    dsimp only
    cases hw : d₁.writeText p text with
    | ok d₂ => exact nofun
    | error e =>
      intro h
      cases h
      exact locate_ne_nullInName hp (grows_makeFrom _ _ hm).here rfl (fun _ hn => hn)
        (locate_of_writeText hw)

/-- A directory with such a name is not made, and so nothing is saved in it. -/
theorem saveText_eq_nullInName {d : Disk} {dir : Path} (h : d.locate dir = .error .nullInName)
    (name text : String) : (d.saveText (dir.child name) text).1 = .error .nullInName := by
  have hmake : ∀ p : Path, d.locate p = .error .nullInName →
      d.makeDirectory p = .error .nullInName := by
    intro p hp
    unfold makeDirectory
    rw [hp]
    rfl
  have hdirs : d.makeDirectories dir = .error .nullInName := by
    have hpath : (⟨dir.slashes, dir.parts.reverse.reverse⟩ : Path) = dir := by
      rw [List.reverse_reverse]
    have hfirst := hmake _ h
    rw [← hpath] at hfirst
    unfold makeDirectories
    cases hr : dir.parts.reverse <;> rw [hr] at hfirst <;> unfold makeFrom
    · rw [show (⟨dir.slashes, []⟩ : Path) = ⟨dir.slashes, [].reverse⟩ from rfl, hfirst]
    · dsimp only
      rw [hfirst]
  unfold saveText
  rw [Path.parent_child, hdirs]

/-! ## Reading back -/

theorem readText_put {d : Disk} {p : Path} {place : List String} (hp : d.locate p = .ok place)
    (hn : d.node? place ≠ some .directory) (text : String) :
    (d.put place (.file text.toUTF8)).readText p = decode text.toUTF8 := by
  have hne : place ≠ [] := fun e => hn (by rw [e]; rfl)
  unfold readText readBytes
  rw [locate_of_grows (grows_put_file hn _) hp]
  simp only [bind, Except.bind, node?_put_self hne]

/-- **A text that was saved is read back**, if all its line ends are line feeds. -/
theorem readText_saveText {d : Disk} {p : Path} {text : String}
    (h : (d.saveText p text).1 = .ok ()) (htext : '\r' ∉ text.toList) :
    (d.saveText p text).2.readText p = .ok text := by
  unfold saveText at h ⊢
  cases hm : d.makeDirectories p.parent with
  | error e => rw [hm] at h; cases h
  | ok d₁ =>
    rw [hm] at h
    dsimp only at h ⊢
    cases hw : d₁.writeText p text with
    | error e => rw [hw] at h; cases h
    | ok d₂ =>
      obtain ⟨place, hl, hn, rfl⟩ := writeBytes_ok hw
      dsimp only
      rw [readText_put hl hn, decode_toUTF8, Text.unifyBreaks_of_not_mem htext, String.ofList_toList]

/-- What is read at a path stays when something is written elsewhere. -/
theorem readText_put_of_ne {d : Disk} {p : Path} {q : List String} {text : String} {node : Node}
    (h : d.readText p = .ok text) (hg : Grows d (d.put q node))
    (hq : q ≠ (p.resolve d.here).parts) : (d.put q node).readText p = .ok text := by
  unfold readText readBytes at h ⊢
  cases hl : d.locate p with
  | error e => rw [hl] at h; cases h
  | ok place =>
    have hne : place ≠ q := fun e => hq (e ▸ locate_eq hl)
    rw [locate_of_grows hg hl]
    simp only [hl, bind, Except.bind, node?_put_of_ne hne] at h ⊢
    exact h

end Disk

end Files

end LiterateConfig
