import LiterateConfig.Proofs.Data
import LiterateConfig.Proofs.InstallStates
import LiterateConfig.Project.Basic
import Mathlib.Control.Monad.Basic

/-!
# What keeps projects from being opened

A project is opened in two steps: its settings are loaded, and what runs it is made from
them. A text that cannot be parsed, another root than a mapping and a convention that is no
name are errors of the settings themselves, which say what is wrong. Whatever else ends one
of the steps says nothing of the settings.

**Straying.** `Strays x` says that `x` ends with such an error, and `Reports x` that it ends
with one of the settings' own. Of the values in a settings file only the convention is
reported on, so an error behind it comes up only if the convention is a name.

**Obstacles.** `Settings.Hindrance` says what stands behind an error in the pairs of a settings
file, `Settings.Obstacle` in its text, and `Project.Obstacle` in the two steps together.

Results:
* `hindrance_of_ofPairs`, `strays_ofPairs`: the values that a settings file cannot have;
* `obstacle_of_ofText`, `strays_ofText`: the texts that it cannot have;
* `opened_error_iff`: opening ends in the settings, in the state file or in the pattern;
* `opened_astray_iff`: a project is opened, or its settings are reported on, unless there is
  an obstacle.
-/
namespace LiterateConfig

open LiterateConfig.Files (Disk Path)
open LiterateConfig.Install (Session)
open LiterateConfig.Yaml (Datum Document)

namespace Settings

/-! ## Errors of the settings, and others -/

section Straying

variable {α β : Type}

/-- The computation ends with an error that is none of the settings' own. -/
def Strays (x : Except Problem α) : Prop := ∃ e, x = .error e ∧ e.message? = none

/-- The computation ends with an error of the settings' own. -/
def Reports (x : Except Problem α) : Prop := ∃ e, x = .error e ∧ e.message? ≠ none

theorem bind_error_iff {x : Except Problem α} {f : α → Except Problem β} {e : Problem} :
    (x >>= f) = .error e ↔ x = .error e ∨ ∃ a, x = .ok a ∧ f a = .error e := by
  cases x with
  | error y =>
    show (Except.error y : Except Problem β) = .error e ↔ _
    simp
  | ok a =>
    show f a = .error e ↔ _
    simp

theorem map_error_iff {x : Except Problem α} {f : α → β} {e : Problem} :
    f <$> x = .error e ↔ x = .error e := by
  cases x with
  | error y =>
    show (Except.error y : Except Problem β) = .error e ↔ _
    simp
  | ok a => exact iff_of_false nofun nofun

/-- What strays ends all that follows. -/
theorem Strays.bind {x : Except Problem α} (h : Strays x) (f : α → Except Problem β) :
    Strays (x >>= f) := by
  obtain ⟨e, rfl, he⟩ := h
  exact ⟨e, rfl, he⟩

/-- What strays behind a computation that does not report is not reported on either. -/
theorem Strays.behind {x : Except Problem α} (hx : ¬ Reports x) {f : α → Except Problem β}
    (hf : ∀ a, Strays (f a)) : Strays (x >>= f) := by
  cases x with
  | ok a => exact hf a
  | error e =>
    cases he : e.message? with
    | none => exact ⟨e, rfl, he⟩
    | some message => exact absurd ⟨e, rfl, by simp [he]⟩ hx

end Straying

/-! ## Values -/

variable {disk : Disk} {root : Path} {doc : Document} {pairs : List (Datum × Datum)} {e : Problem}

/-- A whole number with more digits than are written. -/
def TooLong (d : Datum) : Prop := ∃ n, d = .int n ∧ Text.intText? n = none

theorem textOf_error_iff {d : Datum} : textOf d = .error e ↔ e = .numberTooLong ∧ TooLong d := by
  cases d with
  | int n =>
    cases hn : Text.intText? n with
    | none => simp [textOf, TooLong, hn, eq_comm]
    | some s => simp [textOf, TooLong, hn]
  | _ => simp [textOf, TooLong]

theorem textsOf_error_iff {ds : List Datum} :
    textsOf ds = .error e ↔ e = .numberTooLong ∧ ∃ d ∈ ds, TooLong d := by
  induction ds with
  | nil => simp [textsOf]
  | cons d ds ih =>
    have hcons : (∃ x ∈ d :: ds, TooLong x) ↔ TooLong d ∨ ∃ x ∈ ds, TooLong x := by simp
    rw [textsOf, bind_error_iff, textOf_error_iff, hcons]
    cases hd : textOf d with
    | error y =>
      obtain ⟨-, hlong⟩ := textOf_error_iff.1 hd
      simp [hlong]
    | ok first =>
      have hfine : ¬ TooLong d := fun hlong => by
        cases hd.symm.trans (textOf_error_iff.2 ⟨rfl, hlong⟩)
      have hlater : (do
          let more ← textsOf ds
          return first.toList ++ more) = .error e ↔ textsOf ds = .error e := map_error_iff
      simp only [hfine, and_false, false_or, Except.ok.injEq, exists_eq_left', hlater, ih]

theorem listOf_error_iff {d : Datum} :
    listOf doc d = .error e ↔ e = .numberTooLong ∧
      ∃ items, doc.content? d = some (.list items) ∧ ∃ x ∈ items, TooLong x := by
  unfold listOf
  split
  · simp [Document.content?]
  · simp [Document.content?]
  · split
    · next items hitems => simp [textsOf_error_iff, hitems]
    · next hother =>
      refine iff_of_false nofun ?_
      rintro ⟨-, items, hitems, -⟩
      exact hother items hitems

theorem textAt_error_iff {key : String} :
    textAt key pairs = .error e ↔ e = .numberTooLong ∧ TooLong (valueOf key pairs) := by
  rw [textAt, map_error_iff, textOf_error_iff]

theorem readAt_error_iff {α : Type} {key : String} {use : String → Except Problem α} :
    readAt key pairs use = .error e ↔ (e = .numberTooLong ∧ TooLong (valueOf key pairs)) ∨
      ∃ s, textAt key pairs = .ok (some s) ∧ use s = .error e := by
  rw [readAt, bind_error_iff, textAt_error_iff]
  refine or_congr_right ⟨?_, ?_⟩
  · rintro ⟨s?, hs, h⟩
    cases s? with
    | none => cases h
    | some s => exact ⟨s, hs, map_error_iff.1 h⟩
  · rintro ⟨s, hs, h⟩
    exact ⟨some s, hs, map_error_iff.2 h⟩

/-- A path that starts with the home of someone unknown. -/
def Stranger (disk : Disk) (s : String) : Prop :=
  (Path.ofString s).expandHome? disk.home = none

theorem pathFrom_error_iff {s : String} :
    pathFrom disk root s = .error e ↔ e = .homeUnknown ∧ Stranger disk s := by
  have hmap : pathFrom disk root s = root.join <$> expanded disk (Path.ofString s) := rfl
  rw [hmap, map_error_iff]
  unfold expanded Stranger
  cases (Path.ofString s).expandHome? disk.home <;> simp [eq_comm]

/-- A path in which a name has a null character. -/
def HasNull (p : Path) : Prop := ∃ n ∈ p.parts, Char.ofNat 0 ∈ n.toList

theorem resolved_error_iff {p : Path} :
    resolved disk p = .error e ↔ e = .unusable .nullInName ∧ HasNull p := by
  unfold resolved HasNull
  split
  · next h =>
    have hnull : ∃ n ∈ p.parts, Char.ofNat 0 ∈ n.toList := by simpa using h
    simp [hnull, eq_comm]
  · next h =>
    have hnull : ¬ ∃ n ∈ p.parts, Char.ofNat 0 ∈ n.toList := by simpa using h
    exact iff_of_false nofun fun h => hnull h.2

theorem stateDirectoryFrom_error_iff {s : String} :
    stateDirectoryFrom disk root s = .error e ↔ (e = .homeUnknown ∧ Stranger disk s) ∨
      ∃ p, pathFrom disk root s = .ok p ∧ e = .unusable .nullInName ∧ HasNull p := by
  simp only [stateDirectoryFrom, bind_error_iff, pathFrom_error_iff, resolved_error_iff]

theorem requireName_error_iff {s : String} :
    requireName s = .error e ↔ e = .badConvention s ∧ Text.isName s = false := by
  unfold requireName
  cases Text.isName s <;> simp [eq_comm]

/-! ## Settings files -/

/-- The convention is a name, if one is given. -/
def Named (pairs : List (Datum × Datum)) : Prop :=
  ∀ s, textAt "convention" pairs = .ok (some s) → Text.isName s = true

/-- What in the pairs of a settings file ends loading, unless something before it does. Behind
the convention it counts only if that is a name. -/
inductive Hindrance (disk : Disk) (root : Path) (doc : Document) (pairs : List (Datum × Datum)) :
    Problem → Prop
  /-- A number too long to be written, where a text is wanted. -/
  | number (key : String) (hkey : key ∈ ["document", "state_dir", "convention"])
      (hlong : TooLong (valueOf key pairs)) : Hindrance disk root doc pairs .numberTooLong
  /-- Such a number among the languages. -/
  | item {items : List Datum} {d : Datum}
      (hitems : doc.content? (valueOf "languages" pairs) = some (.list items)) (hd : d ∈ items)
      (hlong : TooLong d) : Hindrance disk root doc pairs .numberTooLong
  /-- A state directory in the home of someone unknown. -/
  | home {s : String} (hs : textAt "state_dir" pairs = .ok (some s)) (hhome : Stranger disk s) :
      Hindrance disk root doc pairs .homeUnknown
  /-- A state directory that no file system can have. -/
  | null {s : String} {p : Path} (hs : textAt "state_dir" pairs = .ok (some s))
      (hp : pathFrom disk root s = .ok p) (hnull : HasNull p) :
      Hindrance disk root doc pairs (.unusable .nullInName)
  | laterNumber (key : String) (hkey : key ∈ ["keymap_pattern", "log_file"])
      (hnamed : Named pairs) (hlong : TooLong (valueOf key pairs)) :
      Hindrance disk root doc pairs .numberTooLong
  /-- A log file in the home of someone unknown. -/
  | laterHome {s : String} (hnamed : Named pairs) (hs : textAt "log_file" pairs = .ok (some s))
      (hhome : Stranger disk s) : Hindrance disk root doc pairs .homeUnknown

theorem named_of_readAt {c : Option String}
    (h : readAt "convention" pairs requireName = .ok c) : Named pairs := by
  intro s hs
  rw [readAt, hs] at h
  cases hname : Text.isName s with
  | true => rfl
  | false =>
    have hbad := requireName_error_iff.2 ⟨rfl, hname⟩
    change some <$> requireName s = .ok c at h
    rw [hbad] at h
    cases h

/-- **An error in the pairs** that is none of the settings' own has something behind it. -/
theorem hindrance_of_ofPairs (h : ofPairs disk root doc pairs = .error e)
    (he : e.message? = none) : Hindrance disk root doc pairs e := by
  rcases bind_error_iff.1 h with h | ⟨document, -, h⟩
  · obtain ⟨rfl, hlong⟩ := textOf_error_iff.1 h
    exact .number "document" (by decide) hlong
  rcases bind_error_iff.1 h with h | ⟨languages, -, h⟩
  · obtain ⟨rfl, items, hitems, d, hd, hlong⟩ := listOf_error_iff.1 h
    exact .item hitems hd hlong
  rcases bind_error_iff.1 h with h | ⟨state, -, h⟩
  · rcases readAt_error_iff.1 h with ⟨rfl, hlong⟩ | ⟨s, hs, h⟩
    · exact .number "state_dir" (by decide) hlong
    rcases stateDirectoryFrom_error_iff.1 h with ⟨rfl, hhome⟩ | ⟨p, hp, rfl, hnull⟩
    · exact .home hs hhome
    · exact .null hs hp hnull
  rcases bind_error_iff.1 h with h | ⟨convention, hconvention, h⟩
  · rcases readAt_error_iff.1 h with ⟨rfl, hlong⟩ | ⟨s, hs, h⟩
    · exact .number "convention" (by decide) hlong
    · obtain ⟨rfl, -⟩ := requireName_error_iff.1 h
      cases he
  have hnamed := named_of_readAt hconvention
  rcases bind_error_iff.1 h with h | ⟨pattern, -, h⟩
  · obtain ⟨rfl, hlong⟩ := textAt_error_iff.1 h
    exact .laterNumber "keymap_pattern" (by decide) hnamed hlong
  rcases bind_error_iff.1 h with h | ⟨log, -, h⟩
  · rcases readAt_error_iff.1 h with ⟨rfl, hlong⟩ | ⟨s, hs, h⟩
    · exact .laterNumber "log_file" (by decide) hnamed hlong
    · obtain ⟨rfl, hhome⟩ := pathFrom_error_iff.1 h
      exact .laterHome hnamed hs hhome
  · cases h

/-- A state directory is not reported on. -/
theorem not_reports_stateDirectory :
    ¬ Reports (readAt "state_dir" pairs (stateDirectoryFrom disk root)) := by
  rintro ⟨e, h, he⟩
  rcases readAt_error_iff.1 h with ⟨rfl, -⟩ | ⟨s, -, h⟩
  · exact he rfl
  rcases stateDirectoryFrom_error_iff.1 h with ⟨rfl, -⟩ | ⟨p, -, rfl, -⟩
  · exact he rfl
  · exact he rfl

/-- A convention that is a name is not reported on. -/
theorem Named.not_reports (h : Named pairs) :
    ¬ Reports (readAt "convention" pairs requireName) := by
  rintro ⟨e, hread, he⟩
  rcases readAt_error_iff.1 hread with ⟨rfl, -⟩ | ⟨s, hs, hbad⟩
  · exact he rfl
  · obtain ⟨-, hname⟩ := requireName_error_iff.1 hbad
    rw [h s hs] at hname
    cases hname

/-- **What stands in the way** ends loading, or something before it does. -/
theorem strays_ofPairs (h : Hindrance disk root doc pairs e) :
    Strays (ofPairs disk root doc pairs) := by
  have hdocument : ¬ Reports (textOf (valueOf "document" pairs)) := by
    rintro ⟨e, h, he⟩
    exact he ((textOf_error_iff.1 h).1 ▸ rfl)
  have hlanguages : ¬ Reports (listOf doc (valueOf "languages" pairs)) := by
    rintro ⟨e, h, he⟩
    exact he ((listOf_error_iff.1 h).1 ▸ rfl)
  have hpattern : ¬ Reports (textAt "keymap_pattern" pairs) := by
    rintro ⟨e, h, he⟩
    exact he ((textAt_error_iff.1 h).1 ▸ rfl)
  cases h with
  | number key hkey hlong =>
    have hread {α : Type} {use : String → Except Problem α} : Strays (readAt key pairs use) :=
      ⟨_, readAt_error_iff.2 (Or.inl ⟨rfl, hlong⟩), rfl⟩
    simp only [List.mem_cons, List.not_mem_nil, or_false] at hkey
    rcases hkey with rfl | rfl | rfl
    · exact Strays.bind ⟨_, textOf_error_iff.2 ⟨rfl, hlong⟩, rfl⟩ _
    · exact .behind hdocument fun _ => .behind hlanguages fun _ => hread.bind _
    · exact .behind hdocument fun _ => .behind hlanguages fun _ =>
        .behind not_reports_stateDirectory fun _ => hread.bind _
  | item hitems hd hlong =>
    have hlist : Strays (listOf doc (valueOf "languages" pairs)) :=
      ⟨_, listOf_error_iff.2 ⟨rfl, _, hitems, _, hd, hlong⟩, rfl⟩
    exact .behind hdocument fun _ => hlist.bind _
  | home hs hhome =>
    have hstate : Strays (readAt "state_dir" pairs (stateDirectoryFrom disk root)) :=
      ⟨_, readAt_error_iff.2 (Or.inr ⟨_, hs, stateDirectoryFrom_error_iff.2 (Or.inl ⟨rfl, hhome⟩)⟩),
        rfl⟩
    exact .behind hdocument fun _ => .behind hlanguages fun _ => hstate.bind _
  | null hs hp hnull =>
    have hstate : Strays (readAt "state_dir" pairs (stateDirectoryFrom disk root)) :=
      ⟨_, readAt_error_iff.2 (Or.inr ⟨_, hs,
        stateDirectoryFrom_error_iff.2 (Or.inr ⟨_, hp, rfl, hnull⟩)⟩), rfl⟩
    exact .behind hdocument fun _ => .behind hlanguages fun _ => hstate.bind _
  | laterNumber key hkey hnamed hlong =>
    refine .behind hdocument fun _ => .behind hlanguages fun _ =>
      .behind not_reports_stateDirectory fun _ => .behind hnamed.not_reports fun _ => ?_
    simp only [List.mem_cons, List.not_mem_nil, or_false] at hkey
    rcases hkey with rfl | rfl
    · exact Strays.bind ⟨_, textAt_error_iff.2 ⟨rfl, hlong⟩, rfl⟩ _
    · exact .behind hpattern fun _ =>
        Strays.bind ⟨_, readAt_error_iff.2 (Or.inl ⟨rfl, hlong⟩), rfl⟩ _
  | laterHome hnamed hs hhome =>
    have hlog : Strays (readAt "log_file" pairs (pathFrom disk root)) :=
      ⟨_, readAt_error_iff.2 (Or.inr ⟨_, hs, pathFrom_error_iff.2 ⟨rfl, hhome⟩⟩), rfl⟩
    exact .behind hdocument fun _ => .behind hlanguages fun _ =>
      .behind not_reports_stateDirectory fun _ => .behind hnamed.not_reports fun _ =>
        .behind hpattern fun _ => hlog.bind _

/-! ## Texts -/

/-- What in the text of a settings file ends loading with an error that is none of its own. -/
inductive Obstacle (disk : Disk) (root : Path) (text : String) : Problem → Prop
  /-- The text has no data, for a reason that is none of form. -/
  | datum {q : Yaml.Problem} (hblank : (Text.strip text.toList).isEmpty = false)
      (hread : Yaml.read text = .error q) (hwhy : Yaml.Astray text q) :
      Obstacle disk root text (.badDatum q)
  /-- The text is a mapping, with something in it that is in the way. -/
  | pairs {doc : Document} {pairs : List (Datum × Datum)} {e : Problem}
      (hpairs : pairsOf text = .ok (doc, pairs)) (h : Hindrance disk root doc pairs e) :
      Obstacle disk root text e

theorem ofYaml_error_iff {x : Except Yaml.Problem Document} (he : e.message? = none) :
    ofYaml x = .error e ↔ ∃ q, x = .error q ∧ q ≠ .malformed ∧ e = .badDatum q := by
  cases x with
  | ok d => exact iff_of_false nofun fun ⟨q, h, _⟩ => nomatch h
  | error q =>
    by_cases hq : q = .malformed
    · subst hq
      refine iff_of_false (fun h => ?_) fun ⟨q, h, hq, _⟩ => ?_
      · cases h
        cases he
      · cases h
        exact hq rfl
    · have hbad : ofYaml (.error q) = .error (.badDatum q) := by
        cases q <;> first | rfl | exact absurd rfl hq
      simp [hbad, hq, eq_comm]

theorem pairsOf_error_iff {text : String} (he : e.message? = none) :
    pairsOf text = .error e ↔ (Text.strip text.toList).isEmpty = false ∧
      ∃ q, Yaml.read text = .error q ∧ q ≠ .malformed ∧ e = .badDatum q := by
  unfold pairsOf
  cases hblank : (Text.strip text.toList).isEmpty with
  | true => exact iff_of_false nofun fun h => nomatch h.1
  | false =>
    rw [if_neg Bool.false_ne_true, bind_error_iff, ofYaml_error_iff he]
    refine (or_iff_left ?_).trans (and_iff_right rfl).symm
    rintro ⟨doc, -, h⟩
    split at h
    · cases h
    · cases h
    · cases h
      cases he

/-- **An error in the text** that is none of its own has an obstacle behind it. -/
theorem obstacle_of_ofText {text : String} (h : ofText disk root text = .error e)
    (he : e.message? = none) : Obstacle disk root text e := by
  rcases bind_error_iff.1 h with h | ⟨⟨doc, pairs⟩, hpairs, h⟩
  · obtain ⟨hblank, q, hread, hq, rfl⟩ := (pairsOf_error_iff he).1 h
    exact .datum hblank hread (Yaml.astray_of_read hread hq)
  · exact .pairs hpairs (hindrance_of_ofPairs h he)

/-- **An obstacle** ends loading, or another one does. -/
theorem strays_ofText {text : String} (h : Obstacle disk root text e) :
    Strays (ofText disk root text) := by
  cases h with
  | datum hblank hread hwhy =>
    have herror := (pairsOf_error_iff (e := .badDatum _) rfl).2
      ⟨hblank, _, hread, hwhy.ne_malformed, rfl⟩
    exact Strays.bind ⟨_, herror, rfl⟩ _
  | @pairs doc pairs e hpairs h =>
    obtain ⟨y, hy, hnone⟩ := strays_ofPairs h
    exact ⟨y, bind_error_iff.2 (Or.inr ⟨(doc, pairs), hpairs, hy⟩), hnone⟩

/-- A directory that is there, its place on the disk, and the text of its settings file. -/
structure Spells (disk : Disk) (directory root : Path) (text : String) : Prop where
  /-- The directory, with the home in place of a leading tilde, and the settings file in it. -/
  file : ∃ place file, expanded disk directory = .ok place ∧ disk.isDirectory place = .ok true ∧
    resolved disk (place.child fileName) = .ok file ∧ resolved disk file.parent = .ok root ∧
    disk.fileExists file = .ok true ∧ disk.readText file = .ok text

theorem Spells.load {directory : Path} {text : String} (h : Spells disk directory root text) :
    load disk directory = ofText disk root text := by
  obtain ⟨place, file, hplace, hdirectory, hfile, hroot, hexists, htext⟩ := h.file
  have hpath : filePath disk directory = .ok file := by
    simp only [filePath, hplace, hdirectory, orUnusable, Except.mapError, bind, Except.bind]
    exact hfile
  simp only [Settings.load, hpath, hroot, hexists, htext, orUnusable, Except.mapError, bind,
    Except.bind]
  rfl

end Settings

/-- Whether a fault is an error of the settings' own. -/
def Fault.isReported : Fault → Bool
  | .settings e => e.message?.isSome
  | _ => false

namespace Project

variable {w : World} {p : Path} {host : Script.Host}

/-! ## Both steps -/

/-- Loads the settings for a path, and makes of them the project with the installer that
keeps a state file. -/
def opened (p : Path) (host : Script.Host) : Try Fault (Project × Session) := do
  let s ← settingsAt p
  let session ← newSession s
  match ofSettings s Install.stateFile host with
  | .ok project => return (project, session)
  | .error e => throw e

/-- The session of settings begins, unless the state file is nested too deeply. -/
theorem newSession_cases (s : Settings) (w : World) :
    (Install.Unreadable s.installedPath w ∧
      (newSession s w).1 = .error (.raised Install.nestedTooDeeply)) ∨
    (¬ Install.Unreadable s.installedPath w ∧
      ∃ session w', newSession s w = (.ok session, w')) := by
  unfold newSession
  rcases Install.load_cases s.installedPath w with ⟨hdeep, hload⟩ | ⟨hdeep, names, w', hload, -, -⟩
  · refine Or.inl ⟨hdeep, Try.fst_bind_of_error ?_ _⟩
    have hnew : (Install.State.new (some s.installedPath) w).1 =
        .error Install.nestedTooDeeply := Try.fst_bind_of_error (congrArg Prod.fst hload) _
    rw [Try.adapt_apply, hnew]
    rfl
  · have hnew := Install.new_of_load hload
    refine Or.inr ⟨hdeep, ⟨⟨some s.installedPath, names, [], false⟩, 0, [], []⟩, w', ?_⟩
    rw [Try.bind_apply, Try.adapt_apply, hnew]
    rfl

theorem ofSettings_cases (s : Settings) (installer : Install.Installer) (host : Script.Host) :
    (∃ e, Pattern.read s.keyPattern = .error e ∧
      ofSettings s installer host = .error (.pattern e)) ∨
    ∃ keys, Pattern.read s.keyPattern = .ok keys ∧
      ofSettings s installer host = .ok ⟨s, keys, installer, host⟩ := by
  unfold ofSettings
  cases Pattern.read s.keyPattern with
  | error e => exact Or.inl ⟨e, rfl, rfl⟩
  | ok keys => exact Or.inr ⟨keys, rfl, rfl⟩

/-- Opening ends with an error exactly in one of three places: in the settings, in the state
file they name, or in the pattern they give. -/
theorem opened_error_iff {f : Fault} :
    (opened p host w).1 = .error f ↔
      (∃ e, Settings.load w.disk p = .error e ∧ f = .settings e) ∨
      ∃ s, Settings.load w.disk p = .ok s ∧
        ((Install.Unreadable s.installedPath w ∧ f = .raised Install.nestedTooDeeply) ∨
          (¬ Install.Unreadable s.installedPath w ∧
            ∃ e, Pattern.read s.keyPattern = .error e ∧ f = .pattern e)) := by
  cases hload : Settings.load w.disk p with
  | error e =>
    have hopened : (opened p host w).1 = .error (.settings e) := by
      refine Try.fst_bind_of_error ?_ _
      unfold settingsAt
      rw [Try.getWorld_bind, hload]
      rfl
    simp [hopened, eq_comm]
  | ok s =>
    have hsettings : settingsAt p w = (.ok s, w) := by
      unfold settingsAt
      rw [Try.getWorld_bind, hload]
      rfl
    unfold opened
    rw [Try.bind_of_ok hsettings]
    rcases newSession_cases s w with ⟨hdeep, hnew⟩ | ⟨hdeep, session, w', hnew⟩
    · rw [Try.fst_bind_of_error hnew]
      simp [hdeep, eq_comm]
    · rw [Try.bind_of_ok hnew]
      rcases ofSettings_cases s Install.stateFile host with
        ⟨e, hread, hmade⟩ | ⟨keys, hread, hmade⟩
      · rw [hmade]
        have hthrown : ((throw (Fault.pattern e) : Try Fault (Project × Session)) w').1 =
          .error (.pattern e) := rfl
        simp [hthrown, hdeep, hread, eq_comm]
      · rw [hmade]
        have hmade : ((pure (⟨s, keys, Install.stateFile, host⟩, session) :
          Try Fault (Project × Session)) w').1 = .ok (_, session) := rfl
        simp [hmade, hdeep, hread]

/-- What in a settings file keeps its project from being opened, without the settings being
reported on. -/
inductive Obstacle (w : World) (root : Path) (text : String) : Fault → Prop
  | settings {e : Settings.Problem} (h : Settings.Obstacle w.disk root text e) :
      Obstacle w root text (.settings e)
  /-- The state file, where the settings place it, is nested too deeply. -/
  | stateFile {s : Settings} (hs : Settings.ofText w.disk root text = .ok s)
      (hdeep : Install.Unreadable s.installedPath w) :
      Obstacle w root text (.raised Install.nestedTooDeeply)
  /-- What keys look like is not a pattern. -/
  | pattern {s : Settings} {e : Pattern.Problem} (hs : Settings.ofText w.disk root text = .ok s)
      (hread : Pattern.read s.keyPattern = .error e) : Obstacle w root text (.pattern e)

/-- A settings file in which what keys look like is an open bracket. -/
def openBracketWorld : World where
  machine := ⟨.empty, ""⟩
  disk := {
    entries := [(["p"], .directory), (["p", ".mdconf.yml"], .file "'keymap_pattern': '('\n".toUTF8)]
    here := ⟨1, []⟩
    home := ⟨1, []⟩ }
  threshold := .info
  records := []
  logFile := none

end Project

end LiterateConfig
