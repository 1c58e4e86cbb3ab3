import LiterateConfig.Proofs.Associating
import LiterateConfig.Proofs.Headings

/-!
# Mentions that stand apart

Asking mentions to stand apart makes them fewer, and an entry gets the first spec that it
mentions. So an entry that gets an identifier under the narrow reading gets one under the
wide reading too, from the same spec or from an earlier one.

**Touching.** `Touches c`: a mention next to the character `c` would be part of something
longer. `StandsApart text identifier`: some occurrence of the identifier has no such
character on either side. Occurrences may overlap, so the first one alone does not decide.

Results:
* `mentions_false_iff`, `mentions_true_iff`: what the two readings of a mention say;
* `mentions_of_apart`: the narrow reading implies the wide one;
* `identifierFor?_wider`: what this means for one entry;
* `associate_apart_refines`: what it means for the associations.
-/
namespace LiterateConfig.Association

open LiterateConfig.Text
open LiterateConfig.Component (Spec)

/-! ## What a mention is -/

/-- The characters that would lengthen a mention beside them. -/
def Touches (c : Char) : Prop := isWord c = true ∨ c = '.' ∨ c = '/' ∨ c = '-'

theorem joinsMention_iff {c : Char} : joinsMention c = true ↔ Touches c := by
  simp [joinsMention, Touches, or_assoc]

/-- Some occurrence of an identifier is touched on neither side. -/
def StandsApart (text identifier : String) : Prop :=
  ∃ before after, text.toList = before ++ (identifier.toList ++ after) ∧
    (∀ c ∈ before.getLast?, ¬Touches c) ∧ ∀ c ∈ after.head?, ¬Touches c

/-- Nothing that touches stands at an edge. -/
theorem untouched_iff {edge : Option Char} :
    (!edge.any joinsMention) = true ↔ ∀ c ∈ edge, ¬Touches c := by
  cases edge <;> simp [← joinsMention_iff]

/-- Whether an identifier stands at the front and nothing touches its end. -/
def standsFirst (identifier l : List Char) : Bool :=
  (dropLead? identifier l).any fun rest => !rest.head?.any joinsMention

theorem standsFirst_iff {identifier l : List Char} :
    standsFirst identifier l = true ↔
      ∃ after, l = identifier ++ after ∧ ∀ c ∈ after.head?, ¬Touches c := by
  simp only [standsFirst, Option.any_eq_true, dropLead?_eq_some_iff, untouched_iff]

theorem standsApart_nil (identifier : List Char) (before : Option Char) :
    standsApart identifier before [] = (!before.any joinsMention && standsFirst identifier []) := by
  rw [standsApart, Bool.or_false, standsFirst]
  cases dropLead? identifier [] <;> rfl

theorem standsApart_cons (identifier : List Char) (before : Option Char) (c : Char) (r : List Char) :
    standsApart identifier before (c :: r) =
      (!before.any joinsMention && standsFirst identifier (c :: r) ||
        standsApart identifier (some c) r) := by
  rw [standsApart, standsFirst]
  cases dropLead? identifier (c :: r) <;> rfl

/-- The search by edges: `before` is what stands in front of the text. -/
theorem standsApart_eq_true_iff {identifier : List Char} (before : Option Char) (l : List Char) :
    standsApart identifier before l = true ↔
      ∃ front after, l = front ++ (identifier ++ after) ∧
        (∀ c ∈ front.getLast?.or before, ¬Touches c) ∧ ∀ c ∈ after.head?, ¬Touches c := by
  induction l generalizing before with
  | nil =>
    rw [standsApart_nil, Bool.and_eq_true, untouched_iff, standsFirst_iff]
    constructor
    · rintro ⟨hfront, after, hl, hafter⟩
      exact ⟨[], after, hl, hfront, hafter⟩
    · rintro ⟨front, after, hl, hfront, hafter⟩
      obtain ⟨rfl, -⟩ := List.append_eq_nil_iff.1 hl.symm
      exact ⟨hfront, after, hl, hafter⟩
  | cons c r ih =>
    rw [standsApart_cons, Bool.or_eq_true, Bool.and_eq_true, untouched_iff, standsFirst_iff, ih]
    constructor
    · rintro (⟨hfront, after, hl, hafter⟩ | ⟨front, after, rfl, hfront, hafter⟩)
      · exact ⟨[], after, hl, hfront, hafter⟩
      · exact ⟨c :: front, after, rfl, Document.getLast?_cons_or c front before ▸ hfront, hafter⟩
    · rintro ⟨front, after, hl, hfront, hafter⟩
      cases front with
      | nil => exact .inl ⟨hfront, after, hl, hafter⟩
      | cons d front =>
        obtain ⟨rfl, rfl⟩ := List.cons.inj hl
        rw [Document.getLast?_cons_or] at hfront
        exact .inr ⟨front, after, rfl, hfront, hafter⟩

/-- **The narrow reading**: some occurrence is touched on neither side. -/
theorem mentions_true_iff {text identifier : String} :
    mentions true text identifier = true ↔ StandsApart text identifier := by
  rw [mentions, if_pos rfl, standsApart_eq_true_iff]
  simp only [Option.or_none]
  rfl

/-- **The wide reading**: the identifier occurs. -/
theorem mentions_false_iff {text identifier : String} :
    mentions false text identifier = true ↔ identifier.toList <:+: text.toList := by
  rw [mentions, if_neg Bool.false_ne_true, occursIn_iff]

/-- An occurrence that stands apart is an occurrence. -/
theorem mentions_of_apart {text identifier : String} (h : mentions true text identifier = true) :
    mentions false text identifier = true := by
  obtain ⟨before, after, htext, -⟩ := mentions_true_iff.1 h
  exact mentions_false_iff.2 ⟨before, after, by rw [htext, List.append_assoc]⟩

/-! ## The first spec with an identifier -/

/-- Where the first spec with an identifier stands; behind all specs if none has it. -/
def firstBearing (specs : List Spec) (identifier : String) : Nat :=
  specs.findIdx fun s => s.identifier? == some identifier

theorem firstBearing_lt_iff {specs : List Spec} {identifier : String} :
    firstBearing specs identifier < specs.length ↔ ∃ s ∈ specs, s.identifier? = some identifier := by
  simp [firstBearing, List.findIdx_lt_length]

/-- A spec with the identifier is no further in front than the first one. -/
theorem firstBearing_le {before after : List Spec} {s : Spec} {identifier : String}
    (hs : s.identifier? = some identifier) :
    firstBearing (before ++ s :: after) identifier ≤ before.length := by
  rw [firstBearing, List.findIdx_append, List.findIdx_cons]
  split
  · exact Nat.le_of_lt ‹_›
  · simp [hs]

/-- Specs without the identifier are passed over. -/
theorem le_firstBearing {before : List Spec} (rest : List Spec) {identifier : String}
    (hbefore : ∀ r ∈ before, r.identifier? ≠ some identifier) :
    before.length ≤ firstBearing (before ++ rest) identifier := by
  have hnone : ¬firstBearing before identifier < before.length := by
    rw [firstBearing_lt_iff]
    rintro ⟨r, hr, hbears⟩
    exact hbefore r hr hbears
  unfold firstBearing at *
  rw [List.findIdx_append, if_neg hnone]
  omega

/-! ## One entry under the two readings -/

/-- **An entry that gets an identifier under the narrow reading gets one under the wide
reading**, and from a spec that stands no later. -/
theorem identifierFor?_wider {specs : List Spec} {e : Entry} {identifier : String}
    (hguess : e.text?.bind guessModule = none)
    (h : identifierFor? specs true e = some identifier) :
    ∃ other, identifierFor? specs false e = some other ∧
      firstBearing specs other ≤ firstBearing specs identifier ∧
      firstBearing specs identifier < specs.length := by
  obtain ⟨text, ht, h⟩ := Option.bind_eq_some_iff.1 h
  have hload : guessModule text = none := by simpa [ht] using hguess
  rw [hload, Option.none_or] at h
  obtain ⟨s, hmem, hs⟩ := List.exists_of_findSome?_eq_some h
  obtain ⟨hs, hapart⟩ := mentioned?_eq_some_iff.1 hs
  have hwide : mentioned? false text s = some identifier :=
    mentioned?_eq_some_iff.2 ⟨hs, mentions_of_apart hapart⟩
  cases hfound : specs.findSome? (mentioned? false text) with
  | none => simp [List.findSome?_eq_none_iff.1 hfound s hmem] at hwide
  | some other =>
    obtain ⟨before, first, after, hspecs, hfirst, hnone⟩ := List.findSome?_eq_some_iff.1 hfound
    -- in front of the first spec that is mentioned none bears an identifier of the text
    have hbefore : ∀ r ∈ before, r.identifier? ≠ some identifier := by
      intro r hr hbears
      have hnot := mentioned?_eq_none_iff.1 (hnone r hr) identifier hbears
      rw [mentions_of_apart hapart] at hnot
      cases hnot
    refine ⟨other, by simp [identifierFor?, ht, hload, hfound], ?_,
      firstBearing_lt_iff.2 ⟨s, hmem, hs⟩⟩
    rw [hspecs]
    exact Nat.le_trans (firstBearing_le (mentioned?_eq_some_iff.1 hfirst).1)
      (le_firstBearing _ hbefore)

/-- A module that is loaded by name decides under both readings. -/
theorem identifierFor?_of_guess (specs : List Spec) (apart : Bool) {e : Entry} {m : String}
    (h : e.text?.bind guessModule = some m) : identifierFor? specs apart e = some m := by
  obtain ⟨text, ht, hload⟩ := Option.bind_eq_some_iff.1 h
  simp [identifierFor?, ht, hload]

/-! ## All entries -/

/-- **Mentions that stand apart refine mentions.** What is associated under the narrow reading
is associated under the wide one. An entry that loads a module has the same identifier under
both; any other has, under the wide reading, that of a spec at or in front of the first one
that bears what it has under the narrow reading. -/
theorem associate_apart_refines (specs : List Spec) {entries : List Entry}
    (hdistinct : (entries.map Entry.index).Nodup) (w w' : World) :
    (∀ i identifier, (associate specs entries true w).1.get? i = some identifier →
      ∃ other, (associate specs entries false w').1.get? i = some other) ∧
    (∀ e ∈ entries, ∀ m, e.text?.bind guessModule = some m →
      (associate specs entries true w).1.get? e.index = some m ∧
        (associate specs entries false w').1.get? e.index = some m) ∧
    (∀ e ∈ entries, e.text?.bind guessModule = none → ∀ identifier,
      (associate specs entries true w).1.get? e.index = some identifier →
        ∃ other, (associate specs entries false w').1.get? e.index = some other ∧
          firstBearing specs other ≤ firstBearing specs identifier ∧
          firstBearing specs identifier < specs.length) ∧
    ∀ text identifier, mentions true text identifier = true ↔ StandsApart text identifier := by
  simp only [associate_fst]
  have hguessed : ∀ apart, ∀ e ∈ entries, ∀ m, e.text?.bind guessModule = some m →
      (find specs entries apart).2.get? e.index = some m := by
    intro apart e he m hm
    rw [get?_find_of_mem specs hdistinct apart he, identifierFor?_of_guess specs apart hm]
  have hmentioned : ∀ e ∈ entries, e.text?.bind guessModule = none → ∀ identifier,
      (find specs entries true).2.get? e.index = some identifier →
        ∃ other, (find specs entries false).2.get? e.index = some other ∧
          firstBearing specs other ≤ firstBearing specs identifier ∧
          firstBearing specs identifier < specs.length := by
    intro e he hguess identifier h
    rw [get?_find_of_mem specs hdistinct true he] at h
    rw [get?_find_of_mem specs hdistinct false he]
    exact identifierFor?_wider hguess h
  refine ⟨fun i identifier h => ?_, fun e he m hm => ⟨hguessed _ e he m hm, hguessed _ e he m hm⟩,
    hmentioned, fun _ _ => mentions_true_iff⟩
  have hsome := h
  rw [get?_find specs hdistinct] at hsome
  obtain ⟨e, hentry, -⟩ := Option.bind_eq_some_iff.1 hsome
  obtain ⟨he, rfl⟩ := (entryAt?_eq_some_iff hdistinct).1 hentry
  cases hguess : e.text?.bind guessModule with
  | some m => exact ⟨m, hguessed false e he m hguess⟩
  | none =>
    obtain ⟨other, hother, -⟩ := hmentioned e he hguess identifier h
    exact ⟨other, hother⟩

/-- Two specs, the name of one being the beginning of the name of the other. -/
def nestedNames : List Spec :=
  [{ Spec.empty with source := some "org/tool" }, { Spec.empty with source := some "org/tool-extras" }]

/-- Code that mentions the longer name, code that mentions the shorter one with a dot behind
it, and code that loads a module. -/
def nestedMentions : List Entry :=
  [⟨7, .source "use('org/tool-extras')", none⟩, ⟨2, .source "see org/tool.", none⟩,
    ⟨5, .source "require('m')", none⟩]

/-- The longer name is read as itself only under the narrow reading. -/
theorem associate_apart_refines_nestedNames :
    (nestedMentions.map Entry.index).Nodup ∧
      (associate nestedNames nestedMentions true stillWorld).1.get? 7 = some "org/tool-extras" ∧
      (associate nestedNames nestedMentions false stillWorld).1.get? 7 = some "org/tool" ∧
      (associate nestedNames nestedMentions true stillWorld).1.get? 2 = none ∧
      (associate nestedNames nestedMentions true stillWorld).1.get? 5 = some "m" ∧
      ∃ other, (associate nestedNames nestedMentions false stillWorld).1.get? 7 = some other ∧
        firstBearing nestedNames other ≤ firstBearing nestedNames "org/tool-extras" := by
  have hdistinct : (nestedMentions.map Entry.index).Nodup := by decide
  obtain ⟨-, hguessed, hmentioned, -⟩ :=
    associate_apart_refines nestedNames hdistinct stillWorld stillWorld
  have hlong : (associate nestedNames nestedMentions true stillWorld).1.get? 7 =
      some "org/tool-extras" := by decide +kernel
  obtain ⟨other, hother, hle, -⟩ :=
    hmentioned _ (.head _) (by decide +kernel) "org/tool-extras" hlong
  exact ⟨hdistinct, hlong, by decide +kernel, by decide +kernel,
    (hguessed _ (.tail _ (.tail _ (.head _))) "m" (by decide +kernel)).1, other, hother, hle⟩

end LiterateConfig.Association
