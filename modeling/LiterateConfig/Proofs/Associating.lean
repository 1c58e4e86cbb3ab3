import LiterateConfig.Association
import Mathlib.Data.List.Nodup

/-!
# What an entry is associated with

Entries are associated in two passes: all that load a module by name, and then, spec by
spec, those that mention it, an index that has got an identifier being passed over. All the
same an entry gets what it would get if it were the only one: the module that it loads, or
else the first identifier of a spec that it mentions.

**Passes.** Each pass gives identifiers to free indices and leaves the others as they are, so
the look-up of an index after a pass is what it had, `or` what the pass has for it.

Results:
* `get?_mentioning`, `get?_mentioned`: what one spec and all specs have for an index;
* `get?_find`: what is found for an index is what its entry gets alone;
* `associated_iff`: an index is associated exactly if its entry belongs somewhere; it does
  not matter what other entries there are, and further specs leave it as it is.
-/
namespace LiterateConfig.Association

open LiterateConfig.Component (Spec)

/-! ## What an entry gets alone -/

/-- The identifier of a spec, if there is one and a text mentions it. -/
def mentioned? (apart : Bool) (text : String) (s : Spec) : Option String :=
  s.identifier?.filter (mentions apart text)

/-- What an entry gets when it is the only one. -/
def identifierFor? (specs : List Spec) (apart : Bool) (e : Entry) : Option String :=
  e.text?.bind fun text => (guessModule text).or (specs.findSome? (mentioned? apart text))

/-- How an entry comes by an identifier. -/
inductive Belongs (specs : List Spec) (apart : Bool) (e : Entry) (identifier : String) : Prop
  /-- Its code loads the module. -/
  | loads {text : String} (ht : e.text? = some text) (hload : guessModule text = some identifier)
  /-- Its code loads no module, and the spec is the first of those that it mentions. -/
  | mentions {text : String} {before after : List Spec} {s : Spec} (ht : e.text? = some text)
      (hload : guessModule text = none) (hspecs : specs = before ++ s :: after)
      (hs : s.identifier? = some identifier) (hmention : mentions apart text identifier = true)
      (hfirst : ∀ r ∈ before, ∀ other, r.identifier? = some other →
        Association.mentions apart text other = false)

theorem mentioned?_eq_some_iff {apart : Bool} {text identifier : String} {s : Spec} :
    mentioned? apart text s = some identifier ↔
      s.identifier? = some identifier ∧ mentions apart text identifier = true :=
  Option.filter_eq_some_iff

theorem mentioned?_eq_none_iff {apart : Bool} {text : String} {s : Spec} :
    mentioned? apart text s = none ↔
      ∀ other, s.identifier? = some other → mentions apart text other = false := by
  simp [mentioned?, Option.filter_eq_none_iff]

theorem belongs_iff {specs : List Spec} {apart : Bool} {e : Entry} {identifier : String} :
    Belongs specs apart e identifier ↔ identifierFor? specs apart e = some identifier := by
  constructor
  · intro h
    cases h with
    | loads ht hload => simp [identifierFor?, ht, hload]
    | mentions ht hload hspecs hs hmention hfirst =>
      have hfound : specs.findSome? (mentioned? apart _) = some identifier :=
        List.findSome?_eq_some_iff.2 ⟨_, _, _, hspecs, mentioned?_eq_some_iff.2 ⟨hs, hmention⟩,
          fun r hr => mentioned?_eq_none_iff.2 (hfirst r hr)⟩
      simp [identifierFor?, ht, hload, hfound]
  · intro h
    obtain ⟨text, ht, h⟩ := Option.bind_eq_some_iff.1 h
    cases hload : guessModule text with
    | some m =>
      rw [hload] at h
      cases h
      exact .loads ht hload
    | none =>
      rw [hload, Option.none_or] at h
      obtain ⟨before, s, after, hspecs, hs, hnone⟩ := List.findSome?_eq_some_iff.1 h
      obtain ⟨hs, hmention⟩ := mentioned?_eq_some_iff.1 hs
      exact .mentions ht hload hspecs hs hmention
        fun r hr => mentioned?_eq_none_iff.1 (hnone r hr)

/-! ## The first pass -/

/-- The entry with an index. -/
def entryAt? (entries : List Entry) (i : Int) : Option Entry :=
  entries.find? fun e => e.index == i

/-- The guesses as pairs of a map. -/
def guessed (entries : List Entry) : Map :=
  (guesses entries).map fun f => (f.index, f.identifier)

theorem guessed_cons (e : Entry) (rest : List Entry) :
    guessed (e :: rest) =
      ((e.text?.bind guessModule).map fun m => (e.index, m)).toList ++ guessed rest := by
  unfold guessed guesses
  cases ht : e.text? with
  | none => simp [ht]
  | some text => cases hm : guessModule text <;> simp [ht, hm]

theorem keys_guessed (entries : List Entry) :
    (Keyed.keys (guessed entries)).Sublist (entries.map Entry.index) := by
  induction entries with
  | nil => exact .slnil
  | cons e rest ih =>
    rw [guessed_cons]
    cases e.text?.bind guessModule with
    | none => exact ih.cons e.index
    | some m => exact ih.cons_cons e.index

theorem get?_guessed {entries : List Entry} (hdistinct : (entries.map Entry.index).Nodup)
    (i : Int) :
    Keyed.get? i (guessed entries) =
      (entryAt? entries i).bind fun e => e.text?.bind guessModule := by
  induction entries with
  | nil => rfl
  | cons e rest ih =>
    obtain ⟨hnew, hrest⟩ := List.nodup_cons.1 hdistinct
    have hkey : e.index ∉ Keyed.keys (guessed rest) := fun hk =>
      hnew ((keys_guessed rest).subset hk)
    rw [guessed_cons]
    by_cases hi : e.index = i
    · subst hi
      have hentry : entryAt? (e :: rest) e.index = some e := by simp [entryAt?]
      rw [hentry, Option.bind_some]
      cases e.text?.bind guessModule with
      | none => exact Keyed.get?_eq_none_iff.2 hkey
      | some m => simp [Keyed.get?]
    · have hentry : entryAt? (e :: rest) i = entryAt? rest i := by simp [entryAt?, hi]
      rw [hentry, ← ih hrest]
      cases e.text?.bind guessModule with
      | none => rfl
      | some m => simp [Keyed.get?, hi]

/-! ## The second pass -/

/-- Whether one of the entries with an index mentions an identifier. -/
def mentionsAt (apart : Bool) (entries : List Entry) (i : Int) (identifier : String) : Bool :=
  entries.any fun e => e.index == i && e.text?.any fun text => mentions apart text identifier

/-- What one spec adds: its identifier, at the free indices of entries that mention it. -/
theorem get?_mentioning (apart : Bool) (identifier : String) (m : Map) (entries : List Entry)
    (i : Int) :
    (mentioning apart identifier m entries).2.get? i =
      (m.get? i).or (if mentionsAt apart entries i identifier then some identifier else none) := by
  induction entries generalizing m with
  | nil => simp [mentioning, mentionsAt]
  | cons e rest ih =>
    have hcons : mentionsAt apart (e :: rest) i identifier =
        ((e.index == i && e.text?.any fun text => mentions apart text identifier) ||
          mentionsAt apart rest i identifier) := List.any_cons
    unfold mentioning
    cases ht : e.text? with
    | none => simp [hcons, ht, ih]
    | some text =>
      dsimp only
      by_cases htakes : (m.get? e.index).isNone && mentions apart text identifier
      · rw [if_pos htakes]
        rw [Bool.and_eq_true, Option.isNone_iff_eq_none] at htakes
        obtain ⟨hfree, hmention⟩ := htakes
        rw [ih]
        by_cases hi : e.index = i
        · subst hi
          simp [hcons, ht, hmention, hfree, Keyed.get?_put_self]
        · simp [hcons, hi, Keyed.get?_put_of_ne (Ne.symm hi)]
      · rw [if_neg htakes, ih]
        by_cases hi : e.index = i
        · subst hi
          cases hfree : m.get? e.index with
          | some old => simp
          | none =>
            have hnot : mentions apart text identifier = false := by simpa [hfree] using htakes
            simp [hcons, ht, hnot]
        · simp [hcons, hi]

/-- What all specs add: to each free index the first identifier that is mentioned there. -/
theorem get?_mentioned (apart : Bool) (entries : List Entry) (m : Map) (specs : List Spec)
    (i : Int) :
    (mentioned apart entries m specs).2.get? i =
      (m.get? i).or (specs.findSome? fun s => s.identifier?.filter (mentionsAt apart entries i)) := by
  induction specs generalizing m with
  | nil => simp [mentioned]
  | cons s rest ih =>
    unfold mentioned
    cases hs : s.identifier? with
    | none => simp [hs, ih]
    | some identifier =>
      dsimp only
      rw [ih, get?_mentioning, Option.or_assoc, List.findSome?_cons, hs]
      by_cases hmention : mentionsAt apart entries i identifier = true
      · simp [Option.filter, hmention]
      · simp [Option.filter, hmention]

/-! ## Both passes -/

theorem entryAt?_eq_some_iff {entries : List Entry} (hdistinct : (entries.map Entry.index).Nodup)
    {i : Int} {e : Entry} : entryAt? entries i = some e ↔ e ∈ entries ∧ e.index = i := by
  constructor
  · intro h
    exact ⟨List.mem_of_find?_eq_some h, by simpa using List.find?_some h⟩
  · rintro ⟨he, rfl⟩
    cases hfound : entryAt? entries e.index with
    | none =>
      have hnone := List.find?_eq_none.1 hfound e he
      simp at hnone
    | some e' =>
      have hindex : e'.index = e.index := by simpa using List.find?_some hfound
      rw [List.inj_on_of_nodup_map hdistinct (List.mem_of_find?_eq_some hfound) he hindex]

/-- Where indices differ, only the entry with an index says what is mentioned there. -/
theorem mentionsAt_eq {entries : List Entry} (hdistinct : (entries.map Entry.index).Nodup)
    (apart : Bool) (i : Int) (identifier : String) :
    mentionsAt apart entries i identifier = ((entryAt? entries i).bind Entry.text?).any fun text =>
      mentions apart text identifier := by
  rw [Bool.eq_iff_iff]
  simp only [mentionsAt, List.any_eq_true, Bool.and_eq_true, beq_iff_eq, Option.any_eq_true,
    Option.bind_eq_some_iff, entryAt?_eq_some_iff hdistinct]
  grind

/-- **What is found for an index** is what its entry gets alone. -/
theorem get?_find (specs : List Spec) {entries : List Entry}
    (hdistinct : (entries.map Entry.index).Nodup) (apart : Bool) (i : Int) :
    (find specs entries apart).2.get? i =
      (entryAt? entries i).bind (identifierFor? specs apart) := by
  have hfirst : (Keyed.putAll (guessed entries) []).get? i =
      (entryAt? entries i).bind fun e => e.text?.bind guessModule := by
    rw [Keyed.putAll_of_nodup (hdistinct.sublist (keys_guessed entries)), get?_guessed hdistinct]
  show (mentioned apart entries (Keyed.putAll (guessed entries) []) specs).2.get? i = _
  rw [get?_mentioned, hfirst]
  have hat : mentionsAt apart entries i = fun identifier =>
      ((entryAt? entries i).bind Entry.text?).any fun text => mentions apart text identifier :=
    funext (mentionsAt_eq hdistinct apart i)
  rw [hat]
  cases entryAt? entries i with
  | none => simp [List.findSome?_eq_none_iff]
  | some e =>
    cases ht : e.text? with
    | none => simp [identifierFor?, ht, List.findSome?_eq_none_iff]
    | some text =>
      simp only [identifierFor?, Option.bind_some, ht, Option.any_some]
      rfl

/-! ## Associations -/

theorem associate_fst (specs : List Spec) (entries : List Entry) (apart : Bool) (w : World) :
    (associate specs entries apart w).1 = (find specs entries apart).2 := rfl

/-- What an entry gets does not depend on the entries around it. -/
theorem get?_find_of_mem (specs : List Spec) {entries : List Entry}
    (hdistinct : (entries.map Entry.index).Nodup) (apart : Bool) {e : Entry} (he : e ∈ entries) :
    (find specs entries apart).2.get? e.index = identifierFor? specs apart e := by
  have hentry : entryAt? entries e.index = some e :=
    (entryAt?_eq_some_iff hdistinct).2 ⟨he, rfl⟩
  rw [get?_find specs hdistinct, hentry, Option.bind_some]

/-- Further specs are looked at last. -/
theorem identifierFor?_append {specs : List Spec} {apart : Bool} {e : Entry} {identifier : String}
    (h : identifierFor? specs apart e = some identifier) (more : List Spec) :
    identifierFor? (specs ++ more) apart e = some identifier := by
  obtain ⟨text, ht, h⟩ := Option.bind_eq_some_iff.1 h
  simp [identifierFor?, ht, List.findSome?_append, ← Option.or_assoc, h]

/-- **An index is associated exactly if its entry belongs somewhere**: its code loads the
module, or it is the first of the specs that the code mentions. The other entries do not
matter, and what is associated stays so when there are further specs. -/
theorem associated_iff (specs : List Spec) {entries : List Entry}
    (hdistinct : (entries.map Entry.index).Nodup) (apart : Bool) (w : World) :
    (∀ i identifier, (associate specs entries apart w).1.get? i = some identifier ↔
      ∃ e ∈ entries, e.index = i ∧ Belongs specs apart e identifier) ∧
    (∀ (others : List Entry) (w' : World), (others.map Entry.index).Nodup →
      ∀ e ∈ entries, e ∈ others →
        (associate specs others apart w').1.get? e.index =
          (associate specs entries apart w).1.get? e.index) ∧
    (∀ (more : List Spec) (w' : World) i identifier,
      (associate specs entries apart w).1.get? i = some identifier →
        (associate (specs ++ more) entries apart w').1.get? i = some identifier) := by
  simp only [associate_fst]
  refine ⟨fun i identifier => ?_, fun others _ hothers e he he' => ?_,
    fun more _ i identifier h => ?_⟩
  · simp only [get?_find specs hdistinct, Option.bind_eq_some_iff,
      entryAt?_eq_some_iff hdistinct, belongs_iff, and_assoc]
  · rw [get?_find_of_mem specs hothers apart he', get?_find_of_mem specs hdistinct apart he]
  · rw [get?_find specs hdistinct] at h
    obtain ⟨e, he, h⟩ := Option.bind_eq_some_iff.1 h
    rw [get?_find _ hdistinct, he, Option.bind_some]
    exact identifierFor?_append h more

/-- Two specs of one name, one without a name, and one that is named by its path. -/
def namesakes : List Spec :=
  [{ Spec.empty with source := some "a/a" }, { Spec.empty with source := some "" },
    { Spec.empty with path := some "b" }, { Spec.empty with source := some "a/a" }]

/-- Code that loads a module and mentions a spec, code that mentions two specs, a function,
and code that mentions nothing. -/
def mixedEntries : List Entry :=
  [⟨4, .source "require('m').on('a/a')", none⟩, ⟨1, .source "use(b, 'a/a')", none⟩,
    ⟨3, .callable (.builtin .print), none⟩, ⟨2, .source "x = 1", none⟩]

/-- A world without files. -/
def stillWorld : World := ⟨⟨.empty, ""⟩, ⟨[], ⟨1, []⟩, ⟨1, []⟩⟩, .info, [], none⟩

/-- The module wins over the mention, and the first spec over the one that stands first in
the text. -/
theorem associated_iff_mixedEntries :
    (mixedEntries.map Entry.index).Nodup ∧
      (associate namesakes mixedEntries false stillWorld).1.get? 4 = some "m" ∧
      (associate namesakes mixedEntries false stillWorld).1.get? 1 = some "a/a" ∧
      (∀ identifier,
        (associate namesakes mixedEntries false stillWorld).1.get? 3 ≠ some identifier) := by
  have hdistinct : (mixedEntries.map Entry.index).Nodup := by decide
  obtain ⟨hiff, -, -⟩ := associated_iff namesakes hdistinct false stillWorld
  refine ⟨hdistinct, ?_, ?_, fun identifier h => ?_⟩
  · refine (hiff 4 "m").2 ⟨_, .head _, rfl, ?_⟩
    exact .loads rfl (by decide +kernel)
  · refine (hiff 1 "a/a").2 ⟨_, .tail _ (.head _), rfl, ?_⟩
    have hspecs : namesakes = [] ++ namesakes.head (by decide) :: namesakes.tail := rfl
    exact .mentions rfl (by decide +kernel) hspecs rfl (by decide +kernel) nofun
  · obtain ⟨e, he, hi, hbelongs⟩ := (hiff 3 identifier).1 h
    have hcode : e.text? = none := by
      simp only [mixedEntries, List.mem_cons, List.not_mem_nil, or_false] at he
      rcases he with rfl | rfl | rfl | rfl <;> simp_all [Entry.text?]
    cases hbelongs with
    | loads ht => simp [hcode] at ht
    | mentions ht => simp [hcode] at ht

end LiterateConfig.Association
