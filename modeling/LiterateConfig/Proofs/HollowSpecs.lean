import LiterateConfig.Proofs.Origins
import LiterateConfig.Proofs.PlainTexts

/-!
# Specs without a name and a hook

A dictionary counts as a component if it has a source, or if its path, its import or its
`config` counts as true. The spec takes less: the path and the import as texts, and `config`
as a hook only if it can be called. So a dictionary can count as a component and leave the
spec with nothing that it could be installed or set up by.

**Hollow dictionaries.** `Hollow h pairs`: the dictionary counts as a component, but gives no
text that is not empty and nothing that can be called. It has a `config` that is no hook, or
an error with an empty message as its path or its import.

Results:
* `isSome_desiredKey`: what has a name has a key among the installed components;
* `Spec.TakenFrom.hollow_iff`: what becomes of a dictionary;
* `build_hollow`: a block with a hollow dictionary;
* `named_or_hooked_iff`: which specs have a name or a hook.
-/
namespace LiterateConfig

open LiterateConfig.Block (Classified)
open LiterateConfig.Script (Heap Machine Raised Value)

namespace Script

/-- The text that is asked for, and the machine that is left. -/
theorem plainText_ok {v : Value} {t : String} {m m' : Machine}
    (h : plainText v m = (.ok t, m')) : m.heap.plain? v = some t ∧ m' = m := by
  change ofShown (m.heap.plain v) m = _ at h
  unfold Heap.plain?
  rcases hr : m.heap.plain v with (_ | _) | s <;> rw [hr] at h <;> cases h
  exact ⟨rfl, rfl⟩

end Script

namespace Component

variable {host : Script.Host} {convention : String} {c : Classified} {w w' : World}
  {m m' : Machine} {v : Value} {s : Spec}

/-! ## Names -/

theorem given_orElse (t u : Option String) :
    Spec.given (Spec.given t <|> u) = (Spec.given t <|> Spec.given u) := by
  have hgiven : Spec.given (Spec.given t) = Spec.given t := by
    simp [Spec.given, Option.filter_filter]
  cases h : Spec.given t with
  | none => rfl
  | some s =>
    rw [h] at hgiven
    exact hgiven

/-- The name is the first of three texts that is not empty. -/
theorem identifier?_eq (s : Spec) :
    s.identifier? = (Spec.given s.source <|> Spec.given s.path <|> Spec.given s.importName) := by
  unfold Spec.identifier? Spec.identifier
  rw [given_orElse, given_orElse]

/-- **What has a name has a key among the installed components.** -/
theorem isSome_desiredKey (s : Spec) : s.desiredKey.isSome = s.identifier?.isSome := by
  rw [identifier?_eq]
  unfold Spec.desiredKey
  cases Spec.given s.source <;> cases Spec.given s.path <;> cases Spec.given s.importName <;> rfl

theorem identifier?_eq_none_iff (s : Spec) : s.identifier? = none ↔
    Spec.given s.source = none ∧ Spec.given s.path = none ∧ Spec.given s.importName = none := by
  rw [identifier?_eq]
  cases Spec.given s.source <;> cases Spec.given s.path <;> cases Spec.given s.importName <;> simp

/-! ## What is taken from a dictionary -/

/-- A value that counts as true is taken as its text, and another one is not taken. -/
def Takes (h : Heap) (v : Value) : Option String → Prop
  | some t => v.isTrue h = true ∧ h.plain? v = some t
  | none => v.isTrue h = false

theorem takes_of_textIfTrue {t : Option String} (h : textIfTrue v m = (.ok t, m')) :
    Takes m.heap v t ∧ m' = m := by
  unfold textIfTrue at h
  rw [Script.heap_bind] at h
  cases htrue : v.isTrue m.heap with
  | false =>
    rw [htrue] at h
    cases h
    exact ⟨htrue, rfl⟩
  | true =>
    rw [htrue] at h
    obtain ⟨text, m₁, htext, h⟩ := Try.of_bind_ok h
    cases h
    obtain ⟨hplain, rfl⟩ := Script.plainText_ok htext
    exact ⟨⟨htrue, hplain⟩, rfl⟩

/-- Nothing comes of a value that is not taken, or that is an error without a message. -/
theorem Takes.given_eq_none_iff {h : Heap} {t : Option String} (ht : Takes h v t) :
    Spec.given t = none ↔ (v.isTrue h = true → h.IsBlankError v) := by
  cases t with
  | none =>
    have hfalse : v.isTrue h = false := ht
    simp [Spec.given, hfalse]
  | some t => simp [Spec.given, ht.1, Script.isBlankError_iff ht.1, ht.2]

/-- What a spec takes from a dictionary. -/
structure Spec.TakenFrom (h : Heap) (pairs : List (Value × Value)) (s : Spec) : Prop where
  source : s.source = filledText? (valueOf "source" pairs)
  path : Takes h (valueOf "path" pairs) s.path
  importName : Takes h (valueOf "import" pairs) s.importName
  config : s.config =
    if (valueOf "config" pairs).isCallable h then some (valueOf "config" pairs) else none

theorem takenFrom_of_ofPairs {pairs : List (Value × Value)} {manual : Bool} {i : Option Int}
    (h : Spec.ofPairs pairs manual i m = (.ok s, m')) : s.TakenFrom m.heap pairs := by
  unfold Spec.ofPairs at h
  rw [Script.heap_bind] at h
  obtain ⟨path, m₁, hpath, h⟩ := Try.of_bind_ok h
  obtain ⟨hpath, rfl⟩ := takes_of_textIfTrue hpath
  obtain ⟨importName, m₂, himport, h⟩ := Try.of_bind_ok h
  obtain ⟨himport, rfl⟩ := takes_of_textIfTrue himport
  cases h
  exact ⟨rfl, hpath, himport, rfl⟩

/-! ## Hollow dictionaries -/

/-- A dictionary that counts as a component though nothing comes of it. The text of its path
and of its import, if they count as true, is empty, and its `config` cannot be called. -/
structure Hollow (h : Heap) (pairs : List (Value × Value)) : Prop where
  counts : describesComponent h pairs = true
  source : filledText? (valueOf "source" pairs) = none
  texts : ∀ key ∈ ["path", "import"], (valueOf key pairs).isTrue h = true →
    h.IsBlankError (valueOf key pairs)
  config : (valueOf "config" pairs).isCallable h = false

theorem given_filledText? (v : Value) : Spec.given (filledText? v) = filledText? v := by
  unfold filledText?
  split
  · next t => cases ht : t.isEmpty <;> simp [Spec.given, ht]
  · rfl

/-- A spec has neither a name nor a hook exactly if its dictionary is hollow. -/
theorem Spec.TakenFrom.hollow_iff {h : Heap} {pairs : List (Value × Value)}
    (hs : s.TakenFrom h pairs) (hd : describesComponent h pairs = true) :
    (s.identifier? = none ∧ s.config = none) ↔ Hollow h pairs := by
  rw [identifier?_eq_none_iff, hs.source, given_filledText?, hs.path.given_eq_none_iff,
    hs.importName.given_eq_none_iff, hs.config]
  constructor
  · rintro ⟨⟨hsource, hpath, himport⟩, hconfig⟩
    exact ⟨hd, hsource, by simpa using ⟨hpath, himport⟩, by simpa using hconfig⟩
  · intro hp
    exact ⟨⟨hp.source, hp.texts _ (by simp), hp.texts _ (by simp)⟩, by simp [hp.config]⟩

/-- A component that is written as a text is called by it. -/
theorem Describes.eq_ofSource {t : String} (h : Describes c m (.text t) s) :
    s = Spec.ofSource t c.block.manual (some c.index) := by
  have hmade := h.made
  cases hmade
  rfl

theorem Describes.takenFrom (h : Describes c m v s) {pairs : List (Value × Value)}
    (hp : pairs? m.heap v = some pairs) : s.TakenFrom m.heap pairs := by
  have hmade := h.made
  rw [ofValue_of_pairs? hp] at hmade
  exact takenFrom_of_ofPairs hmade

theorem Describes.hollow_iff (h : Describes c m v s) : (s.identifier? = none ∧ s.config = none) ↔
    ∃ pairs, pairs? m.heap v = some pairs ∧ Hollow m.heap pairs := by
  rcases isSpecLike_cases h.specLike with ⟨t, rfl⟩ | ⟨pairs, hp, hd⟩
  · have hfilled : t ≠ "" := by simpa [isSpecLike] using h.specLike
    refine iff_of_false (fun hnone => ?_) ?_
    · rw [h.eq_ofSource, identifier?_eq_none_iff] at hnone
      simp [Spec.ofSource, Spec.given, hfilled] at hnone
    · rintro ⟨pairs, hp, -⟩
      cases hp
  · rw [(h.takenFrom hp).hollow_iff hd, hp]
    simp

theorem Describes.isCallable (h : Describes c m v s) {f : Value} (hf : s.config = some f) :
    f.isCallable m.heap = true := by
  rcases isSpecLike_cases h.specLike with ⟨t, rfl⟩ | ⟨pairs, hp, -⟩
  · rw [h.eq_ofSource] at hf
    cases hf
  · rw [(h.takenFrom hp).config] at hf
    split at hf
    · next hcallable =>
      cases hf
      exact hcallable
    · cases hf

/-! ## Every hollow dictionary -/

/-- A dictionary that counts as a component declares it. -/
theorem valueParts_of_pairs? (source : String) {u : Value} {pairs : List (Value × Value)}
    (hp : pairs? w.heap u = some pairs) (hd : describesComponent w.heap pairs = true)
    (hs : Spec.ofValue u c.block.manual (some c.index) w.machine = (.ok s, w.machine)) :
    (valueParts c source u w).1 = .ok [.spec s] := by
  obtain ⟨a, rfl, ha⟩ := pairs?_eq_some_iff.1 hp
  have hitems : items? w.heap (.ref a) = none := by simp [items?, Heap.object?, ha]
  have hshape : shapeOf w.heap (.ref a) = .specLike := by
    simp [shapeOf, hitems, hp, isSpecLike, hd]
  unfold valueParts
  rw [Try.getWorld_bind, hshape]
  dsimp only
  rw [Try.bind_of_ok (onMachine_of_ok hs)]
  rfl

/-- A hollow dictionary has all texts that are asked for. -/
theorem Hollow.legible {h : Heap} {pairs : List (Value × Value)} (hollow : Hollow h pairs)
    (hp : pairs? h v = some pairs) : Script.Legible h (spelled h v) := by
  intro x hx
  unfold spelled at hx
  rw [hp] at hx
  dsimp only at hx
  split at hx
  · obtain ⟨hx, htrue⟩ := List.mem_filter.1 hx
    obtain ⟨key, hkey, rfl⟩ : ∃ key ∈ ["path", "import"], x = valueOf key pairs := by simpa using hx
    rw [(Script.isBlankError_iff htrue).1 (hollow.texts key hkey htrue)]
    rfl
  · cases hx

/-- **A block with a hollow dictionary** declares one spec, without a name and a hook. -/
theorem build_hollow {u : Value} {pairs : List (Value × Value)} (hkind : c.kind = .componentSpec)
    (hu : valueOf? (code? host convention c) w.machine = (.ok (some u), m))
    (hp : pairs? m.heap u = some pairs) (hollow : Hollow m.heap pairs) :
    ∃ s, (build host convention [c] w).1 = .ok ([s], []) ∧
      s.identifier? = none ∧ s.config = none := by
  have hlike : isSpecLike m.heap u = true := by
    unfold isSpecLike
    split
    · cases hp
    · rw [hp]
      exact hollow.counts
  obtain ⟨s, hs⟩ := exists_of_isOk
    ((isOk_ofValue hlike c.block.manual (some c.index)).2 (hollow.legible hp))
  have hmade : Spec.ofValue u c.block.manual (some c.index) m = (.ok s, m) :=
    Prod.ext hs (reads_ofValue _ _ _ m)
  have hparts : (blockParts host convention c w).1 = .ok [.spec s] := by
    have hcode : code? host convention c = compiled? host convention c.body := by
      rw [code?, hkind]
    unfold blockParts
    rw [hkind]
    rw [hcode] at hu
    refine specParts_of_value hu ?_
    rintro w' rfl
    exact valueParts_of_pairs? c.body hp hollow.counts hmade
  have hdescribes : Describes c m u s := ⟨hlike, hmade⟩
  exact ⟨s, build_singleton hparts, hdescribes.hollow_iff.2 ⟨pairs, hp, hollow⟩⟩

/-- **Specs without a name and a hook.** Each spec that is built is made from a value that a
block gave, on the machine that the blocks before it left. What has a name has a key among the
installed components, and a spec has a name or a hook that can be called, unless the value is
a hollow dictionary: then it has neither. -/
theorem named_or_hooked_iff {cs : List Classified} {r : List Spec × List Entry}
    (h : build host convention cs w = (.ok r, w')) (hs : s ∈ r.1) :
    s.desiredKey.isSome = s.identifier?.isSome ∧
    ∃ xs c ys v m, cs = xs ++ c :: ys ∧
      Made host convention c (build host convention xs w).2.machine m v s ∧
      ((s.identifier?.isSome = true ∨ ∃ f ∈ s.config, f.isCallable w'.heap = true) ↔
        ¬∃ pairs, pairs? m.heap v = some pairs ∧ Hollow m.heap pairs) := by
  obtain ⟨xs, c, ys, v, m, hcs, hmade, hkeeps⟩ := exists_made_of_build h hs
  refine ⟨isSome_desiredKey s, xs, c, ys, v, m, hcs, hmade, ?_⟩
  have hhook : (∃ f ∈ s.config, f.isCallable w'.heap = true) ↔ s.config.isSome = true := by
    rw [Option.isSome_iff_exists]
    constructor
    · rintro ⟨f, hf, -⟩
      exact ⟨f, hf⟩
    · rintro ⟨f, hf⟩
      exact ⟨f, hf, hkeeps f (hmade.describes.isCallable hf)⟩
  rw [hhook, ← hmade.describes.hollow_iff, not_and_or, ← ne_eq, ← ne_eq,
    Option.ne_none_iff_isSome, Option.ne_none_iff_isSome]

/-- A block whose `config` is a number. -/
def numberBlock : Classified :=
  Block.classify "spec" ⟨1, "", "spec = \x7b'config': 1\x7d", .unspecified, false, false, none⟩

def emptyWorld : World := ⟨⟨.empty, ""⟩, ⟨[], ⟨1, []⟩, ⟨1, []⟩⟩, .info, [], none⟩

/-- What the block gives: a dictionary with a number under `config`. -/
def isNumberConfig (r : Except Raised (Option Value) × Machine) : Bool :=
  match r with
  | (.ok (some (.ref a)), m) => match m.heap.get? a with
    | some (.dict [(.text key, .int 1)]) => key = "config"
    | _ => false
  | _ => false

theorem eq_of_isNumberConfig {r : Except Raised (Option Value) × Machine}
    (h : isNumberConfig r = true) :
    ∃ a m, r = (.ok (some (.ref a)), m) ∧
      m.heap.get? a = some (.dict [(.text "config", .int 1)]) := by
  unfold isNumberConfig at h
  split at h
  · next a m =>
    split at h
    · next key ha =>
      obtain rfl := of_decide_eq_true h
      exact ⟨a, m, rfl, ha⟩
    · cases h
  · cases h

theorem hollow_number (h : Heap) : Hollow h [(.text "config", .int 1)] := by
  refine ⟨?_, ?_, ?_, ?_⟩
  all_goals
    simp [describesComponent, valueOf_singleton, filledText?, Value.isTrue, Value.isCallable]

/-- The number counts as true but cannot be called: one spec is built, without a name and a
hook, and its dictionary is hollow. -/
theorem named_or_hooked_iff_numberBlock :
    ∃ s w', build [] "spec" [numberBlock] emptyWorld = (.ok ([s], []), w') ∧
      s.identifier? = none ∧ s.desiredKey = none ∧ s.config = none ∧
      ∃ v m pairs, Made [] "spec" numberBlock emptyWorld.machine m v s ∧
        pairs? m.heap v = some pairs ∧ Hollow m.heap pairs := by
  have hkind : numberBlock.kind = .componentSpec := by decide +kernel
  obtain ⟨a, m, hvalue, hdict⟩ := eq_of_isNumberConfig (show isNumberConfig
    (valueOf? (code? [] "spec" numberBlock) emptyWorld.machine) = true by decide +kernel)
  have hpairs : pairs? m.heap (.ref a) = some [(.text "config", .int 1)] :=
    pairs?_eq_some_iff.2 ⟨a, rfl, hdict⟩
  obtain ⟨s, hbuild, hname, hconfig⟩ :=
    build_hollow hkind hvalue hpairs (hollow_number m.heap)
  have hbuild : build [] "spec" [numberBlock] emptyWorld = (.ok ([s], []), _) := Prod.ext hbuild rfl
  obtain ⟨hkey, xs, c, ys, v, m', hcs, hmade, hiff⟩ :=
    named_or_hooked_iff hbuild List.mem_cons_self
  obtain ⟨rfl, rfl, -⟩ : xs = [] ∧ c = numberBlock ∧ ys = [] := by
    cases xs with
    | nil => simpa [eq_comm] using hcs
    | cons x xs => simp at hcs
  obtain ⟨pairs, hp, hollow⟩ := Classical.byContradiction fun hnot => by
    rcases hiff.2 hnot with hsome | ⟨f, hf, -⟩
    · simp [hname] at hsome
    · simp [hconfig] at hf
  have hnokey : s.desiredKey = none := by simpa [hname] using hkey
  exact ⟨s, _, hbuild, hname, hnokey, hconfig, v, m', pairs, hmade, hp, hollow⟩

end Component

end LiterateConfig
