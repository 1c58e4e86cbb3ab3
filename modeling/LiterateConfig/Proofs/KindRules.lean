import LiterateConfig.Proofs.Markers
import LiterateConfig.Proofs.Names

/-!
# Rules for kinds, in any order

Three rules look at the body of a block: whether it is one bare reference, whether it gives a
collection of components, and whether it defines a setup function. They are tried one after
the other, and the first that holds decides. The order makes no difference, because no two of
them hold of one body.

**Why they exclude each other.** What the second and the third rule ask for is how code starts,
which the first one refuses. A definition is no assignment to the name of the convention, even
if that name is `def` or a part of it: behind the word comes white space and then a name, and
no name has white space in it.

Results:
* `startsReserved_of_isSpecShape`, `startsReserved_of_isExternalSetup`: the first rule and the
  others;
* `isSpecShape_eq_false`: the second rule and the third;
* `firstKind_perm`: rules that exclude each other, in any order;
* `classify_any_order`: the kind of a block.
-/
namespace LiterateConfig

namespace Text

/-! ## White space -/

/-- What is asked of white space has to be asked of few characters. -/
theorem eq_false_of_isBlank {p : Char → Bool} (hsmall : ∀ n ≤ 32, p (Char.ofNat n) = false)
    (hwide : ∀ n ∈ wideBlanks, p (Char.ofNat n) = false) {c : Char} (h : isBlank c = true) :
    p c = false := by
  rw [← Char.ofNat_toNat c]
  rcases toNat_of_isBlank h with hc | hc
  · exact hsmall _ hc
  · exact hwide _ hc

/-- White space is no part of a word. -/
theorem isWord_of_isBlank {c : Char} (h : isBlank c = true) : isWord c = false :=
  eq_false_of_isBlank (by decide +kernel) (by decide +kernel) h

/-- No name has white space in it. -/
theorem isBlank_of_mem_isNameChars {l : List Char} (h : isNameChars l = true) :
    ∀ c ∈ l, isBlank c = false := by
  obtain ⟨c, r, rfl, hc, hr⟩ := exists_cons_of_isNameChars h
  rw [List.forall_mem_cons]
  refine ⟨isBlank_of_isNameStart hc, fun d hd => ?_⟩
  rw [Bool.eq_false_iff]
  intro hblank
  have hnone : isNameRest d = false :=
    eq_false_of_isBlank (by decide +kernel) (by decide +kernel) hblank
  rw [hr d hd] at hnone
  cases hnone

end Text

namespace Block

open LiterateConfig.Text

variable {convention l : List Char}

/-! ## How code starts -/

/-- A word is whole in front of what is no part of one. -/
theorem startsWithWhole_of_dropLead? {word rest : List Char} (h : dropLead? word l = some rest)
    (hrest : ∀ c ∈ rest.head?, isWord c = false) : startsWithWhole word l = true := by
  unfold startsWithWhole
  rw [h]
  cases rest with
  | nil => rfl
  | cons c r => simp [hrest c rfl]

/-- A collection opens with a bracket, blanks in front of it left out. -/
theorem isWord_of_opensCollection (h : opensCollection l = true) :
    ∀ c ∈ l.head?, isWord c = false := by
  cases l with
  | nil => exact nofun
  | cons c r =>
    rintro _ ⟨⟩
    by_cases hblank : isBlank c = true
    · exact isWord_of_isBlank hblank
    · unfold opensCollection stripStart at h
      rw [List.dropWhile_cons_of_neg hblank] at h
      split at h
      · next heq =>
        cases heq
        decide
      · next heq =>
        cases heq
        decide
      · cases h

/-- A body that gives a collection returns it or assigns it. -/
theorem isSpecShape_cases (h : isSpecShape convention l = true) :
    (∃ rest, dropLead? returnWord l = some rest ∧ opensCollection rest = true) ∨
      ∃ rest, behindAssignment? convention l = some rest ∧ opensCollection rest = true := by
  unfold isSpecShape at h
  rcases Bool.or_eq_true .. ▸ h with h | h
  · split at h
    · next rest hrest => exact .inl ⟨rest, hrest, h⟩
    · cases h
  · split at h
    · next rest hrest => exact .inr ⟨rest, hrest, h⟩
    · cases h

/-- A setup function is defined by its word, white space, and its name in front of a bracket. -/
theorem exists_of_isExternalSetup (h : isExternalSetup l = true) :
    ∃ c r rest, l = defWord ++ c :: r ∧ isBlank c = true ∧
      stripStart (c :: r) = configWord ++ rest := by
  unfold isExternalSetup at h
  split at h
  · next c r hl =>
    obtain ⟨hblank, h⟩ := Bool.and_eq_true_iff.1 h
    split at h
    · next rest hrest =>
      exact ⟨c, r, rest, dropLead?_eq_some_iff.1 hl, hblank, dropLead?_eq_some_iff.1 hrest⟩
    · cases h
  · cases h

/-! ## No two rules hold -/

/-- What gives a collection starts like code. -/
theorem startsReserved_of_isSpecShape (h : isSpecShape convention l = true) :
    startsReserved convention l = true := by
  unfold startsReserved
  rcases isSpecShape_cases h with ⟨rest, hreturn, hopens⟩ | ⟨rest, hassigned, -⟩
  · simp [startsWithWhole_of_dropLead? hreturn (isWord_of_opensCollection hopens)]
  · simp [hassigned]

/-- What defines a setup function starts like code. -/
theorem startsReserved_of_isExternalSetup (h : isExternalSetup l = true) :
    startsReserved convention l = true := by
  obtain ⟨c, r, -, hl, hblank, -⟩ := exists_of_isExternalSetup h
  have hhead : ∀ d ∈ (c :: r).head?, isWord d = false := by
    rintro _ ⟨⟩
    exact isWord_of_isBlank hblank
  unfold startsReserved
  simp [startsWithWhole_of_dropLead? (dropLead?_eq_some_iff.2 hl) hhead]

/-- A bare reference does not start like code. -/
theorem isBareReference_eq_false (h : startsReserved convention l = true) :
    isBareReference convention l = false := by
  simp [isBareReference, h]

/-- A definition assigns to no name. If the name is a part of the word in front, the rest of
the word or what is defined stands where the equals sign would be; and it is no longer than
the word, since white space follows. -/
theorem behindAssignment?_definition (hname : isNameChars convention = true) {c : Char}
    {r rest : List Char} (hblank : isBlank c = true)
    (hdefined : stripStart (c :: r) = configWord ++ rest) :
    behindAssignment? convention (defWord ++ c :: r) = none := by
  have hhead : ∀ tail, dropLead? convention (defWord ++ c :: r) = some tail →
      (stripStart tail).head? ≠ some '=' := by
    intro tail htail
    have happend := dropLead?_eq_some_iff.1 htail
    match convention with
    | [] => cases hname
    | [_] =>
      obtain rfl : 'e' :: 'f' :: c :: r = tail := (List.cons.inj happend).2
      simp [stripStart, isBlank]
    | [_, _] =>
      obtain rfl : 'f' :: c :: r = tail := (List.cons.inj (List.cons.inj happend).2).2
      simp [stripStart, isBlank]
    | [_, _, _] =>
      obtain rfl : c :: r = tail :=
        (List.cons.inj (List.cons.inj (List.cons.inj happend).2).2).2
      simp [hdefined, configWord]
    | _ :: _ :: _ :: d :: more =>
      obtain rfl : c = d :=
        (List.cons.inj (List.cons.inj (List.cons.inj (List.cons.inj happend).2).2).2).1
      have hnone := isBlank_of_mem_isNameChars hname c (by simp)
      rw [hblank] at hnone
      cases hnone
  unfold behindAssignment?
  cases htail : dropLead? convention (defWord ++ c :: r) with
  | none => rfl
  | some tail =>
    have hne := hhead tail htail
    simp only [Option.bind_eq_bind, Option.bind_some]
    split
    · next heq =>
      rw [heq] at hne
      exact absurd rfl hne
    · rfl

/-- What defines a setup function gives no collection, whichever name the convention has. -/
theorem isSpecShape_eq_false (hname : isNameChars convention = true)
    (h : isExternalSetup l = true) : isSpecShape convention l = false := by
  obtain ⟨c, r, rest, rfl, hblank, hdefined⟩ := exists_of_isExternalSetup h
  rw [Bool.eq_false_iff]
  intro hshape
  rcases isSpecShape_cases hshape with ⟨_, hreturn, -⟩ | ⟨_, hassigned, -⟩
  · cases dropLead?_eq_some_iff.1 hreturn
  · rw [behindAssignment?_definition hname hblank hdefined] at hassigned
    cases hassigned

/-! ## Rules in an order -/

/-- A rule: the kind of the bodies of which it holds. -/
structure Rule where
  kind : Kind
  holds : List Char → Bool

/-- The rules that look at the body of a block, in the order in which they are tried. -/
def bodyRules (convention : List Char) : List Rule :=
  [⟨.bareReference, isBareReference convention⟩, ⟨.componentSpec, isSpecShape convention⟩,
    ⟨.externalSetup, isExternalSetup⟩]

/-- The kind that the first rule which holds gives to a body. -/
def firstKind (rules : List Rule) (body : List Char) : Kind :=
  ((rules.find? fun r => r.holds body).map Rule.kind).getD .freeForm

theorem bodyKind_eq_firstKind (convention body : List Char) :
    bodyKind convention body = firstKind (bodyRules convention) body := by
  unfold bodyKind firstKind bodyRules
  cases hbare : isBareReference convention body with
  | true => simp [hbare]
  | false =>
    cases hspec : isSpecShape convention body with
    | true => simp [hbare, hspec]
    | false => cases hsetup : isExternalSetup body <;> simp [hbare, hspec, hsetup]

/-- No body is of both rules. -/
def Rule.Apart (r s : Rule) : Prop := ∀ body, ¬(r.holds body = true ∧ s.holds body = true)

theorem Rule.Apart.symm {r s : Rule} (h : r.Apart s) : s.Apart r := fun body hb => h body hb.symm

/-- **No two rules hold of one body**, if the convention is a name. -/
theorem apart_bodyRules (hname : isNameChars convention = true) :
    (bodyRules convention).Pairwise Rule.Apart := by
  have hfirst : ∀ body, startsReserved convention body = true →
      ¬ isBareReference convention body = true := fun body hstarts => by
    rw [isBareReference_eq_false hstarts]
    exact Bool.false_ne_true
  have hlater : ∀ body, isExternalSetup body = true → ¬ isSpecShape convention body = true :=
    fun body hsetup => by
      rw [isSpecShape_eq_false hname hsetup]
      exact Bool.false_ne_true
  simp only [bodyRules, List.pairwise_cons, List.mem_cons, List.not_mem_nil, or_false,
    forall_eq_or_imp, forall_eq, false_implies, implies_true, List.Pairwise.nil, and_true]
  refine ⟨⟨fun body h => ?_, fun body h => ?_⟩, fun body h => hlater body h.2 h.1⟩
  · exact hfirst body (startsReserved_of_isSpecShape h.2) h.1
  · exact hfirst body (startsReserved_of_isExternalSetup h.2) h.1

variable {rules : List Rule} {body : List Char}

/-- A rule that holds decides, wherever it stands. -/
theorem firstKind_of_holds (hrules : rules.Pairwise Rule.Apart) {r : Rule} (hr : r ∈ rules)
    (hbody : r.holds body = true) : firstKind rules body = r.kind := by
  unfold firstKind
  induction rules with
  | nil => cases hr
  | cons s rules ih =>
    obtain ⟨hs, hrules⟩ := List.pairwise_cons.1 hrules
    rcases List.mem_cons.1 hr with rfl | hr
    · simp [hbody]
    · have hnot : s.holds body = false :=
        Bool.eq_false_iff.2 fun hsbody => hs r hr body ⟨hsbody, hbody⟩
      simpa [hnot] using ih hrules hr

theorem firstKind_of_none (h : ∀ r ∈ rules, ¬ r.holds body = true) :
    firstKind rules body = .freeForm := by
  unfold firstKind
  rw [List.find?_eq_none.2 h]
  rfl

/-- **Rules that exclude each other** can be tried in any order. -/
theorem firstKind_perm (hrules : rules.Pairwise Rule.Apart) {order : List Rule}
    (horder : order.Perm rules) : firstKind order body = firstKind rules body := by
  have hapart : order.Pairwise Rule.Apart :=
    (horder.pairwise_iff Rule.Apart.symm).2 hrules
  by_cases hsome : ∃ r ∈ rules, r.holds body = true
  · obtain ⟨r, hr, hbody⟩ := hsome
    rw [firstKind_of_holds hrules hr hbody,
      firstKind_of_holds hapart (horder.mem_iff.2 hr) hbody]
  · have hnone : ∀ r ∈ rules, ¬ r.holds body = true := fun r hr hbody => hsome ⟨r, hr, hbody⟩
    rw [firstKind_of_none hnone, firstKind_of_none fun r hr => hnone r (horder.mem_iff.1 hr)]

/-- **The order of the rules does not matter.** If the convention is a name, at most one of the
three rules holds of a text, and trying them in any order gives each block its kind. -/
theorem classify_any_order {convention : String} (hname : isName convention = true) :
    (∀ text : String,
      let bare := isBareReference convention.toList text.toList
      let spec := isSpecShape convention.toList text.toList
      let setup := isExternalSetup text.toList
      ¬(bare = true ∧ spec = true) ∧ ¬(bare = true ∧ setup = true) ∧
        ¬(spec = true ∧ setup = true)) ∧
    ∀ order : List Rule, order.Perm (bodyRules convention.toList) → ∀ b : Block,
      let c := classify convention b
      c.kind = if c.block.disabled then .disabled else firstKind order c.body.toList := by
  have hrules := apart_bodyRules hname
  refine ⟨fun text => ?_, fun order horder b => ?_⟩
  · have hpairs := hrules
    simp only [bodyRules, List.pairwise_cons, List.mem_cons, List.not_mem_nil, or_false,
      forall_eq_or_imp, forall_eq] at hpairs
    exact ⟨hpairs.1.1 text.toList, hpairs.1.2 text.toList, hpairs.2.1 text.toList⟩
  · dsimp only
    rw [firstKind_perm hrules horder, ← bodyKind_eq_firstKind]
    exact kind_classify convention b

/-- A collection for a convention that is called like the word of definitions. -/
def assignedBlock : Block := ⟨1, "", "def=\x7b'a/b'\x7d", .unspecified, false, false, none⟩

/-- It is one of components and no definition, also when the rules are tried backwards. -/
theorem classify_any_order_assignedBlock :
    isName "def" = true ∧ isSpecShape "def".toList assignedBlock.normalized.toList = true ∧
      ¬ isExternalSetup assignedBlock.normalized.toList = true ∧
      (classify "def" assignedBlock).kind = .componentSpec ∧
      firstKind (bodyRules "def".toList).reverse (classify "def" assignedBlock).body.toList =
        .componentSpec := by
  have hname : isName "def" = true := by decide +kernel
  have hshape : isSpecShape "def".toList assignedBlock.normalized.toList = true := by decide +kernel
  have hkind : (classify "def" assignedBlock).kind = .componentSpec := by decide +kernel
  have henabled : (classify "def" assignedBlock).block.disabled = false := by decide +kernel
  obtain ⟨hone, horder⟩ := classify_any_order hname
  have hbackwards := horder _ (List.reverse_perm _) assignedBlock
  dsimp only at hbackwards
  rw [henabled, hkind] at hbackwards
  exact ⟨hname, hshape, fun hsetup => (hone assignedBlock.normalized).2.2 ⟨hshape, hsetup⟩, hkind,
    hbackwards.symm⟩

end Block

end LiterateConfig
