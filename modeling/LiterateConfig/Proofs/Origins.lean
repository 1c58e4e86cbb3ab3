import LiterateConfig.Proofs.References

/-!
# Where specs come from

Building runs the code of one block after the other and takes specs from the values that it
gives. Each spec that is built comes from one value: the value of the code of one block, or an
item of it if that is a collection.

**Origins.** `Describes c m v s`: on the machine the value describes a component, and the spec
is what is made of it. `Made` says besides that the code of a block gave the value. Code that
runs later does not take back what a spec can call: `Heap.KeepsCalls`.

Results:
* `changes_keepsCalls`: whatever code does, what can be called stays so;
* `describes_of_valueParts`: the specs of a value;
* `made_of_blockParts`: the specs of a block;
* `exists_made_of_build`: the specs of all blocks.
-/
namespace LiterateConfig

open LiterateConfig.Block (Classified)
open LiterateConfig.Script (Compiled Heap Machine Value Within)

/-! ## What can be called -/

namespace Script

/-- What can be called can still be called. -/
def Heap.KeepsCalls (h h' : Heap) : Prop :=
  ∀ v : Value, v.isCallable h = true → v.isCallable h' = true

theorem keepsCalls_alloc (h : Heap) (o : Object) : h.KeepsCalls (h.alloc o).2 := by
  intro v hv
  cases v with
  | ref a =>
    have ha : a < h.size := by
      refine Decidable.byContradiction fun hge => ?_
      have hnone : h.get? a = none := Array.getElem?_eq_none (Nat.le_of_not_lt hge)
      simp [Value.isCallable, hnone] at hv
    simpa [Value.isCallable, Heap.get?_alloc_old ha] using hv
  | _ => exact hv

theorem keepsCalls_set {h : Heap} {a : Nat} (ha : (Value.ref a).isCallable h = false) (o : Object) :
    h.KeepsCalls (h.set a o) := by
  intro v hv
  cases v with
  | ref b =>
    have hab : a ≠ b := by
      rintro rfl
      rw [ha] at hv
      cases hv
    simpa [Value.isCallable, Heap.get?_set_of_ne hab] using hv
  | _ => exact hv

theorem changes_keepsCalls : Changes fun _ => Heap.KeepsCalls where
  refl _ _ _ hv := hv
  trans h h' v hv := h' v (h v hv)
  mutate _ h a o o' ha ho := by
    refine keepsCalls_set ?_ o'
    cases ho <;> simp [Value.isCallable, ha]
  bindName ha ho := by
    refine keepsCalls_set ?_ _
    cases ho <;> simp [Value.isCallable, ha]
  fresh _ h o _ hr v hv := hr v (keepsCalls_alloc h o v hv)

end Script

namespace Component

variable {host : Script.Host} {convention : String} {c : Classified} {w w' : World}
  {m : Machine} {v : Value} {s : Spec}

theorem keepsCalls_valueOf? (code : Option Compiled) :
    Within (fun _ => Heap.KeepsCalls) 0 (valueOf? code) := by
  have hR := Script.changes_keepsCalls
  unfold valueOf?
  split
  · exact hR.pure _
  · next c => exact hR.bind (Within.attempt (hR.within_run c)) fun _ => hR.pure _

/-! ## Values -/

/-- On the machine the value describes a component, and the spec is what is made of it. -/
structure Describes (c : Classified) (m : Machine) (v : Value) (s : Spec) : Prop where
  specLike : isSpecLike m.heap v = true
  made : Spec.ofValue v c.block.manual (some c.index) m = (.ok s, m)

theorem describes_of_onMachine (hv : isSpecLike w.heap v = true)
    (h : onMachine (Spec.ofValue v c.block.manual (some c.index)) w = (.ok s, w')) :
    w'.machine = w.machine ∧ Describes c w.machine v s := by
  have hmade := (runs_onMachine _).ok h
  have hsame := reads_ofValue v c.block.manual (some c.index) w.machine
  rw [hmade] at hsame
  obtain hsame : w'.machine = w.machine := hsame
  rw [hsame] at hmade
  exact ⟨hsame, hv, hmade⟩

theorem describes_of_itemPart {p : Part} (h : itemPart c v w = (.ok p, w')) :
    w'.machine = w.machine ∧ ∀ s, p = .spec s → Describes c w.machine v s := by
  unfold itemPart at h
  rw [Try.getWorld_bind] at h
  split at h
  · next hv =>
    obtain ⟨s, w₁, hs, h⟩ := Try.of_bind_ok h
    obtain ⟨hsame, hdescribes⟩ := describes_of_onMachine hv hs
    rw [Try.act_bind] at h
    cases h
    refine ⟨(quiet_sameMachine.note w₁).trans hsame, ?_⟩
    rintro _ ⟨⟩
    exact hdescribes
  · cases h
    exact ⟨quiet_sameMachine.note w, nofun⟩

theorem describes_of_itemParts {vs : List Value} {ps : List Part}
    (h : itemParts c vs w = (.ok ps, w')) : w'.machine = w.machine ∧
      ∀ s, .spec s ∈ ps → ∃ v ∈ vs, Describes c w.machine v s := by
  induction vs generalizing w ps with
  | nil =>
    cases h
    exact ⟨rfl, nofun⟩
  | cons v vs ih =>
    obtain ⟨p, w₁, hp, h⟩ := Try.of_bind_ok h
    obtain ⟨rest, w₂, hrest, h⟩ := Try.of_bind_ok h
    cases h
    obtain ⟨hfirst, hone⟩ := describes_of_itemPart hp
    obtain ⟨hlater, hothers⟩ := ih hrest
    rw [hfirst] at hlater hothers
    refine ⟨hlater, fun s hs => ?_⟩
    rcases List.mem_cons.1 hs with hs | hs
    · exact ⟨v, List.mem_cons_self, hone s hs.symm⟩
    · obtain ⟨u, hu, hdescribes⟩ := hothers s hs
      exact ⟨u, List.mem_cons_of_mem _ hu, hdescribes⟩

theorem perm_of_inOrder {items vs : List Value} {ordered : Bool}
    (h : inOrder items ordered w = (.ok vs, w')) : w'.machine = w.machine ∧ vs.Perm items := by
  obtain ⟨-, vs', w₁, hvs, hsame, hperm⟩ | ⟨-, e, w₁, he⟩ :=
    ends_inOrder items ordered w.machine w rfl
  · rw [h] at hvs
    cases hvs
    exact ⟨hsame, hperm⟩
  · rw [h] at he
    cases he

/-- The values that may describe the components of a block: the items of a collection, and
otherwise the value itself. -/
def candidates (h : Heap) (u : Value) : List Value :=
  match items? h u with
  | some (items, _) => items
  | none => [u]

/-- **What a value contributes**: each spec is made from the value or from one of its items. -/
theorem describes_of_valueParts {source : String} {u : Value} {ps : List Part}
    (h : valueParts c source u w = (.ok ps, w')) : w'.machine = w.machine ∧
      ∀ s, .spec s ∈ ps → ∃ v ∈ candidates w.heap u, Describes c w.machine v s := by
  unfold valueParts at h
  rw [Try.getWorld_bind] at h
  dsimp only at h
  unfold candidates
  cases hi : items? w.heap u with
  | some r =>
    obtain ⟨items, ordered⟩ := r
    rw [shapeOf_of_items? hi, hi] at h
    obtain ⟨vs, w₁, hvs, h⟩ := Try.of_bind_ok h
    obtain ⟨hsame, hperm⟩ := perm_of_inOrder hvs
    obtain ⟨hlater, hspecs⟩ := describes_of_itemParts h
    rw [hsame] at hlater hspecs
    refine ⟨hlater, fun s hs => ?_⟩
    obtain ⟨v, hv, hdescribes⟩ := hspecs s hs
    exact ⟨v, hperm.mem_iff.1 hv, hdescribes⟩
  | none =>
    rcases shapeOf_cases hi with ⟨hshape, hv⟩ | ⟨hshape, -⟩
    · rw [hshape] at h
      obtain ⟨s, w₁, hs, h⟩ := Try.of_bind_ok h
      obtain ⟨hsame, hdescribes⟩ := describes_of_onMachine hv hs
      rw [Try.act_bind] at h
      cases h
      refine ⟨(quiet_sameMachine.note w₁).trans hsame, fun s' hs' => ?_⟩
      cases List.mem_singleton.1 hs'
      exact ⟨u, List.mem_singleton_self u, hdescribes⟩
    · simp only [List.mem_cons, List.not_mem_nil, or_false] at hshape
      rcases hshape with hshape | hshape | hshape
      all_goals
        rw [hshape] at h
        dsimp only at h
        rw [Try.act_bind] at h
        cases h
        exact ⟨quiet_sameMachine.note w, fun s hs => by simp at hs⟩

/-! ## Blocks -/

/-- The spec was made from the value, which the code of the block gave: it ran on the machine
`m₀` and left `m`. -/
structure Made (host : Script.Host) (convention : String) (c : Classified) (m₀ m : Machine)
    (v : Value) (s : Spec) : Prop where
  kind : c.kind ∈ [.bareReference, .componentSpec]
  value : ∃ u, valueOf? (code? host convention c) m₀ = (.ok (some u), m) ∧ v ∈ candidates m.heap u
  describes : Describes c m v s

/-- What was noted before the text is run does not matter: `w` and `w₀` are the worlds before
and after it. -/
theorem made_of_specParts {source : String} {w₀ : World} {ps : List Part}
    (hkind : c.kind ∈ [.bareReference, .componentSpec])
    (hcode : code? host convention c = compiled? host convention source)
    (hw₀ : w₀.machine = w.machine) (h : specParts host convention c source w₀ = (.ok ps, w')) :
    (∃ r, valueOf? (code? host convention c) w.machine = (.ok r, w'.machine)) ∧
      ∀ s, .spec s ∈ ps → ∃ v, Made host convention c w.machine w'.machine v s := by
  unfold specParts at h
  obtain ⟨r, w₁, hr, h⟩ := Try.of_bind_ok h
  have hvalue := (runs_evaluate _ _ _ _ _).ok hr
  rw [← hcode, hw₀] at hvalue
  cases r with
  | none =>
    cases h
    exact ⟨⟨none, hvalue⟩, nofun⟩
  | some u =>
    obtain ⟨hsame, hspecs⟩ := describes_of_valueParts h
    rw [show w₁.heap = w₁.machine.heap from rfl, ← hsame] at hspecs
    rw [← hsame] at hvalue
    refine ⟨⟨some u, hvalue⟩, fun s hs => ?_⟩
    obtain ⟨v, hv, hdescribes⟩ := hspecs s hs
    exact ⟨v, hkind, ⟨u, hvalue, hv⟩, hdescribes⟩

theorem not_mem_of_setupParts {ps : List Part} (h : setupParts host c w = (.ok ps, w')) :
    (∃ r, valueOf? (compiled? host setupName c.body) w.machine = (.ok r, w'.machine)) ∧
      ∀ s, .spec s ∉ ps := by
  unfold setupParts at h
  obtain ⟨r, w₁, hr, h⟩ := Try.of_bind_ok h
  have hvalue := (runs_evaluate _ _ _ _ _).ok hr
  cases r with
  | none =>
    cases h
    exact ⟨⟨none, hvalue⟩, nofun⟩
  | some u =>
    dsimp only at h
    rw [Try.getWorld_bind] at h
    have hsame : w'.machine = w₁.machine := by
      split at h <;> cases h <;> exact quiet_sameMachine.note w₁
    refine ⟨⟨some u, hsame ▸ hvalue⟩, fun s hs => ?_⟩
    split at h <;> cases h <;> simp at hs

/-- **What a block contributes**: the code ran, and each spec is made from what it gave. -/
theorem made_of_blockParts {ps : List Part}
    (h : blockParts host convention c w = (.ok ps, w')) :
    (∃ r, valueOf? (code? host convention c) w.machine = (.ok r, w'.machine)) ∧
      ∀ s, .spec s ∈ ps → ∃ v, Made host convention c w.machine w'.machine v s := by
  unfold blockParts at h
  cases hk : c.kind with
  | disabled =>
    rw [hk] at h
    cases h
    exact ⟨⟨none, by simp [code?, hk]; rfl⟩, nofun⟩
  | bareReference =>
    rw [hk] at h
    dsimp only at h
    rw [Try.act_bind] at h
    exact made_of_specParts (by simp [hk]) (by simp [code?, hk]) (quiet_sameMachine.note w) h
  | componentSpec =>
    rw [hk] at h
    exact made_of_specParts (by simp [hk]) (by simp [code?, hk]) rfl h
  | externalSetup =>
    rw [hk] at h
    obtain ⟨hvalue, hnone⟩ := not_mem_of_setupParts h
    exact ⟨by simpa [code?, hk] using hvalue, fun s hs => absurd hs (hnone s)⟩
  | freeForm =>
    rw [hk] at h
    dsimp only at h
    rw [Try.act_bind] at h
    cases h
    have hcode : code? host convention c = none := by simp [code?, hk]
    exact ⟨⟨none, by rw [hcode, quiet_sameMachine.note w]; rfl⟩, fun s hs => by simp at hs⟩

theorem keepsCalls_of_blockParts {ps : List Part}
    (h : blockParts host convention c w = (.ok ps, w')) : w.heap.KeepsCalls w'.heap := by
  obtain ⟨⟨r, hr⟩, -⟩ := made_of_blockParts h
  have hkeeps := keepsCalls_valueOf? (code? host convention c) w.machine
  rw [hr] at hkeeps
  exact hkeeps

/-! ## All blocks -/

theorem keepsCalls_of_allParts {cs : List Classified} {ps : List Part}
    (h : allParts host convention cs w = (.ok ps, w')) : w.heap.KeepsCalls w'.heap := by
  induction cs generalizing w ps with
  | nil =>
    cases h
    exact fun _ hv => hv
  | cons c cs ih =>
    obtain ⟨first, w₁, hfirst, h⟩ := Try.of_bind_ok h
    obtain ⟨rest, w₂, hrest, h⟩ := Try.of_bind_ok h
    cases h
    exact fun v hv => ih hrest v (keepsCalls_of_blockParts hfirst v hv)

/-- Each spec is made by one of the blocks, on the machine that the blocks before it leave. -/
theorem exists_made_of_allParts {cs : List Classified} {ps : List Part}
    (h : allParts host convention cs w = (.ok ps, w')) (hs : .spec s ∈ ps) :
    ∃ xs c ys v m, cs = xs ++ c :: ys ∧
      Made host convention c (allParts host convention xs w).2.machine m v s ∧
        m.heap.KeepsCalls w'.heap := by
  induction cs generalizing w ps with
  | nil =>
    cases h
    cases hs
  | cons c cs ih =>
    obtain ⟨first, w₁, hfirst, h⟩ := Try.of_bind_ok h
    obtain ⟨rest, w₂, hrest, h⟩ := Try.of_bind_ok h
    cases h
    rcases List.mem_append.1 hs with hs | hs
    · obtain ⟨v, hmade⟩ := (made_of_blockParts hfirst).2 s hs
      exact ⟨[], c, cs, v, w₁.machine, rfl, hmade, keepsCalls_of_allParts hrest⟩
    · obtain ⟨xs, b, ys, v, m, rfl, hmade, hkeeps⟩ := ih hrest hs
      refine ⟨c :: xs, b, ys, v, m, rfl, ?_, hkeeps⟩
      have hleft : (allParts host convention (c :: xs) w).2.machine =
          (allParts host convention xs w₁).2.machine := by
        have hcons : allParts host convention (c :: xs) w =
            (allParts host convention xs >>= fun qs => pure (first ++ qs)) w₁ :=
          Try.bind_of_ok hfirst _
        rw [hcons, Try.bind_apply]
        rcases allParts host convention xs w₁ with ⟨e | qs, w₃⟩ <;> rfl
      rw [hleft]
      exact hmade

/-- **Where specs come from.** -/
theorem exists_made_of_build {cs : List Classified} {r : List Spec × List Entry}
    (h : build host convention cs w = (.ok r, w')) (hs : s ∈ r.1) :
    ∃ xs c ys v m, cs = xs ++ c :: ys ∧
      Made host convention c (build host convention xs w).2.machine m v s ∧
        m.heap.KeepsCalls w'.heap := by
  obtain ⟨ps, w₁, hps, h⟩ := Try.of_bind_ok h
  rw [Try.act_bind] at h
  cases h
  have hmem : .spec s ∈ ps := by
    obtain ⟨p, hp, hps⟩ := List.mem_filterMap.1 hs
    cases p with
    | spec s' =>
      cases hps
      exact hp
    | entry body i => cases hps
  obtain ⟨xs, c, ys, v, m, hcs, hmade, hkeeps⟩ := exists_made_of_allParts hps hmem
  refine ⟨xs, c, ys, v, m, hcs, ?_, ?_⟩
  · rw [(build_apply host convention xs w).2]
    exact hmade
  · rw [show World.heap _ = w₁.heap from congrArg Machine.heap (quiet_sameMachine.note w₁)]
    exact hkeeps

end Component

end LiterateConfig
