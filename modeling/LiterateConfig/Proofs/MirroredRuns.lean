import LiterateConfig.Proofs.Mirroring

/-!
# Code on heaps that mirror each other

Whatever code does on one of two heaps that mirror each other it does on the other one:
the same objects are made and changed, and the outcome is the same but for addresses. On the
way only objects in sight are changed.

**Mirrored computations.** `Mirrors g s x x'` says so of a computation on each side, for heaps
of at least a size; `Mirrors.bind` takes sequences apart. The lemmas follow the evaluation:
what calls do is a parameter of it, and a call with room for more calls within it is settled by
induction on the room.

Results:
* `mirrors_evalExpr`, `mirrors_execStmt`: expressions and statements;
* `mirrors_callAt`: calls;
* `Compiled.mirrors_run`: blocks.
-/
namespace LiterateConfig.Script

variable {S α β : Type} [Addressed α] [Addressed β] {g : Gap} {s : Nat}

/-- The heap does not get smaller, and what is not in sight stays as it is. -/
structure Gap.Spares (g : Gap) (h h₁ : Heap) : Prop where
  size_le : h.size ≤ h₁.size
  unseen : ∀ a, a < g.start → ¬ g.old a → h₁.get? a = h.get? a

namespace Gap.Spares

variable {h h₁ h₂ : Heap}

theorem refl (g : Gap) (h : Heap) : g.Spares h h := ⟨Nat.le_refl _, fun _ _ _ => rfl⟩

theorem trans (hs : g.Spares h h₁) (hs' : g.Spares h₁ h₂) : g.Spares h h₂ :=
  ⟨Nat.le_trans hs.size_le hs'.size_le, fun a ha hold =>
    (hs'.unseen a ha hold).trans (hs.unseen a ha hold)⟩

theorem set {a : Nat} (ha : g.Sees h.size a) (o : Object) : g.Spares h (h.set a o) := by
  refine ⟨Nat.le_of_eq Array.size_setIfInBounds.symm, fun b hb hold => Heap.get?_set_of_ne ?_ h o⟩
  rintro rfl
  rcases ha with ⟨-, hseen⟩ | ⟨hle, -⟩
  · exact hold hseen
  · omega

theorem alloc (hstart : g.start ≤ h.size) (o : Object) : g.Spares h (h.alloc o).2 := by
  refine ⟨?_, fun a ha _ => Heap.get?_alloc_old (Nat.lt_of_lt_of_le ha hstart) o⟩
  rw [show (h.alloc o).2.size = h.size + 1 from Array.size_push _]
  exact Nat.le_succ _

end Gap.Spares

/-! ## Mirrored computations -/

/-- On heaps that mirror each other, of at least the size `s`, the two do the same. -/
def MirrorsIn (heapOf : S → Heap) (g : Gap) (s : Nat) (x x' : ExceptT Raised (StateM S) α) :
    Prop :=
  ∀ m m', s ≤ (heapOf m).size → Mirror g (heapOf m) (heapOf m') →
    Mirror g (heapOf (x m).2) (heapOf (x' m').2) ∧ g.Spares (heapOf m) (heapOf (x m).2) ∧
      (x' m').1 = rename g.move (x m).1 ∧ Inside (g.Sees (heapOf (x m).2).size) (x m).1

namespace MirrorsIn

variable {heapOf : S → Heap}

theorem pure {a : α} (ha : Inside (g.Sees s) a) :
    MirrorsIn heapOf g s (Pure.pure a) (Pure.pure (rename g.move a)) :=
  fun _ _ hs hm => ⟨hm, .refl g _, rfl, ha.later hs⟩

theorem throw {e : Raised} (he : Inside (g.Sees s) e) :
    MirrorsIn heapOf g s (MonadExcept.throw e : ExceptT Raised (StateM S) α)
      (MonadExcept.throw (rename g.move e)) :=
  fun _ _ hs hm => ⟨hm, .refl g _, rfl, he.later hs⟩

/-- One thing after the other. What was in sight stays in sight. -/
theorem bind {x x' : ExceptT Raised (StateM S) α} {f f' : α → ExceptT Raised (StateM S) β}
    (hx : MirrorsIn heapOf g s x x')
    (hf : ∀ s₁, s ≤ s₁ → ∀ a, Inside (g.Sees s₁) a →
      MirrorsIn heapOf g s₁ (f a) (f' (rename g.move a))) :
    MirrorsIn heapOf g s (x >>= f) (x' >>= f') := by
  intro m m' hs hm
  obtain ⟨hm₁, hk₁, hr, hin⟩ := hx m m' hs hm
  rw [Try.bind_apply, Try.bind_apply]
  rcases hx₁ : x m with ⟨r, m₁⟩
  rcases hx₁' : x' m' with ⟨r', m₁'⟩
  rw [hx₁, hx₁'] at hr hm₁
  rw [hx₁] at hk₁ hin
  obtain rfl : r' = rename g.move r := hr
  cases r with
  | error e => exact ⟨hm₁, hk₁, rfl, hin⟩
  | ok a =>
    obtain ⟨hm₂, hk₂, hr₂, hin₂⟩ :=
      hf _ (Nat.le_trans hs hk₁.size_le) a hin m₁ m₁' (Nat.le_refl _) hm₁
    exact ⟨hm₂, hk₁.trans hk₂, hr₂, hin₂⟩

end MirrorsIn

/-- On machines whose heaps mirror each other the two do the same. -/
abbrev Mirrors (g : Gap) (s : Nat) (x x' : Eval α) : Prop := MirrorsIn Machine.heap g s x x'

theorem mirrors_heap {f f' : Heap → Eval α}
    (hf : ∀ h h', s ≤ h.size → Mirror g h h' → Mirrors g h.size (f h) (f' h')) :
    Mirrors g s (heap >>= f) (heap >>= f') :=
  fun m m' hs hm => hf m.heap m'.heap hs hm m m' (Nat.le_refl _) hm

theorem mirrors_fail (kind : ErrorKind) (message : String) :
    Mirrors g s (fail kind message : Eval α) (fail kind message) :=
  MirrorsIn.throw (e := ⟨kind, [.text message]⟩) (by simp)

theorem mirrors_update {a : Nat} {o : Object} (ha : g.Sees s a) (ho : Inside (g.Sees s) o) :
    Mirrors g s (update a o) (update (g.move a) (rename g.move o)) :=
  fun _ _ hs hm => ⟨hm.set a (ho.later hs), .set (ha.mono hs) o, rfl, nofun⟩

/-- Puts a new object on the heap and gives its address. -/
def allocate (o : Object) : Eval Nat :=
  modifyGet fun m => let (a, h) := m.heap.alloc o; (a, { m with heap := h })

theorem mirrors_allocate {o : Object} (ho : Inside (g.Sees s) o) :
    Mirrors g s (allocate o) (allocate (rename g.move o)) := by
  intro m m' hs hm
  have hsize : (m.heap.alloc o).2.size = m.heap.size + 1 := Array.size_push _
  refine ⟨hm.alloc (ho.later hs), .alloc hm.start_le o, ?_, ?_⟩
  · show (Except.ok m'.heap.size : Except Raised Nat) = .ok (g.move m.heap.size)
    rw [hm.move_size]
  · show Inside (g.Sees (m.heap.alloc o).2.size) m.heap.size
    rw [hsize]
    exact inside_address.2 hm.sees_size

theorem mirrors_alloc {o : Object} (ho : Inside (g.Sees s) o) :
    Mirrors g s (alloc o) (alloc (rename g.move o)) := by
  show Mirrors g s (allocate o >>= fun a => pure (Value.ref a))
    (allocate (rename g.move o) >>= fun a => pure (Value.ref a))
  exact (mirrors_allocate ho).bind fun _ _ _ ha => .pure (inside_ref.2 (inside_address.1 ha))

/-- The message names a value's type. -/
theorem Mirror.failType {h h' : Heap} (hm : Mirror g h h') (kind : ErrorKind)
    (message : String → String) {v : Value} (hv : Inside (g.Sees h.size) v) :
    Mirrors g h.size (fail kind (message (v.typeName h)) : Eval α)
      (fail kind (message ((rename g.move v).typeName h'))) := by
  rw [hm.typeName hv]
  exact mirrors_fail _ _

theorem mirrors_failType (kind : ErrorKind) (message : String → String) {v : Value}
    (hv : Inside (g.Sees s) v) :
    Mirrors g s (do fail kind (message (v.typeName (← heap))) : Eval α)
      (do fail kind (message ((rename g.move v).typeName (← heap)))) :=
  mirrors_heap fun _ _ hs hm => hm.failType kind message (hv.later hs)

/-! ## Operations -/

theorem mirrors_ofShown (r : Except Unshown String) : Mirrors g s (ofShown r) (ofShown r) := by
  rcases r with (_ | _) | t
  · exact mirrors_fail _ _
  · exact mirrors_fail _ _
  · exact .pure (inside_text t)

theorem mirrors_plainText {v : Value} (hv : Inside (g.Sees s) v) :
    Mirrors g s (plainText v) (plainText (rename g.move v)) :=
  mirrors_heap fun h h' hs hm => by
    rw [hm.plain (hv.later hs)]
    exact mirrors_ofShown _

theorem mirrors_plainTexts {vs : List Value} (hvs : Inside (g.Sees s) vs) :
    Mirrors g s (plainTexts vs) (plainTexts (rename g.move vs)) := by
  induction vs generalizing s with
  | nil => exact .pure inside_nil
  | cons v vs ih =>
    obtain ⟨hv, hrest⟩ := inside_cons.1 hvs
    refine (mirrors_plainText hv).bind fun s₁ hs₁ t _ => ?_
    refine (ih (hrest.later hs₁)).bind fun s₂ _ ts hts => ?_
    exact .pure (inside_cons.2 ⟨inside_text t, hts⟩)

theorem mirrors_requireKey {v : Value} (hv : Inside (g.Sees s) v) :
    Mirrors g s (requireKey v) (requireKey (rename g.move v)) :=
  mirrors_heap fun h h' hs hm => by
    rw [hm.unhashable? (hv.later hs)]
    split
    · exact mirrors_fail _ _
    · exact .pure (inside_unit _)

theorem mirrors_equal {v w : Value} (hv : Inside (g.Sees s) v) (hw : Inside (g.Sees s) w) :
    Mirrors g s (equal v w) (equal (rename g.move v) (rename g.move w)) :=
  mirrors_heap fun h h' hs hm => by
    rw [hm.equalTo compareLimit (hv.later hs) (hw.later hs)]
    split
    · exact .pure nofun
    · exact mirrors_fail _ _

theorem mirrors_combineNumbers (op : BinaryOp) (a b : Numeral) :
    Mirrors g s (combineNumbers op a b) (combineNumbers op a b) := by
  have asFloat : ∀ {s} a, Mirrors g s (asFloat a) (asFloat a) := by
    intro s a
    cases a with
    | float x => exact .pure nofun
    | int n =>
      unfold Script.asFloat
      dsimp only
      split
      · exact mirrors_fail _ _
      · exact .pure nofun
  have divideInts : ∀ a b, Mirrors g s (divideInts a b) (divideInts a b) := by
    intro a b
    unfold Script.divideInts
    dsimp only
    split
    · exact mirrors_fail _ _
    · split
      · exact mirrors_fail _ _
      · exact .pure (inside_float _)
  unfold combineNumbers
  split
  · exact .pure (inside_int _)
  · exact .pure (inside_int _)
  · exact .pure (inside_int _)
  · exact divideInts _ _
  · refine (asFloat _).bind fun _ _ x _ => (asFloat _).bind fun _ _ y _ => ?_
    split
    · exact .pure (inside_float (x + y))
    · exact .pure (inside_float (x - y))
    · exact .pure (inside_float (x * y))
    · show Mirrors g _ (if y == 0 then _ else _) (if y == 0 then _ else _)
      split
      · exact mirrors_fail _ _
      · exact .pure (inside_float (x / y))

theorem mirrors_repeated {items : List α} (hi : Inside (g.Sees s) items) (n : Int) :
    Mirrors g s (repeated items n) (repeated (rename g.move items) n) := by
  unfold repeated
  rw [length_rename]
  split
  · exact mirrors_fail _ _
  · split
    · exact .throw (inside_raised.2 inside_nil)
    · have hmoved : (List.replicate n.toNat (rename g.move items)).flatten =
          rename g.move (List.replicate n.toNat items).flatten := by
        rw [rename_eq_map (List.flatten _), List.map_flatten, List.map_replicate]
        rfl
      rw [hmoved]
      refine .pure (hi.subset fun x hx => ?_)
      obtain ⟨l, hl, hx⟩ := List.mem_flatten.1 hx
      rw [List.eq_of_mem_replicate hl] at hx
      exact hx

theorem mirrors_itemAt (what range : String) {items : List α} (hi : Inside (g.Sees s) items)
    {v : Value} (hv : Inside (g.Sees s) v) :
    Mirrors g s (itemAt what range items v)
      (itemAt what range (rename g.move items) (rename g.move v)) := by
  unfold itemAt
  rw [count?_rename, length_rename]
  split
  · exact mirrors_failType _ (fun t => s!"{what}, not '{t}'") hv
  · next i _ =>
    cases hp : place? items.length i with
    | none => exact mirrors_fail _ _
    | some j =>
      have hmoved : (rename g.move items)[j]? = rename g.move items[j]? := List.getElem?_map
      simp only [Option.bind_some, hmoved]
      cases hx : items[j]? with
      | none => exact mirrors_fail _ _
      | some x => exact .pure (hi.of_mem (List.mem_of_getElem? hx))

theorem mirrors_getItem {v i : Value} (hv : Inside (g.Sees s) v) (hi : Inside (g.Sees s) i) :
    Mirrors g s (getItem v i) (getItem (rename g.move v) (rename g.move i)) := by
  unfold getItem
  refine mirrors_heap fun h h' hs hm => ?_
  have hv' := hv.later hs
  have hi' := hi.later hs
  have hfail := hm.failType (α := Value) .typeError
    (fun t => s!"'{t}' object is not subscriptable") hv'
  cases v with
  | text t =>
    have hitem := mirrors_itemAt "string indices must be integers" "string index out of range"
      (inside_chars t.toList) hi'
    rw [rename_chars] at hitem
    exact hitem.bind fun _ _ c _ => .pure (inside_str _)
  | bytes b =>
    have hitem := mirrors_itemAt "byte indices must be integers or slices" "index out of range"
      (inside_octets b) hi'
    rw [rename_octets] at hitem
    exact hitem.bind fun _ _ n _ => .pure (inside_int _)
  | tuple items =>
    rw [rename_tuple]
    exact mirrors_itemAt _ _ (inside_tuple.1 hv') hi'
  | ref a =>
    obtain ⟨o, ho, ho', hin⟩ := hm.object a (inside_ref.1 hv')
    rw [rename_ref] at hfail ⊢
    simp only [ho, ho']
    cases o with
    | list items => exact mirrors_itemAt _ _ hin hi'
    | dict pairs =>
      refine (mirrors_requireKey hi').bind fun s₁ hs₁ _ _ => ?_
      rw [pair?_rename Gap.move_injective]
      have hpair := (Inside.pair? hin i).later hs₁
      cases hw : pair? i pairs with
      | none => exact .throw (by simpa using hi'.later hs₁)
      | some w =>
        rw [hw] at hpair
        exact .pure (inside_some.1 hpair)
    | _ => exact hfail
  | errorClass k => exact mirrors_fail _ _
  | _ => exact hfail

theorem mirrors_setItem {e i v : Value} (he : Inside (g.Sees s) e) (hi : Inside (g.Sees s) i)
    (hv : Inside (g.Sees s) v) :
    Mirrors g s (setItem e i v)
      (setItem (rename g.move e) (rename g.move i) (rename g.move v)) := by
  unfold setItem
  refine mirrors_heap fun h h' hs hm => ?_
  have he' := he.later hs
  have hi' := hi.later hs
  have hv' := hv.later hs
  have hfail := hm.failType (α := Unit) .typeError
    (fun t => s!"'{t}' object does not support item assignment") he'
  cases e with
  | ref a =>
    have ha := inside_ref.1 he'
    obtain ⟨o, ho, ho', hin⟩ := hm.object a ha
    rw [rename_ref] at hfail ⊢
    simp only [ho, ho', count?_rename, hm.typeName hi']
    cases o with
    | list items =>
      simp only [Object.rename_list, length_rename]
      split
      · exact mirrors_fail _ _
      · split
        · next j _ =>
          have hset : (rename g.move items).set j (rename g.move v) =
              rename g.move (items.set j v) := (List.map_set ..).symm
          rw [hset]
          refine mirrors_update ha (Object.inside_list.2 (inside_iff_forall.2 fun x hx => ?_))
          rcases List.mem_or_eq_of_mem_set hx with hx | rfl
          · exact Inside.of_mem (Object.inside_list.1 hin) hx
          · exact hv'
        · exact mirrors_fail _ _
    | dict pairs =>
      refine (mirrors_requireKey hi').bind fun s₁ hs₁ _ _ => ?_
      rw [putPair_rename Gap.move_injective]
      refine mirrors_update (ha.mono hs₁) (Object.inside_dict.2 ?_)
      exact (hi'.later hs₁).putPair (hv'.later hs₁) (hin.later hs₁)
    | _ => exact hfail
  | _ => exact hfail

theorem mirrors_getAttribute {v : Value} (hv : Inside (g.Sees s) v) (name : String) :
    Mirrors g s (getAttribute v name) (getAttribute (rename g.move v) name) := by
  unfold getAttribute
  refine mirrors_heap fun h h' hs hm => ?_
  have hv' := hv.later hs
  have hfail := hm.failType (α := Value) .attributeError
    (fun t => s!"'{t}' object has no attribute '{name}'") hv'
  cases v with
  | ref a =>
    have ha := inside_ref.1 hv'
    obtain ⟨o, ho, ho', hin⟩ := hm.object a ha
    rw [rename_ref] at hfail ⊢
    simp only [ho, ho']
    cases o with
    | list items =>
      simp only [Object.rename_list]
      split
      · exact .pure (inside_appender.2 ha)
      · exact hfail
    | record parts =>
      simp only [Object.rename_record, get?_rename]
      have hpart := Inside.get? (Object.inside_record.1 hin) name
      cases hw : Keyed.get? name parts with
      | none => exact hfail
      | some w =>
        rw [hw] at hpart
        exact .pure (inside_some.1 hpart)
    | _ => exact hfail
  | module m =>
    simp only [rename_module]
    split
    · exact .pure (inside_builtin _)
    · exact mirrors_fail _ _
  | errorClass k => exact mirrors_fail _ _
  | _ => exact hfail

theorem mirrors_negated {v : Value} (hv : Inside (g.Sees s) v) :
    Mirrors g s (negated v) (negated (rename g.move v)) := by
  unfold negated
  rw [numeral?_rename]
  split
  · exact .pure (inside_int _)
  · exact .pure (inside_float _)
  · exact mirrors_failType _ (fun t => s!"bad operand type for unary -: '{t}'") hv

section Combining

variable {h h' : Heap} (hm : Mirror g h h') {v w : Value}

include hm

theorem mirrors_noOperation (op : BinaryOp) (hv : Inside (g.Sees h.size) v)
    (hw : Inside (g.Sees h.size) w) :
    Mirrors g h.size (noOperation op h v w)
      (noOperation op h' (rename g.move v) (rename g.move w)) := by
  unfold noOperation
  rw [hm.typeName hv, hm.typeName hw]
  exact mirrors_fail _ _

theorem mirrors_join {q : Sequence} (hq : Inside (g.Sees h.size) q)
    (hv : Inside (g.Sees h.size) v) (hw : Inside (g.Sees h.size) w) :
    Mirrors g h.size (join h q v w)
      (join h' (rename g.move q) (rename g.move v) (rename g.move w)) := by
  obtain ⟨hseq, hin⟩ := hm.sequence? hw
  unfold join
  rw [hm.typeName hv, hm.typeName hw, hseq]
  cases ht : sequence? h w with
  | none => cases q <;> exact mirrors_fail _ _
  | some r =>
    rw [ht] at hin
    have hr := inside_some.1 hin
    cases q with
    | text a =>
      cases r with
      | text b => exact .pure (inside_str _)
      | _ => exact mirrors_fail _ _
    | bytes a =>
      cases r with
      | bytes b => exact .pure (inside_bytes _)
      | _ => exact mirrors_fail _ _
    | tuple a =>
      cases r with
      | tuple b =>
        show Mirrors g _ (pure (Value.tuple (a ++ b)))
          (pure (Value.tuple (rename g.move a ++ rename g.move b)))
        rw [← rename_append, ← rename_tuple]
        exact .pure (inside_tuple.2 (inside_append.2 ⟨hq, hr⟩))
      | _ => exact mirrors_fail _ _
    | list a =>
      cases r with
      | list b =>
        show Mirrors g _ (alloc (.list (a ++ b)))
          (alloc (.list (rename g.move a ++ rename g.move b)))
        rw [← rename_append, ← Object.rename_list]
        exact mirrors_alloc (Object.inside_list.2 (inside_append.2 ⟨hq, hr⟩))
      | _ => exact mirrors_fail _ _

theorem mirrors_multiplySequence {q : Sequence} (hq : Inside (g.Sees h.size) q)
    (hw : Inside (g.Sees h.size) w) :
    Mirrors g h.size (multiplySequence h q w)
      (multiplySequence h' (rename g.move q) (rename g.move w)) := by
  unfold multiplySequence
  rw [count?_rename, hm.typeName hw]
  split
  · next n _ =>
    cases q with
    | text a =>
      have hrep := mirrors_repeated (g := g) (inside_chars (P := g.Sees h.size) a.toList) n
      rw [rename_chars] at hrep
      exact hrep.bind fun _ _ cs _ => by
        rw [rename_chars]
        exact .pure (inside_str _)
    | bytes a =>
      have hrep := mirrors_repeated (g := g) (inside_octets (P := g.Sees h.size) a) n
      rw [rename_octets] at hrep
      exact hrep.bind fun _ _ bs _ => by
        rw [rename_octets]
        exact .pure (inside_bytes _)
    | tuple a =>
      have hq' : Inside (g.Sees h.size) a := hq
      refine (mirrors_repeated hq' n).bind fun _ _ items hitems => ?_
      rw [← rename_tuple]
      exact .pure (inside_tuple.2 hitems)
    | list a =>
      have hq' : Inside (g.Sees h.size) a := hq
      exact (mirrors_repeated hq' n).bind fun _ _ items hitems =>
        mirrors_alloc (Object.inside_list.2 hitems)
  · exact mirrors_fail _ _

omit hm in
theorem mirrors_subtractSets (hv : Inside (g.Sees h.size) v) {as bs : List Value}
    (has : Inside (g.Sees h.size) as) :
    Mirrors g h.size (subtractSets h v as bs)
      (subtractSets h' (rename g.move v) (rename g.move as) (rename g.move bs)) := by
  have hleft : ((rename g.move as).filter fun a => !anySame a (rename g.move bs)) =
      rename g.move (as.filter fun a => !anySame a bs) := by
    rw [rename_eq_map as, List.filter_map]
    refine congrArg (List.map _) (List.filter_congr fun a _ => ?_)
    exact congrArg not (anySame_rename Gap.move_injective a bs)
  have hin : Inside (g.Sees h.size) (as.filter fun a => !anySame a bs) :=
    has.subset (List.filter_subset_self _)
  unfold subtractSets
  rw [hleft]
  cases v with
  | frozen items =>
    simp only [rename_frozen]
    rw [← rename_frozen]
    exact .pure (inside_frozen.2 hin)
  | _ => exact mirrors_alloc (Object.inside_set.2 hin)

end Combining

theorem mirrors_combine (op : BinaryOp) {v w : Value} (hv : Inside (g.Sees s) v)
    (hw : Inside (g.Sees s) w) :
    Mirrors g s (combine op v w) (combine op (rename g.move v) (rename g.move w)) := by
  unfold combine
  refine mirrors_heap fun h h' hs hm => ?_
  have hv' := hv.later hs
  have hw' := hw.later hs
  rw [numeral?_rename, numeral?_rename]
  split
  · exact mirrors_combineNumbers _ _ _
  · obtain ⟨hqv, hinv⟩ := hm.sequence? hv'
    obtain ⟨hqw, hinw⟩ := hm.sequence? hw'
    obtain ⟨hsv, hsetv⟩ := hm.setItems? hv'
    obtain ⟨hsw, -⟩ := hm.setItems? hw'
    rw [hqv, hqw, hsv, hsw]
    have hno := mirrors_noOperation hm op hv' hw'
    cases op with
    | add =>
      cases hq : sequence? h v with
      | none => exact hno
      | some q =>
        rw [hq] at hinv
        exact mirrors_join hm (inside_some.1 hinv) hv' hw'
    | multiply =>
      cases hq : sequence? h v with
      | some q =>
        rw [hq] at hinv
        exact mirrors_multiplySequence hm (inside_some.1 hinv) hw'
      | none =>
        cases hr : sequence? h w with
        | none => exact hno
        | some r =>
          rw [hr] at hinw
          exact mirrors_multiplySequence hm (inside_some.1 hinw) hv'
    | subtract =>
      cases has : setItems? h v with
      | none => exact hno
      | some as =>
        cases hbs : setItems? h w with
        | none => exact hno
        | some bs =>
          rw [has] at hsetv
          exact mirrors_subtractSets hv' (inside_some.1 hsetv)
    | divide => exact hno

/-! ## Names and modules -/

/-- Built-in names stand for nothing on the heap. -/
theorem inside_builtinName? (P : Nat → Prop) (name : String) : Inside P (builtinName? name) := by
  unfold builtinName?
  repeat' split
  · exact inside_some.2 (inside_builtin _)
  · exact inside_some.2 (inside_builtin _)
  · exact inside_some.2 (inside_bool _)
  · exact inside_some.2 (inside_builtin _)
  · exact inside_some.2 (inside_builtin _)
  · cases ErrorKind.ofName? name with
    | none => exact inside_none
    | some k => exact inside_some.2 (inside_errorClass k)

theorem mirrors_lookUp {at' : Place} (hat : Inside (g.Sees s) at') (name : String) :
    Mirrors g s (lookUp at' name) (lookUp (rename g.move at') name) := by
  obtain ⟨hglobals, hscopes⟩ := inside_place.1 hat
  unfold lookUp
  refine mirrors_heap fun h h' hs hm => ?_
  obtain ⟨hown, hin⟩ := hm.ownName? name (hscopes.later hs)
  have hscopes' : (rename g.move at').scopes = rename g.move at'.scopes := rfl
  rw [hscopes', hown]
  cases ho : ownName? h name at'.scopes with
  | none =>
    obtain ⟨hglobal, hin'⟩ := hm.globalName? name (hglobals.mono hs)
    have hglobals' : (rename g.move at').globals = g.move at'.globals := rfl
    simp only [rename_none, hglobals', hglobal]
    cases hv : globalName? h at'.globals name with
    | some v =>
      rw [hv] at hin'
      exact .pure (inside_some.1 hin')
    | none =>
      cases hb : builtinName? name with
      | none => exact mirrors_fail _ _
      | some v =>
        have hnone : ∀ P, Inside P v := fun P => by
          have hbuiltin := inside_builtinName? P name
          rw [hb] at hbuiltin
          exact inside_some.1 hbuiltin
        have hself : rename g.move v = v := rename_eq_self (hnone _)
        have hpure : Mirrors g h.size (pure v) (pure (rename g.move v)) := .pure (hnone _)
        rw [hself] at hpure
        exact hpure
  | some p =>
    rw [ho] at hin
    obtain ⟨a, v⟩ := p
    cases v with
    | some v => exact .pure (inside_some.1 (inside_pair.1 (inside_some.1 hin)).2)
    | none =>
      have hhead : (rename g.move at'.scopes).head? = some (g.move a) ↔
          at'.scopes.head? = some a := by
        rw [rename_eq_map, List.head?_map]
        exact (Option.map_injective Gap.move_injective).eq_iff (b := some a)
      show Mirrors g _ (if at'.scopes.head? = some a then _ else _)
        (if (rename g.move at'.scopes).head? = some (g.move a) then _ else _)
      simp only [hhead]
      split <;> exact mirrors_fail _ _

theorem mirrors_assignName {at' : Place} (hat : Inside (g.Sees s) at') (name : String) {v : Value}
    (hv : Inside (g.Sees s) v) :
    Mirrors g s (assignName at' name v)
      (assignName (rename g.move at') name (rename g.move v)) := by
  obtain ⟨hglobals, hscopes⟩ := inside_place.1 hat
  unfold assignName
  refine mirrors_heap fun h h' hs hm => ?_
  have hown : g.Sees s (at'.scopes.headD at'.globals) := by
    cases hsc : at'.scopes with
    | nil => exact hglobals
    | cons a rest =>
      rw [hsc] at hscopes
      exact inside_address.1 (inside_cons.1 hscopes).1
  have hown' : (rename g.move at').scopes.headD (rename g.move at').globals =
      g.move (at'.scopes.headD at'.globals) := by
    show (rename g.move at'.scopes).headD (g.move at'.globals) = _
    cases at'.scopes <;> rfl
  have hv' := hv.later hs
  obtain ⟨o, ho, ho', hin⟩ := hm.object _ (hown.mono hs)
  simp only [hown', ho, ho']
  cases o with
  | scope own bound =>
    simp only [Object.rename_scope, put_rename]
    exact mirrors_update (hown.mono hs) (Object.inside_scope.2 (Inside.put hv' hin))
  | globals bound =>
    simp only [Object.rename_globals, put_rename]
    exact mirrors_update (hown.mono hs) (Object.inside_globals.2 (Inside.put hv' hin))
  | _ => exact .pure (inside_unit _)

theorem mirrors_loadModule (name : String) :
    Mirrors g s (loadModule name) (loadModule name) := by
  unfold loadModule noModule
  dsimp only
  split
  · exact mirrors_fail _ _
  · split
    · exact mirrors_fail _ _
    · split
      · exact .pure (inside_module _)
      · split <;> exact mirrors_fail _ _

/-! ## Calls of what blocks do not define -/

theorem newError_rename {σ : Nat → Nat} (kind : ErrorKind) (args : List Value) :
    newError kind (rename σ args) = rename σ (newError kind args) := by
  match args with
  | [] => rfl
  | [v] => cases v <;> simp [newError]
  | [v, _] => cases v <;> simp [newError]
  | v :: _ :: _ :: _ => cases v <;> simp [newError]

theorem inside_newError {P : Nat → Prop} {args : List Value} (h : Inside P args)
    (kind : ErrorKind) : Inside P (newError kind args) := by
  unfold newError
  split <;> exact Object.inside_error.2 h

theorem mirrors_callBuiltin (b : Builtin) {args : List Value} (hargs : Inside (g.Sees s) args) :
    Mirrors g s (callBuiltin b args) (callBuiltin b (rename g.move args)) := by
  cases b with
  | print =>
    refine (mirrors_plainTexts hargs).bind fun _ _ parts _ => ?_
    rw [rename_texts]
    refine MirrorsIn.bind ?_ fun _ _ _ _ => .pure inside_nothing
    exact fun m m' _ hm => ⟨hm, .refl g _, rfl, nofun⟩
  | require =>
    have hload : ∀ t,
        Mirrors g s (callBuiltin .require [.text t]) (callBuiltin .require [.text t]) := by
      intro t
      unfold callBuiltin
      dsimp only
      split
      · exact mirrors_fail _ _
      · exact mirrors_loadModule t
    have hfail : ∀ v, Inside (g.Sees s) v → _ := fun v hv =>
      mirrors_failType (α := Value) .attributeError
        (fun t => s!"'{t}' object has no attribute 'startswith'") hv
    match args with
    | [] => exact mirrors_fail _ _
    | [v] =>
      have hv := hfail v (inside_cons.1 hargs).1
      cases v with
      | text t => exact hload t
      | _ => exact hv
    | [v, w] =>
      have hv := hfail v (inside_cons.1 hargs).1
      cases v with
      | text t => exact hload t
      | _ => exact hv
    | v :: _ :: _ :: _ => cases v <;> exact mirrors_fail _ _
  | load =>
    match args with
    | [] => exact mirrors_fail _ _
    | [v] =>
      have hv := (inside_cons.1 hargs).1
      have hfail := mirrors_failType (α := Value) .typeError
        (fun t => s!"__import__() argument 1 must be str, not {t}") hv
      cases v with
      | text t => exact mirrors_loadModule t
      | _ => exact hfail
    | v :: _ :: _ => cases v <;> exact mirrors_fail (α := Value) _ _
  | exit =>
    match args with
    | [] => exact MirrorsIn.throw (α := Value) (e := ⟨.systemExit, []⟩) (by simp)
    | [v] => exact MirrorsIn.throw (α := Value) (e := ⟨.systemExit, [v]⟩) hargs
    | v :: w :: rest =>
      simp only [callBuiltin, rename_cons, List.length_cons, length_rename]
      exact mirrors_fail _ _
  | named name isType => exact mirrors_fail (α := Value) _ _

theorem mirrors_appendTo {a : Nat} (ha : g.Sees s a) {v : Value} (hv : Inside (g.Sees s) v) :
    Mirrors g s (appendTo a v) (appendTo (g.move a) (rename g.move v)) := by
  unfold appendTo
  refine mirrors_heap fun h h' hs hm => ?_
  obtain ⟨o, ho, ho', hin⟩ := hm.object a (ha.mono hs)
  simp only [ho, ho']
  cases o with
  | list items =>
    have happend : rename g.move items ++ [rename g.move v] = rename g.move (items ++ [v]) := by
      simp
    simp only [Object.rename_list, happend]
    refine mirrors_update (ha.mono hs) (Object.inside_list.2 (inside_append.2 ⟨hin, ?_⟩))
    exact inside_cons.2 ⟨hv.later hs, inside_nil⟩
  | _ => exact .pure (inside_unit _)

theorem mirrors_callRecorder {r : Recorder} (hr : Inside (g.Sees s) r) {args : List Value}
    (hargs : Inside (g.Sees s) args) :
    Mirrors g s (callRecorder r args) (callRecorder (rename g.move r) (rename g.move args)) := by
  obtain ⟨hj, hf, hv⟩ := inside_host.1 hr
  -- the call is noted first, whatever comes next
  have hnoted : ∀ {x x' : Eval Value}, (∀ {s₁}, s ≤ s₁ → Mirrors g s₁ x x') →
      Mirrors g s
        (if (args.isEmpty && !r.always) = true then
          appendTo r.journal (.text r.label) >>= fun _ => x
        else alloc (.list (.text r.label :: args)) >>= fun note =>
          appendTo r.journal note >>= fun _ => x)
        (if (args.isEmpty && !r.always) = true then
          appendTo (g.move r.journal) (.text r.label) >>= fun _ => x'
        else alloc (.list (.text r.label :: rename g.move args)) >>= fun note =>
          appendTo (g.move r.journal) note >>= fun _ => x') := by
    intro x x' hx
    split
    · exact (mirrors_appendTo hj (inside_str r.label)).bind fun _ hs₁ _ _ => hx hs₁
    · have hnote : Inside (g.Sees s) (Object.list (.text r.label :: args)) :=
        Object.inside_list.2 (inside_cons.2 ⟨inside_str _, hargs⟩)
      refine (mirrors_alloc hnote).bind fun s₁ hs₁ note hin => ?_
      exact (mirrors_appendTo (hj.mono hs₁) hin).bind fun _ hs₂ _ _ => hx (Nat.le_trans hs₁ hs₂)
  have hfault' : (rename g.move r).fault = rename g.move r.fault := rfl
  unfold callRecorder
  rw [isEmpty_rename, hfault']
  cases hfault : r.fault with
  | none => exact hnoted fun hs₁ => .pure (hv.later hs₁)
  | some p =>
    rw [hfault] at hf
    have hargs' := (inside_pair.1 (inside_some.1 hf)).2
    exact hnoted fun hs₁ => .throw (inside_raised.2 (hargs'.later hs₁))

theorem mirrors_requireArity (f : Closure) (args : List Value) :
    Mirrors g s (requireArity f args) (requireArity (rename g.move f) (rename g.move args)) := by
  have hsame : requireArity (rename g.move f) (rename g.move args) = requireArity f args := by
    unfold requireArity
    rw [length_rename]
    rfl
  rw [hsame]
  unfold requireArity
  dsimp only
  split
  · exact mirrors_fail _ _
  · split
    · exact mirrors_fail _ _
    · exact .pure (inside_unit ())

/-! ## Expressions

What calls do is a parameter here. -/

/-- Whatever is called, on both sides the same is done. -/
def Mirroring (g : Gap) (call : Call) : Prop :=
  ∀ s v args, Inside (g.Sees s) v → Inside (g.Sees s) args →
    Mirrors g s (call v args) (call (rename g.move v) (rename g.move args))

theorem mirrors_forM {f f' : α → Eval Unit} {xs : List α} (hxs : Inside (g.Sees s) xs)
    (hf : ∀ s₁, s ≤ s₁ → ∀ x, Inside (g.Sees s₁) x → Mirrors g s₁ (f x) (f' (rename g.move x))) :
    Mirrors g s (xs.forM f) ((rename g.move xs).forM f') := by
  induction xs generalizing s with
  | nil => exact .pure (inside_unit ())
  | cons x rest ih =>
    obtain ⟨hx, hrest⟩ := inside_cons.1 hxs
    refine (hf s (Nat.le_refl _) x hx).bind fun s₁ hs₁ _ _ => ih (hrest.later hs₁) ?_
    exact fun s₂ hs₂ => hf s₂ (Nat.le_trans hs₁ hs₂)

theorem inside_foldl_insertItem {P : Nat → Prop} {vs items : List Value} (hvs : Inside P vs)
    (hi : Inside P items) : Inside P (vs.foldl insertItem items) := by
  induction vs generalizing items with
  | nil => exact hi
  | cons v vs ih =>
    obtain ⟨hv, hrest⟩ := inside_cons.1 hvs
    exact ih hrest (hi.insertItem hv)

theorem inside_foldl_putPair {P : Nat → Prop} {ps pairs : List (Value × Value)}
    (hps : Inside P ps) (hp : Inside P pairs) :
    Inside P (ps.foldl (fun d p => putPair p.1 p.2 d) pairs) := by
  induction ps generalizing pairs with
  | nil => exact hp
  | cons p ps ih =>
    obtain ⟨hp', hrest⟩ := inside_cons.1 hps
    obtain ⟨hk, hv⟩ := inside_pair.1 hp'
    exact ih hrest (hk.putPair hv hp)

variable {call : Call}

mutual

/-- **Expressions do the same on both sides.** -/
theorem mirrors_evalExpr (hc : Mirroring g call) {s : Nat} {at' : Place}
    (hat : Inside (g.Sees s) at') (e : Expr) :
    Mirrors g s (evalExpr call at' e) (evalExpr call (rename g.move at') e) := by
  match e with
  | .nothing => simp only [evalExpr]; exact .pure inside_nothing
  | .bool b => simp only [evalExpr]; exact .pure (inside_bool b)
  | .int n => simp only [evalExpr]; exact .pure (inside_int n)
  | .float x => simp only [evalExpr]; exact .pure (inside_float x)
  | .text t => simp only [evalExpr]; exact .pure (inside_str t)
  | .bytes b => simp only [evalExpr]; exact .pure (inside_bytes b)
  | .name n => simp only [evalExpr]; exact mirrors_lookUp hat n
  | .list items =>
    simp only [evalExpr]
    exact (mirrors_evalAll hc hat items).bind fun _ _ vs hvs =>
      mirrors_alloc (Object.inside_list.2 hvs)
  | .tuple items =>
    simp only [evalExpr]
    refine (mirrors_evalAll hc hat items).bind fun _ _ vs hvs => ?_
    rw [← rename_tuple]
    exact .pure (inside_tuple.2 hvs)
  | .set items =>
    simp only [evalExpr]
    refine (mirrors_evalAll hc hat items).bind fun s₁ _ vs hvs => ?_
    refine (mirrors_forM hvs fun _ _ v hv => mirrors_requireKey hv).bind fun s₂ hs₂ _ _ => ?_
    have hset := foldl_insertItem_rename (σ := g.move) Gap.move_injective vs []
    rw [rename_nil] at hset
    rw [hset]
    exact mirrors_alloc (Object.inside_set.2 (inside_foldl_insertItem (hvs.later hs₂) inside_nil))
  | .dict pairs =>
    simp only [evalExpr]
    refine (mirrors_evalPairs hc hat pairs).bind fun s₁ _ ps hps => ?_
    refine (mirrors_forM hps fun _ _ p hp => mirrors_requireKey (inside_pair.1 hp).1).bind
      fun s₂ hs₂ _ _ => ?_
    have hdict := foldl_putPair_rename (σ := g.move) Gap.move_injective ps []
    rw [rename_nil] at hdict
    rw [hdict]
    exact mirrors_alloc (Object.inside_dict.2 (inside_foldl_putPair (hps.later hs₂) inside_nil))
  | .call f args =>
    simp only [evalExpr]
    refine (mirrors_evalExpr hc hat f).bind fun s₁ hs₁ fv hf => ?_
    refine (mirrors_evalAll hc (hat.later hs₁) args).bind fun s₂ hs₂ vs hvs => ?_
    exact hc s₂ fv vs (hf.later hs₂) hvs
  | .attribute e name =>
    simp only [evalExpr]
    exact (mirrors_evalExpr hc hat e).bind fun _ _ v hv => mirrors_getAttribute hv name
  | .index e i =>
    simp only [evalExpr]
    refine (mirrors_evalExpr hc hat e).bind fun s₁ hs₁ v hv => ?_
    refine (mirrors_evalExpr hc (hat.later hs₁) i).bind fun s₂ hs₂ w hw => ?_
    exact mirrors_getItem (hv.later hs₂) hw
  | .function body => simp only [evalExpr]; exact mirrors_alloc hat
  | .binary op l r =>
    simp only [evalExpr]
    refine (mirrors_evalExpr hc hat l).bind fun s₁ hs₁ v hv => ?_
    refine (mirrors_evalExpr hc (hat.later hs₁) r).bind fun s₂ hs₂ w hw => ?_
    exact mirrors_combine op (hv.later hs₂) hw
  | .negate e =>
    simp only [evalExpr]
    exact (mirrors_evalExpr hc hat e).bind fun _ _ v hv => mirrors_negated hv
  | .not e =>
    simp only [evalExpr]
    refine (mirrors_evalExpr hc hat e).bind fun s₁ _ v hv => mirrors_heap fun h h' hs hm => ?_
    rw [hm.isTrue (hv.later hs)]
    exact .pure (inside_bool _)
  | .and l r =>
    simp only [evalExpr]
    refine (mirrors_evalExpr hc hat l).bind fun s₁ hs₁ v hv => mirrors_heap fun h h' hs hm => ?_
    rw [hm.isTrue (hv.later hs)]
    split
    · exact mirrors_evalExpr hc (hat.later (Nat.le_trans hs₁ hs)) r
    · exact .pure (hv.later hs)
  | .or l r =>
    simp only [evalExpr]
    refine (mirrors_evalExpr hc hat l).bind fun s₁ hs₁ v hv => mirrors_heap fun h h' hs hm => ?_
    rw [hm.isTrue (hv.later hs)]
    split
    · exact .pure (hv.later hs)
    · exact mirrors_evalExpr hc (hat.later (Nat.le_trans hs₁ hs)) r
  | .equal first rest =>
    simp only [evalExpr]
    exact (mirrors_evalExpr hc hat first).bind fun s₁ hs₁ v hv =>
      mirrors_evalEqual hc (hat.later hs₁) hv rest

theorem mirrors_evalAll (hc : Mirroring g call) {s : Nat} {at' : Place}
    (hat : Inside (g.Sees s) at') (es : List Expr) :
    Mirrors g s (evalAll call at' es) (evalAll call (rename g.move at') es) := by
  match es with
  | [] => simp only [evalAll]; exact .pure inside_nil
  | e :: rest =>
    simp only [evalAll]
    refine (mirrors_evalExpr hc hat e).bind fun s₁ hs₁ v hv => ?_
    refine (mirrors_evalAll hc (hat.later hs₁) rest).bind fun s₂ hs₂ vs hvs => ?_
    exact .pure (inside_cons.2 ⟨hv.later hs₂, hvs⟩)

theorem mirrors_evalPairs (hc : Mirroring g call) {s : Nat} {at' : Place}
    (hat : Inside (g.Sees s) at') (ps : List (Expr × Expr)) :
    Mirrors g s (evalPairs call at' ps) (evalPairs call (rename g.move at') ps) := by
  match ps with
  | [] => simp only [evalPairs]; exact .pure inside_nil
  | (k, e) :: rest =>
    simp only [evalPairs]
    refine (mirrors_evalExpr hc hat k).bind fun s₁ hs₁ kv hk => ?_
    refine (mirrors_evalExpr hc (hat.later hs₁) e).bind fun s₂ hs₂ v hv => ?_
    refine (mirrors_evalPairs hc (hat.later (Nat.le_trans hs₁ hs₂)) rest).bind
      fun s₃ hs₃ more hmore => ?_
    have hpair := inside_pair.2 ⟨hk.later (Nat.le_trans hs₂ hs₃), hv.later hs₃⟩
    exact .pure (inside_cons.2 ⟨hpair, hmore⟩)

theorem mirrors_evalEqual (hc : Mirroring g call) {s : Nat} {at' : Place}
    (hat : Inside (g.Sees s) at') {v : Value} (hv : Inside (g.Sees s) v) (es : List Expr) :
    Mirrors g s (evalEqual call at' v es)
      (evalEqual call (rename g.move at') (rename g.move v) es) := by
  match es with
  | [] => simp only [evalEqual]; exact .pure (inside_bool true)
  | e :: rest =>
    simp only [evalEqual]
    refine (mirrors_evalExpr hc hat e).bind fun s₁ hs₁ w hw => ?_
    refine (mirrors_equal (hv.later hs₁) hw).bind fun s₂ hs₂ b _ => ?_
    show Mirrors g s₂ (if b = true then _ else _) (if b = true then _ else _)
    split
    · split
      · exact .pure (inside_bool true)
      · exact mirrors_evalEqual hc (hat.later (Nat.le_trans hs₁ hs₂)) (hw.later hs₂) rest
    · exact .pure (inside_bool false)

end

/-! ## Statements -/

theorem mirrors_assignTarget (hc : Mirroring g call) {at' : Place} (hat : Inside (g.Sees s) at')
    {v : Value} (hv : Inside (g.Sees s) v) (t : Target) :
    Mirrors g s (assignTarget call at' v t)
      (assignTarget call (rename g.move at') (rename g.move v) t) := by
  cases t with
  | name n => exact mirrors_assignName hat n hv
  | index e i =>
    refine (mirrors_evalExpr hc hat e).bind fun s₁ hs₁ o ho => ?_
    refine (mirrors_evalExpr hc (hat.later hs₁) i).bind fun s₂ hs₂ w hw => ?_
    exact mirrors_setItem (ho.later hs₂) hw (hv.later (Nat.le_trans hs₁ hs₂))

theorem mirrors_assignAll (hc : Mirroring g call) {at' : Place} (hat : Inside (g.Sees s) at')
    {v : Value} (hv : Inside (g.Sees s) v) (targets : List Target) :
    Mirrors g s (assignAll call at' v targets)
      (assignAll call (rename g.move at') (rename g.move v) targets) := by
  induction targets generalizing s with
  | nil => exact .pure (inside_unit ())
  | cons t rest ih =>
    exact (mirrors_assignTarget hc hat hv t).bind fun _ hs₁ _ _ =>
      ih (hat.later hs₁) (hv.later hs₁)

theorem mirrors_raiseValue {v : Value} (hv : Inside (g.Sees s) v) :
    Mirrors g s (raiseValue v) (raiseValue (rename g.move v)) := by
  unfold raiseValue
  refine mirrors_heap fun h h' hs hm => ?_
  obtain ⟨hobject, hin⟩ := hm.object? (hv.later hs)
  rw [hobject]
  cases v with
  | errorClass k => exact MirrorsIn.throw (α := Unit) (e := ⟨k, []⟩) (by simp)
  | ref a =>
    cases ho : h.object? (.ref a) with
    | none => exact mirrors_fail _ _
    | some o =>
      rw [ho] at hin
      cases o with
      | error k args => exact MirrorsIn.throw (α := Unit) (e := ⟨k, args⟩) (inside_some.1 hin)
      | _ => exact mirrors_fail _ _
  | _ => exact mirrors_fail _ _

theorem mirrors_decorate (hc : Mirroring g call) {v : Value} (hv : Inside (g.Sees s) v)
    {ds : List Value} (hds : Inside (g.Sees s) ds) :
    Mirrors g s (decorate call v ds) (decorate call (rename g.move v) (rename g.move ds)) := by
  induction ds generalizing s v with
  | nil => exact .pure hv
  | cons d rest ih =>
    obtain ⟨hd, hrest⟩ := inside_cons.1 hds
    refine (hc s d [v] hd (inside_cons.2 ⟨hv, inside_nil⟩)).bind fun s₁ hs₁ w hw => ?_
    exact ih hw (hrest.later hs₁)

mutual

/-- **Statements do the same on both sides.** -/
theorem mirrors_execStmt (hc : Mirroring g call) {s : Nat} {at' : Place}
    (hat : Inside (g.Sees s) at') (st : Stmt) :
    Mirrors g s (execStmt call at' st) (execStmt call (rename g.move at') st) := by
  match st with
  | .expr line e =>
    simp only [execStmt]
    exact (mirrors_evalExpr hc hat e).bind fun _ _ _ _ => .pure inside_done
  | .starred line e => simp only [execStmt]; exact .pure inside_done
  | .assign targets e =>
    simp only [execStmt]
    refine (mirrors_evalExpr hc hat e).bind fun s₁ hs₁ v hv => ?_
    exact (mirrors_assignAll hc (hat.later hs₁) hv targets).bind fun _ _ _ _ => .pure inside_done
  | .return none => simp only [execStmt]; exact .pure (inside_returned.2 inside_nothing)
  | .return (some e) =>
    simp only [execStmt]
    exact (mirrors_evalExpr hc hat e).bind fun _ _ v hv => .pure (inside_returned.2 hv)
  | .raise e =>
    simp only [execStmt]
    refine (mirrors_evalExpr hc hat e).bind fun _ _ v hv => ?_
    exact (mirrors_raiseValue hv).bind fun _ _ _ _ => .pure inside_done
  | .pass => simp only [execStmt]; exact .pure inside_done
  | .load m =>
    simp only [execStmt]
    refine (mirrors_loadModule m).bind fun s₁ hs₁ v hv => ?_
    exact (mirrors_assignName (hat.later hs₁) m hv).bind fun _ _ _ _ => .pure inside_done
  | .define decorators name params body =>
    simp only [execStmt]
    refine (mirrors_evalAll hc hat decorators.reverse).bind fun s₁ hs₁ ds hds => ?_
    refine (mirrors_alloc (hat.later hs₁)).bind fun s₂ hs₂ f hf => ?_
    have hreverse : (rename g.move ds).reverse = rename g.move ds.reverse := List.map_reverse.symm
    rw [hreverse]
    have hds' : Inside (g.Sees s₂) ds.reverse :=
      (hds.later hs₂).subset fun _ hx => List.mem_reverse.1 hx
    refine (mirrors_decorate hc hf hds').bind fun s₃ hs₃ v hv => ?_
    have hat' := hat.later (Nat.le_trans hs₁ (Nat.le_trans hs₂ hs₃))
    exact (mirrors_assignName hat' name hv).bind fun _ _ _ _ => .pure inside_done
  | .branch cond yes no =>
    simp only [execStmt]
    refine (mirrors_evalExpr hc hat cond).bind fun s₁ hs₁ v hv => mirrors_heap fun h h' hs hm => ?_
    rw [hm.isTrue (hv.later hs)]
    split
    · exact mirrors_execAll hc (hat.later (Nat.le_trans hs₁ hs)) yes
    · exact mirrors_execAll hc (hat.later (Nat.le_trans hs₁ hs)) no

theorem mirrors_execAll (hc : Mirroring g call) {s : Nat} {at' : Place}
    (hat : Inside (g.Sees s) at') (sts : List Stmt) :
    Mirrors g s (execAll call at' sts) (execAll call (rename g.move at') sts) := by
  match sts with
  | [] => simp only [execAll]; exact .pure inside_done
  | st :: rest =>
    simp only [execAll]
    refine (mirrors_execStmt hc hat st).bind fun s₁ hs₁ r hr => ?_
    cases r with
    | done => exact mirrors_execAll hc (hat.later hs₁) rest
    | returned v => exact .pure hr

end

/-! ## Calls -/

theorem enter_eq (call : Call) (f : Closure) (args : List Value) :
    enter call f args = (do
      requireArity f args
      let a ← allocate (.scope f.own (f.params.zip args))
      match ← execAll call ⟨a :: f.scopes, f.globals, f.path ++ ".<locals>."⟩ f.body with
      | .returned v => return v
      | .done => return .nothing) := rfl

theorem mirrors_enter (hc : Mirroring g call) {f : Closure} (hf : Inside (g.Sees s) f)
    {args : List Value} (hargs : Inside (g.Sees s) args) :
    Mirrors g s (enter call f args) (enter call (rename g.move f) (rename g.move args)) := by
  obtain ⟨hglobals, hscopes⟩ := inside_closure.1 hf
  rw [enter_eq, enter_eq]
  refine (mirrors_requireArity f args).bind fun s₁ hs₁ _ _ => ?_
  have hzip : (rename g.move f).params.zip (rename g.move args) =
      rename g.move (f.params.zip args) := zip_rename f.params args
  rw [hzip]
  have hbound : Inside (g.Sees s₁) (f.params.zip args) := (hargs.later hs₁).zip f.params
  refine (mirrors_allocate (Object.inside_scope.2 hbound)).bind fun s₂ hs₂ a ha => ?_
  have hplace : Inside (g.Sees s₂)
      (⟨a :: f.scopes, f.globals, f.path ++ ".<locals>."⟩ : Place) :=
    inside_place.2 ⟨hglobals.mono (Nat.le_trans hs₁ hs₂),
      inside_cons.2 ⟨ha, hscopes.later (Nat.le_trans hs₁ hs₂)⟩⟩
  refine (mirrors_execAll hc hplace f.body).bind fun _ _ r hr => ?_
  cases r with
  | done => exact .pure inside_nothing
  | returned v => exact .pure hr

theorem mirrors_callWith {inner : Call} (hc : Mirroring g inner) :
    Mirroring g (callWith inner) := by
  intro s v args hv hargs
  have hother : ∀ w, Inside (g.Sees s) w → _ := fun w hw =>
    mirrors_failType (g := g) (s := s) (α := Value) .typeError
      (fun t => s!"'{t}' object is not callable") hw
  cases v with
  | builtin b => exact mirrors_callBuiltin b hargs
  | errorClass k =>
    have hnew := mirrors_alloc (inside_newError hargs k)
    rw [← newError_rename] at hnew
    exact hnew
  | append list =>
    match args with
    | [] => exact mirrors_fail _ _
    | [w] =>
      have happend := mirrors_appendTo (inside_appender.1 hv) (inside_cons.1 hargs).1
      exact happend.bind fun _ _ _ _ => .pure inside_nothing
    | w :: w' :: rest =>
      simp only [rename_appender, rename_cons, callWith, List.length_cons, length_rename]
      exact mirrors_fail _ _
  | hook target =>
    match args with
    | [] =>
      have htarget := hc s target [] (inside_hook.1 hv) inside_nil
      exact htarget.bind fun _ _ _ _ => .pure inside_nothing
    | w :: rest =>
      simp only [rename_hook, rename_cons, callWith, List.length_cons, length_rename]
      exact mirrors_fail _ _
  | ref a =>
    refine mirrors_heap fun h h' hs hm => ?_
    have hv' := hv.later hs
    obtain ⟨hobject, hin⟩ := hm.object? hv'
    have htype := hm.typeName hv'
    rw [hobject, htype]
    cases ho : h.object? (.ref a) with
    | none => exact mirrors_fail _ _
    | some o =>
      rw [ho] at hin
      have ho' := inside_some.1 hin
      cases o with
      | function f => exact mirrors_enter hc ho' (hargs.later hs)
      | recorder r => exact mirrors_callRecorder ho' (hargs.later hs)
      | _ => exact mirrors_fail _ _
  | _ => exact hother _ hv

theorem mirroring_callAt (g : Gap) (n : Nat) : Mirroring g (callAt n) := by
  induction n with
  | zero => exact fun s v args _ _ => mirrors_fail _ _
  | succ n ih => exact mirrors_callWith ih

theorem mirroring_callTop (g : Gap) : Mirroring g callTop := mirroring_callAt g callLimit

theorem mirrors_attempt {x x' : Eval α} (hx : Mirrors g s x x') :
    Mirrors g s (attempt x) (attempt x') := by
  intro m m' hs hm
  obtain ⟨hm₁, hk, hr, hin⟩ := hx m m' hs hm
  unfold attempt
  rcases hx₁ : x m with ⟨r, m₁⟩
  rcases hx₁' : x' m' with ⟨r', m₁'⟩
  rw [hx₁, hx₁'] at hr hm₁
  rw [hx₁] at hk hin
  obtain rfl : r' = rename g.move r := hr
  cases r with
  | ok a => exact ⟨hm₁, hk, rfl, hin⟩
  | error e =>
    simp only [rename_error]
    show Mirror g _ _ ∧ _
    have hrec : (rename g.move e).recoverable = e.recoverable := rfl
    rw [hrec]
    split
    · exact ⟨hm₁, hk, rfl, hin⟩
    · exact ⟨hm₁, hk, rfl, hin⟩

/-! ## Blocks -/

theorem mirrors_exportedValue {a : Nat} (ha : g.Sees s a) (exported : Option String) :
    Mirrors g s (exportedValue a exported) (exportedValue (g.move a) exported) := by
  unfold exportedValue
  split
  · exact .pure inside_nothing
  · next name =>
    split
    · exact .pure inside_nothing
    · refine mirrors_heap fun h h' hs hm => ?_
      obtain ⟨hname, hin⟩ := hm.globalName? name (ha.mono hs)
      rw [hname]
      cases hv : globalName? h a name with
      | none => exact .pure inside_nothing
      | some v =>
        rw [hv] at hin
        exact .pure (inside_some.1 hin)

theorem Compiled.mirrors_runAt (c : Compiled) {a : Nat} (ha : g.Sees s a) :
    Mirrors g s (c.runAt a) (c.runAt (g.move a)) := by
  have hplace : ∀ {s₁}, s ≤ s₁ → Inside (g.Sees s₁) (⟨[], a, ""⟩ : Place) := fun hs₁ =>
    inside_place.2 ⟨ha.mono hs₁, inside_nil⟩
  unfold runAt
  dsimp only
  split
  · next body _ =>
    refine (mirrors_execAll (mirroring_callTop g) (hplace (Nat.le_refl _)) body).bind
      fun s₁ hs₁ _ _ => ?_
    exact mirrors_exportedValue (ha.mono hs₁) c.exported
  · next e _ => exact mirrors_evalExpr (mirroring_callTop g) (hplace (Nat.le_refl _)) e
  · next body _ =>
    have hf : Inside (g.Sees s)
        (Object.function ⟨blockName, blockName, [], boundBy body, body, [], a⟩) :=
      Object.inside_function.2 (inside_closure.2 ⟨ha, inside_nil⟩)
    refine (mirrors_alloc hf).bind fun s₁ hs₁ f hf' => ?_
    refine (mirrors_assignName (hplace hs₁) blockName hf').bind fun s₂ hs₂ _ _ => ?_
    exact mirroring_callTop g s₂ f [] (hf'.later hs₂) inside_nil

/-- **A block does the same on both sides**, if the host gives it what is in sight. -/
theorem Compiled.mirrors_run (c : Compiled) (hhost : Inside (g.Sees s) c.host) :
    Mirrors g s c.run ({ c with host := rename g.move c.host } : Compiled).run := by
  have hstart : startNames (rename g.move c.host) = rename g.move (startNames c.host) :=
    putAll_rename c.host [("__name__", .text "__mdconf__"), ("require", .builtin .require)]
  have hin : Inside (g.Sees s) (startNames c.host) := Inside.putAll hhost (by simp)
  show Mirrors g s (allocate (.globals (startNames c.host)) >>= c.runAt)
    (allocate (.globals (startNames (rename g.move c.host))) >>=
      ({ c with host := rename g.move c.host } : Compiled).runAt)
  rw [hstart]
  refine (mirrors_allocate (Object.inside_globals.2 hin)).bind fun s₁ _ a ha => ?_
  exact c.mirrors_runAt (inside_address.1 ha)

end LiterateConfig.Script
