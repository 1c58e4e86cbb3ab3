import LiterateConfig.Proofs.Renaming
import Mathlib.Data.List.Basic

/-!
# Heaps that mirror each other

Two heaps hold the same objects but for a gap: some objects of the second one stand where
the first one ends, so whatever is made later stands further back in it. The old objects
need not all be the same, if those that differ are out of sight.

**Gaps.** A `Gap` says where the gap is and which of the objects before it are in sight;
`Gap.move` takes an address of the first heap to one of the second. `Mirror g h h'` says that
what is in sight is the same in both heaps, and that nothing else can be reached from it.

Results:
* `Gap.move_injective`: no two addresses fall together;
* `Mirror.set`, `Mirror.alloc`: changing and making objects on both sides;
* `Mirror.shown`, `Mirror.plain`, `Mirror.equalTo`: what values look like, and which are
  equal, is the same on both sides.
-/
namespace LiterateConfig.Script

/-- Addresses from `start` on lie `width` further back in another heap. -/
structure Gap where
  start : Nat
  width : Nat
  /-- Of the objects before the gap these are in sight. -/
  old : Nat → Prop

namespace Gap

/-- The address on the other side. -/
def move (g : Gap) (a : Nat) : Nat := if a < g.start then a else a + g.width

/-- The address is in sight, the heap having a size. -/
def Sees (g : Gap) (size a : Nat) : Prop := a < g.start ∧ g.old a ∨ g.start ≤ a ∧ a < size

variable {g : Gap}

theorem move_injective : Function.Injective g.move := by
  intro a b hab
  unfold move at hab
  split at hab <;> split at hab <;> omega

theorem Sees.mono {s s' a : Nat} (ha : g.Sees s a) (h : s ≤ s') : g.Sees s' a :=
  ha.imp_right fun ⟨h₁, h₂⟩ => ⟨h₁, Nat.lt_of_lt_of_le h₂ h⟩

theorem move_of_lt {a : Nat} (ha : a < g.start) : g.move a = a := if_pos ha

theorem move_of_le {a : Nat} (ha : g.start ≤ a) : g.move a = a + g.width :=
  if_neg (Nat.not_lt.2 ha)

end Gap

/-- What is in sight stays in sight. -/
theorem Inside.later {α : Type} [Addressed α] {g : Gap} {s s' : Nat} {x : α}
    (hx : Inside (g.Sees s) x) (h : s ≤ s') : Inside (g.Sees s') x :=
  hx.mono fun _ ha => ha.mono h

/-- What is in sight is the same in both heaps, and leads to nothing else. -/
structure Mirror (g : Gap) (h h' : Heap) : Prop where
  start_le : g.start ≤ h.size
  size : h'.size = h.size + g.width
  object : ∀ a, g.Sees h.size a → ∃ o, h.get? a = some o ∧
    h'.get? (g.move a) = some (rename g.move o) ∧ Inside (g.Sees h.size) o

variable {g : Gap} {h h' : Heap}

namespace Mirror

section

variable (hm : Mirror g h h')

include hm

/-! ## Changes on both sides -/

theorem set (a : Nat) {o : Object} (ho : Inside (g.Sees h.size) o) :
    Mirror g (h.set a o) (h'.set (g.move a) (rename g.move o)) := by
  have hsize : (h.set a o).size = h.size := Array.size_setIfInBounds
  have hsize' : (h'.set (g.move a) (rename g.move o)).size = h'.size := Array.size_setIfInBounds
  refine ⟨hsize ▸ hm.start_le, by rw [hsize, hsize', hm.size], fun b hb => ?_⟩
  rw [hsize] at hb ⊢
  obtain ⟨o₁, ho₁, ho₁', hin⟩ := hm.object b hb
  by_cases hab : a = b
  · subst hab
    exact ⟨o, Heap.get?_set_self (Heap.lt_size_of_get? ho₁) o,
      Heap.get?_set_self (Heap.lt_size_of_get? ho₁') _, ho⟩
  · refine ⟨o₁, ?_, ?_, hin⟩
    · rw [Heap.get?_set_of_ne hab, ho₁]
    · rw [Heap.get?_set_of_ne fun hmove => hab (Gap.move_injective hmove), ho₁']

/-- What is made stands behind the gap. -/
theorem move_size : g.move h.size = h'.size := by rw [Gap.move_of_le hm.start_le, hm.size]

theorem sees_size : g.Sees (h.size + 1) h.size := Or.inr ⟨hm.start_le, Nat.lt_succ_self _⟩

theorem alloc {o : Object} (ho : Inside (g.Sees h.size) o) :
    Mirror g (h.alloc o).2 (h'.alloc (rename g.move o)).2 := by
  have hsize : (h.alloc o).2.size = h.size + 1 := Array.size_push _
  have hsize' : (h'.alloc (rename g.move o)).2.size = h'.size + 1 := Array.size_push _
  refine ⟨hsize ▸ Nat.le_succ_of_le hm.start_le, by rw [hsize, hsize', hm.size]; omega,
    fun a ha => ?_⟩
  rw [hsize] at ha ⊢
  by_cases hnew : a = h.size
  · subst hnew
    refine ⟨o, Heap.get?_alloc_new h o, ?_, ho.later (Nat.le_succ _)⟩
    rw [hm.move_size]
    exact Heap.get?_alloc_new h' _
  · have hold : g.Sees h.size a := ha.imp_right fun ⟨h₁, h₂⟩ => ⟨h₁, by omega⟩
    obtain ⟨o₁, ho₁, ho₁', hin⟩ := hm.object a hold
    refine ⟨o₁, ?_, ?_, hin.later (Nat.le_succ _)⟩
    · rw [Heap.get?_alloc_old (Heap.lt_size_of_get? ho₁), ho₁]
    · rw [Heap.get?_alloc_old (Heap.lt_size_of_get? ho₁'), ho₁']

/-! ## What values are -/

variable {v w : Value}

theorem object? (hv : Inside (g.Sees h.size) v) :
    h'.object? (rename g.move v) = rename g.move (h.object? v) ∧
      Inside (g.Sees h.size) (h.object? v) := by
  cases v with
  | ref a =>
    obtain ⟨o, ho, ho', hin⟩ := hm.object a (inside_ref.1 hv)
    simpa only [rename_ref, Heap.object?, ho, ho', rename_some, inside_some, true_and]
  | _ => simp [Heap.object?]

theorem typeName (hv : Inside (g.Sees h.size) v) :
    (rename g.move v).typeName h' = v.typeName h := by
  cases v with
  | ref a =>
    obtain ⟨o, ho, ho', -⟩ := hm.object a (inside_ref.1 hv)
    simp only [rename_ref, Value.typeName, ho, ho']
    cases o <;> rfl
  | builtin b => cases b <;> first | rfl | (rename_i isType; cases isType <;> rfl)
  | _ => simp [Value.typeName]

theorem isCallable (hv : Inside (g.Sees h.size) v) :
    (rename g.move v).isCallable h' = v.isCallable h := by
  cases v with
  | ref a =>
    obtain ⟨o, ho, ho', -⟩ := hm.object a (inside_ref.1 hv)
    simp only [rename_ref, Value.isCallable, ho, ho']
    cases o <;> rfl
  | _ => simp [Value.isCallable]

theorem isTrue (hv : Inside (g.Sees h.size) v) : (rename g.move v).isTrue h' = v.isTrue h := by
  cases v with
  | ref a =>
    obtain ⟨o, ho, ho', -⟩ := hm.object a (inside_ref.1 hv)
    simp only [rename_ref, Value.isTrue, ho, ho']
    cases o <;> simp
  | _ => simp [Value.isTrue]

theorem sequence? (hv : Inside (g.Sees h.size) v) :
    Script.sequence? h' (rename g.move v) = rename g.move (Script.sequence? h v) ∧
      Inside (g.Sees h.size) (Script.sequence? h v) := by
  cases v with
  | tuple items => exact ⟨by simp [Script.sequence?]; rfl, inside_some.2 (inside_tuple.1 hv)⟩
  | ref a =>
    obtain ⟨o, ho, ho', hin⟩ := hm.object a (inside_ref.1 hv)
    simp only [rename_ref, Script.sequence?, ho, ho']
    cases o with
    | list items => exact ⟨rfl, inside_some.2 hin⟩
    | _ => simp
  | text s => exact ⟨rfl, inside_some.2 nofun⟩
  | bytes b => exact ⟨rfl, inside_some.2 nofun⟩
  | _ => simp [Script.sequence?]

theorem setItems? (hv : Inside (g.Sees h.size) v) :
    Script.setItems? h' (rename g.move v) = rename g.move (Script.setItems? h v) ∧
      Inside (g.Sees h.size) (Script.setItems? h v) := by
  cases v with
  | frozen items => simpa [Script.setItems?] using hv
  | ref a =>
    obtain ⟨o, ho, ho', hin⟩ := hm.object a (inside_ref.1 hv)
    simp only [rename_ref, Script.setItems?, ho, ho']
    cases o with
    | set items => simpa using hin
    | _ => simp
  | _ => simp [Script.setItems?]

end

mutual

theorem unhashable? (hm : Mirror g h h') {v : Value} (hv : Inside (g.Sees h.size) v) :
    (rename g.move v).unhashable? h' = v.unhashable? h := by
  cases v with
  | tuple items => simpa [Value.unhashable?] using anyUnhashable hm (inside_tuple.1 hv)
  | ref a =>
    obtain ⟨o, ho, ho', -⟩ := hm.object a (inside_ref.1 hv)
    simp only [rename_ref, Value.unhashable?, ho, ho']
    cases o <;> rfl
  | _ => simp [Value.unhashable?]

theorem anyUnhashable (hm : Mirror g h h') {vs : List Value} (hvs : Inside (g.Sees h.size) vs) :
    Script.anyUnhashable h' (rename g.move vs) = Script.anyUnhashable h vs := by
  match vs with
  | [] => rfl
  | v :: vs =>
    obtain ⟨hv, hrest⟩ := inside_cons.1 hvs
    simp only [rename_cons, Script.anyUnhashable, unhashable? hm hv,
      anyUnhashable hm hrest]

end

end Mirror

/-! ## How values are shown -/

section Shown

variable {σ : Nat → Nat} {P : Nat → Prop} {deref deref' : Nat → Nat → Except Unshown String}

mutual

theorem shownWith_rename (hd : ∀ room a, P a → deref' room (σ a) = deref room a)
    (room : Nat) (v : Value) (hv : Inside P v) :
    (rename σ v).shownWith deref' room = v.shownWith deref room := by
  cases room with
  | zero => simp [Value.shownWith]
  | succ room =>
    cases v with
    | tuple items => simp [Value.shownWith, shownItems_rename hd room items (inside_tuple.1 hv)]
    | frozen items => simp [Value.shownWith, shownItems_rename hd room items (inside_frozen.1 hv)]
    | ref a => simp [Value.shownWith, hd room a (inside_ref.1 hv)]
    | bool b => cases b <;> rfl
    | _ => simp [Value.shownWith]

theorem shownItems_rename (hd : ∀ room a, P a → deref' room (σ a) = deref room a)
    (room : Nat) (vs : List Value) (hvs : Inside P vs) :
    shownItems deref' room (rename σ vs) = shownItems deref room vs := by
  match vs with
  | [] => rfl
  | v :: vs =>
    obtain ⟨hv, hrest⟩ := inside_cons.1 hvs
    simp only [rename_cons, shownItems, shownWith_rename hd room v hv,
      shownItems_rename hd room vs hrest]

end

theorem shownPairs_rename (hd : ∀ room a, P a → deref' room (σ a) = deref room a)
    (room : Nat) (pairs : List (Value × Value)) (hp : Inside P pairs) :
    shownPairs deref' room (rename σ pairs) = shownPairs deref room pairs := by
  induction pairs with
  | nil => rfl
  | cons p rest ih =>
    obtain ⟨k, v⟩ := p
    obtain ⟨⟨hk, hv⟩, hrest⟩ : (Inside P k ∧ Inside P v) ∧ Inside P rest := by simpa using hp
    simp only [rename_cons, rename_pair, shownPairs, shownWith_rename hd room k hk,
      shownWith_rename hd room v hv, ih hrest]

end Shown

namespace Mirror

variable (hm : Mirror g h h')

include hm

theorem shownAt (fuel : Nat) (around : List Nat) (room a : Nat) (ha : g.Sees h.size a) :
    h'.shownAt fuel (around.map g.move) room (g.move a) = h.shownAt fuel around room a := by
  induction fuel generalizing around room a with
  | zero => rfl
  | succ fuel ih =>
    obtain ⟨o, ho, ho', hin⟩ := hm.object a ha
    have hinner : ∀ room b, g.Sees h.size b →
        h'.shownAt fuel (g.move a :: around.map g.move) room (g.move b) =
          h.shownAt fuel (a :: around) room b := fun room b hb => ih (a :: around) room b hb
    have hagain : (around.map g.move).contains (g.move a) = around.contains a := by
      rw [Bool.eq_iff_iff, List.contains_iff_mem, List.contains_iff_mem]
      exact List.mem_map_of_injective Gap.move_injective
    simp only [Heap.shownAt, ho, ho', hagain]
    cases o with
    | list items => simp only [Object.rename_list, shownItems_rename hinner room items hin]
    | dict pairs => simp only [Object.rename_dict, shownPairs_rename hinner room pairs hin]
    | set items =>
      simp only [Object.rename_set, isEmpty_rename, shownItems_rename hinner room items hin]
    | error k args => simp only [Object.rename_error, shownItems_rename hinner room args hin]
    | _ => rfl

theorem shownIn (room : Nat) {v : Value} (hv : Inside (g.Sees h.size) v) :
    h'.shownIn room (rename g.move v) = h.shownIn room v :=
  shownWith_rename (fun room a ha => hm.shownAt _ [] room a ha) room v hv

theorem shown {v : Value} (hv : Inside (g.Sees h.size) v) :
    h'.shown (rename g.move v) = h.shown v := hm.shownIn showLimit hv

theorem errorMessage (room : Nat) {plain plain' : Value → Except Unshown String}
    (hp : ∀ v, Inside (g.Sees h.size) v → plain' (rename g.move v) = plain v) (k : ErrorKind)
    {args : List Value} (hargs : Inside (g.Sees h.size) args) :
    Script.errorMessage h' room plain' k (rename g.move args) =
      Script.errorMessage h room plain k args := by
  have htuple : h'.shownIn room (.tuple (rename g.move args)) = h.shownIn room (.tuple args) := by
    rw [← rename_tuple, hm.shownIn room (inside_tuple.2 hargs)]
  match args with
  | [] => rfl
  | [v] =>
    obtain ⟨hv, -⟩ := inside_cons.1 hargs
    simp only [rename_cons, rename_nil, Script.errorMessage, hm.shownIn room hv, hp v hv]
  | [n, m] =>
    obtain ⟨hn, hrest⟩ := inside_cons.1 hargs
    obtain ⟨hm', -⟩ := inside_cons.1 hrest
    simp only [rename_cons, rename_nil] at htuple
    simp only [rename_cons, rename_nil, Script.errorMessage, hp n hn, hp m hm', htuple]
  | _ :: _ :: _ :: _ =>
    simp only [rename_cons] at htuple
    simp only [rename_cons, Script.errorMessage, htuple]

theorem plainIn (room : Nat) {v : Value} (hv : Inside (g.Sees h.size) v) :
    h'.plainIn room (rename g.move v) = h.plainIn room v := by
  induction room generalizing v with
  | zero =>
    have hshown := hm.shownIn 0 hv
    cases v <;> simp_all [Heap.plainIn]
  | succ room ih =>
    have hshown := hm.shownIn (room + 1) hv
    cases v with
    | ref a =>
      obtain ⟨o, ho, ho', hin⟩ := hm.object a (inside_ref.1 hv)
      simp only [rename_ref, Heap.plainIn, ho, ho']
      cases o with
      | error k args => exact hm.errorMessage room (fun v hv => ih hv) k hin
      | _ => exact hshown
    | _ => simp_all [Heap.plainIn]

theorem plain {v : Value} (hv : Inside (g.Sees h.size) v) :
    h'.plain (rename g.move v) = h.plain v := hm.plainIn showLimit hv

/-! ## Names -/

theorem ownName? (name : String) {scopes : List Nat} (hs : Inside (g.Sees h.size) scopes) :
    Script.ownName? h' name (rename g.move scopes) =
        rename g.move (Script.ownName? h name scopes) ∧
      Inside (g.Sees h.size) (Script.ownName? h name scopes) := by
  induction scopes with
  | nil => exact ⟨rfl, inside_none⟩
  | cons a rest ih =>
    obtain ⟨ha, hrest⟩ := inside_cons.1 hs
    obtain ⟨o, ho, ho', hin⟩ := hm.object a (inside_address.1 ha)
    have hmoved : h'.get? (rename g.move a) = some (rename g.move o) := ho'
    simp only [rename_cons, Script.ownName?, ho, hmoved]
    cases o with
    | scope own bound =>
      simp only [Object.rename_scope]
      split
      · rw [get?_rename]
        exact ⟨rfl, inside_some.2 (inside_pair.2 ⟨ha, Inside.get? hin name⟩)⟩
      · exact ih hrest
    | _ => exact ih hrest

theorem globalName? (name : String) {a : Nat} (ha : g.Sees h.size a) :
    Script.globalName? h' (g.move a) name = rename g.move (Script.globalName? h a name) ∧
      Inside (g.Sees h.size) (Script.globalName? h a name) := by
  obtain ⟨o, ho, ho', hin⟩ := hm.object a ha
  simp only [Script.globalName?, ho, ho']
  cases o with
  | globals bound => exact ⟨get?_rename name bound, Inside.get? hin name⟩
  | _ => exact ⟨rfl, inside_none⟩

/-! ## Which values are equal -/

omit hm in
theorem allPairs_rename {f f' : Value → Value → Option Bool} {σ : Nat → Nat} {P : Nat → Prop}
    (hf : ∀ v w, Inside P v → Inside P w → f' (rename σ v) (rename σ w) = f v w)
    {vs ws : List Value} (hvs : Inside P vs) (hws : Inside P ws) :
    allPairs f' (rename σ vs) (rename σ ws) = allPairs f vs ws := by
  induction vs generalizing ws with
  | nil => cases ws <;> rfl
  | cons v vs ih =>
    cases ws with
    | nil => rfl
    | cons w ws =>
      obtain ⟨hv, hvs⟩ := inside_cons.1 hvs
      obtain ⟨hw, hws⟩ := inside_cons.1 hws
      simp only [rename_cons, allPairs, hf v w hv hw, ih hvs hws]

omit hm in
theorem allEntries_rename {f f' : Value → Value → Option Bool} {σ : Nat → Nat} {P : Nat → Prop}
    (hσ : Function.Injective σ)
    (hf : ∀ v w, Inside P v → Inside P w → f' (rename σ v) (rename σ w) = f v w)
    {other pairs : List (Value × Value)} (ho : Inside P other) (hp : Inside P pairs) :
    allEntries f' (rename σ other) (rename σ pairs) = allEntries f other pairs := by
  induction pairs with
  | nil => rfl
  | cons p rest ih =>
    obtain ⟨k, v⟩ := p
    obtain ⟨⟨-, hv⟩, hrest⟩ : (Inside P k ∧ Inside P v) ∧ Inside P rest := by simpa using hp
    have hw := ho.pair? k
    simp only [rename_cons, rename_pair, allEntries, pair?_rename hσ, ih hrest]
    cases hk : Script.pair? k other with
    | none => rfl
    | some w =>
      rw [hk] at hw
      simp only [rename_some, hf v w hv (inside_some.1 hw)]

theorem equalTo (fuel : Nat) {v w : Value} (hv : Inside (g.Sees h.size) v)
    (hw : Inside (g.Sees h.size) w) :
    Script.equalTo h' fuel (rename g.move v) (rename g.move w) = Script.equalTo h fuel v w := by
  induction fuel generalizing v w with
  | zero => rfl
  | succ fuel ih =>
    have hf : ∀ v w, Inside (g.Sees h.size) v → Inside (g.Sees h.size) w →
        Script.equalTo h' fuel (rename g.move v) (rename g.move w) = Script.equalTo h fuel v w :=
      fun v w hv hw => ih hv hw
    have hsame := isSame_rename Gap.move_injective (σ := g.move) v w
    obtain ⟨hv₁, -⟩ := hm.setItems? hv
    obtain ⟨hw₁, -⟩ := hm.setItems? hw
    unfold Script.equalTo
    rw [hv₁, hw₁]
    cases hvs : Script.setItems? h v <;> cases hws : Script.setItems? h w
    case some.some as bs => simp [allAmong_rename Gap.move_injective]
    all_goals
      cases v with
      | tuple as =>
        cases w with
        | tuple bs =>
          simp only [rename_tuple, rename_some, rename_none]
          exact allPairs_rename hf (inside_tuple.1 hv) (inside_tuple.1 hw)
        | _ => simpa using hsame
      | ref a =>
        cases w with
        | ref b =>
          obtain ⟨o, ho, ho', hin⟩ := hm.object a (inside_ref.1 hv)
          obtain ⟨p, hp, hp', hin'⟩ := hm.object b (inside_ref.1 hw)
          simp only [rename_ref, rename_some, rename_none, ho, ho', hp, hp',
            Gap.move_injective.eq_iff]
          split
          · rfl
          · cases o with
            | list as =>
              cases p with
              | list bs => exact allPairs_rename hf hin hin'
              | _ => rfl
            | dict as =>
              cases p with
              | dict bs =>
                simp only [Object.rename_dict, length_rename]
                rw [allEntries_rename Gap.move_injective hf hin' hin]
              | _ => rfl
            | _ => rfl
        | _ => simpa using hsame
      | _ => simpa using hsame

end Mirror

end LiterateConfig.Script
