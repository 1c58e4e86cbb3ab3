import LiterateConfig.Proofs.MirroredBuilding

/-!
# Building block by block

Blocks are built one after the other: what later ones contribute is what they contribute on
the machine that earlier ones leave behind, with their entries numbered further. A block
that is idle contributes nothing, and all others contribute without it what they contribute
with it if it leaves alone what it shares with them. Only addresses may differ.

**What blocks share.** The objects that the host's names lead to are `Shared`. A block reaches
no other ones but those that it makes itself, so it changes no other ones.

Results:
* `build_append`: blocks one after the other;
* `index_entriesOf`: entries are numbered without gaps;
* `blockParts_of_idle`: idle blocks;
* `closed_build`: nothing refers to objects that are not there;
* `build_without`: what is built without an idle block;
* `build_compositional`: all of it.
-/
namespace LiterateConfig

open LiterateConfig.Block (Classified)
open LiterateConfig.Script

variable {α β : Type}

/-! ## Actions of the machine -/

/-- What the action does depends on the machine only; it heeds neither the log nor the disk. -/
def OfMachine (x : Try Raised α) : Prop :=
  ∀ w w', w.machine = w'.machine → (x w).1 = (x w').1 ∧ (x w).2.machine = (x w').2.machine

theorem Runs.ofMachine {x : Try Raised α} {e : Eval α} (hx : Runs x e) : OfMachine x := by
  intro w w' hw
  obtain ⟨h₁, h₂⟩ := hx w
  obtain ⟨h₁', h₂'⟩ := hx w'
  rw [h₁, h₁', h₂, h₂', hw]
  exact ⟨rfl, rfl⟩

namespace OfMachine

theorem pure (a : α) : OfMachine (Pure.pure a) := (runs_pure a).ofMachine

theorem bind {x : Try Raised α} {f : α → Try Raised β} (hx : OfMachine x)
    (hf : ∀ a, OfMachine (f a)) : OfMachine (x >>= f) := by
  intro w w' hw
  obtain ⟨h₁, h₂⟩ := hx w w' hw
  rw [Try.bind_apply, Try.bind_apply]
  rcases hx₁ : x w with ⟨r, w₁⟩
  rcases hx₂ : x w' with ⟨r', w₂⟩
  rw [hx₁, hx₂] at h₁ h₂
  obtain rfl : r = r' := h₁
  cases r with
  | error e => exact ⟨rfl, h₂⟩
  | ok a => exact hf a w₁ w₂ h₂

theorem noted {y : Act Unit} (hy : Moves SameMachine y) {x : Try Raised α} (hx : OfMachine x) :
    OfMachine (do y; x) :=
  fun w w' hw => hx (y w).2 (y w').2 ((hy w).trans (hw.trans (hy w').symm))

theorem getWorld {f : World → Try Raised α} (hf : ∀ w, OfMachine (f w))
    (hsame : ∀ w w', w.heap = w'.heap → f w = f w') :
    OfMachine ((getThe World : Try Raised World) >>= f) := by
  intro w w' hw
  rw [Try.getWorld_bind, Try.getWorld_bind, hsame w w' (congrArg Machine.heap hw)]
  exact hf w' w w' hw

end OfMachine

namespace Component

variable {host : Host} {convention : String}

section

variable (host : Host) (convention : String)

theorem ofMachine_itemPart (c : Classified) (v : Value) : OfMachine (itemPart c v) := by
  unfold itemPart
  refine .getWorld (fun w => ?_) fun w w' h => by rw [h]
  dsimp only
  split
  · exact (runs_onMachine _).ofMachine.bind fun _ => .noted quiet_sameMachine.note (.pure _)
  · exact .noted quiet_sameMachine.note (.pure _)

theorem ofMachine_itemParts (c : Classified) (vs : List Value) : OfMachine (itemParts c vs) := by
  induction vs with
  | nil => exact .pure _
  | cons v vs ih => exact (ofMachine_itemPart c v).bind fun _ => ih.bind fun _ => .pure _

theorem ofMachine_valueParts (c : Classified) (source : String) (v : Value) :
    OfMachine (valueParts c source v) := by
  have hinOrder : ∀ items ordered, OfMachine (inOrder items ordered) := fun items ordered => by
    cases ordered with
    | true => exact .pure _
    | false => exact (runs_onMachine _).ofMachine.bind fun _ => .pure _
  unfold valueParts
  refine .getWorld (fun w => ?_) fun w w' h => by rw [h]
  dsimp only
  split
  · exact (hinOrder _ _).bind fun _ => ofMachine_itemParts c _
  · exact (runs_onMachine _).ofMachine.bind fun _ => .noted quiet_sameMachine.note (.pure _)
  · exact .noted quiet_sameMachine.note (.pure _)
  · exact .noted quiet_sameMachine.note (.pure _)
  · exact .noted quiet_sameMachine.note (.pure _)

theorem ofMachine_specParts (c : Classified) (source : String) :
    OfMachine (specParts host convention c source) := by
  refine (runs_evaluate _ _ _ _ _).ofMachine.bind fun r => ?_
  cases r with
  | none => exact .pure _
  | some v => exact ofMachine_valueParts c source v

theorem ofMachine_setupParts (c : Classified) : OfMachine (setupParts host c) := by
  refine (runs_evaluate _ _ _ _ _).ofMachine.bind fun r => ?_
  cases r with
  | none => exact .pure _
  | some v =>
    refine .getWorld (fun w => ?_) fun w w' h => by rw [h]
    dsimp only
    split <;> exact .noted quiet_sameMachine.note (.pure _)

theorem ofMachine_blockParts (c : Classified) : OfMachine (blockParts host convention c) := by
  unfold blockParts
  cases c.kind with
  | disabled => exact .pure _
  | bareReference => exact .noted quiet_sameMachine.note (ofMachine_specParts host convention _ _)
  | componentSpec => exact ofMachine_specParts host convention _ _
  | externalSetup => exact ofMachine_setupParts host _
  | freeForm => exact .noted quiet_sameMachine.note (.pure _)

theorem ofMachine_allParts (cs : List Classified) : OfMachine (allParts host convention cs) := by
  induction cs with
  | nil => exact .pure _
  | cons c cs ih =>
    exact (ofMachine_blockParts host convention c).bind fun _ => ih.bind fun _ => .pure _

end

/-! ## Blocks one after the other -/

end Component

/-- The entry, numbered behind `n` others. -/
def Entry.behind (n : Nat) (e : Entry) : Entry := { e with index := n + e.index }

namespace Component

/-- What parts come to: components, and entries numbered from 1. -/
def assembled (ps : List Part) : List Spec × List Entry := (specsOf ps, entriesOf 1 ps)

/-- Components and entries behind those of earlier blocks. -/
def joined (r r' : List Spec × List Entry) : List Spec × List Entry :=
  (r.1 ++ r'.1, r.2 ++ r'.2.map (Entry.behind r.2.length))

theorem entriesOf_behind (n next : Nat) (ps : List Part) :
    entriesOf (n + next) ps = (entriesOf next ps).map (Entry.behind n) := by
  induction ps generalizing next with
  | nil => rfl
  | cons p ps ih =>
    cases p with
    | spec c => exact ih next
    | entry body blockIndex =>
      simp [entriesOf, Entry.behind, Nat.add_assoc, ih]

/-- Entries are numbered without gaps. -/
theorem index_entriesOf (next : Nat) (ps : List Part) :
    (entriesOf next ps).map Entry.index =
      (List.range' next (entriesOf next ps).length).map Nat.cast := by
  induction ps generalizing next with
  | nil => rfl
  | cons p ps ih =>
    cases p with
    | spec c => exact ih next
    | entry body blockIndex =>
      simp [entriesOf, List.range'_succ, ih]

theorem assembled_append (ps qs : List Part) :
    assembled (ps ++ qs) = joined (assembled ps) (assembled qs) := by
  unfold assembled joined
  rw [specsOf_append, entriesOf_append, Nat.add_comm 1, entriesOf_behind]

/-- Building is taking the parts of the blocks; the log is told in the end. -/
theorem build_apply (host : Host) (convention : String) (cs : List Classified) (w : World) :
    (build host convention cs w).1 = (allParts host convention cs w).1.map assembled ∧
      (build host convention cs w).2.machine = (allParts host convention cs w).2.machine := by
  unfold build
  rw [Try.bind_apply]
  rcases allParts host convention cs w with ⟨e | ps, w'⟩
  · exact ⟨rfl, rfl⟩
  · exact ⟨rfl, quiet_sameMachine.note _⟩

theorem allParts_append (xs ys : List Classified) :
    allParts host convention (xs ++ ys) = (do
      let ps ← allParts host convention xs
      let qs ← allParts host convention ys
      return ps ++ qs) := by
  induction xs with
  | nil => simp only [List.nil_append, allParts, pure_bind, bind_pure]
  | cons c xs ih =>
    simp only [List.cons_append, allParts, ih, bind_assoc, pure_bind, List.append_assoc]

/-- Entries are numbered from 1. -/
theorem index_of_build {cs : List Classified} {w : World} {r : List Spec × List Entry}
    (h : (build host convention cs w).1 = .ok r) :
    r.2.map Entry.index = (List.range' 1 r.2.length).map Nat.cast := by
  rw [(build_apply host convention cs w).1] at h
  cases hps : (allParts host convention cs w).1 with
  | error e =>
    rw [hps] at h
    cases h
  | ok ps =>
    rw [hps] at h
    cases h
    exact index_entriesOf 1 ps

/-- **Blocks one after the other.** -/
theorem build_append (xs ys : List Classified) {w v : World}
    (hv : v.machine = (build host convention xs w).2.machine) :
    (build host convention (xs ++ ys) w).1 = (do
      let r ← (build host convention xs w).1
      let r' ← (build host convention ys v).1
      return joined r r') ∧
    ∀ r, (build host convention xs w).1 = .ok r →
      (build host convention (xs ++ ys) w).2.machine = (build host convention ys v).2.machine := by
  obtain ⟨hxs, hxs'⟩ := build_apply host convention xs w
  obtain ⟨hys, hys'⟩ := build_apply host convention ys v
  obtain ⟨hall, hall'⟩ := build_apply host convention (xs ++ ys) w
  rw [allParts_append, Try.bind_apply] at hall hall'
  rw [hxs'] at hv
  rw [hxs, hys, hall, hall', hys']
  rcases hps : allParts host convention xs w with ⟨e | ps, left⟩
  · exact ⟨rfl, nofun⟩
  · rw [hps] at hv
    obtain ⟨h₁, h₂⟩ := ofMachine_allParts host convention ys left v hv.symm
    dsimp only
    rw [Try.bind_apply, ← h₁, ← h₂]
    rcases allParts host convention ys left with ⟨e | qs, w'⟩
    · exact ⟨rfl, fun _ _ => rfl⟩
    · refine ⟨?_, fun _ _ => rfl⟩
      exact congrArg Except.ok (assembled_append ps qs)

/-! ## Idle blocks -/

/-- Why a block contributes nothing on a machine. -/
inductive Idle (host : Host) (convention : String) (m : Machine) (c : Classified) : Prop where
  | disabled (hkind : c.kind = .disabled)
  | uncompilable (hkind : c.kind ∈ [.bareReference, .componentSpec, .externalSetup])
      (hcode : code? host convention c = none)
  | raises {code : Compiled} {e : Raised} {m' : Machine}
      (hcode : code? host convention c = some code) (hrun : code.run m = (.error e, m'))
      (he : e.recoverable = true)
  | invalid {code : Compiled} {v : Value} {m' : Machine}
      (hkind : c.kind ∈ [.bareReference, .componentSpec])
      (hcode : code? host convention c = some code) (hrun : code.run m = (.ok v, m'))
      (hshape : shapeOf m'.heap v = .invalid)
  | uncallable {code : Compiled} {v : Value} {m' : Machine} (hkind : c.kind = .externalSetup)
      (hcode : code? host convention c = some code) (hrun : code.run m = (.ok v, m'))
      (hv : v.isCallable m'.heap = false)

/-- Whether a block has no use for the value that its text gives: an external setup must give a
function, and a block of components anything that is not invalid. -/
def useless (c : Classified) (h : Heap) (v : Value) : Bool :=
  if c.kind = .externalSetup then !v.isCallable h else shapeOf h v = .invalid

/-- Whether running code fails, or gives a value without use. -/
def runsIdly (useless : Heap → Value → Bool) (m : Machine) : Option Compiled → Bool
  | none => true
  | some code => match code.run m with
    | (.error e, _) => e.recoverable
    | (.ok v, m') => useless m'.heap v

/-- Whether a block contributes nothing on a machine. -/
def idles (host : Host) (convention : String) (m : Machine) (c : Classified) : Bool :=
  match c.kind with
  | .disabled => true
  | .freeForm => false
  | _ => runsIdly (useless c) m (code? host convention c)

/-- Code that runs idly cannot be compiled, fails, or gives a value without use. -/
theorem runsIdly_iff {useless : Heap → Value → Bool} {m : Machine} {code : Option Compiled} :
    runsIdly useless m code = true ↔ code = none ∨
      (∃ c e m', code = some c ∧ c.run m = (.error e, m') ∧ e.recoverable = true) ∨
      ∃ c v m', code = some c ∧ c.run m = (.ok v, m') ∧ useless m'.heap v = true := by
  cases code with
  | none => simp [runsIdly]
  | some c =>
    have hcode : ∀ c', some c = some c' ↔ c' = c := fun c' => by simp [eq_comm]
    simp only [runsIdly, reduceCtorEq, hcode, false_or, exists_and_left, exists_eq_left]
    rcases hrun : c.run m with ⟨e | v, m'⟩
    · constructor
      · exact fun he => Or.inl ⟨e, m', rfl, he⟩
      · rintro (⟨_, _, ⟨⟩, he⟩ | ⟨_, _, ⟨⟩, _⟩)
        exact he
    · constructor
      · exact fun hv => Or.inr ⟨v, m', rfl, hv⟩
      · rintro (⟨_, _, ⟨⟩, _⟩ | ⟨_, _, ⟨⟩, hv⟩)
        exact hv

theorem Idle.of_useless {c : Classified} {code : Compiled} {v : Value} {m m' : Machine}
    (hkind : c.kind ∈ [.bareReference, .componentSpec, .externalSetup])
    (hcode : code? host convention c = some code) (hrun : code.run m = (.ok v, m'))
    (hv : useless c m'.heap v = true) : Idle host convention m c := by
  unfold useless at hv
  split at hv
  · next hsetup => exact .uncallable hsetup hcode hrun (by simpa using hv)
  · next hother =>
    have hspec : c.kind ∈ [.bareReference, .componentSpec] := by simpa [hother] using hkind
    exact .invalid hspec hcode hrun (of_decide_eq_true hv)

theorem idles_iff {m : Machine} {c : Classified} :
    idles host convention m c = true ↔ Idle host convention m c := by
  unfold idles
  cases hk : c.kind with
  | disabled => exact iff_of_true rfl (.disabled hk)
  | freeForm =>
    refine iff_of_false Bool.false_ne_true fun h => ?_
    cases h <;> simp_all [code?]
  | _ =>
    have hkind : c.kind ∈ [.bareReference, .componentSpec, .externalSetup] := by simp [hk]
    rw [runsIdly_iff]
    constructor
    · rintro (hcode | ⟨code, e, m', hcode, hrun, he⟩ | ⟨code, v, m', hcode, hrun, hv⟩)
      · exact .uncompilable hkind hcode
      · exact .raises hcode hrun he
      · exact .of_useless hkind hcode hrun hv
    · intro h
      cases h with
      | disabled h => simp [hk] at h
      | uncompilable _ hcode => exact Or.inl hcode
      | raises hcode hrun he => exact Or.inr (Or.inl ⟨_, _, _, hcode, hrun, he⟩)
      | invalid h hcode hrun hshape =>
        exact Or.inr (Or.inr ⟨_, _, _, hcode, hrun, by simp_all [useless]⟩)
      | uncallable h hcode hrun hv =>
        exact Or.inr (Or.inr ⟨_, _, _, hcode, hrun, by simp_all [useless]⟩)

instance (m : Machine) (c : Classified) : Decidable (Idle host convention m c) :=
  decidable_of_iff _ idles_iff

theorem valueOf?_of_error {code : Compiled} {e : Raised} {m m' : Machine}
    (h : code.run m = (.error e, m')) (he : e.recoverable = true) :
    valueOf? (some code) m = (.ok none, m') := by
  unfold valueOf?
  have hattempt : Script.attempt code.run m = (.ok (.error e), m') := by
    simp [Script.attempt, h, he]
  exact Try.bind_of_ok hattempt _

theorem valueOf?_of_ok {code : Compiled} {v : Value} {m m' : Machine}
    (h : code.run m = (.ok v, m')) : valueOf? (some code) m = (.ok (some v), m') := by
  unfold valueOf?
  have hattempt : Script.attempt code.run m = (.ok (.ok v), m') := by
    simp [Script.attempt, h]
  exact Try.bind_of_ok hattempt _

/-- Running the text of an idle block gives no value, or one without use. -/
theorem Idle.valueOf? {m : Machine} {c : Classified} (h : Idle host convention m c)
    (hkind : c.kind ≠ .disabled) : c.kind ≠ .freeForm ∧
      ∃ r m', Component.valueOf? (code? host convention c) m = (.ok r, m') ∧
        ∀ v, r = some v → useless c m'.heap v = true := by
  have hfree : ∀ {code}, code? host convention c = some code → c.kind ≠ .freeForm := by
    intro code hcode hk
    simp [code?, hk] at hcode
  cases h with
  | disabled hk => exact absurd hk hkind
  | uncompilable hk hcode =>
    refine ⟨fun hfree => ?_, none, m, ?_, nofun⟩
    · simp [hfree] at hk
    · rw [hcode]
      rfl
  | raises hcode hrun he =>
    exact ⟨hfree hcode, none, _, hcode ▸ valueOf?_of_error hrun he, nofun⟩
  | invalid hk hcode hrun hshape =>
    refine ⟨hfree hcode, some _, _, hcode ▸ valueOf?_of_ok hrun, ?_⟩
    rintro _ ⟨⟩
    have hother : c.kind ≠ .externalSetup := fun hsetup => by simp [hsetup] at hk
    simp [useless, hother, hshape]
  | uncallable hk hcode hrun hv =>
    refine ⟨hfree hcode, some _, _, hcode ▸ valueOf?_of_ok hrun, ?_⟩
    rintro _ ⟨⟩
    simp [useless, hk, hv]

theorem specParts_of_useless {c : Classified} (hkind : c.kind ≠ .externalSetup) {source : String}
    {w : World} {m m' : Machine} (hw : w.machine = m) {v : Option Value}
    (h : valueOf? (compiled? host convention source) m = (.ok v, m'))
    (hv : ∀ u, v = some u → useless c m'.heap u = true) :
    (specParts host convention c source w).1 = .ok [] := by
  subst hw
  obtain ⟨w', hw', hm⟩ := (runs_evaluate host "component spec" c.index _ _).of_ok h
  unfold specParts
  rw [Try.bind_of_ok hw']
  cases v with
  | none => rfl
  | some v =>
    have hshape : shapeOf w'.heap v = .invalid := by
      rw [show w'.heap = m'.heap from congrArg Machine.heap hm]
      simpa [useless, hkind] using hv v rfl
    show (valueParts c source v w').1 = _
    unfold valueParts
    rw [Try.getWorld_bind]
    dsimp only
    rw [hshape]
    rfl

theorem setupParts_of_useless {c : Classified} (hkind : c.kind = .externalSetup)
    {w : World} {v : Option Value} {m' : Machine}
    (h : valueOf? (compiled? host setupName c.body) w.machine = (.ok v, m'))
    (hv : ∀ u, v = some u → useless c m'.heap u = true) : (setupParts host c w).1 = .ok [] := by
  obtain ⟨w', hw', hm⟩ := (runs_evaluate host "external config" c.index _ _).of_ok h
  unfold setupParts
  rw [Try.bind_of_ok hw']
  cases v with
  | none => rfl
  | some v =>
    have hcallable : v.isCallable w'.heap = false := by
      rw [show w'.heap = m'.heap from congrArg Machine.heap hm]
      simpa [useless, hkind] using hv v rfl
    dsimp only
    rw [Try.getWorld_bind, hcallable]
    rfl

/-- **Idle blocks contribute nothing.** -/
theorem blockParts_of_idle {w : World} {c : Classified}
    (h : Idle host convention w.machine c) : (blockParts host convention c w).1 = .ok [] := by
  by_cases hdisabled : c.kind = .disabled
  · unfold blockParts
    rw [hdisabled]
    rfl
  obtain ⟨hfree, v, m', hrun, hv⟩ := h.valueOf? hdisabled
  unfold code? at hrun
  unfold blockParts
  cases hk : c.kind with
  | disabled => exact absurd hk hdisabled
  | freeForm => exact absurd hk hfree
  | bareReference =>
    rw [hk] at hrun
    have hne : c.kind ≠ .externalSetup := by simp [hk]
    dsimp only
    rw [Try.act_bind]
    exact specParts_of_useless hne (quiet_sameMachine.note w) hrun hv
  | componentSpec =>
    rw [hk] at hrun
    exact specParts_of_useless (by simp [hk]) rfl hrun hv
  | externalSetup =>
    rw [hk] at hrun
    exact setupParts_of_useless hk hrun hv

theorem build_append_of_ok {xs : List Classified} {w left : World} {r : List Spec × List Entry}
    (h : build host convention xs w = (.ok r, left)) (ys : List Classified) :
    (build host convention (xs ++ ys) w).1 = (build host convention ys left).1.map (joined r) ∧
      (build host convention (xs ++ ys) w).2.machine =
        (build host convention ys left).2.machine := by
  obtain ⟨happend, hmachine⟩ :=
    build_append xs ys (v := left) (congrArg (fun x => x.2.machine) h).symm
  rw [h] at happend hmachine
  refine ⟨happend.trans ?_, hmachine r rfl⟩
  cases (build host convention ys left).1 <;> rfl

end Component

/-! ## What blocks share -/

namespace Script

/-- The names of the host lead to the object. -/
inductive Shared (host : Host) (h : Heap) : Nat → Prop where
  | named {a : Nat} (ha : a ∈ addresses host) : Shared host h a
  | part {a b : Nat} {o : Object} (ha : Shared host h a) (ho : h.get? a = some o)
      (hb : b ∈ addresses o) : Shared host h b

/-- Nothing refers to an object that is not there. -/
structure Closed (host : Host) (h : Heap) : Prop where
  host : Inside (· < h.size) host
  objects : ∀ a o, h.get? a = some o → Inside (· < h.size) o

namespace Closed

variable {host : Host} {h : Heap}

theorem iff_forall : Closed host h ↔ (∀ a ∈ addresses host, a < h.size) ∧
    ∀ o ∈ h.objects.toList, ∀ a ∈ addresses o, a < h.size := by
  constructor
  · intro hc
    refine ⟨hc.host, fun o ho => ?_⟩
    obtain ⟨a, ha⟩ := List.mem_iff_getElem?.1 ho
    exact hc.objects a o (by rw [← ha, Array.getElem?_toList]; rfl)
  · rintro ⟨hhost, hobjects⟩
    refine ⟨hhost, fun a o ho => hobjects o ?_⟩
    exact Array.mem_toList_iff.2 (Array.mem_of_getElem? ho)

instance : Decidable (Closed host h) := decidable_of_iff _ iff_forall.symm

end Closed

/-- The heap that a run starts with is closed if the host names no objects. -/
example : Closed [("limit", .int 3)] .empty := by decide

/-- The gap that is left by the objects made between two heaps. -/
def Gap.between (h h' : Heap) : Gap := ⟨h.size, h'.size - h.size, fun _ => True⟩

theorem exists_get?_of_lt {h : Heap} {a : Nat} (ha : a < h.size) : ∃ o, h.get? a = some o :=
  ⟨h.objects[a], Array.getElem?_eq_getElem ha⟩

/-- A heap mirrors itself, whatever is in sight, if that leads to nothing else. -/
theorem Mirror.self {h : Heap} {old : Nat → Prop}
    (hold : ∀ a o, a < h.size → old a → h.get? a = some o →
      Inside (fun b => b < h.size ∧ old b) o) : Mirror ⟨h.size, 0, old⟩ h h := by
  have hmove : ∀ a, Gap.move ⟨h.size, 0, old⟩ a = a := fun a => ite_self a
  refine ⟨Nat.le_refl _, rfl, fun a ha => ?_⟩
  obtain ⟨hlt, ha⟩ | ⟨hle, hlt⟩ := ha
  · obtain ⟨o, ho⟩ := exists_get?_of_lt hlt
    refine ⟨o, ho, ?_, (hold a o hlt ha ho).mono fun _ => Or.inl⟩
    rw [hmove, ho, rename_eq_self fun b _ => hmove b]
  · exact absurd hlt (Nat.not_lt.2 hle)

/-- A heap mirrors a later one with the same old objects. -/
theorem Closed.mirror {host : Host} {h h' : Heap} (hc : Closed host h) (hle : h.size ≤ h'.size)
    (hsame : ∀ a, a < h.size → h'.get? a = h.get? a) : Mirror (.between h h') h h' := by
  have hmove : ∀ a, a < h.size → (Gap.between h h').move a = a :=
    fun a (ha : a < (Gap.between h h').start) => Gap.move_of_lt ha
  refine ⟨Nat.le_refl _, (Nat.add_sub_cancel' hle).symm, fun a ha => ?_⟩
  obtain ⟨hlt, -⟩ | ⟨hle, hlt⟩ := ha
  · obtain ⟨o, ho⟩ := exists_get?_of_lt hlt
    refine ⟨o, ho, ?_, (hc.objects a o ho).mono fun _ hb => Or.inl ⟨hb, trivial⟩⟩
    rw [hmove a hlt, hsame a hlt, ho, rename_eq_self fun b hb => hmove b (hc.objects a o ho b hb)]
  · exact absurd hlt (Nat.not_lt.2 hle)

end Script

namespace Component

/-- **Nothing refers to objects that are not there**, however many blocks have been built. -/
theorem closed_build (convention : String) {w : World} (hc : Closed host w.heap) (cs : List Classified) :
    Closed host (build host convention cs w).2.heap ∧
      Inside (· < (build host convention cs w).2.heap.size) (build host convention cs w).1 := by
  have hself : Mirror ⟨w.heap.size, 0, fun _ => True⟩ w.heap w.heap :=
    .self fun a o _ _ ho => (hc.objects a o ho).mono fun _ hb => ⟨hb, trivial⟩
  have hhost := hc.host.mono (Q := fun a => a < w.heap.size ∧ True) fun _ ha => ⟨ha, trivial⟩
  obtain ⟨hm, hspares, -, hin⟩ :=
    mirrors_build hhost convention cs w w (Nat.le_refl w.heap.size) hself
  have hlt : ∀ a, Gap.Sees ⟨w.heap.size, 0, fun _ => True⟩ _ a →
      a < (build host convention cs w).2.heap.size := fun a ha =>
    ha.elim (fun h => Nat.lt_of_lt_of_le h.1 hspares.size_le) fun h => h.2
  refine ⟨⟨hc.host.mono fun _ ha => Nat.lt_of_lt_of_le ha hspares.size_le, fun a o ho => ?_⟩,
    hin.mono hlt⟩
  have ha : Gap.Sees ⟨w.heap.size, 0, fun _ => True⟩
      (build host convention cs w).2.heap.size a := by
    have hsize := Heap.lt_size_of_get? ho
    by_cases hold : a < w.heap.size
    · exact Or.inl ⟨hold, trivial⟩
    · exact Or.inr ⟨Nat.not_lt.1 hold, hsize⟩
  obtain ⟨o', ho', -, hin'⟩ := hm.object a ha
  obtain rfl : o = o' := Option.some.inj (ho.symm.trans ho')
  exact hin'.mono hlt

/-- **Blocks change no objects but shared ones.** -/
theorem get?_build_of_not_shared (convention : String) {w : World} (hc : Closed host w.heap)
    (cs : List Classified) :
    w.heap.size ≤ (build host convention cs w).2.heap.size ∧
      ∀ a, a < w.heap.size → ¬ Shared host w.heap a →
        (build host convention cs w).2.heap.get? a = w.heap.get? a := by
  have hself : Mirror ⟨w.heap.size, 0, Shared host w.heap⟩ w.heap w.heap :=
    .self fun a o _ ha ho b hb => ⟨hc.objects a o ho b hb, ha.part ho hb⟩
  have hhost : Inside (fun a => a < w.heap.size ∧ Shared host w.heap a) host :=
    fun a ha => ⟨hc.host a ha, .named ha⟩
  obtain ⟨-, hspares, -, -⟩ :=
    mirrors_build hhost convention cs w w (Nat.le_refl w.heap.size) hself
  exact ⟨hspares.size_le, hspares.unseen⟩

theorem rename_joined {σ : Nat → Nat} (r r' : List Spec × List Entry) :
    rename σ (joined r r') = joined (rename σ r) (rename σ r') := by
  have hbehind : ∀ n (es : List Entry),
      rename σ (es.map (Entry.behind n)) = (rename σ es).map (Entry.behind n) := fun n es => by
    rw [rename_eq_map, rename_eq_map, List.map_map, List.map_map]
    rfl
  obtain ⟨ss, es⟩ := r
  obtain ⟨ss', es'⟩ := r'
  simp only [joined, rename_pair, rename_append, hbehind, length_rename]

theorem joined_nil (r : List Spec × List Entry) : joined ([], []) r = r := by
  have hbehind : r.2.map (Entry.behind 0) = r.2 := by
    rw [show Entry.behind 0 = id from funext fun e => by simp [Entry.behind], List.map_id]
  unfold joined
  rw [List.nil_append, List.nil_append, List.length_nil, hbehind]

/-- One block alone. -/
theorem build_singleton {w : World} {c : Classified} {ps : List Part}
    (h : (blockParts host convention c w).1 = .ok ps) :
    (build host convention [c] w).1 = .ok (assembled ps) := by
  have hblock : blockParts host convention c w = (.ok ps, _) := Prod.ext h rfl
  have hparts : (allParts host convention [c] w).1 = .ok ps := by
    unfold allParts
    rw [Try.bind_of_ok hblock]
    exact congrArg Except.ok (List.append_nil ps)
  rw [(build_apply _ _ _ _).1, hparts]
  rfl

theorem build_of_idle {w : World} {c : Classified} (h : Idle host convention w.machine c) :
    (build host convention [c] w).1 = .ok ([], []) :=
  build_singleton (blockParts_of_idle h)

/-- **What is built without a block that contributes nothing**, and that leaves alone the
objects it shares with the others. -/
theorem build_without {xs ys : List Classified} {c : Classified} {w left mid : World}
    {r : List Spec × List Entry} (hleft : build host convention xs w = (.ok r, left))
    (hmid : build host convention [c] left = (.ok ([], []), mid)) (hc : Closed host w.heap)
    (hshared : ∀ a, Shared host left.heap a → mid.heap.get? a = left.heap.get? a) :
    let g := Gap.between left.heap mid.heap
    rename g.move r = r ∧
      (build host convention (xs ++ c :: ys) w).1 =
        rename g.move (build host convention (xs ++ ys) w).1 ∧
      Mirror g (build host convention (xs ++ ys) w).2.heap
        (build host convention (xs ++ c :: ys) w).2.heap := by
  intro g
  obtain ⟨hc', hr⟩ := closed_build convention hc xs
  rw [hleft] at hc' hr
  obtain ⟨hle, hunshared⟩ := get?_build_of_not_shared convention hc' [c]
  rw [hmid] at hle hunshared
  have hsame : ∀ a, a < left.heap.size → mid.heap.get? a = left.heap.get? a := fun a ha =>
    (Classical.em (Shared host left.heap a)).elim (hshared a) (hunshared a ha)
  have hhost : Inside (fun a => a < g.start ∧ g.old a) host :=
    hc'.host.mono fun _ ha => ⟨ha, trivial⟩
  have hself : rename g.move r = r := rename_eq_self fun a ha => Gap.move_of_lt (hr a ha)
  obtain ⟨hm, -, hys, -⟩ :=
    mirrors_build hhost convention ys left mid (Nat.le_refl _) (hc'.mirror hle hsame)
  obtain ⟨hwithout, hheap⟩ := build_append_of_ok hleft ys
  obtain ⟨hwith, hheap'⟩ := build_append_of_ok hleft ([c] ++ ys)
  obtain ⟨hrest, hheap''⟩ := build_append_of_ok hmid ys
  refine ⟨hself, ?_, ?_⟩
  · have hjoined : ∀ x : Except Raised (List Spec × List Entry),
        (rename g.move x).map (joined r) = rename g.move (x.map (joined r)) := fun x => by
      cases x with
      | error e => rfl
      | ok r' => exact congrArg Except.ok (by rw [rename_joined, hself])
    calc (build host convention (xs ++ c :: ys) w).1
        = ((build host convention ys mid).1.map (joined ([], []))).map (joined r) := by
          rw [← hrest]
          exact hwith
      _ = (build host convention ys mid).1.map (joined r) := by
          cases (build host convention ys mid).1 with
          | error e => rfl
          | ok r' => exact congrArg (fun x => Except.ok (joined r x)) (joined_nil r')
      _ = rename g.move ((build host convention ys left).1.map (joined r)) := by
          rw [hys, hjoined]
      _ = rename g.move (build host convention (xs ++ ys) w).1 := by rw [hwithout]
  · unfold World.heap
    rw [hheap]
    exact (hheap'.trans hheap'') ▸ hm

/-- A block that contributes nothing and leaves the machine as it is might as well not be
there. -/
theorem build_without_of_same_machine {xs ys : List Classified} {c : Classified} {w : World}
    {left mid : World} (hleft : (build host convention xs w).2 = left)
    (hmid : build host convention [c] left = (.ok ([], []), mid))
    (hsame : mid.machine = left.machine) :
    (build host convention (xs ++ c :: ys) w).1 = (build host convention (xs ++ ys) w).1 := by
  have hv : left.machine = (build host convention xs w).2.machine := by rw [hleft]
  have hrest : (build host convention (c :: ys) left).1 = (build host convention ys left).1 := by
    have hmid' : left.machine = (build host convention [c] left).2.machine := by rw [hmid, hsame]
    have happend := (build_append [c] ys hmid').1
    rw [hmid] at happend
    refine happend.trans ?_
    cases (build host convention ys left).1 with
    | error e => rfl
    | ok r => exact congrArg Except.ok (joined_nil r)
  rw [(build_append xs (c :: ys) hv).1, (build_append xs ys hv).1, hrest]

/-- **Building is compositional, and failures are local.** Blocks are built one after the
other, with entries numbered from 1. An idle block between others contributes nothing. The
others contribute the same without it if it leaves the machine as it is; if it only leaves
alone what it shares with them, they do so up to the addresses of later objects. -/
theorem build_compositional (host : Host) (convention : String) (xs ys : List Classified)
    (w : World) :
    let left := (build host convention xs w).2
    ((build host convention (xs ++ ys) w).1 = do
      let r ← (build host convention xs w).1
      let r' ← (build host convention ys left).1
      return joined r r') ∧
    (∀ r, (build host convention xs w).1 = .ok r →
      r.2.map Entry.index = (List.range' 1 r.2.length).map Nat.cast ∧
      (build host convention (xs ++ ys) w).2.machine =
        (build host convention ys left).2.machine) ∧
    ∀ c, Idle host convention left.machine c →
      let mid := (build host convention [c] left).2
      (build host convention [c] left).1 = .ok ([], []) ∧
      (mid.machine = left.machine →
        (build host convention (xs ++ c :: ys) w).1 = (build host convention (xs ++ ys) w).1) ∧
      ∀ r, (build host convention xs w).1 = .ok r → Closed host w.heap →
        (∀ a, Shared host left.heap a → mid.heap.get? a = left.heap.get? a) →
        let g := Gap.between left.heap mid.heap
        rename g.move r = r ∧
          (build host convention (xs ++ c :: ys) w).1 =
            rename g.move (build host convention (xs ++ ys) w).1 ∧
          Mirror g (build host convention (xs ++ ys) w).2.heap
            (build host convention (xs ++ c :: ys) w).2.heap := by
  intro left
  obtain ⟨happend, hmachine⟩ := build_append xs ys (v := left) rfl
  refine ⟨happend, fun r hr => ⟨index_of_build hr, hmachine r hr⟩, fun c hidle => ?_⟩
  intro mid
  have hmid : build host convention [c] left = (.ok ([], []), mid) :=
    Prod.ext (build_of_idle hidle) rfl
  refine ⟨build_of_idle hidle, build_without_of_same_machine rfl hmid, fun r hr hc => ?_⟩
  exact build_without (Prod.ext hr rfl) hmid hc

/-- A host that shares a list. -/
def sampleHost : Host := [("registry", .ref 0)]

def sampleRegistry : World where
  machine := ⟨⟨#[.list []]⟩, ""⟩
  disk := ⟨[], ⟨1, []⟩, ⟨1, []⟩⟩
  threshold := .info
  records := []
  logFile := none

def sampleBlock (index : Int) (text : String) : Classified :=
  Block.classify "spec" ⟨index, text, text, .unspecified, false, false, none⟩

def sampleFirst : List Classified := [sampleBlock 1 "spec = ['a/a']"]

/-- A block that divides by zero after it has made a list. -/
def sampleIdle : Classified := sampleBlock 2 "spec = [[], 1 / 0]"

def sampleLast : List Classified :=
  [sampleBlock 3 "spec = ['b/b', []]", sampleBlock 4 "print(registry)"]

/-- The names of components, and the numbers of entries. -/
def summary (r : List Spec × List Entry) : List (Option String) × List Int :=
  (r.1.map Spec.identifier, r.2.map Entry.index)

def isEmptyList : Option Object → Bool
  | some (.list []) => true
  | _ => false

theorem eq_of_isEmptyList {o : Option Object} (h : isEmptyList o = true) :
    o = some (.list []) := by
  unfold isEmptyList at h
  split at h
  · rfl
  · cases h

/-- An empty list leads nowhere. -/
theorem eq_zero_of_shared {h : Heap} (hlist : h.get? 0 = some (.list [])) {a : Nat}
    (ha : Shared sampleHost h a) : a = 0 := by
  induction ha with
  | named ha => exact List.mem_singleton.1 ha
  | part _ ho hb ih =>
    rw [ih, hlist] at ho
    cases ho
    cases hb

/-- The block in the middle leaves the shared list alone; what stands behind it is built all
the same. -/
theorem build_compositional_sample :
    (∃ g : Gap,
      (build sampleHost "spec" (sampleFirst ++ sampleIdle :: sampleLast) sampleRegistry).1 =
        rename g.move (build sampleHost "spec" (sampleFirst ++ sampleLast) sampleRegistry).1) ∧
    (build sampleHost "spec" (sampleFirst ++ sampleLast) sampleRegistry).1.toOption.map summary =
      some ([some "a/a", some "b/b"], [1, 2]) := by
  obtain ⟨-, -, hidle⟩ :=
    build_compositional sampleHost "spec" sampleFirst sampleLast sampleRegistry
  obtain ⟨r, hr⟩ := exists_of_isOk
    (show (build sampleHost "spec" sampleFirst sampleRegistry).1.isOk = true by decide +kernel)
  obtain ⟨-, -, hdelete⟩ := hidle sampleIdle (by decide +kernel)
  obtain ⟨-, hsame, -⟩ := hdelete r hr (by decide) fun a ha => by
    have hbefore := eq_of_isEmptyList (show isEmptyList
      ((build sampleHost "spec" sampleFirst sampleRegistry).2.heap.get? 0) = true by
        decide +kernel)
    have hafter := eq_of_isEmptyList (show isEmptyList
      ((build sampleHost "spec" [sampleIdle]
        (build sampleHost "spec" sampleFirst sampleRegistry).2).2.heap.get? 0) = true by
          decide +kernel)
    rw [eq_zero_of_shared hbefore ha, hbefore, hafter]
  exact ⟨⟨_, hsame⟩, by decide +kernel⟩

end Component

end LiterateConfig
