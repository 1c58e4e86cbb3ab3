import LiterateConfig.Proofs.Origins
import LiterateConfig.Proofs.SetValues

/-!
# Code keeps sets sets

A set is made by a literal, which puts in one item after the other, or by taking items from
another one. Nothing else changes a set, and no object becomes one. So whatever code does on a
sound heap, the heap stays sound, and the value that it gives is sound.

**Upheld soundness.** `Upholds h P x` says of a computation on the sound heap `h` that the heap
it leaves is sound and a later one, however it ends, and that `P` holds there of what it gives.
`Upholds.bind` takes sequences apart: what was sound is sound on the later heap. The lemmas
follow the evaluation. What calls do is a parameter of it, and a call with room for more calls
within it is settled by induction on the room.

Results:
* `upholds_evalExpr`, `upholds_execStmt`: expressions and statements;
* `upholds_callAt`: calls;
* `Compiled.upholds_run`: blocks;
* `isSet_of_evaluate`: the set that a block gives;
* `sound_of_build`: blocks one after the other.
-/
namespace LiterateConfig

namespace Script

variable {α β : Type}

/-! ## Upheld soundness -/

/-- How a computation on the heap `h` has ended: on a later heap that is sound, with a result of
which `P` holds there. -/
structure Upheld (h : Heap) (P : Heap → α → Prop) (r : Except Raised α × Machine) : Prop where
  later : h.Later r.2.heap
  sound : r.2.heap.Sound
  gives : ∀ a, r.1 = .ok a → P r.2.heap a

/-- The computation keeps a sound heap sound, and `P` holds of its result. -/
def Upholds (h : Heap) (P : Heap → α → Prop) (x : Eval α) : Prop :=
  ∀ m : Machine, m.heap = h → h.Sound → Upheld h P (x m)

/-- What holds of a result of which nothing is asked. -/
def Whatever (_ : Heap) (_ : α) : Prop := True

variable {h : Heap} {P : Heap → α → Prop} {Q : Heap → β → Prop} {x : Eval α} {f : α → Eval β}

theorem Upheld.from_later {h' : Heap} {r : Except Raised α × Machine} (hl : h.Later h')
    (hr : Upheld h' P r) : Upheld h P r :=
  ⟨hl.trans hr.later, hr.sound, hr.gives⟩

theorem Upholds.bind (hx : Upholds h P x)
    (hf : ∀ h', h.Later h' → ∀ a, P h' a → Upholds h' Q (f a)) : Upholds h Q (x >>= f) := by
  intro m hm hsound
  have hx := hx m hm hsound
  rw [Try.bind_apply]
  rcases hr : x m with ⟨e | a, m'⟩ <;> rw [hr] at hx
  · exact ⟨hx.later, hx.sound, fun b hb => nomatch hb⟩
  · exact .from_later hx.later (hf m'.heap hx.later a (hx.gives a rfl) m' rfl hx.sound)

theorem Upholds.imp {P' : Heap → α → Prop} (hx : Upholds h P x)
    (himp : ∀ h', h.Later h' → ∀ a, P h' a → P' h' a) : Upholds h P' x := fun m hm hsound =>
  let hx := hx m hm hsound
  ⟨hx.later, hx.sound, fun a ha => himp _ hx.later a (hx.gives a ha)⟩

/-- What is read off a heap. -/
theorem upholds_of_reads (hx : Reads x)
    (hP : ∀ m : Machine, m.heap = h → h.Sound → ∀ a, (x m).1 = .ok a → P h a) :
    Upholds h P x := by
  intro m hm hsound
  have hsame : (x m).2.heap = h := by rw [hx m, hm]
  constructor
  · rw [hsame]
    exact .refl h
  · rwa [hsame]
  · rw [hsame]
    exact hP m hm hsound

/-- What follows a computation that only reads runs on the heap that is there. -/
theorem Upholds.after (hx : Reads x)
    (hf : ∀ m : Machine, m.heap = h → ∀ a, (x m).1 = .ok a → Upholds h Q (f a)) :
    Upholds h Q (x >>= f) := by
  intro m hm hsound
  have hsame := hx m
  rw [Try.bind_apply]
  rcases hr : x m with ⟨e | a, m'⟩ <;> rw [hr] at hsame <;> obtain rfl : m' = m := hsame
  · exact ⟨hm ▸ .refl _, hm ▸ hsound, fun b hb => nomatch hb⟩
  · exact hf m' hm a (by rw [hr]) m' hm hsound

theorem upholds_of_heap {f : Heap → Eval β} (hf : h.Sound → Upholds h Q (f h)) :
    Upholds h Q (heap >>= f) := by
  rintro m rfl hsound
  exact hf hsound m rfl hsound

theorem upholds_pure {a : α} (ha : P h a) : Upholds h P (pure a) :=
  upholds_of_reads (reads_pure a) fun _ _ _ _ heq => by cases heq; exact ha

theorem upholds_throw (e : Raised) : Upholds h P (throw e) :=
  upholds_of_reads (reads_throw e) fun _ _ _ _ heq => nomatch heq

theorem upholds_fail (kind : ErrorKind) (message : String) : Upholds h P (fail kind message) :=
  upholds_throw _

theorem upholds_alloc {o : Object} (ho : o.Sound h) : Upholds h Value.Sound (alloc o) := by
  rintro m rfl hsound
  refine ⟨.alloc _ o, hsound.alloc ho, fun v hv => ?_⟩
  cases hv
  exact Heap.lt_size_of_get? (Heap.get?_alloc_new m.heap o)

/-- An object that is replaced by one of its kind. -/
theorem upholds_update {a : Nat} {o o' : Object} (ha : h.get? a = some o)
    (hkind : o'.unhashable? = o.unhashable?) (ho' : o'.Sound h) :
    Upholds h Whatever (update a o') := by
  rintro m rfl hsound
  exact ⟨.set ha hkind, hsound.set ha hkind ho', fun _ _ => trivial⟩

/-- An object other than a set that holds sound values is a sound one. -/
theorem upholds_alloc_held {o : Object} (hheld : AllSound h o.held)
    (hkind : o.isSet = false) : Upholds h Value.Sound (alloc o) :=
  upholds_alloc (.of_held hheld hkind)

/-! ## Operations -/

theorem upholds_combineNumbers (op : BinaryOp) (a b : Numeral) :
    Upholds h Value.Sound (combineNumbers op a b) := by
  have asFloat : ∀ h a, Upholds h Whatever (asFloat a) := by
    intro h a
    unfold Script.asFloat
    dsimp only
    repeat' split
    all_goals first
      | exact upholds_pure trivial
      | exact upholds_fail _ _
  have divideInts : ∀ a b, Upholds h Value.Sound (divideInts a b) := by
    intro a b
    unfold Script.divideInts
    dsimp only
    repeat' split
    all_goals first
      | exact upholds_pure trivial
      | exact upholds_fail _ _
  unfold combineNumbers
  split
  · exact upholds_pure trivial
  · exact upholds_pure trivial
  · exact upholds_pure trivial
  · exact divideInts _ _
  · refine (asFloat h _).bind fun h _ _ _ => (asFloat h _).bind fun _ _ _ _ => ?_
    repeat' split
    all_goals first
      | exact upholds_pure trivial
      | exact upholds_fail _ _

/-- Repetition gives no other items than there are. -/
theorem upholds_repeated (items : List α) (n : Int) :
    Upholds h (fun _ repeated => ∀ x ∈ repeated, x ∈ items) (repeated items n) := by
  unfold repeated
  repeat' split
  · exact upholds_fail _ _
  · exact upholds_throw _
  · refine upholds_pure fun x hx => ?_
    obtain ⟨block, hblock, hx⟩ := List.mem_flatten.1 hx
    rwa [List.eq_of_mem_replicate hblock] at hx

/-- What items a value can be joined with others or repeated for. -/
def Sequence.Sound (h : Heap) : Sequence → Prop
  | .tuple items | .list items => AllSound h items
  | .text _ | .bytes _ => True

theorem sound_of_sequence? (hsound : h.Sound) {v : Value} (hv : v.Sound h) {s : Sequence}
    (hs : sequence? h v = some s) : s.Sound h := by
  unfold sequence? at hs
  split at hs
  · cases hs
    trivial
  · cases hs
    trivial
  · cases hs
    exact hv
  · split at hs
    · next ha =>
      cases hs
      exact (hsound _ _ ha).held
    · cases hs
  · cases hs

theorem Sequence.upholds_repeat {s : Sequence} (hs : s.Sound h) (n : Int) :
    Upholds h Value.Sound (s.repeat n) := by
  have repeatedItems : ∀ {items : List Value}, AllSound h items →
      Upholds h AllSound (repeated items n) := fun hitems =>
    (upholds_repeated _ n).imp fun _ hl _ hvs => allSound_iff.2 fun v hv =>
      (allSound_iff.1 hitems v (hvs v hv)).later hl
  cases s with
  | text s => exact (upholds_repeated _ n).bind fun _ _ _ _ => upholds_pure trivial
  | bytes b => exact (upholds_repeated _ n).bind fun _ _ _ _ => upholds_pure trivial
  | tuple items => exact (repeatedItems hs).bind fun _ _ vs hvs => upholds_pure hvs
  | list items =>
    exact (repeatedItems hs).bind fun _ _ vs hvs => upholds_alloc_held hvs rfl

/-- The items of a set are sound and those of a set. -/
theorem isSet_of_setItems? (hsound : h.Sound) {v : Value} (hv : v.Sound h) {items : List Value}
    (hitems : setItems? h v = some items) : AllSound h items ∧ IsSet h items := by
  unfold setItems? at hitems
  split at hitems
  · cases hitems
    exact hv
  · split at hitems
    · next ha =>
      cases hitems
      exact ⟨(hsound _ _ ha).held, (hsound _ _ ha).items _ rfl⟩
    · cases hitems
  · cases hitems

theorem upholds_join (hsound : h.Sound) {s : Sequence} (hs : s.Sound h) (v : Value) {w : Value}
    (hw : w.Sound h) : Upholds h Value.Sound (join h s v w) := by
  unfold join
  dsimp only
  split
  · exact upholds_pure trivial
  · exact upholds_pure trivial
  · next hb =>
    exact upholds_pure (allSound_append.2 ⟨hs, sound_of_sequence? hsound hw hb⟩)
  · next hb =>
    exact upholds_alloc_held (allSound_append.2 ⟨hs, sound_of_sequence? hsound hw hb⟩) rfl
  · exact upholds_fail _ _
  · exact upholds_fail _ _

theorem upholds_subtractSets (v : Value) {as : List Value} (bs : List Value)
    (has : AllSound h as ∧ IsSet h as) : Upholds h Value.Sound (subtractSets h v as bs) := by
  have hleft : AllSound h (as.filter fun a => !anySame a bs) :=
    allSound_iff.2 fun a ha => allSound_iff.1 has.1 a (List.mem_filter.1 ha).1
  unfold subtractSets
  dsimp only
  split
  · exact upholds_pure ⟨hleft, has.2.filter _⟩
  · exact upholds_alloc ⟨hleft, fun items heq => by cases heq; exact has.2.filter _⟩

theorem upholds_combine (op : BinaryOp) {v w : Value} (hv : v.Sound h) (hw : w.Sound h) :
    Upholds h Value.Sound (combine op v w) := by
  have multiplySequence : ∀ s : Sequence, s.Sound h → ∀ other,
      Upholds h Value.Sound (multiplySequence h s other) := by
    intro s hs other
    unfold Script.multiplySequence
    split
    · exact s.upholds_repeat hs _
    · exact upholds_fail _ _
  unfold combine
  refine upholds_of_heap fun hsound => ?_
  split
  · exact upholds_combineNumbers _ _ _
  · split
    · next hs => exact upholds_join hsound (sound_of_sequence? hsound hv hs) v hw
    · next hs => exact multiplySequence _ (sound_of_sequence? hsound hv hs) _
    · next hs => exact multiplySequence _ (sound_of_sequence? hsound hw hs) _
    · split
      · next has _ => exact upholds_subtractSets v _ (isSet_of_setItems? hsound hv has)
      · exact upholds_fail _ _
    · exact upholds_fail _ _

theorem upholds_negated (v : Value) : Upholds h Value.Sound (negated v) := by
  unfold negated
  split
  · exact upholds_pure trivial
  · exact upholds_pure trivial
  · exact upholds_of_heap fun _ => upholds_fail _ _

/-! ### Parts -/

theorem upholds_itemAt (what range : String) (items : List α) (i : Value) :
    Upholds h (fun _ x => x ∈ items) (itemAt what range items i) := by
  unfold itemAt
  split
  · exact upholds_of_heap fun _ => upholds_fail _ _
  · split
    · next hx =>
      obtain ⟨j, -, hj⟩ := Option.bind_eq_some_iff.1 hx
      exact upholds_pure (List.mem_of_getElem? hj)
    · exact upholds_fail _ _

theorem upholds_getItem {v : Value} (hv : v.Sound h) (i : Value) :
    Upholds h Value.Sound (getItem v i) := by
  have itemAt : ∀ {items : List Value}, AllSound h items → ∀ what range,
      Upholds h Value.Sound (itemAt what range items i) := fun hitems _ _ =>
    (upholds_itemAt _ _ _ i).imp fun _ hl v hv => (allSound_iff.1 hitems v hv).later hl
  unfold getItem
  refine upholds_of_heap fun hsound => ?_
  split
  · exact (upholds_itemAt _ _ _ _).bind fun _ _ _ _ => upholds_pure trivial
  · exact (upholds_itemAt _ _ _ _).bind fun _ _ _ _ => upholds_pure trivial
  · exact itemAt hv _ _
  · split
    · next ha => exact itemAt (hsound _ _ ha).held _ _
    · next ha =>
      refine .after (Schedule.reads_requireKey i) fun _ _ _ _ => ?_
      split
      · next hpair => exact upholds_pure (sound_of_pair? (hsound _ _ ha).held hpair)
      · exact upholds_throw _
    · exact upholds_fail _ _
  · exact upholds_fail _ _
  · exact upholds_fail _ _

theorem upholds_setItem {e i v : Value} (hi : i.Sound h) (hv : v.Sound h) :
    Upholds h Whatever (setItem e i v) := by
  unfold setItem
  refine upholds_of_heap fun hsound => ?_
  split
  · split
    · next items ha =>
      split
      · exact upholds_fail _ _
      · split
        · refine upholds_update ha rfl (.of_held (allSound_iff.2 fun w hw => ?_) rfl)
          rcases List.mem_or_eq_of_mem_set hw with hw | rfl
          · exact allSound_iff.1 (hsound _ _ ha).held w hw
          · exact hv
        · exact upholds_fail _ _
    · next ha =>
      refine .after (Schedule.reads_requireKey i) fun _ _ _ _ => ?_
      exact upholds_update ha rfl
        (.of_held (allSound_putPair (hsound _ _ ha).held hi hv) rfl)
    · exact upholds_fail _ _
  · exact upholds_fail _ _

theorem upholds_getAttribute (v : Value) (name : String) :
    Upholds h Value.Sound (getAttribute v name) := by
  unfold getAttribute
  refine upholds_of_heap fun hsound => ?_
  dsimp only
  repeat' split
  all_goals first
    | exact upholds_fail _ _
    | exact upholds_pure trivial
    | next ha _ _ hget => exact upholds_pure (sound_of_get? (hsound _ _ ha).held hget)

theorem upholds_appendTo (list : Nat) {v : Value} (hv : v.Sound h) :
    Upholds h Whatever (appendTo list v) := by
  unfold appendTo
  refine upholds_of_heap fun hsound => ?_
  split
  · next ha =>
    exact upholds_update ha rfl
      (.of_held (allSound_append.2 ⟨(hsound _ _ ha).held, hv, trivial⟩) rfl)
  · exact upholds_pure trivial

/-! ## Names -/

theorem sound_of_ownName? (hsound : h.Sound) {name : String} {scopes : List Nat} {a : Nat}
    {v : Value} (hname : ownName? h name scopes = some (a, some v)) : v.Sound h := by
  induction scopes with
  | nil => cases hname
  | cons b rest ih =>
    rw [ownName?] at hname
    split at hname
    · next hb =>
      split at hname
      · have hget := congrArg Prod.snd (Option.some.inj hname)
        exact sound_of_get? (hsound _ _ hb).held hget
      · exact ih hname
    · exact ih hname

theorem sound_of_globalName? (hsound : h.Sound) {globals : Nat} {name : String} {v : Value}
    (hname : globalName? h globals name = some v) : v.Sound h := by
  unfold globalName? at hname
  split at hname
  · next ha => exact sound_of_get? (hsound _ _ ha).held hname
  · cases hname

theorem sound_of_builtinName? {name : String} {v : Value} (hname : builtinName? name = some v) :
    v.Sound h := by
  unfold builtinName? at hname
  repeat' split at hname
  all_goals first
    | cases hname
      trivial
    | obtain ⟨k, -, rfl⟩ := Option.map_eq_some_iff.1 hname
      trivial

theorem upholds_lookUp (at' : Place) (name : String) : Upholds h Value.Sound (lookUp at' name) := by
  unfold lookUp
  refine upholds_of_heap fun hsound => ?_
  split
  · next hname => exact upholds_pure (sound_of_ownName? hsound hname)
  · split
    · exact upholds_fail _ _
    · exact upholds_fail _ _
  · split
    · next hname =>
      rw [Option.orElse_eq_orElse, Option.orElse_eq_or] at hname
      refine upholds_pure ?_
      rcases Option.or_eq_some_iff.1 hname with hname | ⟨-, hname⟩
      · exact sound_of_globalName? hsound hname
      · exact sound_of_builtinName? hname
    · exact upholds_fail _ _

theorem upholds_assignName (at' : Place) (name : String) {v : Value} (hv : v.Sound h) :
    Upholds h Whatever (assignName at' name v) := by
  unfold assignName
  refine upholds_of_heap fun hsound => ?_
  dsimp only
  split
  · next ha =>
    exact upholds_update ha rfl
      (.of_held (allSound_put (hsound _ _ ha).held name hv) rfl)
  · next ha =>
    exact upholds_update ha rfl
      (.of_held (allSound_put (hsound _ _ ha).held name hv) rfl)
  · exact upholds_pure trivial

/-! ## Calls of what blocks do not define -/

theorem upholds_loadModule (name : String) : Upholds h Value.Sound (loadModule name) := by
  unfold loadModule noModule
  dsimp only
  repeat' split
  all_goals first
    | exact upholds_pure trivial
    | exact upholds_fail _ _

theorem upholds_callBuiltin (b : Builtin) (args : List Value) :
    Upholds h Value.Sound (callBuiltin b args) := by
  unfold callBuiltin
  split
  case h_1 =>
    refine .after (reads_plainTexts _) fun _ _ _ _ => ?_
    refine Upholds.bind (P := Whatever) ?_ fun _ _ _ _ => upholds_pure trivial
    rintro m rfl hsound
    exact ⟨.refl _, hsound, fun _ _ => trivial⟩
  case h_2 | h_3 =>
    split
    · exact upholds_fail _ _
    · exact upholds_loadModule _
  case h_4 => exact upholds_loadModule _
  all_goals first
    | exact upholds_fail _ _
    | exact upholds_throw _
    | exact upholds_of_heap fun _ => upholds_fail _ _

theorem upholds_callRecorder {r : Recorder} (hr : r.result.Sound h) {args : List Value}
    (hargs : AllSound h args) : Upholds h Value.Sound (callRecorder r args) := by
  unfold callRecorder
  dsimp only
  split
  · have hlabel : (Value.text r.label).Sound h := trivial
    refine (upholds_appendTo _ hlabel).bind fun _ hl _ _ => ?_
    split
    · exact upholds_throw _
    · exact upholds_pure (hr.later hl)
  · have hnote : AllSound h (.text r.label :: args) := ⟨trivial, hargs⟩
    refine (upholds_alloc_held (o := .list _) hnote rfl).bind fun h₁ hl₁ note hnote => ?_
    refine (upholds_appendTo _ hnote).bind fun _ hl₂ _ _ => ?_
    split
    · exact upholds_throw _
    · exact upholds_pure ((hr.later hl₁).later hl₂)

/-! ## Expressions

What calls do is a parameter here. -/

/-- Calls of sound values with sound values give sound values. -/
def CallUpholds (call : Call) : Prop :=
  ∀ h v args, v.Sound h → AllSound h args → Upholds h Value.Sound (call v args)

theorem key_of_requireKey {v : Value} {m : Machine} {u : Unit}
    (hrun : (requireKey v m).1 = .ok u) : v.unhashable? m.heap = none := by
  unfold requireKey at hrun
  rw [heap_bind] at hrun
  cases hkey : v.unhashable? m.heap with
  | none => rfl
  | some t =>
    rw [hkey] at hrun
    cases hrun

/-- Values that are asked to be keys and no error is raised. -/
theorem keys_of_forM_requireKey {vs : List Value} {m : Machine} {u : Unit}
    (hrun : (vs.forM requireKey m).1 = .ok u) : ∀ v ∈ vs, v.unhashable? m.heap = none := by
  induction vs with
  | nil => simp
  | cons v rest ih =>
    have hreads := Schedule.reads_requireKey v m
    obtain ⟨⟨⟩, m₁, hv, hrest⟩ := Try.of_bind_ok (Prod.ext hrun rfl :
      (requireKey v >>= fun _ => rest.forM requireKey) m = (_, _))
    rw [hv] at hreads
    obtain rfl : m₁ = m := hreads
    exact List.forall_mem_cons.2 ⟨key_of_requireKey (by rw [hv]), ih (by rw [hrest])⟩

mutual

/-- **Expressions keep sets sets.** -/
theorem upholds_evalExpr {call : Call} (hc : CallUpholds call) (h : Heap) (at' : Place)
    (e : Expr) : Upholds h Value.Sound (evalExpr call at' e) := by
  match e with
  | .name s => rw [evalExpr]; exact upholds_lookUp _ _
  | .list items =>
    rw [evalExpr]
    exact (upholds_evalAll hc h at' items).bind fun _ _ vs hvs =>
      upholds_alloc_held hvs rfl
  | .tuple items =>
    rw [evalExpr]
    exact (upholds_evalAll hc h at' items).bind fun _ _ vs hvs => upholds_pure hvs
  | .set items =>
    rw [evalExpr]
    refine (upholds_evalAll hc h at' items).bind fun h' _ vs hvs => ?_
    refine .after (reads_forM fun _ => Schedule.reads_requireKey _) fun m hm _ hkeys => ?_
    have hkeys := keys_of_forM_requireKey hkeys
    rw [hm] at hkeys
    have hset := isSet_foldl_insertItem (isSet_nil h') hkeys
    refine upholds_alloc ⟨allSound_foldl_insertItem hvs trivial, fun _ heq => ?_⟩
    cases heq
    exact hset
  | .dict pairs =>
    rw [evalExpr]
    refine (upholds_evalPairs hc h at' pairs).bind fun h' _ ps hps => ?_
    refine .after (reads_forM fun _ => Schedule.reads_requireKey _) fun _ _ _ _ => ?_
    exact upholds_alloc_held (allSound_foldl_putPair hps trivial) rfl
  | .call f args =>
    rw [evalExpr]
    refine (upholds_evalExpr hc h at' f).bind fun h₁ _ fv hfv => ?_
    refine (upholds_evalAll hc h₁ at' args).bind fun h₂ hl vs hvs => ?_
    exact hc h₂ fv vs (hfv.later hl) hvs
  | .attribute e name =>
    rw [evalExpr]
    exact (upholds_evalExpr hc h at' e).bind fun _ _ _ _ => upholds_getAttribute _ _
  | .index e i =>
    rw [evalExpr]
    refine (upholds_evalExpr hc h at' e).bind fun h₁ _ v hv => ?_
    exact (upholds_evalExpr hc h₁ at' i).bind fun _ hl _ _ => upholds_getItem (hv.later hl) _
  | .function body => rw [evalExpr]; exact upholds_alloc_held trivial rfl
  | .binary op l r =>
    rw [evalExpr]
    refine (upholds_evalExpr hc h at' l).bind fun h₁ _ v hv => ?_
    exact (upholds_evalExpr hc h₁ at' r).bind fun _ hl w hw => upholds_combine _ (hv.later hl) hw
  | .negate e =>
    rw [evalExpr]
    exact (upholds_evalExpr hc h at' e).bind fun _ _ _ _ => upholds_negated _
  | .not e =>
    rw [evalExpr]
    exact (upholds_evalExpr hc h at' e).bind fun _ _ _ _ =>
      upholds_of_heap fun _ => upholds_pure trivial
  | .and l r =>
    rw [evalExpr]
    refine (upholds_evalExpr hc h at' l).bind fun h₁ _ v hv => upholds_of_heap fun _ => ?_
    split
    · exact upholds_evalExpr hc h₁ at' r
    · exact upholds_pure hv
  | .or l r =>
    rw [evalExpr]
    refine (upholds_evalExpr hc h at' l).bind fun h₁ _ v hv => upholds_of_heap fun _ => ?_
    split
    · exact upholds_pure hv
    · exact upholds_evalExpr hc h₁ at' r
  | .equal first rest =>
    rw [evalExpr]
    exact (upholds_evalExpr hc h at' first).bind fun h₁ _ v _ => upholds_evalEqual hc h₁ at' v rest
  | .nothing | .bool _ | .int _ | .float _ | .text _ | .bytes _ =>
    rw [evalExpr]
    exact upholds_pure trivial

theorem upholds_evalAll {call : Call} (hc : CallUpholds call) (h : Heap) (at' : Place)
    (es : List Expr) : Upholds h AllSound (evalAll call at' es) := by
  cases es with
  | nil => rw [evalAll]; exact upholds_pure trivial
  | cons e rest =>
    rw [evalAll]
    refine (upholds_evalExpr hc h at' e).bind fun h₁ _ v hv => ?_
    exact (upholds_evalAll hc h₁ at' rest).bind fun _ hl vs hvs => upholds_pure ⟨hv.later hl, hvs⟩

theorem upholds_evalPairs {call : Call} (hc : CallUpholds call) (h : Heap) (at' : Place)
    (ps : List (Expr × Expr)) :
    Upholds h (fun h' ps => AllSound h' (heldBy ps)) (evalPairs call at' ps) := by
  match ps with
  | [] => rw [evalPairs]; exact upholds_pure trivial
  | (k, e) :: rest =>
    rw [evalPairs]
    refine (upholds_evalExpr hc h at' k).bind fun h₁ _ kv hkv => ?_
    refine (upholds_evalExpr hc h₁ at' e).bind fun h₂ hl₂ v hv => ?_
    refine (upholds_evalPairs hc h₂ at' rest).bind fun h₃ hl₃ more hmore => upholds_pure ?_
    exact ⟨(hkv.later hl₂).later hl₃, hv.later hl₃, hmore⟩

theorem upholds_evalEqual {call : Call} (hc : CallUpholds call) (h : Heap) (at' : Place)
    (v : Value) (es : List Expr) : Upholds h Value.Sound (evalEqual call at' v es) := by
  cases es with
  | nil => rw [evalEqual]; exact upholds_pure trivial
  | cons e rest =>
    rw [evalEqual]
    refine (upholds_evalExpr hc h at' e).bind fun h₁ _ w _ => ?_
    refine .after (reads_equal v w) fun _ _ b _ => ?_
    split
    · split
      · exact upholds_pure trivial
      · exact upholds_evalEqual hc h₁ at' w rest
    · exact upholds_pure trivial

end

/-! ## Statements -/

/-- The value that statements end with is sound. -/
def Outcome.Sound (h : Heap) : Outcome → Prop
  | .done => True
  | .returned v => v.Sound h

section Statements

variable {call : Call}

theorem upholds_assignTarget (hc : CallUpholds call) (at' : Place) {v : Value} (hv : v.Sound h)
    (t : Target) : Upholds h Whatever (assignTarget call at' v t) := by
  cases t with
  | name s => exact upholds_assignName _ _ hv
  | index e i =>
    refine (upholds_evalExpr hc h at' e).bind fun h₁ hl₁ _ _ => ?_
    refine (upholds_evalExpr hc h₁ at' i).bind fun h₂ hl₂ w hw => ?_
    exact upholds_setItem hw ((hv.later hl₁).later hl₂)

theorem upholds_assignAll (hc : CallUpholds call) (at' : Place) {v : Value} (hv : v.Sound h)
    (targets : List Target) : Upholds h Whatever (assignAll call at' v targets) := by
  induction targets generalizing h with
  | nil => exact upholds_pure trivial
  | cons t rest ih =>
    exact (upholds_assignTarget hc at' hv t).bind fun _ hl _ _ => ih (hv.later hl)

theorem upholds_decorate (hc : CallUpholds call) {v : Value} (hv : v.Sound h) {ds : List Value}
    (hds : AllSound h ds) : Upholds h Value.Sound (decorate call v ds) := by
  induction ds generalizing h v with
  | nil => exact upholds_pure hv
  | cons d rest ih =>
    obtain ⟨hd, hrest⟩ := hds
    exact (hc h d [v] hd ⟨hv, trivial⟩).bind fun _ hl w hw => ih hw (hrest.later hl)

theorem allSound_reverse {vs : List Value} (hvs : AllSound h vs) : AllSound h vs.reverse :=
  allSound_iff.2 fun v hv => allSound_iff.1 hvs v (List.mem_reverse.1 hv)

mutual

/-- **Statements keep sets sets.** -/
theorem upholds_execStmt (hc : CallUpholds call) (h : Heap) (at' : Place) (s : Stmt) :
    Upholds h Outcome.Sound (execStmt call at' s) := by
  match s with
  | .expr line e =>
    rw [execStmt]
    exact (upholds_evalExpr hc h at' e).bind fun _ _ _ _ => upholds_pure trivial
  | .starred line e => rw [execStmt]; exact upholds_pure trivial
  | .assign targets e =>
    rw [execStmt]
    exact (upholds_evalExpr hc h at' e).bind fun _ _ v hv =>
      (upholds_assignAll hc at' hv targets).bind fun _ _ _ _ => upholds_pure trivial
  | .return none => rw [execStmt]; exact upholds_pure trivial
  | .return (some e) =>
    rw [execStmt]
    exact (upholds_evalExpr hc h at' e).bind fun _ _ v hv => upholds_pure hv
  | .raise e =>
    rw [execStmt]
    exact (upholds_evalExpr hc h at' e).bind fun _ _ v _ =>
      .after (reads_raiseValue v) fun _ _ _ _ => upholds_pure trivial
  | .pass => rw [execStmt]; exact upholds_pure trivial
  | .load m =>
    rw [execStmt]
    exact (upholds_loadModule m).bind fun _ _ v hv =>
      (upholds_assignName _ _ hv).bind fun _ _ _ _ => upholds_pure trivial
  | .define decorators name params body =>
    rw [execStmt]
    refine (upholds_evalAll hc h at' decorators.reverse).bind fun h₁ _ ds hds => ?_
    refine (upholds_alloc_held (o := .function _) trivial rfl).bind fun h₂ hl f hf => ?_
    refine (upholds_decorate hc hf (allSound_reverse (hds.later hl))).bind fun _ _ v hv => ?_
    exact (upholds_assignName _ _ hv).bind fun _ _ _ _ => upholds_pure trivial
  | .branch cond yes no =>
    rw [execStmt]
    refine (upholds_evalExpr hc h at' cond).bind fun h₁ _ v _ => upholds_of_heap fun _ => ?_
    split
    · exact upholds_execAll hc h₁ at' yes
    · exact upholds_execAll hc h₁ at' no

theorem upholds_execAll (hc : CallUpholds call) (h : Heap) (at' : Place) (ss : List Stmt) :
    Upholds h Outcome.Sound (execAll call at' ss) := by
  cases ss with
  | nil => rw [execAll]; exact upholds_pure trivial
  | cons s rest =>
    rw [execAll]
    refine (upholds_execStmt hc h at' s).bind fun h₁ _ o ho => ?_
    split
    · exact upholds_execAll hc h₁ at' rest
    · exact upholds_pure ho

end

end Statements

/-! ## Calls -/

/-- A function that is entered gets names of its own. -/
theorem upholds_enter {call : Call} (hc : CallUpholds call) (f : Closure) {args : List Value}
    (hargs : AllSound h args) : Upholds h Value.Sound (enter call f args) := by
  unfold enter
  refine .after (reads_requireArity f args) fun _ _ _ _ => ?_
  rintro m rfl hsound
  let scope : Object := .scope f.own (f.params.zip args)
  let inside : Place := ⟨m.heap.size :: f.scopes, f.globals, f.path ++ ".<locals>."⟩
  have hscope : scope.Sound m.heap := .of_held (allSound_zip hargs f.params) rfl
  have hbody := upholds_execAll hc (m.heap.alloc scope).2 inside f.body
  refine .from_later (.alloc m.heap scope) (Upholds.bind hbody (fun _ _ o ho => ?_)
    { m with heap := (m.heap.alloc scope).2 } rfl (hsound.alloc hscope))
  split
  · exact upholds_pure ho
  · exact upholds_pure trivial

/-- By induction on the room for calls within the call. -/
theorem upholds_callAt (n : Nat) : CallUpholds (callAt n) := by
  induction n with
  | zero => exact fun _ _ _ _ _ => upholds_fail _ _
  | succ n ih =>
    intro h v args hv hargs
    show Upholds h Value.Sound (callWith (callAt n) v args)
    unfold callWith
    split
    · exact upholds_callBuiltin _ _
    · unfold newError
      split <;> exact upholds_alloc_held (o := .error _ _) hargs rfl
    · exact (upholds_appendTo _ hargs.1).bind fun _ _ _ _ => upholds_pure trivial
    · exact upholds_fail _ _
    · next target => exact (ih h target [] hv trivial).bind fun _ _ _ _ => upholds_pure trivial
    · exact upholds_fail _ _
    · refine upholds_of_heap fun hsound => ?_
      split
      · exact upholds_enter ih _ hargs
      · next hr => exact upholds_callRecorder (hsound.object? hr).held.1 hargs
      · exact upholds_fail _ _

/-! ## Blocks -/

theorem upholds_runAt (c : Compiled) (globals : Nat) : Upholds h Value.Sound (c.runAt globals) := by
  have hcall : CallUpholds callTop := upholds_callAt callLimit
  unfold Compiled.runAt
  dsimp only
  split
  · refine (upholds_execAll hcall h _ _).bind fun h' _ _ _ => ?_
    unfold exportedValue
    split
    · exact upholds_pure trivial
    · split
      · exact upholds_pure trivial
      · refine upholds_of_heap fun hsound => upholds_pure ?_
        cases hname : globalName? h' globals _ with
        | none => trivial
        | some v => exact sound_of_globalName? hsound hname
  · exact upholds_evalExpr hcall h _ _
  · refine (upholds_alloc_held (o := .function _) trivial rfl).bind fun h₁ _ f hf => ?_
    exact (upholds_assignName _ _ hf).bind fun h₂ hl _ _ => hcall h₂ f [] (hf.later hl) trivial

/-- **A block keeps sets sets**: run with sound names on a sound heap, it leaves one, and the
value that it gives is sound. -/
theorem Compiled.upholds_run (c : Compiled) (hhost : AllSound h (c.host.map Prod.snd)) :
    Upholds h Value.Sound c.run := by
  rintro m rfl hsound
  let names : Object := .globals (startNames c.host)
  have hnames : names.Sound m.heap :=
    .of_held (allSound_putAll hhost ⟨trivial, trivial, trivial⟩) rfl
  exact .from_later (.alloc m.heap names) (upholds_runAt c m.heap.size
    { m with heap := (m.heap.alloc names).2 } rfl (hsound.alloc hnames))

theorem Upholds.attempt (hx : Upholds h P x) :
    Upholds h (fun h' r => ∀ a, r = .ok a → P h' a) (attempt x) := by
  intro m hm hsound
  have hx := hx m hm hsound
  unfold Script.attempt
  rcases hr : x m with ⟨e | a, m'⟩ <;> rw [hr] at hx
  · dsimp only
    split
    · exact ⟨hx.later, hx.sound, fun r hr a ha => by cases hr; cases ha⟩
    · exact ⟨hx.later, hx.sound, fun r hr => nomatch hr⟩
  · exact ⟨hx.later, hx.sound, fun r hr a ha => by cases hr; cases ha; exact hx.gives a rfl⟩

end Script

namespace Component

open LiterateConfig.Script (AllSound IsSet Upheld Upholds Value)

variable {host : Script.Host} {convention : String} {w u : World}

theorem host_of_compiled? {exported source : String} {d : Script.Compiled}
    (hd : compiled? host exported source = some d) : d.host = host := by
  obtain ⟨code, -, rfl⟩ := Option.map_eq_some_iff.1 hd
  rfl

theorem host_of_code? {c : Block.Classified} {d : Script.Compiled}
    (hd : code? host convention c = some d) : d.host = host := by
  unfold code? at hd
  split at hd
  · cases hd
  · cases hd
  all_goals exact host_of_compiled? hd

theorem upholds_valueOf? {h : Script.Heap} (hhost : AllSound h (host.map Prod.snd))
    {code : Option Script.Compiled} (hcode : ∀ d, code = some d → d.host = host) :
    Upholds h (fun h' v => ∀ u, v = some u → u.Sound h') (valueOf? code) := by
  unfold valueOf?
  split
  · exact Script.upholds_pure nofun
  · next d =>
    have hrun := d.upholds_run (h := h) (by rwa [hcode d rfl])
    refine hrun.attempt.bind fun h' _ r hr => Script.upholds_pure fun u hu => ?_
    cases r with
    | error e => cases hu
    | ok v =>
      cases hu
      exact hr _ rfl

/-- **The set that a block gives** is one: its items can be keys, and no two are the same. -/
theorem isSet_of_evaluate {what : String} {index : Int} {exported source : String} {v : Value}
    {items : List Value} (hhost : AllSound w.heap (host.map Prod.snd)) (hsound : w.heap.Sound)
    (hvalue : evaluate host what index exported source w = (.ok (some v), u))
    (hitems : items? u.heap v = some (items, false)) : IsSet u.heap items := by
  have hrun := (runs_evaluate host what index exported source).ok hvalue
  have hends : Upheld w.heap _ (valueOf? (compiled? host exported source) w.machine) :=
    upholds_valueOf? hhost (fun _ => host_of_compiled?) w.machine rfl hsound
  rw [hrun] at hends
  have hv := hends.gives _ rfl v rfl
  unfold items? at hitems
  split at hitems
  · cases hitems
  · cases hitems
    exact hv.2
  · split at hitems
    · cases hitems
    · next hset =>
      cases hitems
      exact (hends.sound.object? hset).items _ rfl
    · cases hitems

/-- Parts are built on a sound heap, and leave one. -/
theorem sound_of_allParts {cs : List Block.Classified} {ps : List Part}
    (hhost : AllSound w.heap (host.map Prod.snd)) (hsound : w.heap.Sound)
    (h : allParts host convention cs w = (.ok ps, u)) :
    AllSound u.heap (host.map Prod.snd) ∧ u.heap.Sound := by
  induction cs generalizing w ps with
  | nil =>
    cases h
    exact ⟨hhost, hsound⟩
  | cons c cs ih =>
    obtain ⟨first, w₁, hfirst, h⟩ := Try.of_bind_ok h
    obtain ⟨rest, w₂, hrest, h⟩ := Try.of_bind_ok h
    cases h
    obtain ⟨⟨r, hr⟩, -⟩ := made_of_blockParts hfirst
    have hends : Upheld w.heap _ (valueOf? (code? host convention c) w.machine) :=
      upholds_valueOf? hhost (fun _ => host_of_code?) w.machine rfl hsound
    rw [hr] at hends
    exact ih (hhost.later hends.later) hends.sound hrest

/-- **Building leaves a sound heap**, so the blocks that are built next find one. -/
theorem sound_of_build {cs : List Block.Classified} {r : List Spec × List Entry}
    (hhost : AllSound w.heap (host.map Prod.snd)) (hsound : w.heap.Sound)
    (h : build host convention cs w = (.ok r, u)) :
    AllSound u.heap (host.map Prod.snd) ∧ u.heap.Sound := by
  obtain ⟨ps, w₁, hps, h⟩ := Try.of_bind_ok h
  rw [Try.act_bind] at h
  cases h
  rw [show World.heap _ = w₁.heap from congrArg Script.Machine.heap (quiet_sameMachine.note w₁)]
  exact sound_of_allParts hhost hsound hps

end Component

end LiterateConfig
