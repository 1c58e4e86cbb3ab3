import LiterateConfig.Proofs.Movements

/-!
# How evaluation changes the heap

Code changes the heap in few ways: it makes objects, it sets the items of a list and the
values of a dictionary, and it binds names where it stands. A call binds names too, but
names that nobody had before it.

**Changes.** `Changes R` is what a relation between heaps must allow for so that it holds
between the heaps before and after any evaluation. The relation is told the address of
the names that are bound; `Within R own x` says that it holds across `x`, which binds
names at `own`. The lemmas follow the evaluation: what calls do is a parameter of it, and
a call with room for more calls within it is settled by induction on the room.

Results:
* `Changes.within_evalExpr`, `Changes.within_execStmt`: expressions bind no names,
  statements bind them where they stand;
* `Changes.within_callTop`: calls bind none that are there already;
* `Changes.within_runAt`, `Changes.within_run`: blocks.
-/
namespace LiterateConfig.Script

variable {α β : Type}

/-! ## Operations that read the heap -/

theorem reads_forM {f : α → Eval Unit} {xs : List α} (hf : ∀ a, Reads (f a)) :
    Reads (xs.forM f) := by
  induction xs with
  | nil => exact reads_pure _
  | cons x rest ih => exact (hf x).bind fun _ => ih

theorem reads_plainTexts (vs : List Value) : Reads (plainTexts vs) := by
  induction vs with
  | nil => exact reads_pure _
  | cons v vs ih => exact (reads_plainText v).bind fun _ => ih.bind fun _ => reads_pure _

theorem reads_equal (v w : Value) : Reads (equal v w) := by
  unfold equal
  refine reads_heap.bind fun _ => ?_
  split <;> simp

theorem reads_combineNumbers (op : BinaryOp) (a b : Numeral) : Reads (combineNumbers op a b) := by
  have asFloat : ∀ a, Reads (asFloat a) := by
    intro a
    unfold Script.asFloat
    dsimp only
    repeat' split
    all_goals simp
  have divideInts : ∀ a b, Reads (divideInts a b) := by
    intro a b
    unfold Script.divideInts
    dsimp only
    repeat' split
    all_goals simp
  unfold combineNumbers
  split
  · simp
  · simp
  · simp
  · exact divideInts _ _
  · refine (asFloat _).bind fun _ => (asFloat _).bind fun _ => ?_
    repeat' split
    all_goals simp

theorem reads_repeated (items : List α) (n : Int) : Reads (repeated items n) := by
  unfold repeated
  repeat' split
  all_goals simp

theorem reads_negated (v : Value) : Reads (negated v) := by
  unfold negated
  split
  · simp
  · simp
  · exact reads_heap.bind fun _ => by simp

theorem reads_getItem (v i : Value) : Reads (getItem v i) := by
  have itemAt : ∀ {α : Type} (what range : String) (items : List α),
      Reads (itemAt what range items i) := by
    intro α what range items
    unfold Script.itemAt
    split
    · exact reads_heap.bind fun _ => by simp
    · split <;> simp
  unfold getItem
  refine reads_heap.bind fun h => ?_
  split
  · exact (itemAt _ _ _).bind fun _ => by simp
  · exact (itemAt _ _ _).bind fun _ => by simp
  · exact itemAt _ _ _
  · split
    · exact itemAt _ _ _
    · refine (Schedule.reads_requireKey _).bind fun _ => ?_
      split <;> simp
    · simp
  · simp
  · simp

theorem reads_lookUp (at' : Place) (name : String) : Reads (lookUp at' name) := by
  unfold lookUp
  refine reads_heap.bind fun h => ?_
  repeat' split
  all_goals simp

theorem reads_loadModule (name : String) : Reads (loadModule name) := by
  unfold loadModule noModule
  dsimp only
  repeat' split
  all_goals simp

theorem reads_raiseValue (v : Value) : Reads (raiseValue v) := by
  unfold raiseValue
  refine reads_heap.bind fun h => ?_
  split <;> simp

theorem reads_requireArity (f : Closure) (args : List Value) : Reads (requireArity f args) := by
  unfold requireArity
  dsimp only
  repeat' split
  all_goals simp

theorem reads_exportedValue (globals : Nat) (exported : Option String) :
    Reads (exportedValue globals exported) := by
  unfold exportedValue
  split
  · simp
  · split
    · simp
    · exact reads_heap.bind fun _ => reads_pure _

/-! ## Addresses -/

namespace Heap

theorem lt_size_of_get? {h : Heap} {a : Nat} {o : Object} (ha : h.get? a = some o) : a < h.size :=
  (Array.getElem?_eq_some_iff.1 ha).1

theorem get?_set_self {h : Heap} {a : Nat} (ha : a < h.size) (o : Object) :
    (h.set a o).get? a = some o := by
  simp only [size] at ha
  simp [set, get?, ha]

end Heap

/-! ## What a relation has to allow for -/

/-- Where a piece of code binds names. -/
def Place.own (p : Place) : Nat := p.scopes.headD p.globals

/-- An object is changed in place: a list by appending or by setting an item, a
dictionary by setting the value of a key. -/
inductive Object.Mutates : Object → Object → Prop
  | append (items : List Value) (v : Value) : Mutates (.list items) (.list (items ++ [v]))
  | item (items : List Value) (i : Nat) (v : Value) : Mutates (.list items) (.list (items.set i v))
  | entry (pairs : List (Value × Value)) (k v : Value) :
    Mutates (.dict pairs) (.dict (putPair k v pairs))

/-- A name is bound among the names that an object holds. -/
inductive Object.Binds : Object → Object → Prop
  | scope (own : List String) (bound : Names) (n : String) (v : Value) :
    Binds (.scope own bound) (.scope own (bound.put n v))
  | globals (bound : Names) (n : String) (v : Value) :
    Binds (.globals bound) (.globals (bound.put n v))

/-- The relation allows for everything that evaluation does to the heap while names are
bound at an address. -/
structure Changes (R : Nat → Heap → Heap → Prop) : Prop where
  refl : ∀ own h, R own h h
  trans : ∀ {own h₁ h₂ h₃}, R own h₁ h₂ → R own h₂ h₃ → R own h₁ h₃
  mutate : ∀ own {h a o o'}, h.get? a = some o → o.Mutates o' → R own h (h.set a o')
  bindName : ∀ {own h o o'}, h.get? own = some o → o.Binds o' → R own h (h.set own o')
  /-- What is done to the names of a new object counts as making the object. -/
  fresh : ∀ own {h o h'}, R h.size (h.alloc o).2 h' → R own h h'

/-- The computation changes the heap as the relation allows, however it ends. -/
def Within (R : Nat → Heap → Heap → Prop) (own : Nat) (x : Eval α) : Prop :=
  ∀ m : Machine, R own m.heap (x m).2.heap

/-- The computation changes the heap at hand as the relation allows. -/
def WithinFrom (R : Nat → Heap → Heap → Prop) (own : Nat) (h : Heap) (x : Eval α) : Prop :=
  ∀ m : Machine, m.heap = h → R own h (x m).2.heap

variable {R : Nat → Heap → Heap → Prop} {own : Nat}

theorem Within.attempt {x : Eval α} (hx : Within R own x) : Within R own (attempt x) := by
  intro m
  have h := hx m
  unfold Script.attempt
  rcases hr : x m with ⟨e | v, m'⟩ <;> rw [hr] at h
  · dsimp only
    split <;> exact h
  · exact h

theorem Within.from {x : Eval α} (hx : Within R own x) (h : Heap) : WithinFrom R own h x :=
  fun m hm => hm ▸ hx m

theorem within_of_heap {f : Heap → Eval α} (hf : ∀ h, WithinFrom R own h (f h)) :
    Within R own (heap >>= f) :=
  fun m => hf m.heap m rfl

theorem WithinFrom.after {h : Heap} {x : Eval α} {f : α → Eval β} (hR : Changes R) (hx : Reads x)
    (hf : ∀ a, WithinFrom R own h (f a)) : WithinFrom R own h (x >>= f) := by
  rintro m rfl
  have h₁ := hx m
  rw [Try.bind_apply]
  rcases hm : x m with ⟨_ | a, m'⟩ <;> rw [hm] at h₁ <;> obtain rfl : m' = m := h₁
  · exact hR.refl _ _
  · exact hf a m' rfl

theorem withinFrom_update {h : Heap} {a : Nat} {o : Object} (hu : R own h (h.set a o)) :
    WithinFrom R own h (update a o) := by
  rintro m rfl
  exact hu

/-- Whatever is called, the heap changes as the relation allows, and no names have to be
bound for that. -/
def Changing (R : Nat → Heap → Heap → Prop) (call : Call) : Prop :=
  ∀ own v args, Within R own (call v args)

namespace Changes

variable (hR : Changes R)

include hR

theorem of_reads {x : Eval α} (hx : Reads x) : Within R own x := fun m => by
  rw [hx m]
  exact hR.refl _ _

theorem pure (a : α) : Within R own (Pure.pure a : Eval α) := hR.of_reads (reads_pure a)

theorem fail (kind : ErrorKind) (message : String) : Within R own (Script.fail kind message : Eval α) :=
  hR.of_reads (reads_fail kind message)

theorem bind {x : Eval α} {f : α → Eval β} (hx : Within R own x) (hf : ∀ a, Within R own (f a)) :
    Within R own (x >>= f) := by
  intro m
  have h₁ := hx m
  rw [Try.bind_apply]
  rcases hm : x m with ⟨_ | a, m'⟩ <;> rw [hm] at h₁
  · exact h₁
  · exact hR.trans h₁ (hf a m')

/-- What follows a computation that only reads is all that changes the heap. -/
theorem after {x : Eval α} {f : α → Eval β} (hx : Reads x) (hf : ∀ a, Within R own (f a)) :
    Within R own (x >>= f) :=
  hR.bind (hR.of_reads hx) hf

theorem alloc (o : Object) : Within R own (Script.alloc o) := fun _ =>
  hR.fresh own (hR.refl _ _)

/-! ### Operations -/

theorem within_combine (op : BinaryOp) (v w : Value) : Within R own (combine op v w) := by
  have noOperation : ∀ h, Within R own (noOperation op h v w) := fun h => hR.fail _ _
  have join : ∀ h s, Within R own (join h s v w) := by
    intro h s
    unfold Script.join
    dsimp only
    split
    all_goals first
      | exact hR.alloc _
      | exact hR.of_reads (by simp)
  have multiplySequence : ∀ h s other, Within R own (multiplySequence h s other) := by
    intro h s other
    unfold Script.multiplySequence Sequence.repeat
    split
    · split
      · exact hR.after (reads_repeated _ _) fun _ => hR.pure _
      · exact hR.after (reads_repeated _ _) fun _ => hR.pure _
      · exact hR.after (reads_repeated _ _) fun _ => hR.pure _
      · exact hR.after (reads_repeated _ _) fun _ => hR.alloc _
    · exact hR.fail _ _
  have subtractSets : ∀ h as bs, Within R own (subtractSets h v as bs) := by
    intro h as bs
    unfold Script.subtractSets
    dsimp only
    split
    · exact hR.pure _
    · exact hR.alloc _
  unfold combine
  refine hR.after reads_heap fun h => ?_
  repeat' split
  · exact hR.of_reads (reads_combineNumbers _ _ _)
  · exact join _ _
  · exact multiplySequence _ _ _
  · exact multiplySequence _ _ _
  · exact subtractSets _ _ _
  · exact noOperation _
  · exact noOperation _

theorem within_setItem (e i v : Value) : Within R own (setItem e i v) := by
  unfold setItem
  refine within_of_heap fun h => ?_
  split
  · split
    · next items ha =>
      split
      · exact (hR.fail _ _).from h
      · split
        · exact withinFrom_update (hR.mutate own ha (.item items _ v))
        · exact (hR.fail _ _).from h
    · next pairs ha =>
      refine .after hR (Schedule.reads_requireKey i) fun _ => ?_
      exact withinFrom_update (hR.mutate own ha (.entry pairs i v))
    · exact (hR.fail _ _).from h
  · exact (hR.fail _ _).from h

theorem within_appendTo (list : Nat) (v : Value) : Within R own (appendTo list v) := by
  unfold appendTo
  refine within_of_heap fun h => ?_
  split
  · next items ha => exact withinFrom_update (hR.mutate own ha (.append items v))
  · exact (hR.pure _).from h

/-- Names are bound where the code stands. -/
theorem within_assignName (at' : Place) (name : String) (v : Value) :
    Within R at'.own (assignName at' name v) := by
  unfold assignName
  refine within_of_heap fun h => ?_
  dsimp only
  split
  · next names bound ha => exact withinFrom_update (hR.bindName ha (.scope names bound name v))
  · next bound ha => exact withinFrom_update (hR.bindName ha (.globals bound name v))
  · exact (hR.pure _).from h

/-! ### Calls of what blocks do not define -/

theorem within_callBuiltin (b : Builtin) (args : List Value) : Within R own (callBuiltin b args) := by
  unfold callBuiltin
  split
  case h_1 =>
    refine hR.after (reads_plainTexts _) fun _ => ?_
    exact hR.bind (fun m => hR.refl _ _) fun _ => hR.pure _
  case h_2 | h_3 =>
    split
    · exact hR.fail _ _
    · exact hR.of_reads (reads_loadModule _)
  case h_4 => exact hR.of_reads (reads_loadModule _)
  all_goals first
    | exact hR.fail _ _
    | exact hR.of_reads (reads_throw _)
    | exact hR.after reads_heap fun _ => hR.fail _ _

theorem within_callRecorder (r : Recorder) (args : List Value) :
    Within R own (callRecorder r args) := by
  unfold callRecorder
  dsimp only
  split
  · refine hR.bind (hR.within_appendTo _ _) fun _ => ?_
    split <;> exact hR.of_reads (by simp)
  · refine hR.bind (hR.alloc _) fun _ => hR.bind (hR.within_appendTo _ _) fun _ => ?_
    split <;> exact hR.of_reads (by simp)

/-! ### Expressions

What calls do is a parameter here. -/

mutual

theorem within_evalExpr {call : Call} (hc : Changing R call) (own : Nat) (at' : Place) (e : Expr) :
    Within R own (evalExpr call at' e) := by
  match e with
  | .name s => rw [evalExpr]; exact hR.of_reads (reads_lookUp _ _)
  | .list items =>
    rw [evalExpr]
    exact hR.bind (within_evalAll hc own at' items) fun _ => hR.alloc _
  | .tuple items =>
    rw [evalExpr]
    exact hR.bind (within_evalAll hc own at' items) fun _ => hR.pure _
  | .set items =>
    rw [evalExpr]
    refine hR.bind (within_evalAll hc own at' items) fun vs => ?_
    exact hR.after (reads_forM fun _ => Schedule.reads_requireKey _) fun _ => hR.alloc _
  | .dict pairs =>
    rw [evalExpr]
    refine hR.bind (within_evalPairs hc own at' pairs) fun ps => ?_
    exact hR.after (reads_forM fun _ => Schedule.reads_requireKey _) fun _ => hR.alloc _
  | .call f args =>
    rw [evalExpr]
    exact hR.bind (within_evalExpr hc own at' f) fun fv =>
      hR.bind (within_evalAll hc own at' args) fun vs => hc own fv vs
  | .attribute e name =>
    rw [evalExpr]
    exact hR.bind (within_evalExpr hc own at' e) fun _ =>
      hR.of_reads (Schedule.reads_getAttribute _ _)
  | .index e i =>
    rw [evalExpr]
    exact hR.bind (within_evalExpr hc own at' e) fun _ =>
      hR.bind (within_evalExpr hc own at' i) fun _ => hR.of_reads (reads_getItem _ _)
  | .function body => rw [evalExpr]; exact hR.alloc _
  | .binary op l r =>
    rw [evalExpr]
    exact hR.bind (within_evalExpr hc own at' l) fun _ =>
      hR.bind (within_evalExpr hc own at' r) fun _ => hR.within_combine _ _ _
  | .negate e =>
    rw [evalExpr]
    exact hR.bind (within_evalExpr hc own at' e) fun _ => hR.of_reads (reads_negated _)
  | .not e =>
    rw [evalExpr]
    exact hR.bind (within_evalExpr hc own at' e) fun _ => hR.after reads_heap fun _ => hR.pure _
  | .and l r =>
    rw [evalExpr]
    refine hR.bind (within_evalExpr hc own at' l) fun _ => hR.after reads_heap fun _ => ?_
    split
    · exact within_evalExpr hc own at' r
    · exact hR.pure _
  | .or l r =>
    rw [evalExpr]
    refine hR.bind (within_evalExpr hc own at' l) fun _ => hR.after reads_heap fun _ => ?_
    split
    · exact hR.pure _
    · exact within_evalExpr hc own at' r
  | .equal first rest =>
    rw [evalExpr]
    exact hR.bind (within_evalExpr hc own at' first) fun v => within_evalEqual hc own at' v rest
  | .nothing | .bool _ | .int _ | .float _ | .text _ | .bytes _ => rw [evalExpr]; exact hR.pure _

theorem within_evalAll {call : Call} (hc : Changing R call) (own : Nat) (at' : Place)
    (es : List Expr) : Within R own (evalAll call at' es) := by
  cases es with
  | nil => rw [evalAll]; exact hR.pure _
  | cons e rest =>
    rw [evalAll]
    exact hR.bind (within_evalExpr hc own at' e) fun _ =>
      hR.bind (within_evalAll hc own at' rest) fun _ => hR.pure _

theorem within_evalPairs {call : Call} (hc : Changing R call) (own : Nat) (at' : Place)
    (ps : List (Expr × Expr)) : Within R own (evalPairs call at' ps) := by
  match ps with
  | [] => rw [evalPairs]; exact hR.pure _
  | (k, e) :: rest =>
    rw [evalPairs]
    exact hR.bind (within_evalExpr hc own at' k) fun _ =>
      hR.bind (within_evalExpr hc own at' e) fun _ =>
        hR.bind (within_evalPairs hc own at' rest) fun _ => hR.pure _

theorem within_evalEqual {call : Call} (hc : Changing R call) (own : Nat) (at' : Place) (v : Value)
    (es : List Expr) : Within R own (evalEqual call at' v es) := by
  cases es with
  | nil => rw [evalEqual]; exact hR.pure _
  | cons e rest =>
    rw [evalEqual]
    refine hR.bind (within_evalExpr hc own at' e) fun w => hR.after (reads_equal v w) fun b => ?_
    split
    · split
      · exact hR.pure _
      · exact within_evalEqual hc own at' w rest
    · exact hR.pure _

end

/-! ### Statements -/

theorem within_assignAll {call : Call} (hc : Changing R call) (at' : Place) (v : Value)
    (targets : List Target) : Within R at'.own (assignAll call at' v targets) := by
  have one : ∀ t, Within R at'.own (assignTarget call at' v t) := by
    intro t
    cases t with
    | name s => exact hR.within_assignName _ _ _
    | index e i =>
      exact hR.bind (hR.within_evalExpr hc _ at' e) fun _ =>
        hR.bind (hR.within_evalExpr hc _ at' i) fun _ => hR.within_setItem _ _ _
  induction targets with
  | nil => exact hR.pure _
  | cons t rest ih => exact hR.bind (one t) fun _ => ih

theorem within_decorate {call : Call} (hc : Changing R call) (v : Value) (ds : List Value) :
    Within R own (decorate call v ds) := by
  induction ds generalizing v with
  | nil => exact hR.pure _
  | cons d rest ih => exact hR.bind (hc own d [v]) fun w => ih w

mutual

/-- A statement binds names where it stands. -/
theorem within_execStmt {call : Call} (hc : Changing R call) (at' : Place) (s : Stmt) :
    Within R at'.own (execStmt call at' s) := by
  match s with
  | .expr line e =>
    rw [execStmt]
    exact hR.bind (hR.within_evalExpr hc _ at' e) fun _ => hR.pure _
  | .starred line e => rw [execStmt]; exact hR.pure _
  | .assign targets e =>
    rw [execStmt]
    exact hR.bind (hR.within_evalExpr hc _ at' e) fun v =>
      hR.bind (hR.within_assignAll hc at' v targets) fun _ => hR.pure _
  | .return none => rw [execStmt]; exact hR.pure _
  | .return (some e) =>
    rw [execStmt]
    exact hR.bind (hR.within_evalExpr hc _ at' e) fun _ => hR.pure _
  | .raise e =>
    rw [execStmt]
    exact hR.bind (hR.within_evalExpr hc _ at' e) fun v =>
      hR.after (reads_raiseValue v) fun _ => hR.pure _
  | .pass => rw [execStmt]; exact hR.pure _
  | .load m =>
    rw [execStmt]
    exact hR.after (reads_loadModule m) fun v =>
      hR.bind (hR.within_assignName _ _ _) fun _ => hR.pure _
  | .define decorators name params body =>
    rw [execStmt]
    exact hR.bind (hR.within_evalAll hc _ at' decorators.reverse) fun ds =>
      hR.bind (hR.alloc _) fun f => hR.bind (hR.within_decorate hc f ds.reverse) fun v =>
        hR.bind (hR.within_assignName _ _ _) fun _ => hR.pure _
  | .branch cond yes no =>
    rw [execStmt]
    refine hR.bind (hR.within_evalExpr hc _ at' cond) fun v => hR.after reads_heap fun h => ?_
    split
    · exact within_execAll hc at' yes
    · exact within_execAll hc at' no

theorem within_execAll {call : Call} (hc : Changing R call) (at' : Place) (ss : List Stmt) :
    Within R at'.own (execAll call at' ss) := by
  cases ss with
  | nil => rw [execAll]; exact hR.pure _
  | cons s rest =>
    rw [execAll]
    refine hR.bind (within_execStmt hc at' s) fun o => ?_
    split
    · exact within_execAll hc at' rest
    · exact hR.pure _

end

/-! ### Calls -/

/-- A function binds names that it gets when it is called. -/
theorem within_enter {call : Call} (hc : Changing R call) (f : Closure) (args : List Value) :
    Within R own (enter call f args) := by
  unfold enter
  refine hR.after (reads_requireArity f args) fun _ m => ?_
  let scope : Object := .scope f.own (f.params.zip args)
  let inside : Place := ⟨m.heap.size :: f.scopes, f.globals, f.path ++ ".<locals>."⟩
  have body : Within R inside.own (execAll call inside f.body) := hR.within_execAll hc inside f.body
  refine hR.fresh own (?_ : R m.heap.size (m.heap.alloc scope).2 _)
  refine hR.bind body (fun o => ?_) { m with heap := (m.heap.alloc scope).2 }
  split
  · exact hR.pure _
  · exact hR.pure _

/-- By induction on the room for calls within the call. -/
theorem changing_callAt (n : Nat) : Changing R (callAt n) := by
  induction n with
  | zero => exact fun _ _ _ => hR.fail _ _
  | succ n ih =>
    intro own v args
    show Within R own (callWith (callAt n) v args)
    unfold callWith
    split
    · exact hR.within_callBuiltin _ _
    · exact hR.alloc _
    · exact hR.bind (hR.within_appendTo _ _) fun _ => hR.pure _
    · exact hR.fail _ _
    · exact hR.bind (ih _ _ _) fun _ => hR.pure _
    · exact hR.fail _ _
    · refine hR.after reads_heap fun h => ?_
      split
      · exact hR.within_enter ih _ _
      · exact hR.within_callRecorder _ _
      · exact hR.fail _ _

/-- Calls bind no names that are there when they begin. -/
theorem within_callTop (v : Value) (args : List Value) : Within R own (callTop v args) :=
  hR.changing_callAt callLimit own v args

/-! ### Blocks -/

/-- The code of a block binds names where the names of the run stand. -/
theorem within_runAt (c : Compiled) (globals : Nat) : Within R globals (c.runAt globals) := by
  let place : Place := ⟨[], globals, ""⟩
  unfold Compiled.runAt
  dsimp only
  split
  · refine hR.bind (hR.within_execAll (hR.changing_callAt _) place _) fun _ => ?_
    exact hR.of_reads (reads_exportedValue _ _)
  · exact hR.within_evalExpr (hR.changing_callAt _) _ place _
  · refine hR.bind (hR.alloc _) fun f => ?_
    exact hR.bind (hR.within_assignName place _ _) fun _ => hR.within_callTop _ _

/-- A run binds names that it gets when it begins. -/
theorem within_run (c : Compiled) : Within R own c.run := fun m =>
  hR.fresh own (hR.within_runAt c m.heap.size
    { m with heap := (m.heap.alloc (.globals (startNames c.host))).2 })

end Changes

end LiterateConfig.Script
