import LiterateConfig.Proofs.HeapChanges

/-!
# Renaming addresses

Nothing that a block can do depends on which address an object has. This module gives
the objects of a heap other addresses, and follows what values and objects say about each
other without looking at the heap.

**Addresses.** `Addressed α` tells which addresses something has in it, and what it is under
other ones. `Inside P x` says that all addresses in `x` satisfy `P`.

Results:
* `isSame_rename`: the same keys are the same under other addresses, if no two addresses
  fall together;
* `pair?_rename`, `putPair_rename`, `insertItem_rename`: dictionaries and sets;
* `Inside.pair?`, `Inside.putPair`, `Inside.put`: nothing gets new addresses by them.
-/
namespace LiterateConfig.Script

/-! ## Addresses in values -/

/-- Something with addresses in it, which can be given others. -/
class Addressed (α : Type) where
  addresses : α → List Nat
  rename : (Nat → Nat) → α → α
  rename_eq_self : ∀ {σ : Nat → Nat} {x : α}, (∀ a ∈ addresses x, σ a = a) → rename σ x = x

export Addressed (addresses rename rename_eq_self)

/-- All addresses satisfy `P`. -/
def Inside {α : Type} [Addressed α] (P : Nat → Prop) (x : α) : Prop := ∀ a ∈ addresses x, P a

/-- Something without addresses. -/
abbrev Addressed.none (α : Type) : Addressed α := ⟨fun _ => [], fun _ x => x, fun _ => rfl⟩

instance : Addressed Unit := .none _
instance : Addressed Bool := .none _
instance : Addressed Int := .none _
instance : Addressed Float := .none _
instance : Addressed Char := .none _
instance : Addressed UInt8 := .none _
instance : Addressed String := .none _
instance : Addressed ErrorKind := .none _

/-- A natural number stands for an address. -/
instance : Addressed Nat := ⟨fun a => [a], fun σ a => σ a, fun h => h _ (List.mem_singleton.2 rfl)⟩

section Compound

variable {α β : Type} [Addressed α] [Addressed β]

theorem map_rename_eq_self {σ : Nat → Nat} {xs : List α}
    (h : ∀ a ∈ xs.flatMap addresses, σ a = a) : xs.map (rename σ) = xs := by
  have hid : xs.map (rename σ) = xs.map id := List.map_congr_left fun x hx =>
    rename_eq_self fun a ha => h a (List.mem_flatMap.2 ⟨x, hx, ha⟩)
  rw [hid, List.map_id]

instance : Addressed (List α) :=
  ⟨fun xs => xs.flatMap addresses, fun σ xs => xs.map (rename σ), map_rename_eq_self⟩

instance : Addressed (α × β) where
  addresses p := addresses p.1 ++ addresses p.2
  rename σ p := (rename σ p.1, rename σ p.2)
  rename_eq_self h := Prod.ext (rename_eq_self fun a ha => h a (List.mem_append_left _ ha))
    (rename_eq_self fun a ha => h a (List.mem_append_right _ ha))

instance : Addressed (Option α) where
  addresses x := x.toList.flatMap addresses
  rename σ x := x.map (rename σ)
  rename_eq_self {σ x} h := by
    cases x with
    | none => rfl
    | some x => exact congrArg some (rename_eq_self fun a ha => h a (by simpa using ha))

instance : Addressed (Except α β) where
  addresses
    | .error e => addresses e
    | .ok x => addresses x
  rename σ
    | .error e => .error (rename σ e)
    | .ok x => .ok (rename σ x)
  rename_eq_self {σ x} h := by
    cases x with
    | error e => exact congrArg Except.error (rename_eq_self h)
    | ok x => exact congrArg Except.ok (rename_eq_self h)

variable {P Q : Nat → Prop} {σ : Nat → Nat}

theorem Inside.mono {x : α} (h : Inside P x) (hPQ : ∀ a, P a → Q a) : Inside Q x :=
  fun a ha => hPQ a (h a ha)

theorem rename_eq_map (xs : List α) : rename σ xs = xs.map (rename σ) := rfl

@[simp] theorem rename_nil : rename σ ([] : List α) = [] := rfl

@[simp] theorem rename_cons (x : α) (xs : List α) :
    rename σ (x :: xs) = rename σ x :: rename σ xs := rfl

@[simp] theorem rename_append (xs ys : List α) : rename σ (xs ++ ys) = rename σ xs ++ rename σ ys :=
  List.map_append

@[simp] theorem length_rename (xs : List α) : (rename σ xs).length = xs.length := List.length_map _

@[simp] theorem isEmpty_rename (xs : List α) : (rename σ xs).isEmpty = xs.isEmpty :=
  List.isEmpty_map

@[simp] theorem rename_pair (x : α) (y : β) : rename σ (x, y) = (rename σ x, rename σ y) := rfl

@[simp] theorem rename_some (x : α) : rename σ (some x) = some (rename σ x) := rfl

@[simp] theorem rename_none : rename σ (none : Option α) = none := rfl

@[simp] theorem rename_text (s : String) : rename σ s = s := rfl

@[simp] theorem inside_nil : Inside P ([] : List α) := nofun

@[simp] theorem inside_cons {x : α} {xs : List α} :
    Inside P (x :: xs) ↔ Inside P x ∧ Inside P xs :=
  List.forall_mem_append

@[simp] theorem inside_append {xs ys : List α} :
    Inside P (xs ++ ys) ↔ Inside P xs ∧ Inside P ys := by
  unfold Inside
  rw [show addresses (xs ++ ys) = addresses xs ++ addresses ys from List.flatMap_append]
  exact List.forall_mem_append

@[simp] theorem inside_pair {x : α} {y : β} : Inside P (x, y) ↔ Inside P x ∧ Inside P y :=
  List.forall_mem_append

@[simp] theorem inside_some {x : α} : Inside P (some x) ↔ Inside P x := by
  unfold Inside
  rw [show addresses (some x) = addresses x from List.append_nil _]

@[simp] theorem inside_none : Inside P (none : Option α) := nofun

@[simp] theorem inside_text (s : String) : Inside P s := nofun

@[simp] theorem rename_ok (x : β) : rename σ (Except.ok x : Except α β) = .ok (rename σ x) := rfl

@[simp] theorem rename_error (x : α) :
    rename σ (Except.error x : Except α β) = .error (rename σ x) := rfl

@[simp] theorem inside_ok {x : β} : Inside P (Except.ok x : Except α β) ↔ Inside P x := Iff.rfl

@[simp] theorem inside_error {x : α} :
    Inside P (Except.error x : Except α β) ↔ Inside P x := Iff.rfl

@[simp] theorem inside_unit (u : Unit) : Inside P u := nofun

@[simp] theorem inside_address {a : Nat} : Inside P a ↔ P a := List.forall_mem_singleton

@[simp] theorem rename_chars (cs : List Char) : rename σ cs = cs := rename_eq_self <| by
  simp [addresses]

@[simp] theorem rename_octets (bs : List UInt8) : rename σ bs = bs := rename_eq_self <| by
  simp [addresses]

@[simp] theorem rename_texts (ts : List String) : rename σ ts = ts := rename_eq_self <| by
  simp [addresses]

@[simp] theorem inside_chars (cs : List Char) : Inside P cs := by simp [Inside, addresses]

@[simp] theorem inside_octets (bs : List UInt8) : Inside P bs := by simp [Inside, addresses]

@[simp] theorem inside_texts (ts : List String) : Inside P ts := by simp [Inside, addresses]

theorem inside_iff_forall {xs : List α} : Inside P xs ↔ ∀ x ∈ xs, Inside P x := by
  induction xs with
  | nil => exact iff_of_true inside_nil nofun
  | cons x xs ih => rw [inside_cons, ih, List.forall_mem_cons]

/-- Items of a list have no other addresses than the list. -/
theorem Inside.subset {xs ys : List α} (h : Inside P xs) (hsub : ys ⊆ xs) : Inside P ys :=
  inside_iff_forall.2 fun y hy => inside_iff_forall.1 h y (hsub hy)

theorem Inside.of_mem {xs : List α} (h : Inside P xs) {x : α} (hx : x ∈ xs) : Inside P x :=
  inside_iff_forall.1 h x hx

end Compound

/-! ## Values -/

mutual

def Value.addresses : Value → List Nat
  | .tuple items | .frozen items => addressesOf items
  | .ref a | .append a => [a]
  | .hook target => target.addresses
  | _ => []

def addressesOf : List Value → List Nat
  | [] => []
  | v :: vs => v.addresses ++ addressesOf vs

end

mutual

def Value.rename (σ : Nat → Nat) : Value → Value
  | .tuple items => .tuple (renameAll σ items)
  | .frozen items => .frozen (renameAll σ items)
  | .ref a => .ref (σ a)
  | .append a => .append (σ a)
  | .hook target => .hook (target.rename σ)
  | v => v

def renameAll (σ : Nat → Nat) : List Value → List Value
  | [] => []
  | v :: vs => v.rename σ :: renameAll σ vs

end

mutual

theorem Value.rename_eq_self {σ : Nat → Nat} {v : Value} (h : ∀ a ∈ v.addresses, σ a = a) :
    v.rename σ = v := by
  cases v with
  | tuple items => exact congrArg Value.tuple (renameAll_eq_self h)
  | frozen items => exact congrArg Value.frozen (renameAll_eq_self h)
  | ref a => exact congrArg Value.ref (h a (List.mem_singleton.2 rfl))
  | append a => exact congrArg Value.append (h a (List.mem_singleton.2 rfl))
  | hook target => exact congrArg Value.hook (Value.rename_eq_self h)
  | _ => rfl

theorem renameAll_eq_self {σ : Nat → Nat} {vs : List Value} (h : ∀ a ∈ addressesOf vs, σ a = a) :
    renameAll σ vs = vs := by
  cases vs with
  | nil => rfl
  | cons v vs =>
    obtain ⟨hv, hvs⟩ := List.forall_mem_append.1 h
    rw [renameAll, Value.rename_eq_self hv, renameAll_eq_self hvs]

end

instance : Addressed Value := ⟨Value.addresses, Value.rename, Value.rename_eq_self⟩

theorem addressesOf_eq (vs : List Value) : addressesOf vs = addresses vs := by
  induction vs with
  | nil => rfl
  | cons v vs ih =>
    rw [addressesOf, ih]
    rfl

theorem renameAll_eq (σ : Nat → Nat) (vs : List Value) : renameAll σ vs = rename σ vs := by
  induction vs with
  | nil => rfl
  | cons v vs ih =>
    rw [renameAll, ih]
    rfl

section Values

variable {P : Nat → Prop} {σ : Nat → Nat}

@[simp] theorem rename_tuple (items : List Value) :
    rename σ (Value.tuple items) = .tuple (rename σ items) := congrArg _ (renameAll_eq σ items)

@[simp] theorem rename_frozen (items : List Value) :
    rename σ (Value.frozen items) = .frozen (rename σ items) := congrArg _ (renameAll_eq σ items)

@[simp] theorem rename_ref (a : Nat) : rename σ (Value.ref a) = .ref (σ a) := rfl

@[simp] theorem rename_appender (a : Nat) : rename σ (Value.append a) = .append (σ a) := rfl

@[simp] theorem rename_hook (v : Value) : rename σ (Value.hook v) = .hook (rename σ v) := rfl

@[simp] theorem rename_nothing : rename σ Value.nothing = .nothing := rfl

@[simp] theorem rename_bool (b : Bool) : rename σ (Value.bool b) = .bool b := rfl

@[simp] theorem rename_int (n : Int) : rename σ (Value.int n) = .int n := rfl

@[simp] theorem rename_float (x : Float) : rename σ (Value.float x) = .float x := rfl

@[simp] theorem rename_str (s : String) : rename σ (Value.text s) = .text s := rfl

@[simp] theorem rename_bytes (b : List UInt8) : rename σ (Value.bytes b) = .bytes b := rfl

@[simp] theorem rename_errorClass (k : ErrorKind) :
    rename σ (Value.errorClass k) = .errorClass k := rfl

@[simp] theorem rename_builtin (b : Builtin) : rename σ (Value.builtin b) = .builtin b := rfl

@[simp] theorem rename_module (m : String) : rename σ (Value.module m) = .module m := rfl

@[simp] theorem inside_tuple {items : List Value} :
    Inside P (Value.tuple items) ↔ Inside P items := by
  unfold Inside
  rw [show addresses (Value.tuple items) = addresses items from addressesOf_eq items]

@[simp] theorem inside_frozen {items : List Value} :
    Inside P (Value.frozen items) ↔ Inside P items := by
  unfold Inside
  rw [show addresses (Value.frozen items) = addresses items from addressesOf_eq items]

@[simp] theorem inside_ref {a : Nat} : Inside P (Value.ref a) ↔ P a := List.forall_mem_singleton

@[simp] theorem inside_appender {a : Nat} : Inside P (Value.append a) ↔ P a :=
  List.forall_mem_singleton

@[simp] theorem inside_hook {v : Value} : Inside P (Value.hook v) ↔ Inside P v := Iff.rfl

@[simp] theorem inside_nothing : Inside P Value.nothing := nofun

@[simp] theorem inside_bool (b : Bool) : Inside P (Value.bool b) := nofun

@[simp] theorem inside_int (n : Int) : Inside P (Value.int n) := nofun

@[simp] theorem inside_float (x : Float) : Inside P (Value.float x) := nofun

@[simp] theorem inside_str (s : String) : Inside P (Value.text s) := nofun

@[simp] theorem inside_bytes (b : List UInt8) : Inside P (Value.bytes b) := nofun

@[simp] theorem inside_errorClass (k : ErrorKind) : Inside P (Value.errorClass k) := nofun

@[simp] theorem inside_builtin (b : Builtin) : Inside P (Value.builtin b) := nofun

@[simp] theorem inside_module (m : String) : Inside P (Value.module m) := nofun

@[simp] theorem numeral?_rename (v : Value) : (rename σ v).numeral? = v.numeral? := by
  cases v <;> simp [Value.numeral?]

@[simp] theorem count?_rename (v : Value) : count? (rename σ v) = count? v := by
  cases v <;> simp [count?]

end Values

/-! ## Objects -/

instance : Addressed Closure where
  addresses f := f.globals :: addresses f.scopes
  rename σ f := { f with globals := σ f.globals, scopes := rename σ f.scopes }
  rename_eq_self h := by
    obtain ⟨hg, hs⟩ := List.forall_mem_cons.1 h
    simp [hg, rename_eq_self hs]

instance : Addressed Recorder where
  addresses r := r.journal :: (addresses r.fault ++ addresses r.result)
  rename σ r :=
    { r with journal := σ r.journal, fault := rename σ r.fault, result := rename σ r.result }
  rename_eq_self h := by
    obtain ⟨hj, hr⟩ := List.forall_mem_cons.1 h
    obtain ⟨hf, hv⟩ := List.forall_mem_append.1 hr
    simp [hj, rename_eq_self hf, rename_eq_self hv]

def Object.addresses : Object → List Nat
  | .list items | .set items | .error _ items => Script.addresses items
  | .dict pairs => Script.addresses pairs
  | .record parts | .scope _ parts | .globals parts => Script.addresses parts
  | .function f => Script.addresses f
  | .recorder r => Script.addresses r

def Object.rename (σ : Nat → Nat) : Object → Object
  | .list items => .list (Script.rename σ items)
  | .dict pairs => .dict (Script.rename σ pairs)
  | .set items => .set (Script.rename σ items)
  | .record parts => .record (Script.rename σ parts)
  | .function f => .function (Script.rename σ f)
  | .recorder r => .recorder (Script.rename σ r)
  | .error k args => .error k (Script.rename σ args)
  | .scope own bound => .scope own (Script.rename σ bound)
  | .globals bound => .globals (Script.rename σ bound)

theorem Object.rename_eq_self {σ : Nat → Nat} {o : Object} (h : ∀ a ∈ o.addresses, σ a = a) :
    o.rename σ = o := by
  cases o with
  | list items => exact congrArg Object.list (Script.rename_eq_self h)
  | dict pairs => exact congrArg Object.dict (Script.rename_eq_self h)
  | set items => exact congrArg Object.set (Script.rename_eq_self h)
  | record parts => exact congrArg Object.record (Script.rename_eq_self h)
  | function f => exact congrArg Object.function (Script.rename_eq_self h)
  | recorder r => exact congrArg Object.recorder (Script.rename_eq_self h)
  | error k args => exact congrArg (Object.error k) (Script.rename_eq_self h)
  | scope own bound => exact congrArg (Object.scope own) (Script.rename_eq_self h)
  | globals bound => exact congrArg Object.globals (Script.rename_eq_self h)

instance : Addressed Object := ⟨Object.addresses, Object.rename, Object.rename_eq_self⟩

namespace Object

variable {P : Nat → Prop} {σ : Nat → Nat}

@[simp] theorem rename_list (items : List Value) :
    Script.rename σ (list items) = list (Script.rename σ items) := rfl

@[simp] theorem rename_dict (pairs : List (Value × Value)) :
    Script.rename σ (dict pairs) = dict (Script.rename σ pairs) := rfl

@[simp] theorem rename_set (items : List Value) :
    Script.rename σ (set items) = set (Script.rename σ items) := rfl

@[simp] theorem rename_record (parts : Names) :
    Script.rename σ (record parts) = record (Script.rename σ parts) := rfl

@[simp] theorem rename_function (f : Closure) :
    Script.rename σ (function f) = function (Script.rename σ f) := rfl

@[simp] theorem rename_recorder (r : Recorder) :
    Script.rename σ (recorder r) = recorder (Script.rename σ r) := rfl

@[simp] theorem rename_error (k : ErrorKind) (args : List Value) :
    Script.rename σ (error k args) = error k (Script.rename σ args) := rfl

@[simp] theorem rename_scope (own : List String) (bound : Names) :
    Script.rename σ (scope own bound) = scope own (Script.rename σ bound) := rfl

@[simp] theorem rename_globals (bound : Names) :
    Script.rename σ (globals bound) = globals (Script.rename σ bound) := rfl

@[simp] theorem inside_list {items : List Value} : Inside P (list items) ↔ Inside P items := Iff.rfl

@[simp] theorem inside_dict {pairs : List (Value × Value)} :
    Inside P (dict pairs) ↔ Inside P pairs := Iff.rfl

@[simp] theorem inside_set {items : List Value} : Inside P (set items) ↔ Inside P items := Iff.rfl

@[simp] theorem inside_record {parts : Names} : Inside P (record parts) ↔ Inside P parts := Iff.rfl

@[simp] theorem inside_function {f : Closure} : Inside P (function f) ↔ Inside P f := Iff.rfl

@[simp] theorem inside_recorder {r : Recorder} : Inside P (recorder r) ↔ Inside P r := Iff.rfl

@[simp] theorem inside_error {k : ErrorKind} {args : List Value} :
    Inside P (error k args) ↔ Inside P args := Iff.rfl

@[simp] theorem inside_scope {own : List String} {bound : Names} :
    Inside P (scope own bound) ↔ Inside P bound := Iff.rfl

@[simp] theorem inside_globals {bound : Names} :
    Inside P (globals bound) ↔ Inside P bound := Iff.rfl

end Object

instance : Addressed Sequence where
  addresses
    | .text _ | .bytes _ => []
    | .tuple items | .list items => addresses items
  rename σ
    | .text s => .text s
    | .bytes b => .bytes b
    | .tuple items => .tuple (rename σ items)
    | .list items => .list (rename σ items)
  rename_eq_self {σ x} h := by
    cases x with
    | text s | bytes b => rfl
    | tuple items => exact congrArg Sequence.tuple (rename_eq_self h)
    | list items => exact congrArg Sequence.list (rename_eq_self h)

instance : Addressed Raised where
  addresses r := addresses r.args
  rename σ r := ⟨r.kind, rename σ r.args⟩
  rename_eq_self h := congrArg (Raised.mk _) (rename_eq_self h)

@[simp] theorem rename_raised {σ : Nat → Nat} (k : ErrorKind) (args : List Value) :
    rename σ (Raised.mk k args) = ⟨k, rename σ args⟩ := rfl

@[simp] theorem inside_raised {P : Nat → Prop} {k : ErrorKind} {args : List Value} :
    Inside P (Raised.mk k args) ↔ Inside P args := Iff.rfl

instance : Addressed Place where
  addresses p := p.globals :: addresses p.scopes
  rename σ p := { p with globals := σ p.globals, scopes := rename σ p.scopes }
  rename_eq_self h := by
    obtain ⟨hg, hs⟩ := List.forall_mem_cons.1 h
    simp [hg, rename_eq_self hs]

section

variable {P : Nat → Prop}

theorem inside_closure {f : Closure} : Inside P f ↔ P f.globals ∧ Inside P f.scopes :=
  List.forall_mem_cons

theorem inside_host {r : Recorder} :
    Inside P r ↔ P r.journal ∧ Inside P r.fault ∧ Inside P r.result :=
  List.forall_mem_cons.trans (and_congr_right fun _ => List.forall_mem_append)

theorem inside_place {p : Place} : Inside P p ↔ P p.globals ∧ Inside P p.scopes :=
  List.forall_mem_cons

end

instance : Addressed Outcome where
  addresses
    | .done => []
    | .returned v => addresses v
  rename σ
    | .done => .done
    | .returned v => .returned (rename σ v)
  rename_eq_self {σ x} h := by
    cases x with
    | done => rfl
    | returned v => exact congrArg Outcome.returned (rename_eq_self h)

@[simp] theorem rename_done {σ : Nat → Nat} : rename σ Outcome.done = .done := rfl

@[simp] theorem rename_returned {σ : Nat → Nat} (v : Value) :
    rename σ (Outcome.returned v) = .returned (rename σ v) := rfl

@[simp] theorem inside_done {P : Nat → Prop} : Inside P Outcome.done := nofun

@[simp] theorem inside_returned {P : Nat → Prop} {v : Value} :
    Inside P (Outcome.returned v) ↔ Inside P v := Iff.rfl

/-! ## Keys under other addresses -/

variable {σ : Nat → Nat}

theorem beq_rename (hσ : Function.Injective σ) (a b : Nat) : (σ a == σ b) = (a == b) :=
  Bool.eq_iff_iff.2 (by simpa using hσ.eq_iff)

mutual

/-- **The same keys are the same under other addresses.** -/
theorem isSame_rename (hσ : Function.Injective σ) (v w : Value) :
    (rename σ v).isSame (rename σ w) = v.isSame w := by
  cases v with
  | tuple as =>
    cases w with
    | tuple bs => simpa [Value.isSame] using allSame_rename hσ as bs
    | _ => simp [Value.isSame]
  | frozen as =>
    cases w with
    | frozen bs => simp [Value.isSame, allAmong_rename hσ as bs]
    | _ => simp [Value.isSame]
  | ref a => cases w <;> simp [Value.isSame, beq_rename hσ]
  | append a => cases w <;> simp [Value.isSame, beq_rename hσ]
  | hook a =>
    cases w with
    | hook b => simpa [Value.isSame] using isSame_rename hσ a b
    | _ => simp [Value.isSame]
  | bool b => simp [Value.isSame]
  | int n => simp [Value.isSame]
  | float x => simp [Value.isSame]
  | _ => cases w <;> simp [Value.isSame]

theorem allSame_rename (hσ : Function.Injective σ) (as bs : List Value) :
    allSame (rename σ as) (rename σ bs) = allSame as bs := by
  match as, bs with
  | [], [] => simp
  | [], _ :: _ => simp [allSame]
  | _ :: _, [] => simp [allSame]
  | a :: as, b :: bs => simp [allSame, isSame_rename hσ a b, allSame_rename hσ as bs]

theorem allAmong_rename (hσ : Function.Injective σ) (as bs : List Value) :
    allAmong (rename σ as) (rename σ bs) = allAmong as bs := by
  match as with
  | [] => simp [allAmong]
  | a :: as => simp [allAmong, anySame_rename hσ a bs, allAmong_rename hσ as bs]

theorem anySame_rename (hσ : Function.Injective σ) (a : Value) (bs : List Value) :
    anySame (rename σ a) (rename σ bs) = anySame a bs := by
  match bs with
  | [] => simp [anySame]
  | b :: bs => simp [anySame, isSame_rename hσ a b, anySame_rename hσ a bs]

end

section Same

variable (hσ : Function.Injective σ)

include hσ

theorem insertItem_rename (items : List Value) (v : Value) :
    insertItem (rename σ items) (rename σ v) = rename σ (insertItem items v) := by
  have hany : ((rename σ items).any fun w => w.isSame (rename σ v)) =
      items.any fun w => w.isSame v := by
    rw [rename_eq_map, List.any_map]
    exact List.any_congr rfl fun w => isSame_rename hσ w v
  unfold insertItem
  rw [hany]
  split <;> simp

theorem pair?_rename (key : Value) (pairs : List (Value × Value)) :
    pair? (rename σ key) (rename σ pairs) = rename σ (pair? key pairs) := by
  induction pairs with
  | nil => rfl
  | cons p rest ih =>
    obtain ⟨k, v⟩ := p
    simp only [rename_cons, rename_pair, pair?, isSame_rename hσ, ih]
    split <;> rfl

theorem putPair_rename (key v : Value) (pairs : List (Value × Value)) :
    putPair (rename σ key) (rename σ v) (rename σ pairs) = rename σ (putPair key v pairs) := by
  induction pairs with
  | nil => rfl
  | cons p rest ih =>
    obtain ⟨k, w⟩ := p
    simp only [rename_cons, rename_pair, putPair, isSame_rename hσ, ih]
    split <;> rfl

theorem foldl_insertItem_rename (vs items : List Value) :
    (rename σ vs).foldl insertItem (rename σ items) = rename σ (vs.foldl insertItem items) := by
  induction vs generalizing items with
  | nil => rfl
  | cons v vs ih => rw [rename_cons, List.foldl_cons, insertItem_rename hσ, ih, List.foldl_cons]

theorem foldl_putPair_rename (ps pairs : List (Value × Value)) :
    (rename σ ps).foldl (fun d p => putPair p.1 p.2 d) (rename σ pairs) =
      rename σ (ps.foldl (fun d p => putPair p.1 p.2 d) pairs) := by
  induction ps generalizing pairs with
  | nil => rfl
  | cons p ps ih =>
    have hput := putPair_rename hσ p.1 p.2 pairs
    rw [rename_cons, List.foldl_cons, List.foldl_cons, ← ih, ← hput]
    rfl

/-- The parts of a dictionary under a text are found as before. -/
theorem textPair?_rename (key : String) (pairs : List (Value × Value)) :
    textPair? key (rename σ pairs) = rename σ (textPair? key pairs) :=
  pair?_rename hσ (.text key) pairs

end Same

theorem get?_rename (name : String) (names : Names) :
    Keyed.get? name (rename σ names) = rename σ (Keyed.get? name names) := by
  induction names with
  | nil => rfl
  | cons p rest ih =>
    obtain ⟨k, v⟩ := p
    simp only [rename_cons, rename_pair, rename_text, Keyed.get?, ih]
    split <;> rfl

theorem put_rename (name : String) (v : Value) (names : Names) :
    Keyed.put name (rename σ v) (rename σ names) = rename σ (Keyed.put name v names) := by
  induction names with
  | nil => rfl
  | cons p rest ih =>
    obtain ⟨k, w⟩ := p
    simp only [rename_cons, rename_pair, rename_text, Keyed.put, ih]
    split <;> rfl

theorem putAll_rename (pairs names : Names) :
    Keyed.putAll (rename σ pairs) (rename σ names) = rename σ (Keyed.putAll pairs names) := by
  unfold Keyed.putAll
  induction pairs generalizing names with
  | nil => rfl
  | cons p pairs ih =>
    have hput := put_rename (σ := σ) p.1 p.2 names
    rw [rename_cons, List.foldl_cons, List.foldl_cons, ← ih, ← hput]
    rfl

theorem zip_rename (names : List String) (vs : List Value) :
    names.zip (rename σ vs) = rename σ (names.zip vs) := by
  rw [rename_eq_map, List.zip_map_right]
  rfl

/-! ## Nothing gets new addresses -/

namespace Inside

variable {P : Nat → Prop}

theorem pair? {pairs : List (Value × Value)} (h : Inside P pairs) (key : Value) :
    Inside P (Script.pair? key pairs) := by
  induction pairs with
  | nil => exact inside_none
  | cons p rest ih =>
    obtain ⟨k, v⟩ := p
    obtain ⟨⟨-, hv⟩, hrest⟩ : (Inside P k ∧ Inside P v) ∧ Inside P rest := by simpa using h
    unfold Script.pair?
    split
    · exact inside_some.2 hv
    · exact ih hrest

theorem putPair {key v : Value} {pairs : List (Value × Value)} (hk : Inside P key)
    (hv : Inside P v) (h : Inside P pairs) : Inside P (Script.putPair key v pairs) := by
  induction pairs with
  | nil => simpa [Script.putPair] using ⟨hk, hv⟩
  | cons p rest ih =>
    obtain ⟨k, w⟩ := p
    obtain ⟨⟨hk', hw⟩, hrest⟩ : (Inside P k ∧ Inside P w) ∧ Inside P rest := by simpa using h
    unfold Script.putPair
    split
    · simpa using ⟨⟨hk', hv⟩, hrest⟩
    · simpa using ⟨⟨hk', hw⟩, ih hrest⟩

theorem insertItem {items : List Value} {v : Value} (h : Inside P items) (hv : Inside P v) :
    Inside P (Script.insertItem items v) := by
  unfold Script.insertItem
  split
  · exact h
  · simpa using ⟨h, hv⟩

theorem get? {names : Names} (h : Inside P names) (name : String) :
    Inside P (Keyed.get? name names) := by
  induction names with
  | nil => exact inside_none
  | cons p rest ih =>
    obtain ⟨k, v⟩ := p
    obtain ⟨hv, hrest⟩ : Inside P v ∧ Inside P rest := by simpa using h
    unfold Keyed.get?
    split
    · exact inside_some.2 hv
    · exact ih hrest

theorem put {name : String} {v : Value} {names : Names} (hv : Inside P v) (h : Inside P names) :
    Inside P (Keyed.put name v names) := by
  induction names with
  | nil => simpa [Keyed.put] using hv
  | cons p rest ih =>
    obtain ⟨k, w⟩ := p
    obtain ⟨hw, hrest⟩ : Inside P w ∧ Inside P rest := by simpa using h
    unfold Keyed.put
    split
    · simpa using ⟨hv, hrest⟩
    · simpa using ⟨hw, ih hrest⟩

theorem putAll {pairs names : Names} (hp : Inside P pairs) (h : Inside P names) :
    Inside P (Keyed.putAll pairs names) := by
  unfold Keyed.putAll
  induction pairs generalizing names with
  | nil => exact h
  | cons p pairs ih =>
    obtain ⟨n, v⟩ := p
    obtain ⟨hv, hrest⟩ : Inside P v ∧ Inside P pairs := by simpa using hp
    exact ih hrest (put hv h)

theorem zip {vs : List Value} (h : Inside P vs) (names : List String) :
    Inside P (names.zip vs) := by
  induction names generalizing vs with
  | nil => exact inside_nil
  | cons n names ih =>
    cases vs with
    | nil => exact inside_nil
    | cons v vs =>
      obtain ⟨hv, hrest⟩ := inside_cons.1 h
      exact inside_cons.2 ⟨inside_pair.2 ⟨inside_text n, hv⟩, ih hrest⟩

end Inside

end LiterateConfig.Script
