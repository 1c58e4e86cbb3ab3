import LiterateConfig.Project.Run

/-!
# Actions, step by step

An action is run by what comes first and then, unless that ends with an error, by
what comes next. This module says so for the actions that keep a state of their
own and for those that do not, and follows two things through an action: how it
moves the world, and that it leaves a state of its own alone.

**Movements.** `Moves R x` says that `x` takes a world only to worlds related by
`R`, whether it ends well or not. `Quiet R` is what `R` must allow for actions that
only write to the log; actions that also save files or run blocks ask for `Saves R`
or `Evaluates R`.

Results:
* `Try.bind_apply`, `Using.bind_apply`: one thing after the other;
* `Try.of_bind_ok`, `Using.of_bind_ok`: an action that ends well does so in each of
  its parts;
* `Quiet.note`, `Quiet.noteFailure`, `Quiet.saveJson`: how writing moves the world;
* `Keeps.bind`, `Keeps.bind_cases`: what leaves the state alone.
-/
namespace LiterateConfig

open LiterateConfig.Script (Raised)

variable {σ ε α β : Type}

/-! ## One thing after the other -/

/-! Computations on the machine are like actions that may end with an error: only the
state differs. -/

theorem Try.bind_apply (x : ExceptT ε (StateM σ) α) (f : α → ExceptT ε (StateM σ) β) (s : σ) :
    (x >>= f) s = match x s with
      | (.ok a, s') => f a s'
      | (.error e, s') => (.error e, s') := by
  show (ExceptT.bindCont f (x s).1) (x s).2 = _
  rcases x s with ⟨_ | _, _⟩ <;> rfl

theorem Using.bind_apply (x : Using σ ε α) (f : α → Using σ ε β) (s : σ) (w : World) :
    (x >>= f) s w = match x s w with
      | ((.ok a, s'), w') => f a s' w'
      | ((.error e, s'), w') => ((.error e, s'), w') := by
  show (ExceptT.bindCont f (x s w).1.1) (x s w).1.2 (x s w).2 = _
  rcases x s w with ⟨⟨_ | _, _⟩, _⟩ <;> rfl

theorem Try.of_bind_ok {x : ExceptT ε (StateM σ) α} {f : α → ExceptT ε (StateM σ) β} {s s' : σ}
    {b : β} (h : (x >>= f) s = (.ok b, s')) :
    ∃ a s₁, x s = (.ok a, s₁) ∧ f a s₁ = (.ok b, s') := by
  rw [Try.bind_apply] at h
  rcases hx : x s with ⟨_ | a, s₁⟩ <;> rw [hx] at h
  · cases h
  · exact ⟨a, s₁, rfl, h⟩

theorem Using.of_bind_ok {x : Using σ ε α} {f : α → Using σ ε β} {s s' : σ} {w w' : World} {b : β}
    (h : (x >>= f) s w = ((.ok b, s'), w')) :
    ∃ a s₁ w₁, x s w = ((.ok a, s₁), w₁) ∧ f a s₁ w₁ = ((.ok b, s'), w') := by
  rw [Using.bind_apply] at h
  rcases hx : x s w with ⟨⟨_ | a, s₁⟩, w₁⟩ <;> rw [hx] at h
  · cases h
  · exact ⟨a, s₁, w₁, rfl, h⟩

/-- What an action that ends well hands on. -/
theorem Using.bind_of_ok {x : Using σ ε α} {s s₁ : σ} {w w₁ : World} {a : α}
    (h : x s w = ((.ok a, s₁), w₁)) (f : α → Using σ ε β) : (x >>= f) s w = f a s₁ w₁ := by
  rw [Using.bind_apply, h]

theorem Try.bind_of_ok {x : ExceptT ε (StateM σ) α} {s s₁ : σ} {a : α} (h : x s = (.ok a, s₁))
    (f : α → ExceptT ε (StateM σ) β) : (x >>= f) s = f a s₁ := by
  rw [Try.bind_apply, h]

/-- What ends with an error hands nothing on. -/
theorem Try.fst_bind_of_error {x : ExceptT ε (StateM σ) α} {s : σ} {e : ε}
    (h : (x s).1 = .error e) (f : α → ExceptT ε (StateM σ) β) : ((x >>= f) s).1 = .error e := by
  rw [Try.bind_apply]
  rcases hx : x s with ⟨_ | a, s'⟩ <;> rw [hx] at h <;> cases h
  rfl

theorem Using.lift_apply (x : Try ε α) (s : σ) (w : World) :
    (liftM x : Using σ ε α) s w = (((x w).1, s), (x w).2) := rfl

theorem Using.of_lift_ok {x : Try ε α} {s s' : σ} {w w' : World} {a : α}
    (h : (liftM x : Using σ ε α) s w = ((.ok a, s'), w')) : x w = (.ok a, w') ∧ s' = s := by
  rw [Using.lift_apply] at h
  rcases hx : x w with ⟨r, w₁⟩
  rw [hx] at h
  cases h
  exact ⟨rfl, rfl⟩

theorem Try.adapt_apply {δ : Type} (f : ε → δ) (x : Try ε α) (w : World) :
    (ExceptT.adapt f x : Try δ α) w = ((x w).1.mapError f, (x w).2) := rfl

theorem Using.adapt_apply {δ : Type} (f : ε → δ) (x : Using σ ε α) (s : σ) (w : World) :
    (ExceptT.adapt f x : Using σ δ α) s w =
      (((x s w).1.1.mapError f, (x s w).1.2), (x s w).2) := rfl

theorem exists_of_isOk {x : Except ε α} (h : x.isOk = true) : ∃ a, x = .ok a := by
  cases x with
  | error e => cases h
  | ok a => exact ⟨a, rfl⟩

/-! Handing on another error, or a value made of what was yielded, changes nothing in how an
action ends. -/

theorem Try.isOk_adapt {δ : Type} (f : ε → δ) (x : Try ε α) (w : World) :
    ((ExceptT.adapt f x : Try δ α) w).1.isOk = (x w).1.isOk := by
  rw [Try.adapt_apply]
  cases (x w).1 <;> rfl

theorem Try.isOk_bind_pure (x : Try ε α) (f : α → β) (w : World) :
    ((x >>= fun a => pure (f a)) w).1.isOk = (x w).1.isOk := by
  rw [Try.bind_apply]
  rcases x w with ⟨_ | _, _⟩ <;> rfl

/-! An action of the world and the parts that only look at or change a state go
straight on. -/

@[simp] theorem Try.act_bind (x : Act α) (f : α → Try ε β) (w : World) :
    ((liftM x : Try ε α) >>= f) w = f (x w).1 (x w).2 := rfl

@[simp] theorem Try.getWorld_bind (f : World → Try ε α) (w : World) :
    ((getThe World : Try ε World) >>= f) w = f w w := rfl

@[simp] theorem Try.modifyWorld_bind (g : World → World) (f : Unit → Try ε α) (w : World) :
    ((modifyThe World g : Try ε Unit) >>= f) w = f () (g w) := rfl

@[simp] theorem Using.pure_apply (a : α) (s : σ) (w : World) :
    (pure a : Using σ ε α) s w = ((.ok a, s), w) := rfl

@[simp] theorem Using.pure_bind (a : α) (f : α → Using σ ε β) (s : σ) (w : World) :
    ((pure a : Using σ ε α) >>= f) s w = f a s w := rfl

@[simp] theorem Using.act_bind (x : Act α) (f : α → Using σ ε β) (s : σ) (w : World) :
    ((liftM x : Using σ ε α) >>= f) s w = f (x w).1 s (x w).2 := rfl

@[simp] theorem Using.getWorld_bind (f : World → Using σ ε α) (s : σ) (w : World) :
    ((getThe World : Using σ ε World) >>= f) s w = f w s w := rfl

@[simp] theorem Using.getState_bind (f : σ → Using σ ε α) (s : σ) (w : World) :
    ((getThe σ : Using σ ε σ) >>= f) s w = f s s w := rfl

@[simp] theorem Using.modifyState_apply (g : σ → σ) (s : σ) (w : World) :
    (modifyThe σ g : Using σ ε Unit) s w = ((.ok (), g s), w) := rfl

@[simp] theorem Using.modifyState_bind (g : σ → σ) (f : Unit → Using σ ε α) (s : σ) (w : World) :
    ((modifyThe σ g : Using σ ε Unit) >>= f) s w = f () (g s) w := rfl

theorem recoveredIf_apply (p : Raised → Bool) (x : Using σ Raised α) (s : σ) (w : World) :
    recoveredIf p x s w = match x s w with
      | ((.ok a, s'), w') => ((.ok (.ok a), s'), w')
      | ((.error e, s'), w') => ((if p e then .ok (.error e) else .error e, s'), w') := by
  rcases hx : x s w with ⟨⟨e | a, s'⟩, w'⟩
  · simp only [recoveredIf, bind, StateT.bind, hx]
    cases p e <;> rfl
  · simp only [recoveredIf, bind, StateT.bind, hx]
    rfl

/-- An action with only errors that are recovered from always ends well. -/
theorem recoveredIf_ok {p : Raised → Bool} {x : Using σ Raised α} {s : σ} {w : World}
    (h : ∀ e, (x s w).1.1 = .error e → p e = true) :
    recoveredIf p x s w = ((.ok (x s w).1.1, (x s w).1.2), (x s w).2) := by
  rw [recoveredIf_apply]
  rcases hx : x s w with ⟨⟨e | a, s'⟩, w'⟩ <;> rw [hx] at h
  · have he := h e rfl
    simp only [he, if_true]

/-! ## Computations on the machine -/

namespace Script

/-- The computation leaves the machine as it is. -/
def Reads (x : Eval α) : Prop := ∀ m, (x m).2 = m

@[simp] theorem reads_pure (a : α) : Reads (pure a : Eval α) := fun _ => rfl

theorem reads_heap : Reads heap := fun _ => rfl

theorem heap_bind (f : Heap → Eval α) (m : Machine) : (heap >>= f) m = f m.heap m := rfl

@[simp] theorem reads_throw (e : Raised) : Reads (throw e : Eval α) := fun _ => rfl

@[simp] theorem reads_fail (kind : ErrorKind) (message : String) :
    Reads (fail kind message : Eval α) := reads_throw _

theorem Reads.bind {x : Eval α} {f : α → Eval β} (hx : Reads x) (hf : ∀ a, Reads (f a)) :
    Reads (x >>= f) := by
  intro m
  have h₁ := hx m
  rw [Try.bind_apply]
  rcases hm : x m with ⟨_ | a, m'⟩ <;> rw [hm] at h₁
  · exact h₁
  · exact (hf a m').trans h₁

theorem Reads.onMachine_apply {x : Eval α} (hx : Reads x) (w : World) :
    onMachine x w = ((x w.machine).1, w) := by
  show ((x w.machine).1, { w with machine := (x w.machine).2 }) = _
  rw [hx]

theorem reads_ofShown (r : Except Unshown String) : Reads (ofShown r) := by
  rcases r with (_ | _) | _ <;> exact fun _ => rfl

theorem isOk_ofShown (r : Except Unshown String) (m : Machine) :
    (ofShown r m).1.isOk = r.toOption.isSome := by
  rcases r with (_ | _) | _ <;> rfl

theorem reads_plainText (v : Value) : Reads (plainText v) := reads_heap.bind fun _ => reads_ofShown _

theorem Raised.reads_text (r : Raised) : Reads r.text := reads_heap.bind fun _ => reads_ofShown _

theorem Raised.text_of_shown {r : Raised} {m : Machine} {t : String} (h : r.shown m.heap = .ok t) :
    r.text m = (.ok t, m) := by
  show ofShown (r.shown m.heap) m = _
  rw [h]
  rfl

theorem Raised.isOk_text (r : Raised) (m : Machine) :
    (r.text m).1.isOk = (r.shown m.heap).toOption.isSome :=
  isOk_ofShown _ m

end Script

/-! ## Movements of the world -/

/-- The action takes a world only to worlds related to it. -/
def Moves (R : World → World → Prop) (x : World → α × World) : Prop := ∀ w, R w (x w).2

namespace Moves

variable {R : World → World → Prop}

theorem act {x : Act α} (hx : Moves R x) : Moves R (liftM x : Try ε α) := hx

theorem lift {x : Try ε α} (hx : Moves R x) (s : σ) : Moves R ((liftM x : Using σ ε α) s) := hx

theorem adapt {δ : Type} {x : Try ε α} (hx : Moves R x) (f : ε → δ) :
    Moves R (ExceptT.adapt f x : Try δ α) := hx

theorem actUsing {x : Act α} (hx : Moves R x) (s : σ) : Moves R ((liftM x : Using σ ε α) s) := hx

end Moves

/-- A relation that allows for writing to the log, any number of times. -/
structure Quiet (R : World → World → Prop) : Prop where
  refl : ∀ w, R w w
  trans : ∀ {w₁ w₂ w₃}, R w₁ w₂ → R w₂ w₃ → R w₁ w₃
  write : ∀ w r, R w (w.write r)

/-- The relation allows for files being saved. -/
def Saves (R : World → World → Prop) : Prop :=
  ∀ w p text, R w { w with disk := (w.disk.saveText p text).2 }

/-- The relation allows for blocks being run. -/
def Evaluates (R : World → World → Prop) : Prop := ∀ w m, R w { w with machine := m }

namespace Quiet

variable {R : World → World → Prop} (h : Quiet R)

include h

theorem pure (a : α) : Moves R fun w => (a, w) := fun w => h.refl w

theorem bindAct {x : Act α} {f : α → Act β} (hx : Moves R x) (hf : ∀ a, Moves R (f a)) :
    Moves R (x >>= f) :=
  fun w => h.trans (hx w) (hf _ _)

theorem bindTry {x : Try ε α} {f : α → Try ε β} (hx : Moves R x) (hf : ∀ a, Moves R (f a)) :
    Moves R (x >>= f) := by
  intro w
  have h₁ := hx w
  rw [Try.bind_apply]
  rcases hw : x w with ⟨_ | a, w'⟩ <;> rw [hw] at h₁
  · exact h₁
  · exact h.trans h₁ (hf a w')

theorem bindUsing {x : Using σ ε α} {f : α → Using σ ε β} (hx : ∀ s, Moves R (x s))
    (hf : ∀ a s, Moves R (f a s)) (s : σ) : Moves R ((x >>= f) s) := by
  intro w
  have h₁ := hx s w
  rw [Using.bind_apply]
  rcases hw : x s w with ⟨⟨_ | a, s'⟩, w'⟩ <;> rw [hw] at h₁
  · exact h₁
  · exact h.trans h₁ (hf a s' w')

omit h in
theorem recoveredIf {p : Raised → Bool} {x : Using σ Raised α} (hx : ∀ s, Moves R (x s)) (s : σ) :
    Moves R (recoveredIf p x s) := by
  intro w
  have h₁ := hx s w
  rw [recoveredIf_apply]
  rcases hw : x s w with ⟨⟨_ | _, _⟩, _⟩ <;> rw [hw] at h₁ <;> exact h₁

theorem note {level : Log.Level} {source : Log.Source} {message : String} {traced : Bool} :
    Moves R (note level source message traced) := by
  intro w
  show R w (if _ then _ else _)
  split
  · exact h.write w _
  · exact h.refl w

theorem noteFailure {source : Log.Source} {what error : String} {text : Option String} :
    Moves R (noteFailure source what error text) := by
  unfold LiterateConfig.noteFailure
  exact h.bindAct (fun w => h.refl w) fun _ => h.note

theorem noteRaised {source : Log.Source} {what : String} {e : Raised} {text : Option String} :
    Moves R (noteRaised source what e text) := by
  unfold LiterateConfig.noteRaised
  exact h.bindAct (fun w => h.refl w) fun _ => h.noteFailure

/-- Writing a JSON file moves the world by one change of the disk and notes. -/
theorem saveJson (hs : Saves R) {source : Log.Source} {what : String} {told : Option String}
    {path : Files.Path} {data : Json.Data} : Moves R (saveJson source what told path data) := by
  intro w
  refine h.trans (hs w path (Json.print data)) ?_
  unfold LiterateConfig.saveJson
  simp only [Try.getWorld_bind, Try.modifyWorld_bind]
  generalize (w.disk.saveText path (Json.print data)).1 = r
  cases r with
  | ok _ =>
    cases told with
    | none => exact h.pure _ _
    | some s => exact h.bindTry h.note (fun _ => h.pure _) _
  | error e =>
    cases told
    all_goals
      cases e
      all_goals first
        | exact h.pure _ _
        | exact h.bindTry h.note (fun _ => h.pure _) _

/-- A computation that leaves the machine as it is does not move the world. -/
theorem onMachine_of_reads {x : Script.Eval α} (hx : Script.Reads x) : Moves R (onMachine x) := by
  intro w
  rw [hx.onMachine_apply]
  exact h.refl w

end Quiet

/-! ## A state left alone -/

/-- The action leaves the state of its own as it is. -/
def Keeps (x : Using σ ε α) : Prop := ∀ s w, (x s w).1.2 = s

theorem keeps_lift (x : Try ε α) : Keeps (liftM x : Using σ ε α) := fun _ _ => rfl

theorem Keeps.bind {x : Using σ ε α} {f : α → Using σ ε β} (hx : Keeps x) (hf : ∀ a, Keeps (f a)) :
    Keeps (x >>= f) := by
  intro s w
  have h₁ := hx s w
  rw [Using.bind_apply]
  rcases hw : x s w with ⟨⟨_ | a, s'⟩, w'⟩ <;> rw [hw] at h₁
  · exact h₁
  · exact (hf a s' w').trans h₁

/-- What is left alone is handed on to what comes next, unless there is an error. -/
theorem Keeps.bind_cases {x : Using σ ε α} (hx : Keeps x) (f : α → Using σ ε β) (s : σ)
    (w : World) :
    (∃ e w', x s w = ((.error e, s), w') ∧ (x >>= f) s w = ((.error e, s), w')) ∨
      ∃ a w', x s w = ((.ok a, s), w') ∧ (x >>= f) s w = f a s w' := by
  have h₁ := hx s w
  rw [Using.bind_apply]
  rcases hw : x s w with ⟨⟨e | a, s'⟩, w'⟩ <;> rw [hw] at h₁ <;> obtain rfl : s' = s := h₁
  · exact Or.inl ⟨e, w', rfl, rfl⟩
  · exact Or.inr ⟨a, w', rfl, rfl⟩

end LiterateConfig
