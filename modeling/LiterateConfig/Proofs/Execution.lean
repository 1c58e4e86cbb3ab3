import LiterateConfig.Proofs.Movements

/-!
# What setup and entries do on the machine

Hooks, waiting actions and entries that run at once have executors of their own,
each with its own notes. On the machine all of them do the same: calls are attempted
one after the other, and a call that fails in a way that is recovered from keeps none
of the later ones from its turn.

**Attempts.** `Script.attemptAll` attempts calls in order and tells which ended well.
`Runs x e` says that an action does on the machine what the computation `e` does, and
ends as `e` ends.

Results:
* `attemptAll_append`: attempts in two parts;
* `Component.Spec.runs_runSetup`: the setup of a spec attempts its calls;
* `Install.runs_loadEach`: a load attempts the calls of each spec in turn;
* `Schedule.execute_ok`: running entries at once attempts the calls of those that
  have one.
-/
namespace LiterateConfig

open LiterateConfig.Component (Spec)
open LiterateConfig.Script (Eval Raised Value)

variable {α β : Type}

namespace Script

/-- Attempts computations in order and tells which of them ended well. -/
def attemptAll : List (Eval α) → Eval (List Bool)
  | [] => return []
  | x :: rest => do
    let r ← attempt x
    let later ← attemptAll rest
    return r.isOk :: later

theorem attemptAll_nil : attemptAll ([] : List (Eval α)) = pure [] := rfl

theorem attemptAll_cons (x : Eval α) (rest : List (Eval α)) :
    attemptAll (x :: rest) = (do
      let r ← attempt x
      let later ← attemptAll rest
      return r.isOk :: later) := rfl

theorem attemptAll_append (xs ys : List (Eval α)) :
    attemptAll (xs ++ ys) = (do
      let first ← attemptAll xs
      let later ← attemptAll ys
      return first ++ later) := by
  induction xs with
  | nil => simp [attemptAll_nil]
  | cons x rest ih => simp [attemptAll_cons, ih]

end Script

/-! ## The machine under an action -/

/-- The machine is left as it is. -/
def SameMachine (w w' : World) : Prop := w'.machine = w.machine

theorem quiet_sameMachine : Quiet SameMachine where
  refl _ := rfl
  trans h h' := Eq.trans h' h
  write _ _ := rfl

theorem saves_sameMachine : Saves SameMachine := fun _ _ _ => rfl

/-- On the machine the action does what a computation does, and ends as it does. -/
def Runs (x : Try Raised α) (e : Eval α) : Prop :=
  ∀ w, (x w).1 = (e w.machine).1 ∧ (x w).2.machine = (e w.machine).2

theorem runs_pure (a : α) : Runs (pure a) (pure a) := fun _ => ⟨rfl, rfl⟩

theorem runs_onMachine (e : Eval α) : Runs (onMachine e) e := fun _ => ⟨rfl, rfl⟩

/-- A computation that leaves the machine as it is leaves the world as it is. -/
theorem onMachine_of_ok {e : Eval α} {w : World} {a : α}
    (h : e w.machine = (.ok a, w.machine)) : onMachine e w = (.ok a, w) := by
  unfold onMachine
  rw [h]

theorem runs_attempt (e : Eval α) : Runs (attempt e) (Script.attempt e) := runs_onMachine _

namespace Runs

theorem bind {x : Try Raised α} {e : Eval α} {f : α → Try Raised β} {g : α → Eval β}
    (hx : Runs x e) (hf : ∀ a, Runs (f a) (g a)) : Runs (x >>= f) (e >>= g) := by
  intro w
  obtain ⟨h₁, h₂⟩ := hx w
  rw [Try.bind_apply, Try.bind_apply]
  rcases hx' : x w with ⟨r, w'⟩
  rcases he : e w.machine with ⟨r', m⟩
  rw [hx', he] at h₁ h₂
  obtain rfl : r = r' := h₁
  obtain rfl : w'.machine = m := h₂
  cases r with
  | error _ => exact ⟨rfl, rfl⟩
  | ok a => exact hf a w'

theorem of_ok {x : Try Raised α} {e : Eval α} (hx : Runs x e) {w : World} {a : α}
    {m : Script.Machine} (h : e w.machine = (.ok a, m)) :
    ∃ w', x w = (.ok a, w') ∧ w'.machine = m := by
  obtain ⟨h₁, h₂⟩ := hx w
  rw [h] at h₁ h₂
  exact ⟨(x w).2, Prod.ext h₁ rfl, h₂⟩

theorem ok {x : Try Raised α} {e : Eval α} (hx : Runs x e) {w w' : World} {a : α}
    (h : x w = (.ok a, w')) : e w.machine = (.ok a, w'.machine) := by
  obtain ⟨h₁, h₂⟩ := hx w
  rw [h] at h₁ h₂
  exact Prod.ext h₁.symm h₂.symm

/-- What is written to the log does not matter. -/
theorem noted {y : Act Unit} (hy : Moves SameMachine y) {x : Try Raised α} {e : Eval α}
    (hx : Runs x e) : Runs (do y; x) e := by
  intro w
  have hm : (y w).2.machine = w.machine := hy w
  rw [← hm]
  exact hx (y w).2

end Runs

/-! ## Setup -/

namespace Component.Spec

/-- The call of the hook, if there is one. -/
def hook (s : Spec) : List (Eval Value) := s.config.toList.map (Script.callTop · [])

/-- What the setup of a spec calls: its hook and then what waits for it. -/
def calls (s : Spec) : List (Eval Value) := s.hook ++ s.deferred.map (·.run [])

/-- The calls with arguments for the hook; what waits is called without any. -/
def callsOn (s : Spec) (args : List Value) : List (Eval Value) :=
  s.config.toList.map (Script.callTop · args) ++ s.deferred.map (·.run [])

theorem runs_runDeferred (label : String) (position : Nat) (as : List Action) :
    Runs (runDeferred label position as) (Script.attemptAll (as.map (·.run []))) := by
  induction as generalizing position with
  | nil => exact runs_pure _
  | cons a rest ih =>
    refine (runs_attempt _).bind fun r => ?_
    cases r with
    | ok _ => exact ((ih _).bind fun _ => runs_pure _).noted quiet_sameMachine.note
    | error _ => exact ((ih _).bind fun _ => runs_pure _).noted quiet_sameMachine.noteRaised

theorem runs_runConfig (s : Spec) (args : List Value) :
    Runs (s.runConfig args)
      (Script.attemptAll (s.config.toList.map (Script.callTop · args))) := by
  unfold runConfig
  cases s.config with
  | none => exact runs_pure _
  | some hook =>
    refine (runs_attempt _).bind fun r => ?_
    cases r with
    | ok _ => exact runs_pure _
    | error _ => exact (runs_pure _).noted quiet_sameMachine.noteRaised

/-- The setup of a spec attempts its calls in order. -/
theorem runs_runSetup (s : Spec) (args : List Value) :
    Runs (s.runSetup args) (Script.attemptAll (s.callsOn args)) := by
  rw [callsOn, Script.attemptAll_append]
  exact (runs_runConfig s args).bind fun _ => (runs_runDeferred _ _ _).bind fun _ => runs_pure _

end Component.Spec

/-- **A load attempts the calls of each spec in turn.** -/
theorem Install.runs_loadEach (specs : List Spec) :
    Runs (loadEach specs) (do let _ ← Script.attemptAll (specs.flatMap Spec.calls)) := by
  induction specs with
  | nil => exact runs_pure _
  | cons s rest ih =>
    have hone : Runs (loadOne s) (do let _ ← Script.attemptAll s.calls) :=
      ((s.runs_runSetup []).bind fun _ => runs_pure _).noted quiet_sameMachine.note
    have h := hone.bind fun _ => ih
    rw [List.flatMap_cons, Script.attemptAll_append]
    simpa [loadEach] using h

theorem Install.loadEach_ok {specs : List Spec} {w : World} {bs : List Bool} {m : Script.Machine}
    (h : Script.attemptAll (specs.flatMap Spec.calls) w.machine = (.ok bs, m)) :
    ∃ w', loadEach specs w = (.ok (), w') ∧ w'.machine = m :=
  (runs_loadEach specs).of_ok (Try.bind_of_ok h _)

/-! ## Entries that run at once -/

/-- What running an entry calls. An entry that sets nothing up, or whose code does not
compile, calls nothing. -/
def Entry.call? (host : Script.Host) (e : Entry) : Option (Eval Value) :=
  match e.body with
  | .callable v => some (Script.callTop v [])
  | .source text => (Script.compile text).toOption.map fun code =>
      (⟨code, none, host⟩ : Script.Compiled).run
  | .table v => some do Script.callTop (← Schedule.setupPart v) []
  | .inert _ => none

/-- Running the entry calls something. -/
def Entry.runs (host : Script.Host) (e : Entry) : Bool := (e.call? host).isSome

namespace Schedule

/-- What runs for an entry is its call, and finding it leaves the machine alone. -/
theorem target_ok {host : Script.Host} {e : Entry} {w w' : World} {a : Option Action}
    (h : target host e w = (.ok a, w')) :
    w'.machine = w.machine ∧
      ((a = none ∧ e.call? host = none) ∨
        ∃ act x, a = some act ∧ e.call? host = some x ∧ act.run [] w.machine = x w.machine) := by
  unfold target at h
  unfold Entry.call?
  cases hb : e.body with
  | callable v =>
    rw [hb] at h
    cases h
    exact ⟨rfl, Or.inr ⟨_, _, rfl, rfl, rfl⟩⟩
  | source text =>
    rw [hb] at h
    dsimp only at h ⊢
    cases hc : Script.compile text with
    | ok code =>
      rw [hc] at h
      cases h
      exact ⟨rfl, Or.inr ⟨_, _, rfl, rfl, rfl⟩⟩
    | error err =>
      simp only [hc, Try.act_bind] at h
      cases h
      exact ⟨quiet_sameMachine.noteFailure w, Or.inl ⟨rfl, rfl⟩⟩
  | table v =>
    rw [hb] at h
    obtain ⟨f, w₁, hf, h'⟩ := Try.of_bind_ok h
    cases h'
    have hm := quiet_sameMachine.onMachine_of_reads (reads_setupPart v) w
    rw [hf] at hm
    refine ⟨hm, Or.inr ⟨_, _, rfl, rfl, ?_⟩⟩
    have hs := (runs_onMachine (setupPart v)).ok hf
    rw [hm] at hs
    rw [Try.bind_of_ok hs]
    rfl
  | inert v =>
    simp only [hb, Try.act_bind] at h
    cases h
    exact ⟨quiet_sameMachine.note w, Or.inl ⟨rfl, rfl⟩⟩

/-- Performing an action at once, with notes around it. -/
theorem runs_performed (a : Action) (what failure : String) (text : Option String) :
    Runs (do
        note .debug logSource what
        match ← attempt (a.run []) with
        | .ok _ => return Outcome.succeeded
        | .error err =>
          noteRaised logSource failure err text
          return Outcome.failed)
      (do
        let r ← Script.attempt (a.run [])
        return if r.isOk then .succeeded else .failed) := by
  refine ((runs_attempt _).bind fun r => ?_).noted quiet_sameMachine.note
  cases r with
  | ok _ => exact runs_pure _
  | error _ => exact (runs_pure _).noted quiet_sameMachine.noteRaised

theorem attempt_congr {x y : Eval Value} {m : Script.Machine} (h : x m = y m) :
    Script.attempt x m = Script.attempt y m := by
  unfold Script.attempt
  rw [h]

/-- An entry that runs at once attempts its call; one without a call leaves the
machine alone. -/
theorem executeOne_ok {host : Script.Host} {e : Entry} {w w' : World} {o : Outcome}
    (h : executeOne host e w = (.ok o, w')) :
    ∃ bs, Script.attemptAll (e.call? host).toList w.machine = (.ok bs, w'.machine) := by
  unfold executeOne at h
  obtain ⟨a, w₁, ha, h⟩ := Try.of_bind_ok h
  obtain ⟨hm, ⟨rfl, hcall⟩ | ⟨act, x, rfl, hcall, hx⟩⟩ := target_ok ha
  · cases h
    rw [hcall, hm]
    exact ⟨[], rfl⟩
  · obtain ⟨r, m, hr, hm'⟩ := Try.of_bind_ok ((runs_performed act _ _ _).ok h)
    cases hm'
    rw [hm, attempt_congr hx] at hr
    rw [hcall]
    exact ⟨[r.isOk], Try.bind_of_ok hr _⟩

/-- The calls of entries, with those of the first one in front. -/
theorem filterMap_call?_cons (host : Script.Host) (e : Entry) (rest : List Entry) :
    (e :: rest).filterMap (Entry.call? host) =
      (e.call? host).toList ++ rest.filterMap (Entry.call? host) := by
  cases hc : e.call? host <;> simp [hc]

/-- **Running entries at once attempts the calls of those that have one**, in order. -/
theorem execute_ok {host : Script.Host} {es : List Entry} {w w' : World} {os : List Outcome}
    (h : execute host es w = (.ok os, w')) :
    ∃ bs, Script.attemptAll (es.filterMap (Entry.call? host)) w.machine = (.ok bs, w'.machine) := by
  induction es generalizing w os with
  | nil =>
    cases h
    exact ⟨[], rfl⟩
  | cons e rest ih =>
    obtain ⟨o, w₁, ho, h⟩ := Try.of_bind_ok h
    obtain ⟨os', w₂, hos, h⟩ := Try.of_bind_ok h
    cases h
    obtain ⟨bs, hbs⟩ := executeOne_ok ho
    obtain ⟨bs', hbs'⟩ := ih hos
    refine ⟨bs ++ bs', ?_⟩
    rw [filterMap_call?_cons, Script.attemptAll_append, Try.bind_of_ok hbs, Try.bind_of_ok hbs']
    rfl

end Schedule

end LiterateConfig
