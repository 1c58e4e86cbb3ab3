import LiterateConfig.Proofs.InstallStates

/-!
# Called back once, when the first load is complete

An installer is asked to call back and to load, in any order, and what it calls back may
ask for both in turn. This module follows such requests mark by mark: when a request
to call back begins and ends, when the setup of a component has run, and when a
callback begins and ends.

**Courses.** `Does work t w es t' w'` says that work takes a session and a world
to others, with the marks `es` on the way. It looks at the installer at every request,
those from inside a callback included: whether the first load is complete decides whether a
callback waits, and whether a load calls back. The operations that run never meet an
incomplete load inside a callback and do not ask; `Does.run` and `exists_does_fire` show that
the two agree.

**Looks.** `Later es` says that in `es` callbacks run inside the requests for them
only, once each, however deeply they are nested; loads run none. `Fired cs es` says that
the callbacks `cs` run one after the other, and no others but those that they ask for.

Results:
* `Does.run`, `exists_does_fire`: courses are what the operations do;
* `Does.loaded`: a first load that is complete stays so;
* `Does.looks`: what a course looks like from then on;
* `exists_history`, `History.run`: the same for requests one after the other;
* `History.seen`: what is seen before, at and after the first load;
* `calls_back_once`: each callback is called once, and none too early.
-/
namespace LiterateConfig.Install

open LiterateConfig.Component (Spec)
open LiterateConfig.Script (Raised)

/-! ## Courses -/

/-- What can be seen of an installer at work. -/
inductive Mark where
  /-- A request to call back begins. -/
  | asked (c : Callback)
  /-- The request ends. -/
  | answered (c : Callback)
  /-- The setup of a component has run. -/
  | setUp (s : Spec)
  /-- The setup of a component has failed. -/
  | broke (s : Spec)
  /-- A callback begins to run. -/
  | called (c : Callback)
  /-- The callback ends. -/
  | returned (c : Callback)

/-- What an installer is busy with. -/
inductive Work where
  | register (c : Callback)
  | loadAll (specs : List Spec)
  /-- Running the setup of components. -/
  | setUp (specs : List Spec)
  /-- Ending a load. -/
  | complete
  | callEach (cs : List Callback)
  | call (c : Callback)
  /-- What a callback does while it runs. -/
  | body (c : Callback)

/-- Work that ends well, with its marks. -/
inductive Does : Work → Session → World → List Mark → Session → World → Prop
  | waits {c : Callback} {t : Session} {w : World} (h : t.installer.loaded = false) :
    Does (.register c) t w [.asked c, .answered c] (t.awaiting c) w
  | atOnce {c : Callback} {t t' : Session} {w w' : World} {es : List Mark}
      (h : t.installer.loaded = true) (hc : Does (.call c) t w es t' w') :
    Does (.register c) t w (.asked c :: es ++ [.answered c]) t' w'
  | loadAll {specs : List Spec} {t t₁ t' : Session} {w w₁ w' : World} {es es' : List Mark}
      (hs : Does (.setUp specs) t w es t₁ w₁) (hc : Does .complete t₁ w₁ es' t' w') :
    Does (.loadAll specs) t w (es ++ es') t' w'
  | setUpNone {t : Session} {w : World} : Does (.setUp []) t w [] t w
  | setUpMore {s : Spec} {rest : List Spec} {t t' : Session} {w w₁ w' : World} {es : List Mark}
      (h : loadOne s w = (.ok (), w₁)) (hs : Does (.setUp rest) t w₁ es t' w') :
    Does (.setUp (s :: rest)) t w (.setUp s :: es) t' w'
  | again {t : Session} {w : World} (h : t.installer.loaded = true) : Does .complete t w [] t w
  | first {t t' : Session} {w w' : World} {es : List Mark} (h : t.installer.loaded = false)
      (hc : Does (.callEach t.installer.pending) t.released w es t' w') :
    Does .complete t w es t' w'
  | callNone {t : Session} {w : World} : Does (.callEach []) t w [] t w
  | callMore {c : Callback} {rest : List Callback} {t t₁ t' : Session} {w w₁ w' : World}
      {es es' : List Mark} (hc : Does (.call c) t w es t₁ w₁)
      (hs : Does (.callEach rest) t₁ w₁ es' t' w') :
    Does (.callEach (c :: rest)) t w (es ++ es') t' w'
  | call {c : Callback} {t t' : Session} {w w' : World} {es : List Mark}
      (h : Does (.body c) t w es t' w') :
    Does (.call c) t w (.called c :: es ++ [.returned c]) t' w'
  | function {v a : Script.Value} {t : Session} {w w' : World}
      (h : onMachine (Script.callTop v []) w = (.ok a, w')) : Does (.body (.call v)) t w [] t w'
  | both {first second : Callback} {t t₁ t' : Session} {w w₁ w' : World} {es es' : List Mark}
      (h : Does (.body first) t w es t₁ w₁) (h' : Does (.body second) t₁ w₁ es' t' w') :
    Does (.body (.both first second)) t w (es ++ es') t' w'
  | registers {c : Callback} {t t' : Session} {w w' : World} {es : List Mark}
      (h : Does (.register c) t w es t' w') : Does (.body (.register c)) t w es t' w'
  | loads {specs : List Spec} {t t' : Session} {w w' : World} {es : List Mark}
      (h : Does (.loadAll specs) t w es t' w') : Does (.body (.load specs)) t w es t' w'
  | depends {f : World → Callback} {t t' : Session} {w w' : World} {es : List Mark}
      (h : Does (.body (f w)) t w es t' w') : Does (.body (.depending f)) t w es t' w'
  | cleansUp {run : Nat} {specs : List Spec} {found : NameSet} {t t' : Session} {w w' : World}
      (h : fire remove (.cleanup run specs found) t w = ((.ok (), t'), w')) :
    Does (.body (.cleanup run specs found)) t w [] t' w'

/-- The operation that does the work. -/
def Work.run : Work → Task Raised Unit
  | .register c => Install.register remove c
  | .loadAll specs => Install.loadAll remove specs
  | .setUp specs => loadEach specs
  | .complete => completeLoad remove
  | .callEach cs => fireEach remove cs
  | .call c | .body c => fire remove c

/-- Callbacks run only when the first load is complete. -/
def Work.Begins (t : Session) : Work → Prop
  | .callEach _ | .call _ | .body _ => t.installer.loaded = true
  | _ => True

/-! ## Once the first load is complete -/

variable {t t' : Session} {w w' : World} {es : List Mark}

/-- A cleanup does not undo the first load. -/
theorem loaded_of_cleanup {run : Nat} {specs : List Spec} {found : NameSet}
    (h : fire remove (.cleanup run specs found) t w = ((.ok (), t'), w')) :
    t'.installer.loaded = t.installer.loaded := by
  by_cases hrun : run ∈ t.cleaned
  · rw [fire_cleanup_of_cleaned hrun] at h
    cases h
    rfl
  · obtain ⟨os, hos⟩ := fire_cleanup_eq hrun specs found w
    rw [h] at hos
    cases hos
    rfl

/-- **A first load that is complete stays so.** -/
theorem Does.loaded {work : Work} (h : Does work t w es t' w') (ht : t.installer.loaded = true) :
    t'.installer.loaded = true := by
  induction h with
  | waits h => exact ht
  | atOnce _ _ ih => exact ih ht
  | loadAll _ _ ih₁ ih₂ => exact ih₂ (ih₁ ht)
  | setUpNone => exact ht
  | setUpMore _ _ ih => exact ih ht
  | again _ => exact ht
  | first _ _ ih => exact ih rfl
  | callNone => exact ht
  | callMore _ _ ih₁ ih₂ => exact ih₂ (ih₁ ht)
  | call _ ih => exact ih ht
  | function _ => exact ht
  | both _ _ ih₁ ih₂ => exact ih₂ (ih₁ ht)
  | registers _ ih => exact ih ht
  | loads _ ih => exact ih ht
  | depends _ ih => exact ih ht
  | cleansUp h => rwa [loaded_of_cleanup h]

/-! ## Courses and operations -/

/-- **A course is what the operation does.** -/
theorem Does.run {work : Work} (h : Does work t w es t' w') (hb : work.Begins t) :
    work.run t w = ((.ok (), t'), w') := by
  induction h with
  | waits h => exact register_of_waiting _ h _
  | atOnce h _ ih => exact (register_of_loaded _ h _).trans (ih h)
  | loadAll _ _ ih₁ ih₂ => exact (Using.bind_of_ok (ih₁ trivial) _).trans (ih₂ trivial)
  | setUpNone => rfl
  | @setUpMore s rest t _ w w₁ _ _ h _ ih =>
    have hrest : (liftM (loadEach rest) : Task Raised Unit) t w₁ = _ := ih trivial
    show (liftM (loadEach (s :: rest)) : Task Raised Unit) t w = _
    rw [Using.lift_apply] at hrest ⊢
    rw [loadEach, Try.bind_of_ok h]
    exact hrest
  | again h => exact completeLoad_of_loaded _ h
  | first h _ ih => exact (completeLoad_of_waiting _ h).trans (ih rfl)
  | callNone => rfl
  | callMore hc _ ih₁ ih₂ => exact (Using.bind_of_ok (ih₁ hb) _).trans (ih₂ (hc.loaded hb))
  | call _ ih => exact ih hb
  | @function v a t w w' h =>
    show ((liftM (onMachine (Script.callTop v [])) : Task Raised Script.Value) >>= fun _ => pure ())
      t w = _
    rw [Using.bind_apply, Using.lift_apply, h]
    rfl
  | both h _ ih₁ ih₂ => exact (Using.bind_of_ok (ih₁ hb) _).trans (ih₂ (h.loaded hb))
  | registers _ ih =>
    have hr : register remove _ _ _ = _ := ih trivial
    rwa [register_of_loaded _ hb] at hr
  | loads _ ih =>
    have hl : Install.loadAll remove _ _ _ = _ := ih trivial
    rwa [loadAll_of_loaded _ hb] at hl
  | depends _ ih => exact ih hb
  | cleansUp h => exact h

theorem does_setUp (specs : List Spec) (t : Session) (h : loadEach specs w = (.ok (), w')) :
    Does (.setUp specs) t w (specs.map .setUp) t w' := by
  induction specs generalizing w with
  | nil =>
    cases h
    exact .setUpNone
  | cons s rest ih =>
    obtain ⟨_, w₁, hs, hrest⟩ := Try.of_bind_ok h
    exact .setUpMore hs (ih hrest)

/-- **What a callback does has a course**, if it ends well. By induction on the callback. -/
theorem exists_does_fire (c : Callback) (ht : t.installer.loaded = true)
    (h : fire remove c t w = ((.ok (), t'), w')) : ∃ es, Does (.body c) t w es t' w' := by
  induction c generalizing t w t' w' with
  | call v =>
    obtain ⟨a, t₁, w₁, hcall, hpure⟩ := Using.of_bind_ok h
    cases hpure
    obtain ⟨hv, rfl⟩ := Using.of_lift_ok hcall
    exact ⟨_, .function hv⟩
  | both first second ih₁ ih₂ =>
    obtain ⟨_, t₁, w₁, h₁, h₂⟩ := Using.of_bind_ok h
    obtain ⟨es₁, hd₁⟩ := ih₁ ht h₁
    obtain ⟨es₂, hd₂⟩ := ih₂ (hd₁.loaded ht) h₂
    exact ⟨_, .both hd₁ hd₂⟩
  | register c ih =>
    obtain ⟨es, hd⟩ := ih ht h
    exact ⟨_, .registers (.atOnce ht (.call hd))⟩
  | load specs =>
    obtain ⟨hspecs, rfl⟩ := Using.of_lift_ok (x := loadEach specs) h
    exact ⟨_, .loads (.loadAll (does_setUp specs t' hspecs) (.again ht))⟩
  | depending f ih =>
    obtain ⟨es, hd⟩ := ih w ht h
    exact ⟨es, .depends hd⟩
  | cleanup run specs found => exact ⟨_, .cleansUp h⟩

theorem exists_does_fireEach (cs : List Callback) (ht : t.installer.loaded = true)
    (h : fireEach remove cs t w = ((.ok (), t'), w')) :
    ∃ es, Does (.callEach cs) t w es t' w' := by
  induction cs generalizing t w with
  | nil =>
    cases h
    exact ⟨_, .callNone⟩
  | cons c rest ih =>
    obtain ⟨_, t₁, w₁, hc, hrest⟩ := Using.of_bind_ok h
    obtain ⟨es₁, hd₁⟩ := exists_does_fire c ht hc
    obtain ⟨es₂, hd₂⟩ := ih (hd₁.loaded ht) hrest
    exact ⟨_, .callMore (.call hd₁) hd₂⟩

theorem exists_does_register (c : Callback) (h : register remove c t w = ((.ok (), t'), w')) :
    ∃ es, Does (.register c) t w es t' w' := by
  cases ht : t.installer.loaded with
  | true =>
    rw [register_of_loaded w ht] at h
    obtain ⟨es, hd⟩ := exists_does_fire c ht h
    exact ⟨_, .atOnce ht (.call hd)⟩
  | false =>
    rw [register_of_waiting w ht] at h
    cases h
    exact ⟨_, .waits ht⟩

theorem exists_does_loadAll (specs : List Spec)
    (h : loadAll remove specs t w = ((.ok (), t'), w')) :
    ∃ es, Does (.loadAll specs) t w es t' w' := by
  obtain ⟨_, t₁, w₁, hload, hcomplete⟩ := Using.of_bind_ok h
  obtain ⟨hspecs, rfl⟩ := Using.of_lift_ok hload
  have hs := does_setUp specs t₁ hspecs
  cases ht : t₁.installer.loaded with
  | true =>
    rw [completeLoad_of_loaded w₁ ht] at hcomplete
    cases hcomplete
    exact ⟨_, .loadAll hs (.again ht)⟩
  | false =>
    rw [completeLoad_of_waiting w₁ ht] at hcomplete
    obtain ⟨es, hd⟩ := exists_does_fireEach _ rfl hcomplete
    exact ⟨_, .loadAll hs (.first ht hd)⟩

/-! ## What a course looks like -/

/-- Callbacks run inside the requests for them, and loads run none. -/
inductive Later : List Mark → Prop
  | none : Later []
  | setUp {s : Spec} {es : List Mark} (h : Later es) : Later (.setUp s :: es)
  | calls {c : Callback} {es es' : List Mark} (h : Later es) (h' : Later es') :
    Later (.asked c :: .called c :: es ++ .returned c :: .answered c :: es')

/-- The callbacks run, one after the other. -/
inductive Fired : List Callback → List Mark → Prop
  | none : Fired [] []
  | more {c : Callback} {rest : List Callback} {es es' : List Mark} (h : Later es)
      (hs : Fired rest es') : Fired (c :: rest) (.called c :: es ++ .returned c :: es')

theorem Later.append {es es' : List Mark} (h : Later es) (h' : Later es') : Later (es ++ es') := by
  induction h with
  | none => exact h'
  | setUp _ ih => exact ih.setUp
  | @calls c es₁ es₂ h₁ _ _ ih =>
    have hcalls := h₁.calls (c := c) ih
    simpa using hcalls

theorem later_setUp (specs : List Spec) : Later (specs.map .setUp) := by
  induction specs with
  | nil => exact .none
  | cons s rest ih => exact ih.setUp

/-- What work looks like once the first load is complete. -/
def Work.Looks : Work → List Mark → Prop
  | .register c, es =>
    ∃ es', Later es' ∧ es = .asked c :: .called c :: es' ++ [.returned c, .answered c]
  | .loadAll specs, es | .setUp specs, es => es = specs.map .setUp
  | .complete, es => es = []
  | .callEach cs, es => Fired cs es
  | .call c, es => ∃ es', Later es' ∧ es = .called c :: es' ++ [.returned c]
  | .body _, es => Later es

/-- **What a course looks like** once the first load is complete. By induction on the course:
a request from inside a callback is a course like any other. -/
theorem Does.looks {work : Work} (h : Does work t w es t' w') (ht : t.installer.loaded = true) :
    work.Looks es := by
  induction h with
  | waits h => simp [ht] at h
  | atOnce _ _ ih =>
    obtain ⟨es', hes', rfl⟩ := ih ht
    exact ⟨es', hes', by simp⟩
  | loadAll hs _ ih₁ ih₂ =>
    rw [ih₁ ht, ih₂ (hs.loaded ht)]
    exact List.append_nil _
  | setUpNone => rfl
  | setUpMore _ _ ih => exact congrArg _ (ih ht)
  | again _ => rfl
  | first h _ _ => simp [ht] at h
  | callNone => exact .none
  | @callMore c rest t _ _ _ _ _ _ es₂ hc _ ih₁ ih₂ =>
    obtain ⟨es', hes', rfl⟩ := ih₁ ht
    have hfired : Fired (c :: rest) (.called c :: es' ++ .returned c :: es₂) :=
      .more hes' (ih₂ (hc.loaded ht))
    rw [List.append_cons] at hfired
    exact hfired
  | call _ ih => exact ⟨_, ih ht, rfl⟩
  | function _ => exact .none
  | both h _ ih₁ ih₂ => exact (ih₁ ht).append (ih₂ (h.loaded ht))
  | registers _ ih =>
    obtain ⟨es', hes', rfl⟩ := ih ht
    exact hes'.calls .none
  | loads _ ih => exact ih ht ▸ later_setUp _
  | depends _ ih => exact ih ht
  | cleansUp _ => exact .none

/-- Setting up leaves the session alone, whether or not the first load is complete. -/
theorem Does.of_setUp {specs : List Spec} (h : Does (.setUp specs) t w es t' w') :
    es = specs.map .setUp ∧ t' = t := by
  induction specs generalizing w es with
  | nil =>
    cases h
    exact ⟨rfl, rfl⟩
  | cons s rest ih =>
    cases h with
    | setUpMore _ hs =>
      obtain ⟨rfl, rfl⟩ := ih hs
      exact ⟨rfl, rfl⟩

/-- **The first load** runs every setup, and then what waits for it. -/
theorem Does.first_load {specs : List Spec} (h : Does (.loadAll specs) t w es t' w')
    (ht : t.installer.loaded = false) :
    t'.installer.loaded = true ∧
      ∃ fired, es = specs.map .setUp ++ fired ∧ Fired t.installer.pending fired := by
  cases h with
  | loadAll hs hc =>
    obtain ⟨rfl, rfl⟩ := hs.of_setUp
    cases hc with
    | again h => simp [ht] at h
    | first _ hc => exact ⟨hc.loaded rfl, _, rfl, hc.looks rfl⟩

/-! ## Requests, one after the other -/

/-- Neither a load nor a request to call back. -/
def Operation.IsOther : Operation → Prop
  | .reconcile _ | .remove _ => True
  | .loadAll _ | .register _ => False

/-- Requests with their marks. What is not asked to load or to call back leaves none; a load
whose setup fails leaves the session as it was. -/
inductive History : List Operation → Session → World → List Mark → Session → World →
    Prop
  | none {t : Session} {w : World} : History [] t w [] t w
  | register {c : Callback} {rest : List Operation} {t t₁ t' : Session} {w w₁ w' : World}
      {es es' : List Mark} (h : Does (.register c) t w es t₁ w₁)
      (hs : History rest t₁ w₁ es' t' w') :
    History (.register c :: rest) t w (es ++ es') t' w'
  | loadAll {specs : List Spec} {rest : List Operation} {t t₁ t' : Session} {w w₁ w' : World}
      {es es' : List Mark} (h : Does (.loadAll specs) t w es t₁ w₁)
      (hs : History rest t₁ w₁ es' t' w') :
    History (.loadAll specs :: rest) t w (es ++ es') t' w'
  | breaks {done left : List Spec} {s : Spec} {e : Raised} {rest : List Operation}
      {t t' : Session} {w w₁ w₂ w' : World} {es : List Mark}
      (hd : loadEach done w = (.ok (), w₁)) (h : loadOne s w₁ = (.error e, w₂))
      (hs : History rest t w₂ es t' w') :
    History (.loadAll (done ++ s :: left) :: rest) t w (done.map .setUp ++ .broke s :: es) t' w'
  | other {op : Operation} {rest : List Operation} {t t' : Session} {w w' : World}
      {es : List Mark} (ho : op.IsOther)
      (hs : History rest (perform op t w).2.1 (perform op t w).2.2 es t' w') :
    History (op :: rest) t w es t' w'

/-- The callbacks that a request runs return normally. -/
def Operation.Returns (t : Session) (w : World) : Operation → Prop
  | .register c => (Install.register Install.remove c t w).1.1 = .ok ()
  | .loadAll specs => (loadEach specs w).1 = .ok () →
    (Install.loadAll Install.remove specs t w).1.1 = .ok ()
  | _ => True

/-- All callbacks return normally that run on the way. -/
def CallbacksReturn : List Operation → Session → World → Prop
  | [], _, _ => True
  | op :: rest, t, w =>
    op.Returns t w ∧ CallbacksReturn rest (perform op t w).2.1 (perform op t w).2.2

/-- The callbacks that are asked for. -/
def requested : List Operation → List Callback :=
  List.filterMap fun
    | .register c => some c
    | _ => none

/-- No load has ended well: nothing is called back. -/
inductive Waits : List Operation → List Mark → Prop
  | none : Waits [] []
  | register {c : Callback} {rest : List Operation} {es : List Mark} (h : Waits rest es) :
    Waits (.register c :: rest) (.asked c :: .answered c :: es)
  | breaks {done left : List Spec} {s : Spec} {rest : List Operation} {es : List Mark}
      (h : Waits rest es) :
    Waits (.loadAll (done ++ s :: left) :: rest) (done.map .setUp ++ .broke s :: es)
  | other {op : Operation} {rest : List Operation} {es : List Mark} (ho : op.IsOther)
      (h : Waits rest es) : Waits (op :: rest) es

/-- The first load is complete: every callback runs inside the request for it. -/
inductive Served : List Operation → List Mark → Prop
  | none : Served [] []
  | register {c : Callback} {rest : List Operation} {es es' : List Mark} (h : Later es)
      (hs : Served rest es') :
    Served (.register c :: rest) (.asked c :: .called c :: es ++ .returned c :: .answered c :: es')
  | loadAll {specs : List Spec} {rest : List Operation} {es : List Mark} (h : Served rest es) :
    Served (.loadAll specs :: rest) (specs.map .setUp ++ es)
  | breaks {done left : List Spec} {s : Spec} {rest : List Operation} {es : List Mark}
      (h : Served rest es) :
    Served (.loadAll (done ++ s :: left) :: rest) (done.map .setUp ++ .broke s :: es)
  | other {op : Operation} {rest : List Operation} {es : List Mark} (ho : op.IsOther)
      (h : Served rest es) : Served (op :: rest) es

/-- Loading fails with the first setup that fails. -/
theorem exists_broken {specs : List Spec} {e : Raised} (h : loadEach specs w = (.error e, w')) :
    ∃ done s left w₁, specs = done ++ s :: left ∧ loadEach done w = (.ok (), w₁) ∧
      loadOne s w₁ = (.error e, w') := by
  induction specs generalizing w with
  | nil => cases h
  | cons s rest ih =>
    rw [loadEach, Try.bind_apply] at h
    rcases hs : loadOne s w with ⟨e₁ | _, w₁⟩ <;> rw [hs] at h
    · cases h
      exact ⟨[], s, rest, w, rfl, rfl, hs⟩
    · obtain ⟨done, s', left, w₂, rfl, hd, hs'⟩ := ih h
      refine ⟨s :: done, s', left, w₂, rfl, ?_, hs'⟩
      rw [loadEach, Try.bind_of_ok hs]
      exact hd

theorem loadEach_of_broken {done left : List Spec} {s : Spec} {e : Raised} {w₁ : World}
    (hd : loadEach done w = (.ok (), w₁)) (h : loadOne s w₁ = (.error e, w')) :
    loadEach (done ++ s :: left) w = (.error e, w') := by
  induction done generalizing w with
  | nil =>
    cases hd
    rw [List.nil_append, loadEach, Try.bind_apply, h]
  | cons s' rest ih =>
    obtain ⟨_, w₂, hs', hrest⟩ := Try.of_bind_ok hd
    rw [List.cons_append, loadEach, Try.bind_of_ok hs']
    exact ih hrest

theorem loadAll_of_error {specs : List Spec} {e : Raised} (h : loadEach specs w = (.error e, w'))
    (t : Session) : loadAll remove specs t w = ((.error e, t), w') := by
  unfold loadAll
  rw [Using.bind_apply, Using.lift_apply, h]

/-- **Requests have a history**, if the callbacks return normally. -/
theorem exists_history (ops : List Operation) (h : CallbacksReturn ops t w) :
    ∃ es t' w', History ops t w es t' w' := by
  induction ops generalizing t w with
  | nil => exact ⟨_, _, _, .none⟩
  | cons op rest ih =>
    obtain ⟨hop, hrest⟩ := h
    obtain ⟨es', t', w', hs⟩ := ih hrest
    cases op with
    | reconcile specs => exact ⟨_, _, _, .other trivial hs⟩
    | remove n => exact ⟨_, _, _, .other trivial hs⟩
    | register c =>
      obtain ⟨es, hd⟩ := exists_does_register c (Prod.ext (Prod.ext hop rfl) rfl)
      exact ⟨_, _, _, .register hd hs⟩
    | loadAll specs =>
      rcases hload : loadEach specs w with ⟨e | _, w₁⟩
      · obtain ⟨done, s, left, w₂, rfl, hd, hb⟩ := exists_broken hload
        have he := loadAll_of_error hload t
        have hrun : (perform (.loadAll (done ++ s :: left)) t w).2 = (t, w₁) := by
          show ((loadAll remove _ t w).1.2, (loadAll remove _ t w).2) = _
          rw [he]
        rw [hrun] at hs
        exact ⟨_, _, _, .breaks hd hb hs⟩
      · obtain ⟨es, hd⟩ := exists_does_loadAll specs
          (Prod.ext (Prod.ext (hop (by rw [hload])) rfl) rfl)
        exact ⟨_, _, _, .loadAll hd hs⟩

/-- A history is what the requests do. -/
theorem History.run {ops : List Operation} (h : History ops t w es t' w') :
    (performAll ops t w).2 = (t', w') := by
  induction h with
  | none => rfl
  | @register c _ t t₁ _ w w₁ _ _ _ h _ ih =>
    have hrun : Operation.run (.register c) t w = ((.ok (), t₁), w₁) := h.run trivial
    simp only [performAll, perform, hrun]
    exact ih
  | @loadAll specs _ t t₁ _ w w₁ _ _ _ h _ ih =>
    have hrun : Operation.run (.loadAll specs) t w = ((.ok (), t₁), w₁) := h.run trivial
    simp only [performAll, perform, hrun]
    exact ih
  | @breaks done left s e rest t _ w w₁ w₂ _ _ hd h _ ih =>
    have hrun : Operation.run (.loadAll (done ++ s :: left)) t w = ((.error e, t), w₂) :=
      loadAll_of_error (loadEach_of_broken hd h) t
    simp only [performAll, perform, hrun]
    exact ih
  | other _ _ ih => exact ih

/-! ## Before and after the first load -/

theorem requested_other {op : Operation} (ho : op.IsOther) (ops : List Operation) :
    requested (op :: ops) = requested ops := by
  cases op <;> first | rfl | exact ho.elim

theorem keeps_other {op : Operation} (ho : op.IsOther) (t : Session) (w : World) :
    (perform op t w).2.1.installer.loaded = t.installer.loaded ∧
      (perform op t w).2.1.installer.pending = t.installer.pending := by
  cases op with
  | reconcile specs =>
    have hrun : (perform (.reconcile specs) t w).2.1 = t.supplied specs := by
      show ((reconcile specs >>= fun _ => pure ()) t w).1.2 = _
      rw [Using.bind_apply, ← reconcile_session specs t w]
      rcases reconcile specs t w with ⟨⟨_ | _, _⟩, _⟩ <;> rfl
    rw [hrun]
    exact ⟨rfl, rfl⟩
  | remove n =>
    have hrun : (perform (.remove n) t w).2.1 = t.without [n] := remove_session n t w
    rw [hrun]
    exact ⟨rfl, rfl⟩
  | loadAll specs => exact ho.elim
  | register c => exact ho.elim

/-- Once the first load is complete it stays so, and every callback runs inside the request
for it. -/
theorem History.served {ops : List Operation} (h : History ops t w es t' w')
    (ht : t.installer.loaded = true) : Served ops es ∧ t'.installer.loaded = true := by
  induction h with
  | none => exact ⟨.none, ht⟩
  | @register c rest _ _ _ _ _ _ _ es₂ h _ ih =>
    obtain ⟨hs, ht'⟩ := ih (h.loaded ht)
    obtain ⟨es', hes', rfl⟩ := h.looks ht
    have hserved : Served (.register c :: rest)
        (.asked c :: .called c :: es' ++ .returned c :: .answered c :: es₂) := .register hes' hs
    exact ⟨by simpa using hserved, ht'⟩
  | loadAll h _ ih =>
    obtain ⟨hs, ht'⟩ := ih (h.loaded ht)
    obtain rfl := h.looks ht
    exact ⟨hs.loadAll, ht'⟩
  | breaks _ _ _ ih =>
    obtain ⟨hs, ht'⟩ := ih ht
    exact ⟨hs.breaks, ht'⟩
  | other ho _ ih =>
    obtain ⟨hs, ht'⟩ := ih ((keeps_other ho _ _).1.trans ht)
    exact ⟨hs.other ho, ht'⟩

/-- What is seen of an installer that some callbacks wait for: nothing is called back as long
as no load ends well; the first one that does calls back what waits and what was registered
before it. -/
inductive Seen (waiting : List Callback) (ops : List Operation) (es : List Mark) (t' : Session) :
    Prop
  | notYet (h : Waits ops es) (ht : t'.installer.loaded = false)
      (hp : t'.installer.pending = waiting ++ requested ops)
  | loaded {before after : List Operation} {specs : List Spec} {early fired late : List Mark}
      (hops : ops = before ++ .loadAll specs :: after)
      (hes : es = early ++ specs.map .setUp ++ fired ++ late) (hearly : Waits before early)
      (hfired : Fired (waiting ++ requested before) fired) (hlate : Served after late)
      (ht : t'.installer.loaded = true)

theorem History.seen {ops : List Operation} (h : History ops t w es t' w')
    (ht : t.installer.loaded = false) : Seen t.installer.pending ops es t' := by
  induction h with
  | none => exact .notYet .none ht (List.append_nil _).symm
  | register h _ ih =>
    cases h with
    | atOnce h _ => simp [ht] at h
    | waits _ =>
      cases ih ht with
      | notYet hw ht' hp => exact .notYet hw.register ht' (hp.trans (List.append_assoc _ _ _))
      | @loaded before after specs early fired late hops hes hearly hfired hlate ht' =>
        have hfired' : Fired (_ ++ [_] ++ requested before) fired := hfired
        rw [List.append_assoc] at hfired'
        exact .loaded (congrArg _ hops) (by rw [hes]; rfl) hearly.register hfired' hlate ht'
  | loadAll h hs _ =>
    obtain ⟨hloaded, fired, rfl, hfired⟩ := h.first_load ht
    obtain ⟨hlate, ht'⟩ := hs.served hloaded
    refine .loaded (List.nil_append _).symm rfl .none ?_ hlate ht'
    simpa [requested] using hfired
  | breaks _ _ _ ih =>
    cases ih ht with
    | notYet hw ht' hp => exact .notYet hw.breaks ht' hp
    | loaded hops hes hearly hfired hlate ht' =>
      exact .loaded (congrArg _ hops) (by rw [hes]; simp) hearly.breaks hfired hlate ht'
  | @other op rest t _ w _ _ ho _ ih =>
    obtain ⟨hloaded, hpending⟩ := keeps_other ho t w
    have h := ih (hloaded.trans ht)
    rw [hpending] at h
    cases h with
    | notYet hw ht' hp => exact .notYet (hw.other ho) ht' (hp.trans (by rw [requested_other ho]))
    | @loaded before after specs early fired late hops hes hearly hfired hlate ht' =>
      rw [← requested_other ho] at hfired
      exact .loaded (congrArg _ hops) hes (hearly.other ho) hfired hlate ht'

/-! ## Once each -/

/-- The callbacks that are asked for, in order. -/
def asks : List Mark → List Callback :=
  List.filterMap fun
    | .asked c => some c
    | _ => none

/-- The callbacks that begin to run, in order. -/
def calls : List Mark → List Callback :=
  List.filterMap fun
    | .called c => some c
    | _ => none

@[simp] theorem asks_append (es es' : List Mark) : asks (es ++ es') = asks es ++ asks es' :=
  List.filterMap_append

@[simp] theorem calls_append (es es' : List Mark) : calls (es ++ es') = calls es ++ calls es' :=
  List.filterMap_append

@[simp] theorem asks_setUp (specs : List Spec) : asks (specs.map .setUp) = [] := by
  unfold asks
  rw [List.filterMap_map]
  exact List.filterMap_eq_nil_iff.2 fun _ _ => rfl

@[simp] theorem calls_setUp (specs : List Spec) : calls (specs.map .setUp) = [] := by
  unfold calls
  rw [List.filterMap_map]
  exact List.filterMap_eq_nil_iff.2 fun _ _ => rfl

theorem Later.calls_eq_asks (h : Later es) : Install.calls es = asks es := by
  induction h with
  | none => rfl
  | setUp _ ih => exact ih
  | @calls c es es' _ _ ih ih' =>
    show c :: Install.calls (es ++ _ :: _ :: es') = c :: asks (es ++ _ :: _ :: es')
    rw [calls_append, asks_append, ih]
    exact congrArg (fun cs => c :: (asks es ++ cs)) ih'

theorem Fired.perm {cs : List Callback} (h : Fired cs es) : (calls es).Perm (cs ++ asks es) := by
  induction h with
  | none => exact .refl _
  | @more c rest es es' h _ ih =>
    show (c :: calls (es ++ _ :: es')).Perm (c :: (rest ++ asks (es ++ _ :: es')))
    rw [calls_append, asks_append, h.calls_eq_asks]
    have hmoved : (asks es ++ (rest ++ asks es')).Perm (rest ++ (asks es ++ asks es')) :=
      List.perm_append_comm_assoc ..
    exact List.Perm.cons c ((ih.append_left _).trans hmoved)

theorem Served.calls_eq_asks {ops : List Operation} (h : Served ops es) : calls es = asks es := by
  induction h with
  | none => rfl
  | @register c _ es es' h _ ih =>
    show c :: calls (es ++ _ :: _ :: es') = c :: asks (es ++ _ :: _ :: es')
    rw [calls_append, asks_append, h.calls_eq_asks]
    exact congrArg (fun cs => c :: (asks es ++ cs)) ih
  | loadAll _ ih => simpa using ih
  | breaks _ ih =>
    rw [calls_append, asks_append, calls_setUp, asks_setUp]
    exact ih
  | other _ _ ih => exact ih

theorem Waits.calls_eq_nil {ops : List Operation} (h : Waits ops es) : calls es = [] := by
  induction h with
  | none => rfl
  | register _ ih => exact ih
  | breaks _ ih =>
    rw [calls_append, calls_setUp]
    exact ih
  | other _ _ ih => exact ih

theorem Waits.asks_eq {ops : List Operation} (h : Waits ops es) : asks es = requested ops := by
  induction h with
  | none => rfl
  | register _ ih => exact congrArg _ ih
  | breaks _ ih =>
    rw [asks_append, asks_setUp]
    exact ih
  | other ho _ ih => rw [requested_other ho, ih]

/-- **Each callback that is asked for is called once**, when the first load is complete;
before, none is. -/
theorem Seen.calls {ops : List Operation} (h : Seen [] ops es t') :
    (t'.installer.loaded = false → Install.calls es = []) ∧
      (t'.installer.loaded = true → (Install.calls es).Perm (asks es)) := by
  cases h with
  | notYet h ht hp => exact ⟨fun _ => h.calls_eq_nil, fun ht' => by simp [ht] at ht'⟩
  | @loaded before after specs early fired late hops hes hearly hfired hlate ht =>
    refine ⟨fun ht' => by simp [ht] at ht', fun _ => ?_⟩
    rw [hes]
    simp only [calls_append, asks_append, calls_setUp, asks_setUp, hearly.calls_eq_nil,
      hearly.asks_eq, hlate.calls_eq_asks, List.append_nil, List.nil_append]
    exact hfired.perm.append_right _

/-- **Called back once, and never early.** A new installer is asked, in any order, to load
and to call back, and what it calls back asks it again. Whenever callbacks return normally,
there is a history of this, and in every history: what is registered before the first load that
ends well runs when all its setups have run, in the order of registration, before
the load returns; what is registered from then on, from inside a callback too, runs inside
the request; loads, later and nested ones, run none again. So each callback that was asked for
runs once, as soon as a load has ended well, and none does before. -/
theorem calls_back_once {i : State} (hloaded : i.loaded = false) (hpending : i.pending = [])
    (ops : List Operation) (w : World) :
    (CallbacksReturn ops (.fresh i) w → ∃ es t' w', History ops (.fresh i) w es t' w') ∧
    ∀ es t' w', History ops (.fresh i) w es t' w' →
      (performAll ops (.fresh i) w).2 = (t', w') ∧ Seen [] ops es t' ∧
      (t'.installer.loaded = false → calls es = []) ∧
      (t'.installer.loaded = true → (calls es).Perm (asks es)) := by
  refine ⟨exists_history ops, fun es t' w' h => ?_⟩
  have hseen : Seen (Session.fresh i).installer.pending ops es t' := h.seen hloaded
  rw [show (Session.fresh i).installer.pending = [] from hpending] at hseen
  exact ⟨h.run, hseen, hseen.calls⟩

open LiterateConfig.Project (firstWorld)

/-- Two callbacks wait for a load; the first one asks for another callback, which loads once
more. A third callback is registered later. -/
def sampleRequests : List Operation :=
  [.register (.both (.register (.load [Spec.empty])) (.load [])), .register (.load []),
    .loadAll [Spec.empty], .register (.register (.load [])), .loadAll [Spec.empty]]

theorem callbacksReturn_sampleRequests :
    CallbacksReturn sampleRequests (.fresh ⟨none, [], [], false⟩) firstWorld := by
  have hok : ∀ {r : Except Raised Unit}, r.isOk = true → r = .ok () := by
    intro r h
    cases r with
    | ok _ => rfl
    | error e => cases h
  exact ⟨hok (by decide +kernel), hok (by decide +kernel), fun _ => hok (by decide +kernel),
    hok (by decide +kernel), fun _ => hok (by decide +kernel), trivial⟩

theorem calls_back_once_sampleRequests :
    ∃ es t' w', History sampleRequests (.fresh ⟨none, [], [], false⟩) firstWorld es t' w' ∧
      t'.installer.loaded = true ∧ (calls es).Perm (asks es) := by
  obtain ⟨hreturn, hall⟩ :=
    calls_back_once (i := ⟨none, [], [], false⟩) rfl rfl sampleRequests firstWorld
  obtain ⟨es, t', w', h⟩ := hreturn callbacksReturn_sampleRequests
  obtain ⟨hrun, -, -, hperm⟩ := hall es t' w' h
  have ht : (performAll sampleRequests
      (.fresh ⟨none, [], [], false⟩) firstWorld).2.1.installer.loaded = true := by decide +kernel
  rw [hrun] at ht
  exact ⟨es, t', w', h, ht, hperm ht⟩
end LiterateConfig.Install
