import LiterateConfig.Proofs.Waiting
import Mathlib.Data.List.Nodup

/-!
# Where entries go

Of the entries that documents declare, each one with a call either runs at once or is
given to exactly one spec, and those of a spec are in order. Only code waits: an entry
is associated with a component by its text.

**Sharing.** The entries that wait are shared out by what they wait for: the first spec
of that name gets all of them, and if there is none they run at once after all.

Results:
* `Component.yields_build`: entries are numbered in order, and no spec has actions yet;
* `Association.isSome_text?`: only code is associated with a component;
* `sortOut_ok`: entries that wait for nothing run at once, others wait if they have a
  call;
* `hand_fst`, `perm_shares`: each action that waits is shared out once or not at all;
* `plan_ok`: what a plan does with the entries.
-/
namespace LiterateConfig

open LiterateConfig.Component (Spec)
open LiterateConfig.Script (Eval Raised Value)

variable {σ ε α β : Type}

/-! ## What actions yield -/

/-- Whatever the action yields, if it ends well, satisfies `P`. -/
def Yields (P : α → Prop) (x : ExceptT ε (StateM σ) α) : Prop :=
  ∀ s a s', x s = (.ok a, s') → P a

namespace Yields

theorem pure {P : α → Prop} {a : α} (h : P a) : Yields P (pure a : ExceptT ε (StateM σ) α) := by
  intro s b s' hb
  cases hb
  exact h

theorem throw {P : α → Prop} (e : ε) : Yields P (throw e : ExceptT ε (StateM σ) α) := by
  intro s a s' h
  cases h

theorem bind {P : α → Prop} {Q : β → Prop} {x : ExceptT ε (StateM σ) α}
    {f : α → ExceptT ε (StateM σ) β} (hx : Yields P x) (hf : ∀ a, P a → Yields Q (f a)) :
    Yields Q (x >>= f) := by
  intro s b s' h
  obtain ⟨a, s₁, ha, h⟩ := Try.of_bind_ok h
  exact hf a (hx s a s₁ ha) s₁ b s' h

/-- Whatever comes first, what comes next decides. -/
theorem after {Q : β → Prop} {x : ExceptT ε (StateM σ) α} {f : α → ExceptT ε (StateM σ) β}
    (hf : ∀ a, Yields Q (f a)) : Yields Q (x >>= f) :=
  bind (P := fun _ => True) (fun _ _ _ _ => trivial) fun a _ => hf a

theorem onMachine {P : α → Prop} {x : Eval α} (hx : Yields P x) :
    Yields P (LiterateConfig.onMachine x) := by
  intro w a w' h
  exact hx _ a _ ((runs_onMachine x).ok h)

end Yields

/-! ## What is declared -/

/-- Entries in order of their numbers. -/
def InOrder (entries : List Entry) : Prop := entries.Pairwise fun a b => a.index < b.index

/-- Entries in order are told apart by their numbers. -/
theorem eq_of_index_eq {entries : List Entry} (hord : InOrder entries) {e e' : Entry}
    (he : e ∈ entries) (he' : e' ∈ entries) (hi : e.index = e'.index) : e = e' := by
  refine List.Pairwise.forall_of_forall_of_flip (R := fun a b => a.index = b.index → a = b)
    (fun _ _ _ => rfl) ?_ ?_ he he' hi
  · exact List.Pairwise.imp (fun hlt heq => absurd heq (Int.ne_of_lt hlt)) hord
  · exact List.Pairwise.imp (fun hlt heq => absurd heq.symm (Int.ne_of_lt hlt)) hord

namespace Component

/-- Specs that have not been given actions. -/
def Undeferred (ps : List Part) : Prop := ∀ s, Part.spec s ∈ ps → s.deferred = []

theorem undeferred_nil : Undeferred [] := nofun

theorem undeferred_entry (body : EntryBody) (i : Int) : Undeferred [.entry body i] := by
  intro s hs
  cases List.mem_singleton.1 hs

theorem undeferred_spec {s : Spec} (h : s.deferred = []) : Undeferred [.spec s] := by
  intro s' hs'
  cases List.mem_singleton.1 hs'
  exact h

theorem undeferred_append {ps qs : List Part} (hp : Undeferred ps) (hq : Undeferred qs) :
    Undeferred (ps ++ qs) := by
  intro s hs
  rcases List.mem_append.1 hs with hs | hs
  · exact hp s hs
  · exact hq s hs

theorem yields_ofValue (v : Value) (manual : Bool) (blockIndex : Option Int) :
    Yields (fun s => s.deferred = []) (Spec.ofValue v manual blockIndex) := by
  have ofPairs : ∀ pairs,
      Yields (fun s => s.deferred = []) (Spec.ofPairs pairs manual blockIndex) := by
    intro pairs
    unfold Spec.ofPairs
    refine .after fun h => ?_
    exact .after fun _ => .after fun _ => .pure rfl
  unfold Spec.ofValue
  split
  · exact .pure rfl
  · refine .after fun h => ?_
    split
    · exact ofPairs _
    · exact .throw _

theorem yields_itemParts (c : Block.Classified) (vs : List Value) :
    Yields Undeferred (itemParts c vs) := by
  have one : ∀ v, Yields (fun p => Undeferred [p]) (itemPart c v) := by
    intro v
    unfold itemPart
    refine .after fun w₀ => ?_
    dsimp only
    split
    · refine (yields_ofValue _ _ _).onMachine.bind fun s hs => .after fun _ => .pure ?_
      exact undeferred_spec hs
    · exact .after fun _ => .pure (undeferred_entry _ _)
  induction vs with
  | nil => exact .pure undeferred_nil
  | cons v vs ih =>
    refine (one v).bind fun p hp => ih.bind fun ps hps => .pure ?_
    exact undeferred_append hp hps

theorem yields_blockParts (host : Script.Host) (convention : String) (c : Block.Classified) :
    Yields Undeferred (blockParts host convention c) := by
  have valueParts : ∀ source v, Yields Undeferred (valueParts c source v) := by
    intro source v
    unfold Component.valueParts
    refine .after fun w₀ => ?_
    dsimp only
    split
    · exact .after fun _ => yields_itemParts c _
    · refine (yields_ofValue _ _ _).onMachine.bind fun s hs => .after fun _ => .pure ?_
      exact undeferred_spec hs
    · exact .after fun _ => .pure (undeferred_entry _ _)
    · exact .after fun _ => .pure (undeferred_entry _ _)
    · exact .after fun _ => .pure undeferred_nil
  have specParts : ∀ source, Yields Undeferred (specParts host convention c source) := by
    intro source
    unfold Component.specParts
    refine .after fun r => ?_
    split
    · exact .pure undeferred_nil
    · exact valueParts source _
  have setupParts : Yields Undeferred (setupParts host c) := by
    unfold Component.setupParts
    refine .after fun r => ?_
    split
    · exact .pure undeferred_nil
    · refine .after fun w₀ => ?_
      dsimp only
      split
      · exact .after fun _ => .pure (undeferred_entry _ _)
      · exact .after fun _ => .pure undeferred_nil
  unfold blockParts
  split
  · exact .pure undeferred_nil
  · exact .after fun _ => specParts _
  · exact specParts _
  · exact setupParts
  · exact .after fun _ => .pure (undeferred_entry _ _)

theorem yields_allParts (host : Script.Host) (convention : String) (cs : List Block.Classified) :
    Yields Undeferred (allParts host convention cs) := by
  induction cs with
  | nil => exact .pure undeferred_nil
  | cons c cs ih =>
    exact (yields_blockParts host convention c).bind fun ps hps =>
      ih.bind fun qs hqs => .pure (undeferred_append hps hqs)

/-- Entries in order of their numbers, which begin with the next one. -/
theorem inOrder_entriesOf (next : Nat) (ps : List Part) :
    InOrder (entriesOf next ps) ∧
      ∀ e ∈ entriesOf next ps, (next : Int) ≤ e.index := by
  induction ps generalizing next with
  | nil => exact ⟨List.Pairwise.nil, nofun⟩
  | cons p ps ih =>
    cases p with
    | spec s => exact ih next
    | entry body blockIndex =>
      obtain ⟨hord, hnext⟩ := ih (next + 1)
      refine ⟨List.pairwise_cons.2 ⟨fun e he => ?_, hord⟩, fun e he => ?_⟩
      · have h := hnext e he
        show (next : Int) < e.index
        omega
      · rcases List.mem_cons.1 he with rfl | he
        · exact Int.le_refl _
        · have h := hnext e he
          omega

/-- **What documents declare**: entries numbered in order, and specs without actions. -/
theorem yields_build (host : Script.Host) (convention : String) (cs : List Block.Classified) :
    Yields (fun r => (∀ s ∈ r.1, s.deferred = []) ∧ InOrder r.2) (build host convention cs) := by
  unfold build
  refine (yields_allParts host convention cs).bind fun ps hps => .after fun _ => .pure ⟨?_, ?_⟩
  · intro s hs
    obtain ⟨p, hp, hps'⟩ := List.mem_filterMap.1 hs
    cases p with
    | spec s' =>
      cases hps'
      exact hps s hp
    | entry body blockIndex => cases hps'
  · exact (inOrder_entriesOf 1 ps).1

end Component

/-! ## Only code is associated -/

namespace Association

/-- Only indices of entries that are code are associated. -/
def OnlyText (entries : List Entry) (m : Map) : Prop :=
  ∀ k ∈ Keyed.keys m, ∃ e ∈ entries, e.index = k ∧ e.text?.isSome = true

theorem OnlyText.put {entries : List Entry} {m : Map} (h : OnlyText entries m) {e : Entry}
    (he : e ∈ entries) (ht : e.text?.isSome = true) (identifier : String) :
    OnlyText entries (m.put e.index identifier) := by
  intro k hk
  rw [Keyed.keys_put] at hk
  split at hk
  · exact h k hk
  · rcases List.mem_append.1 hk with hk | hk
    · exact h k hk
    · exact ⟨e, he, (List.mem_singleton.1 hk).symm, ht⟩

theorem onlyText_guesses {entries : List Entry} (fs : List Found)
    (hfs : ∀ f ∈ fs, ∃ e ∈ entries, e.index = f.index ∧ e.text?.isSome = true) {m : Map}
    (h : OnlyText entries m) :
    OnlyText entries (Keyed.putAll (fs.map fun f => (f.index, f.identifier)) m) := by
  induction fs generalizing m with
  | nil => exact h
  | cons f rest ih =>
    obtain ⟨e, he, hi, ht⟩ := hfs f List.mem_cons_self
    refine ih (fun f hf => hfs f (List.mem_cons_of_mem _ hf)) ?_
    have hput := h.put he ht f.identifier
    rw [hi] at hput
    exact hput

theorem onlyText_mentioning {entries : List Entry} (apart : Bool) (identifier : String)
    (es : List Entry) (hes : ∀ e ∈ es, e ∈ entries) {m : Map} (h : OnlyText entries m) :
    OnlyText entries (mentioning apart identifier m es).2 := by
  induction es generalizing m with
  | nil => exact h
  | cons e rest ih =>
    have hrest : ∀ e ∈ rest, e ∈ entries := fun e he => hes e (List.mem_cons_of_mem _ he)
    unfold mentioning
    cases ht : e.text? with
    | none => exact ih hrest h
    | some text =>
      dsimp only
      split
      · exact ih hrest (h.put (hes e List.mem_cons_self) (by rw [ht]; rfl) _)
      · exact ih hrest h

theorem onlyText_mentioned {entries : List Entry} (apart : Bool) (specs : List Spec) {m : Map}
    (h : OnlyText entries m) : OnlyText entries (mentioned apart entries m specs).2 := by
  induction specs generalizing m with
  | nil => exact h
  | cons s rest ih =>
    unfold mentioned
    cases s.identifier? with
    | none => exact ih h
    | some identifier => exact ih (onlyText_mentioning apart identifier entries (fun _ he => he) h)

theorem onlyText_associate (specs : List Spec) (entries : List Entry) (apart : Bool) (w : World) :
    OnlyText entries (associate specs entries apart w).1 := by
  show OnlyText entries (find specs entries apart).2
  unfold find
  refine onlyText_mentioned apart specs (onlyText_guesses _ (fun f hf => ?_) nofun)
  obtain ⟨e, he, hf⟩ := List.mem_filterMap.1 hf
  cases ht : e.text? with
  | none => simp [ht] at hf
  | some text =>
    refine ⟨e, he, ?_, by rw [ht]; rfl⟩
    simp only [ht, Option.bind_eq_bind, Option.bind_some] at hf
    cases hg : guessModule text with
    | none => simp [hg] at hf
    | some m =>
      simp only [hg, Option.bind_some, Option.pure_def, Option.some.injEq] at hf
      rw [← hf]

/-- Only code is associated with a component. -/
theorem isSome_text? {entries : List Entry} {m : Map} (h : OnlyText entries m)
    (hord : InOrder entries) {e : Entry} (he : e ∈ entries)
    {identifier : String} (hm : m.get? e.index = some identifier) : e.text?.isSome = true := by
  have hk : e.index ∈ Keyed.keys m := by
    refine Decidable.byContradiction fun hk => ?_
    rw [Keyed.get?_eq_none_iff.2 hk] at hm
    cases hm
  obtain ⟨e', he', hi, ht⟩ := h _ hk
  rw [← eq_of_index_eq hord he' he hi]
  exact ht

end Association

/-! ## Running at once, or waiting -/

namespace Schedule

/-- The entry waits for its component, and the action that waits is its call. -/
structure Waiting.Fits (host : Script.Host) (keys : Pattern.Node) (m : Association.Map)
    (x : Waiting) : Prop where
  component : component? keys m x.entry = some x.identifier
  call : x.entry.call? host = some (x.action.run [])

theorem get?_of_component? {keys : Pattern.Node} {m : Association.Map} {e : Entry} {i : String}
    (h : component? keys m e = some i) : m.get? e.index = some i := by
  unfold component? at h
  split at h
  · next hm =>
    split at h
    · cases h
    · rwa [hm]
  · cases h

/-- **Entries are sorted out**: those that wait for nothing run at once, and the others
wait if they have a call. -/
theorem sortOut_ok {host : Script.Host} {keys : Pattern.Node} {m : Association.Map}
    {entries : List Entry}
    (htext : ∀ e ∈ entries, ∀ i, m.get? e.index = some i → e.text?.isSome = true)
    {w w' : World} {s : Sorted} (h : sortOut host keys m entries w = (.ok s, w')) :
    s.immediate = entries.filter (fun e => !(component? keys m e).isSome) ∧
      s.waiting.map Waiting.entry =
        entries.filter (fun e => (component? keys m e).isSome && e.runs host) ∧
      ∀ x ∈ s.waiting, x.Fits host keys m := by
  have hcode : ∀ e ∈ entries, ∀ i, component? keys m e = some i → e.text?.isSome = true :=
    fun e he i hc => htext e he i (get?_of_component? hc)
  obtain ⟨-, s', w'', hs, -, rfl⟩ | ⟨hq, -⟩ :=
    ends_sortOut (fun e he i hc => Entry.ready_of_isSome_text? (hcode e he i hc) _) w rfl
  swap
  · exact absurd trivial hq
  rw [h] at hs
  cases hs
  refine ⟨List.filter_congr fun e _ => (Option.not_isSome _).symm, ?_, fun x hx => ?_⟩
  · have hmap : ((entries.filterMap (waiting? host keys m w.machine.heap)).filter
        fun _ => true).map Waiting.entry = _ := map_entry_waiting _ _ fun _ => true
    rw [List.filter_true] at hmap
    refine hmap.trans (List.filter_congr fun e he => ?_)
    unfold waiting? Entry.runs
    cases hc : component? keys m e with
    | none => rfl
    | some i =>
      rw [← Entry.map_run_action? (hcode e he i hc) host w.machine.heap]
      simp
  · obtain ⟨e, he, hx⟩ := List.mem_filterMap.1 hx
    obtain ⟨rfl, hc, ha⟩ := waiting?_eq_some hx
    refine ⟨hc, ?_⟩
    rw [← Entry.map_run_action? (hcode _ he _ hc) host w.machine.heap, ha]
    rfl

/-! ## Sharing out what waits -/

/-- What each spec is given, in the order of the specs. -/
def shares (ws : List Waiting) (taken : List String) : List Spec → List (List Waiting)
  | [] => []
  | s :: rest =>
    match takes? ws taken s with
    | none => [] :: shares ws taken rest
    | some i => waitingFor i ws :: shares ws (taken ++ [i]) rest

/-- A spec that is given what waits for it. -/
def given (s : Spec) (g : List Waiting) : Spec :=
  { s with deferred := s.deferred ++ g.map Waiting.action }

theorem length_shares (ws : List Waiting) (taken : List String) (specs : List Spec) :
    (shares ws taken specs).length = specs.length := by
  induction specs generalizing taken with
  | nil => rfl
  | cons s rest ih =>
    unfold shares
    split <;> simp [ih]

/-- Each spec is given its share. -/
theorem hand_fst (ws : List Waiting) (taken : List String) (specs : List Spec) :
    (hand ws taken specs).1 = List.zipWith given specs (shares ws taken specs) := by
  induction specs generalizing taken with
  | nil => rfl
  | cons s rest ih =>
    unfold hand shares
    cases takes? ws taken s with
    | none => simp [ih, given]
    | some i => simp [ih, given, actionsFor]

theorem takes?_eq_some {ws : List Waiting} {taken : List String} {s : Spec} {i : String}
    (h : takes? ws taken s = some i) : s.identifier? = some i ∧ i ∉ taken := by
  unfold takes? at h
  obtain ⟨hs, hi⟩ := Option.filter_eq_some_iff.1 h
  simp only [Bool.and_eq_true, Bool.not_eq_true', List.contains_eq_mem, decide_eq_false_iff_not]
    at hi
  exact ⟨hs, hi.1⟩

/-- The identifiers that are taken are new, and the shares are what waits for them. -/
theorem hand_snd (ws : List Waiting) (taken : List String) (specs : List Spec)
    (hnodup : taken.Nodup) :
    ∃ added, (hand ws taken specs).2 = taken ++ added ∧ (taken ++ added).Nodup ∧
      (shares ws taken specs).flatten = added.flatMap (waitingFor · ws) := by
  induction specs generalizing taken with
  | nil => exact ⟨[], by simp [hand], by simpa using hnodup, rfl⟩
  | cons s rest ih =>
    unfold hand shares
    cases ht : takes? ws taken s with
    | none =>
      obtain ⟨added, h₁, h₂, h₃⟩ := ih taken hnodup
      exact ⟨added, h₁, h₂, by simpa using h₃⟩
    | some i =>
      have hfresh : (taken ++ [i]).Nodup := by
        simpa using List.Nodup.concat (takes?_eq_some ht).2 hnodup
      obtain ⟨added, h₁, h₂, h₃⟩ := ih (taken ++ [i]) hfresh
      refine ⟨i :: added, ?_, by simpa using h₂, ?_⟩
      · simpa using h₁
      · rw [List.flatten_cons, h₃, List.flatMap_cons]

/-- A share is what waits for the component of its spec. -/
theorem shares_identifier {ws : List Waiting} {taken : List String} {specs : List Spec} :
    ∀ sg ∈ specs.zip (shares ws taken specs), ∀ x ∈ sg.2, sg.1.identifier? = some x.identifier := by
  induction specs generalizing taken with
  | nil => exact nofun
  | cons s rest ih =>
    intro sg hsg x hx
    unfold shares at hsg
    cases ht : takes? ws taken s with
    | none =>
      rw [ht] at hsg
      rcases List.mem_cons.1 hsg with rfl | hsg
      · cases hx
      · exact ih sg hsg x hx
    | some i =>
      rw [ht] at hsg
      rcases List.mem_cons.1 hsg with rfl | hsg
      · rw [(takes?_eq_some ht).1, eq_of_beq (List.mem_filter.1 hx).2]
      · exact ih sg hsg x hx

theorem sublist_of_mem_shares {ws : List Waiting} {taken : List String} {specs : List Spec} :
    ∀ g ∈ shares ws taken specs, g.Sublist ws := by
  induction specs generalizing taken with
  | nil => exact nofun
  | cons s rest ih =>
    intro g hg
    unfold shares at hg
    cases ht : takes? ws taken s with
    | none =>
      rw [ht] at hg
      rcases List.mem_cons.1 hg with rfl | hg
      · exact List.nil_sublist _
      · exact ih g hg
    | some i =>
      rw [ht] at hg
      rcases List.mem_cons.1 hg with rfl | hg
      · exact List.filter_sublist
      · exact ih g hg

/-- What waits, gathered by what it waits for, is all that waits. -/
theorem perm_waitingFor {is : List String} (hnodup : is.Nodup) {ws : List Waiting}
    (h : ∀ x ∈ ws, x.identifier ∈ is) : (is.flatMap (waitingFor · ws)).Perm ws := by
  induction is generalizing ws with
  | nil =>
    cases ws with
    | nil => exact .refl _
    | cons x ws => exact absurd (h x List.mem_cons_self) List.not_mem_nil
  | cons i rest ih =>
    obtain ⟨hi, hrest⟩ := List.nodup_cons.1 hnodup
    -- Those that wait for something else wait for one of the rest.
    have hothers : (rest.flatMap (waitingFor · (ws.filter fun x => !(x.identifier == i)))).Perm
        (ws.filter fun x => !(x.identifier == i)) := by
      refine ih hrest fun x hx => ?_
      obtain ⟨hx, hne⟩ := List.mem_filter.1 hx
      rcases List.mem_cons.1 (h x hx) with he | he
      · simp [he] at hne
      · exact he
    have hsame : rest.flatMap (waitingFor · (ws.filter fun x => !(x.identifier == i))) =
        rest.flatMap (waitingFor · ws) := by
      rw [List.flatMap_def, List.flatMap_def]
      refine congrArg List.flatten (List.map_congr_left fun j hj => ?_)
      have hji : j ≠ i := fun e => hi (e ▸ hj)
      unfold waitingFor
      rw [List.filter_filter]
      refine List.filter_congr fun x _ => ?_
      by_cases hx : x.identifier = j
      · simp [hx, hji]
      · simp [hx]
    rw [hsame] at hothers
    rw [List.flatMap_cons]
    exact (hothers.append_left _).trans (List.filter_append_perm _ ws)

/-- The identifiers that something waits for, each once. -/
theorem identifiers_spec (ws : List Waiting) :
    (identifiers ws).Nodup ∧ ∀ i, i ∈ identifiers ws ↔ ∃ x ∈ ws, x.identifier = i := by
  suffices h : ∀ (ws : List Waiting) (seen : List String), seen.Nodup →
      (ws.foldl (fun seen w =>
        if seen.contains w.identifier then seen else seen ++ [w.identifier]) seen).Nodup ∧
      ∀ i, (i ∈ ws.foldl (fun seen w =>
        if seen.contains w.identifier then seen else seen ++ [w.identifier]) seen) ↔
          i ∈ seen ∨ ∃ x ∈ ws, x.identifier = i by
    obtain ⟨h₁, h₂⟩ := h ws [] List.nodup_nil
    exact ⟨h₁, fun i => (h₂ i).trans (or_iff_right List.not_mem_nil)⟩
  intro ws
  induction ws with
  | nil =>
    intro seen hnodup
    exact ⟨hnodup, fun i => by simp⟩
  | cons w rest ih =>
    intro seen hnodup
    rw [List.foldl_cons]
    by_cases hc : w.identifier ∈ seen
    · rw [if_pos (by simpa using hc)]
      obtain ⟨h₁, h₂⟩ := ih seen hnodup
      refine ⟨h₁, fun i => (h₂ i).trans ?_⟩
      rw [List.exists_mem_cons_iff]
      refine ⟨Or.imp_right Or.inr, ?_⟩
      rintro (hi | rfl | hi)
      · exact Or.inl hi
      · exact Or.inl hc
      · exact Or.inr hi
    · rw [if_neg (by simpa using hc)]
      have hmore : (seen ++ [w.identifier]).Nodup := by simpa using List.Nodup.concat hc hnodup
      obtain ⟨h₁, h₂⟩ := ih _ hmore
      refine ⟨h₁, fun i => (h₂ i).trans ?_⟩
      rw [List.exists_mem_cons_iff, List.mem_append, List.mem_singleton, or_assoc,
        eq_comm (a := i)]

/-- **Each action that waits is shared out once or not at all**, and then nothing takes
what it waits for. -/
theorem perm_shares (ws : List Waiting) (specs : List Spec) :
    ((shares ws [] specs).flatten ++ ((identifiers ws).filter fun i =>
      !(hand ws [] specs).2.contains i).flatMap (waitingFor · ws)).Perm ws := by
  obtain ⟨added, h₁, h₂, h₃⟩ := hand_snd ws [] specs List.nodup_nil
  rw [List.nil_append] at h₁ h₂
  rw [h₁, h₃, ← List.flatMap_append]
  refine perm_waitingFor ?_ fun x hx => ?_
  · refine List.nodup_append.2 ⟨h₂, (identifiers_spec ws).1.filter _, fun i hi j hj => ?_⟩
    rintro rfl
    simp [hi] at hj
  · by_cases hin : x.identifier ∈ added
    · exact List.mem_append_left _ hin
    · have hknown := ((identifiers_spec ws).2 _).2 ⟨x, hx, rfl⟩
      exact List.mem_append_right _ (List.mem_filter.2 ⟨hknown, by simpa using hin⟩)

/-! ## The plan -/

/-- What a plan does with entries: `gs` are the shares of the specs. -/
structure Plan.Follows (host : Script.Host) (keys : Pattern.Node) (m : Association.Map)
    (specs : List Spec) (entries : List Entry) (gs : List (List Waiting)) (pl : Plan) : Prop where
  length : gs.length = specs.length
  handed : pl.specs = List.zipWith given specs gs
  fits : ∀ g ∈ gs, ∀ x ∈ g, x.Fits host keys m
  identifier : ∀ sg ∈ specs.zip gs, ∀ x ∈ sg.2, sg.1.identifier? = some x.identifier
  inOrder : ∀ g ∈ gs, InOrder (g.map Waiting.entry)
  immediate : InOrder pl.immediate
  perm : (pl.immediate.filter (Entry.runs host) ++ gs.flatten.map Waiting.entry).Perm
    (entries.filter (Entry.runs host))

theorem perm_byIndex (entries : List Entry) : (byIndex entries).Perm entries :=
  List.mergeSort_perm _ _

/-- Entries whose numbers differ are in order when they are sorted. -/
theorem inOrder_byIndex {entries : List Entry}
    (h : entries.Pairwise fun a b => a.index ≠ b.index) : InOrder (byIndex entries) := by
  have hle : (byIndex entries).Pairwise fun a b => decide (a.index ≤ b.index) = true :=
    List.pairwise_mergeSort (fun a b c hab hbc => by simp at *; omega)
      (fun a b => by simp; omega) entries
  have hne : (byIndex entries).Pairwise fun a b => a.index ≠ b.index :=
    ((perm_byIndex entries).pairwise_iff fun hab => hab.symm).2 h
  refine (hle.and hne).imp fun {a b} hab => ?_
  have h₁ : a.index ≤ b.index := of_decide_eq_true hab.1
  have h₂ := hab.2
  omega

/-- Entries that wait for nothing, and those that wait and have a call. -/
theorem perm_waits (waits runs : Entry → Bool) (entries : List Entry) :
    ((entries.filter fun e => !waits e) ++ entries.filter fun e => waits e && runs e).filter runs
      |>.Perm (entries.filter runs) := by
  have h := List.filter_append_perm waits (entries.filter runs)
  have hleft : (entries.filter fun e => !waits e).filter runs =
      (entries.filter runs).filter fun e => !waits e := by
    rw [List.filter_filter, List.filter_filter]
    exact List.filter_congr fun e _ => Bool.and_comm _ _
  have hright : (entries.filter fun e => waits e && runs e).filter runs =
      (entries.filter runs).filter waits := by
    rw [List.filter_filter, List.filter_filter]
    refine List.filter_congr fun e _ => ?_
    cases runs e <;> simp
  rw [List.filter_append, hleft, hright]
  exact List.perm_append_comm.trans h

/-- Both of them are told apart by their numbers. -/
theorem pairwise_waits {entries : List Entry} (hord : InOrder entries) (waits runs : Entry → Bool) :
    ((entries.filter fun e => !waits e) ++ entries.filter fun e => waits e && runs e).Pairwise
      fun a b => a.index ≠ b.index := by
  have hne : entries.Pairwise fun a b => a.index ≠ b.index :=
    List.Pairwise.imp (fun hlt => Int.ne_of_lt hlt) hord
  refine List.pairwise_append.2 ⟨hne.filter _, hne.filter _, fun a ha b hb hab => ?_⟩
  obtain ⟨ha, hnone⟩ := List.mem_filter.1 ha
  obtain ⟨hb, hsome⟩ := List.mem_filter.1 hb
  rw [eq_of_index_eq hord ha hb hab] at hnone
  rw [Bool.and_eq_true] at hsome
  simp [hsome.1] at hnone

/-- What waits has a call. -/
theorem filter_runs_of_fits {host : Script.Host} {keys : Pattern.Node} {m : Association.Map}
    {ws : List Waiting} (h : ∀ x ∈ ws, x.Fits host keys m) :
    (ws.map Waiting.entry).filter (Entry.runs host) = ws.map Waiting.entry := by
  refine List.filter_eq_self.2 fun e he => ?_
  obtain ⟨x, hx, rfl⟩ := List.mem_map.1 he
  rw [Entry.runs, (h x hx).call]
  rfl

/-- **What a plan does with entries**: those with a call run at once or are given to one
spec, each once, and everything is in order. -/
theorem plan_ok {host : Script.Host} {keys : Pattern.Node} {specs : List Spec}
    {entries : List Entry} {m : Association.Map} (hord : InOrder entries)
    (htext : ∀ e ∈ entries, ∀ i, m.get? e.index = some i → e.text?.isSome = true)
    {w w' : World} {pl : Plan} (h : plan host keys specs entries m w = (.ok pl, w')) :
    ∃ gs, pl.Follows host keys m specs entries gs := by
  unfold plan at h
  obtain ⟨s, w₁, hs, h⟩ := Try.of_bind_ok h
  simp only [Try.act_bind] at h
  cases h
  obtain ⟨himmediate, hwaiting, hfits⟩ := sortOut_ok htext hs
  obtain ⟨late, hlate⟩ : ∃ late, late = ((identifiers s.waiting).filter fun i =>
    !(hand s.waiting [] specs).2.contains i).flatMap (waitingFor · s.waiting) := ⟨_, rfl⟩
  have hshares := perm_shares s.waiting specs
  rw [← hlate] at hshares
  have hin : ∀ g ∈ shares s.waiting [] specs, g.Sublist s.waiting := sublist_of_mem_shares
  have hall : ((s.immediate ++ late.map Waiting.entry) ++
      (shares s.waiting [] specs).flatten.map Waiting.entry).Perm
        (s.immediate ++ s.waiting.map Waiting.entry) := by
    rw [List.append_assoc, ← List.map_append]
    exact ((List.perm_append_comm.trans hshares).map _).append_left _
  have hdiffer := pairwise_waits hord (fun e => (component? keys m e).isSome) (Entry.runs host)
  rw [← himmediate, ← hwaiting] at hdiffer
  refine ⟨shares s.waiting [] specs, length_shares _ _ _, hand_fst _ _ _,
    fun g hg x hx => hfits x ((hin g hg).subset hx), shares_identifier, fun g hg => ?_, ?_, ?_⟩
  · refine List.Pairwise.sublist ((hin g hg).map _) ?_
    rw [hwaiting]
    exact List.Pairwise.filter _ hord
  · show InOrder (byIndex (s.immediate ++ _))
    rw [← List.map_flatMap, ← hlate]
    have hboth := (hall.pairwise_iff fun hab => hab.symm).2 hdiffer
    exact inOrder_byIndex (List.pairwise_append.1 hboth).1
  · show ((byIndex (s.immediate ++ _)).filter _ ++ _).Perm _
    rw [← List.map_flatMap, ← hlate]
    have hshared : ∀ x ∈ (shares s.waiting [] specs).flatten, x.Fits host keys m := by
      intro x hx
      obtain ⟨g, hg, hx⟩ := List.mem_flatten.1 hx
      exact hfits x ((hin g hg).subset hx)
    refine (((perm_byIndex _).filter _).append_right _).trans ?_
    rw [← filter_runs_of_fits hshared, ← List.filter_append]
    refine (hall.filter _).trans ?_
    rw [himmediate, hwaiting]
    exact perm_waits _ _ _

end Schedule

end LiterateConfig
