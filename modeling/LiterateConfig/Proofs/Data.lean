import LiterateConfig.Yaml.Datum

/-!
# Data that do not exist

A document whose nodes can be read may still have no data. A collection may be used where a
text is wanted, which is an error of form; or a text may not be what its kind says, and then
what it spells does not exist.

**Keeping texts.** While data are made, mappings take over the pairs of others, and value keys
come to count as texts. `Kept g s` says that all else in the nodes `g` is as it was. An action
is `Safe` if it keeps them so, and ends with an error only for a reason (`Blamed`).

Results:
* `safe_datum`: the datum of a node;
* `flattens`: taking over pairs, by induction on the fuel of all that takes part in it;
* `blamed_of_read`: an error behind the nodes of a document has a reason in them;
* `astray_of_read`: what keeps a text from having data, although it may be well-formed.
-/
namespace LiterateConfig.Yaml

open Make

/-! ## Texts and kinds -/

/-- A text has a kind: its own, or that of a mapping that stands for it. -/
inductive Spelled (g : Graph) (kind : Kind) (text : String) : Prop
  | scalar {i : Nat} (h : g[i]? = some (Node.scalar kind text))
  | value {i j : Nat} {pairs : List (Nat × Nat)} {k : Kind}
      (hmapping : g[i]? = some (Node.mapping kind pairs))
      (htext : g[j]? = some (Node.scalar k text))

/-- Why nodes have no data: they do not fit together, they are nested too deeply, or a text
spells no value of its kind. -/
inductive Blamed (g : Graph) : Problem → Prop
  | malformed : Blamed g .malformed
  | tooDeep : Blamed g .tooDeep
  | value {kind : Kind} {text : String} {q : Problem} (h : Spelled g kind text)
      (hbad : ofText kind text = .error q) : Blamed g q

/-- The nodes have their texts, and their kinds unless they came to count as texts. -/
structure Kept (g : Graph) (s : Making) : Prop where
  scalar : ∀ {i : Nat} {k : Kind} {t : String}, s.graph[i]? = some (.scalar k t) →
    ∃ k', g[i]? = some (.scalar k' t) ∧ (k = k' ∨ k = .text)
  mapping : ∀ {i : Nat} {k : Kind} {ps : List (Nat × Nat)}, s.graph[i]? = some (.mapping k ps) →
    ∃ k' ps', g[i]? = some (.mapping k' ps') ∧ (k = k' ∨ k = .text)

section Safe

variable {g : Graph} {α β : Type}

/-- The nodes are kept, or there is a reason for the error. -/
def Fine (g : Graph) : Except Problem (α × Making) → Prop
  | .ok (_, s) => Kept g s
  | .error q => Blamed g q

/-- The action keeps the nodes, or ends with an error for a reason. -/
def Safe (g : Graph) (x : Make α) : Prop := ∀ s, Kept g s → Fine g (x s)

theorem safe_pure (a : α) : Safe g (pure a) := fun _ hs => hs

theorem safe_refuse : Safe g (refuse : Make α) := fun _ _ => .malformed

theorem safe_tooDeep : Safe g (refuse .tooDeep : Make α) := fun _ _ => .tooDeep

theorem Safe.bind {x : Make α} {f : α → Make β} (hx : Safe g x) (hf : ∀ a, Safe g (f a)) :
    Safe g (x >>= f) := by
  intro s hs
  have hfine := hx s hs
  show Fine g (StateT.bind x f s)
  unfold StateT.bind
  cases hr : x s with
  | error q =>
    rw [hr] at hfine
    exact hfine
  | ok r =>
    rw [hr] at hfine
    exact hf r.1 r.2 hfine

theorem make_bind_apply (x : Make α) (f : α → Make β) (s : Making) :
    (x >>= f) s = match x s with
      | .ok (a, s') => f a s'
      | .error q => .error q := by
  show StateT.bind x f s = _
  unfold StateT.bind
  cases x s <;> rfl

theorem make_get_bind (f : Making → Make β) (s : Making) : (get >>= f) s = f s s := rfl

/-- What looks at what is there is safe if it is wherever nodes are kept. -/
theorem safe_get_bind {f : Making → Make β} (hf : ∀ s, Kept g s → Fine g (f s s)) :
    Safe g (get >>= f) :=
  fun s hs => hf s hs

theorem safe_modify {f : Making → Making} (hf : ∀ s, Kept g s → Kept g (f s)) :
    Safe g (modify f : Make Unit) :=
  fun s hs => hf s hs

theorem safe_map {x : Make α} (f : α → β) (hx : Safe g x) : Safe g (f <$> x) := by
  rw [← bind_pure_comp]
  exact hx.bind fun a => safe_pure (f a)

end Safe

variable {g : Graph} {s : Making}

/-! ## Texts -/

theorem nodeAt_apply (i : Nat) (s : Making) :
    nodeAt i s = match s.graph[i]? with
      | some n => .ok (n, s)
      | none => .error .malformed := by
  unfold nodeAt
  rw [make_get_bind]
  cases s.graph[i]? <;> rfl

theorem safe_nodeAt (i : Nat) : Safe g (nodeAt i) := by
  intro s hs
  rw [nodeAt_apply]
  cases s.graph[i]? with
  | none => exact .malformed
  | some n => exact hs

/-- A text that is found is that of some node, and nothing else changes. -/
theorem textAt_cases (fuel i : Nat) (s : Making) :
    (∃ q, textAt fuel i s = .error q ∧ (q = .malformed ∨ q = .tooDeep)) ∨
      ∃ t, textAt fuel i s = .ok (t, s) ∧
        ∃ (j : Nat) (k : Kind), s.graph[j]? = some (.scalar k t) := by
  induction fuel generalizing i with
  | zero => exact Or.inl ⟨.tooDeep, rfl, Or.inr rfl⟩
  | succ fuel ih =>
    rw [textAt, make_bind_apply, nodeAt_apply]
    cases hnode : s.graph[i]? with
    | none => exact Or.inl ⟨.malformed, rfl, Or.inl rfl⟩
    | some n =>
      cases n with
      | scalar k t => exact Or.inr ⟨t, rfl, i, k, hnode⟩
      | sequence k items => exact Or.inl ⟨.malformed, rfl, Or.inl rfl⟩
      | mapping k pairs =>
        dsimp only
        rw [make_get_bind]
        generalize List.find? _ pairs = value
        cases value with
        | none => exact Or.inl ⟨.malformed, rfl, Or.inl rfl⟩
        | some p => exact ih p.2

/-- A kind counts with the text of its own node, or with that of a node that stands for it. -/
theorem spelled_of_textAt (hs : Kept g s) {i fuel : Nat} {t : String}
    (h : textAt (fuel + 1) i s = .ok (t, s)) :
    kindAt s.graph i = .text ∨ Spelled g (kindAt s.graph i) t := by
  rcases textAt_cases (fuel + 1) i s with ⟨q, hq, -⟩ | ⟨t', ht', j, k, htext⟩
  · cases hq.symm.trans h
  · cases ht'.symm.trans h
    rw [textAt, make_bind_apply, nodeAt_apply] at h
    unfold kindAt
    cases hnode : s.graph[i]? with
    | none =>
      rw [hnode] at h
      cases h
    | some n =>
      rw [hnode] at h
      cases n with
      | sequence k items => cases h
      | scalar k t' =>
        cases h
        obtain ⟨k', hk', rfl | rfl⟩ := hs.scalar hnode
        · exact Or.inr (.scalar hk')
        · exact Or.inl rfl
      | mapping k pairs =>
        obtain ⟨k', ps', hk', rfl | rfl⟩ := hs.mapping hnode
        · obtain ⟨k'', htext', -⟩ := hs.scalar htext
          exact Or.inr (.value hk' htext')
        · exact Or.inl rfl

/-- What is made of a text by its kind is safe if what follows is. -/
theorem fine_text {α : Type} (hs : Kept g s) {i : Nat} {kind : Kind}
    (hk : kindAt s.graph i = kind) {f : Datum → Make α} (hf : ∀ d, Safe g (f d)) :
    Fine g ((textAt chainLimit i >>= fun t => Make.ofExcept (ofText kind t) >>= f) s) := by
  rw [make_bind_apply]
  rcases textAt_cases chainLimit i s with ⟨q, hq, rfl | rfl⟩ | ⟨t, ht, -⟩
  · rw [hq]
    exact .malformed
  · rw [hq]
    exact .tooDeep
  · rw [ht]
    cases hdatum : ofText kind t with
    | ok d =>
      dsimp only
      rw [hdatum]
      exact hf d s hs
    | error q =>
      dsimp only
      rw [hdatum]
      rcases spelled_of_textAt hs ht with htext | hspelled
      · rw [← hk, htext] at hdatum
        cases hdatum
      · rw [hk] at hspelled
        exact .value hspelled hdatum

/-- **The datum of a node** is there, or there is a reason why not. -/
theorem safe_datum (i : Nat) : Safe g (datum i) := by
  unfold datum
  refine safe_get_bind fun s hs => ?_
  cases s.known.lookup i with
  | some d => exact hs
  | none =>
    have hlater (d : Datum) : Safe g (do
        modify fun s => { s with known := (i, d) :: s.known }
        return d) := fun s hs => ⟨hs.scalar, hs.mapping⟩
    generalize hk : kindAt s.graph i = kind
    cases kind with
    | sequence | mapping | set | pairs => exact ⟨hs.scalar, hs.mapping⟩
    | merge | value | unknown => exact .malformed
    | _ => exact fine_text hs hk hlater

/-! ## Taking over pairs -/

theorem Kept.setNode (hs : Kept g s) (i : Nat) {n : Node}
    (hscalar : ∀ k t, n = .scalar k t → ∃ k', g[i]? = some (.scalar k' t) ∧ (k = k' ∨ k = .text))
    (hmapping : ∀ k ps, n = .mapping k ps →
      ∃ k' ps', g[i]? = some (.mapping k' ps') ∧ (k = k' ∨ k = .text)) :
    Kept g { s with graph := s.graph.setIfInBounds i n } := by
  constructor
  · intro j k t h
    rw [Array.getElem?_setIfInBounds] at h
    by_cases hij : i = j
    · subst hij
      rw [if_pos rfl] at h
      split at h
      · exact hscalar k t (Option.some.inj h)
      · cases h
    · rw [if_neg hij] at h
      exact hs.scalar h
  · intro j k ps h
    rw [Array.getElem?_setIfInBounds] at h
    by_cases hij : i = j
    · subst hij
      rw [if_pos rfl] at h
      split at h
      · exact hmapping k ps (Option.some.inj h)
      · cases h
    · rw [if_neg hij] at h
      exact hs.mapping h

theorem safe_setPairs (i : Nat) (pairs : List (Nat × Nat)) : Safe g (setPairs i pairs) := by
  refine safe_modify fun s hs => ?_
  split
  · next k ps hnode =>
    refine hs.setNode i nofun ?_
    rintro k' ps' ⟨⟩
    exact hs.mapping hnode
  · exact hs

theorem safe_asText (i : Nat) : Safe g (asText i) := by
  refine safe_modify fun s hs => ?_
  split
  · next k t hnode =>
    refine hs.setNode i ?_ nofun
    rintro k' t' ⟨⟩
    obtain ⟨k'', h, -⟩ := hs.scalar hnode
    exact ⟨k'', h, Or.inr rfl⟩
  · exact hs.setNode i nofun nofun
  · next k ps hnode =>
    refine hs.setNode i nofun ?_
    rintro k' ps' ⟨⟩
    obtain ⟨k'', ps'', h, -⟩ := hs.mapping hnode
    exact ⟨k'', ps'', h, Or.inr rfl⟩
  · exact hs

theorem safe_pairsAt (i : Nat) : Safe g (pairsAt i) := by
  refine (safe_nodeAt i).bind fun n => ?_
  cases n with
  | mapping k ps => exact safe_pure ps
  | scalar | sequence => exact safe_refuse

/-- What takes part in taking over pairs is safe with some fuel. -/
structure Flattens (g : Graph) (fuel : Nat) : Prop where
  one : ∀ depth i, Safe g (flatten fuel depth i)
  sort : ∀ depth i taken own pairs, Safe g (sortPairs fuel depth i taken own pairs)
  each : ∀ depth items, Safe g (flattenEach fuel depth items)

theorem flattens (fuel : Nat) : Flattens g fuel := by
  induction fuel with
  | zero =>
    refine ⟨fun _ _ => ?_, fun _ _ _ _ _ => ?_, fun _ _ => ?_⟩
    · rw [flatten]
      exact safe_refuse
    · rw [sortPairs]
      exact safe_refuse
    · rw [flattenEach]
      exact safe_refuse
  | succ fuel ih =>
    refine ⟨fun depth i => ?_, fun depth i taken own pairs => ?_, fun depth items => ?_⟩
    · rw [flatten]
      split
      · refine safe_tooDeep.bind fun _ => (safe_pairsAt i).bind fun pairs => ?_
        exact (ih.sort depth i [] [] pairs).bind fun sorted => safe_setPairs i _
      · refine (safe_pairsAt i).bind fun pairs => ?_
        exact (ih.sort depth i [] [] pairs).bind fun sorted => safe_setPairs i _
    · cases pairs with
      | nil =>
        rw [sortPairs]
        exact safe_pure _
      | cons p rest =>
        obtain ⟨k, v⟩ := p
        rw [sortPairs]
        refine safe_get_bind fun s hs => ?_
        generalize kindAt s.graph k = kind
        cases kind with
        | merge =>
          refine ((safe_setPairs i _).bind fun _ => (safe_nodeAt v).bind fun n => ?_) s hs
          cases n with
          | mapping =>
            exact (ih.one _ v).bind fun _ => (safe_pairsAt v).bind fun _ =>
              ih.sort depth i _ own rest
          | sequence => exact (ih.each _ _).bind fun _ => ih.sort depth i _ own rest
          | scalar => exact safe_refuse
        | value => exact ((safe_asText k).bind fun _ => ih.sort depth i taken _ rest) s hs
        | _ => exact ih.sort depth i taken _ rest s hs
    · cases items with
      | nil =>
        rw [flattenEach]
        exact safe_pure _
      | cons i rest =>
        rw [flattenEach]
        exact (safe_pairsAt i).bind fun _ => (ih.one depth i).bind fun _ =>
          (safe_pairsAt i).bind fun pairs => (ih.each depth rest).bind fun more => safe_pure _

/-! ## Collections -/

theorem safe_datums (items : List Nat) : Safe g (datums items) := by
  induction items with
  | nil => exact safe_pure []
  | cons i rest ih => exact (safe_datum i).bind fun d => ih.bind fun ds => safe_pure (d :: ds)

theorem safe_pairData (pairs : List (Nat × Nat)) : Safe g (pairData pairs) := by
  induction pairs with
  | nil => exact safe_pure []
  | cons p rest ih =>
    refine (safe_datum p.1).bind fun key => ?_
    have hlater : Safe g (do
        let value ← datum p.2
        return (key, value) :: (← pairData rest)) :=
      (safe_datum p.2).bind fun value => ih.bind fun more => safe_pure _
    dsimp only
    split
    · exact safe_refuse.bind fun _ => hlater
    · exact hlater

theorem safe_recordAt (i : Nat) : Safe g (recordAt i) := by
  refine safe_get_bind fun s hs => ?_
  exact ((flattens _).one 0 i).bind (fun _ => (safe_pairsAt i).bind safe_pairData) s hs

theorem safe_singlePairs (items : List Nat) : Safe g (singlePairs items) := by
  induction items with
  | nil => exact safe_pure ()
  | cons i rest ih =>
    refine (safe_pairsAt i).bind fun pairs => ?_
    split
    · exact (safe_datum _).bind fun _ => (safe_datum _).bind fun _ => ih
    · exact safe_refuse

theorem safe_content (i : Nat) : Safe g (content i) := by
  refine safe_get_bind fun s hs => ?_
  refine (safe_nodeAt i).bind (fun n => ?_) s hs
  split
  · exact safe_map _ (safe_datums _)
  · exact safe_map _ (safe_recordAt i)
  · exact (safe_recordAt i).bind fun _ => safe_pure _
  · exact (safe_singlePairs _).bind fun _ => safe_pure _
  · exact safe_refuse

theorem safe_finish (fuel : Nat) : Safe g (finish fuel) := by
  induction fuel with
  | zero => exact safe_pure ()
  | succ fuel ih =>
    refine safe_get_bind fun s hs => ?_
    cases s.waiting with
    | nil => exact hs
    | cons i rest =>
      refine Safe.bind (safe_modify fun s hs => ?_) (fun _ => (safe_content i).bind fun c =>
        Safe.bind (safe_modify fun s hs => ?_) fun _ => ih) s hs
      all_goals exact ⟨hs.scalar, hs.mapping⟩

/-! ## Documents -/

/-- **An error behind the nodes** of a document has a reason in them. -/
theorem blamed_of_read {text : String} {root : Nat} {q : Problem}
    (hg : readGraph text = .ok (some (root, g))) (h : read text = .error q) : Blamed g q := by
  let make : Make Datum := do
    let d ← datum root
    finish (g.size + 1)
    return d
  have hsafe : Safe g make :=
    (safe_datum root).bind fun d => (safe_finish _).bind fun _ => safe_pure d
  have hkept : Kept g ⟨g, [], [], []⟩ :=
    ⟨fun h => ⟨_, h, Or.inl rfl⟩, fun h => ⟨_, _, h, Or.inl rfl⟩⟩
  have hfine := hsafe _ hkept
  have hread : read text = (make ⟨g, [], [], []⟩).map fun r => ⟨r.1, r.2.contents⟩ := by
    unfold read
    rw [hg]
    rfl
  rw [hread] at h
  cases hmade : make ⟨g, [], [], []⟩ with
  | ok r =>
    rw [hmade] at h
    cases h
  | error q' =>
    rw [hmade] at h hfine
    cases h
    exact hfine

/-- Why a text has no data, although it may be well-formed. -/
inductive Astray (text : String) : Problem → Prop
  /-- It has a character or a version that does not exist, or collections without end. -/
  | nodes {q : Problem} (h : readGraph text = .error q) (hq : q ≠ .malformed) : Astray text q
  /-- One of its texts spells no value of its kind. -/
  | value {root : Nat} {g : Graph} {kind : Kind} {t : String} {q : Problem}
      (hg : readGraph text = .ok (some (root, g))) (h : Spelled g kind t)
      (hbad : ofText kind t = .error q) (hq : q ≠ .malformed) : Astray text q
  /-- Its nodes stand for one another without end. -/
  | chain {root : Nat} {g : Graph} (hg : readGraph text = .ok (some (root, g))) :
      Astray text .tooDeep

theorem Astray.ne_malformed {text : String} {q : Problem} (h : Astray text q) : q ≠ .malformed := by
  cases h with
  | nodes _ hq => exact hq
  | value _ _ _ hq => exact hq
  | chain => nofun

/-- **An error** that is none of form has a reason in the text. -/
theorem astray_of_read {text : String} {q : Problem} (h : read text = .error q)
    (hq : q ≠ .malformed) : Astray text q := by
  cases hg : readGraph text with
  | error q' =>
    have hread : read text = .error q' := by
      unfold read
      rw [hg]
      rfl
    cases hread.symm.trans h
    exact .nodes hg hq
  | ok found =>
    cases found with
    | none =>
      have hread : read text = .ok .empty := by
        unfold read
        rw [hg]
        rfl
      cases hread.symm.trans h
    | some p =>
      cases blamed_of_read hg h with
      | malformed => exact absurd rfl hq
      | tooDeep => exact .chain hg
      | value hspelled hbad => exact .value hg hspelled hbad hq

end LiterateConfig.Yaml
