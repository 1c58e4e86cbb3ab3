/-!
# Values by key

A list of keys with their values. Putting a value keeps the place of a key that
is there already and adds a new key at the end, so keys stand in the order in
which they first came.

Results:
* `get?_put_self`, `get?_put_of_ne`: what a key has after `put`;
* `keys_put`: `put` adds at most its own key, behind the others;
* `nodup_keys_put`: keys that do not repeat do not repeat after `put`;
* `putAll_of_nodup`: pairs whose keys do not repeat are put one behind the other;
* `get?_putAll`: what a key has after pairs are put;
* `mem_ascending`: sorting by key neither adds nor drops anything.
-/
namespace LiterateConfig

/-- Values of type `β` by keys of type `α`. -/
abbrev Keyed (α β : Type) := List (α × β)

namespace Keyed

variable {α β : Type} [DecidableEq α]

/-- The value of a key: the first one, should the key repeat. -/
def get? (key : α) : Keyed α β → Option β
  | [] => none
  | (k, v) :: rest => if k = key then some v else get? key rest

/-- Sets the value of a key, in place when the key is there. -/
def put (key : α) (value : β) : Keyed α β → Keyed α β
  | [] => [(key, value)]
  | (k, v) :: rest => if k = key then (k, value) :: rest else (k, v) :: put key value rest

/-- Puts pairs one after the other, so the last one of a key counts. -/
def putAll (pairs m : Keyed α β) : Keyed α β := pairs.foldl (fun m p => put p.1 p.2 m) m

/-- The keys in order. -/
def keys (m : Keyed α β) : List α := m.map Prod.fst

/-- Whole numbers with their values, by ascending number. -/
def ascending (m : Keyed Int β) : Keyed Int β := m.mergeSort fun a b => decide (a.1 ≤ b.1)

theorem get?_put_self (key : α) (value : β) (m : Keyed α β) :
    get? key (put key value m) = some value := by
  induction m with
  | nil => simp [put, get?]
  | cons p rest ih =>
    simp only [put]
    split
    · next h => simp [get?, h]
    · next h => simp [get?, h, ih]

theorem get?_put_of_ne {key other : α} (h : other ≠ key) (value : β) (m : Keyed α β) :
    get? other (put key value m) = get? other m := by
  induction m with
  | nil => simp [put, get?, h.symm]
  | cons p rest ih =>
    simp only [put]
    split
    · next hk => simp [get?, hk, h.symm]
    · next hk => simp [get?, ih]

theorem get?_eq_none_iff {key : α} {m : Keyed α β} : get? key m = none ↔ key ∉ keys m := by
  induction m with
  | nil => simp [get?, keys]
  | cons p rest ih =>
    simp only [get?]
    split
    · next h => simp [keys, h]
    · next h => simpa [keys, Ne.symm h] using ih

theorem keys_put (key : α) (value : β) (m : Keyed α β) :
    keys (put key value m) = if key ∈ keys m then keys m else keys m ++ [key] := by
  induction m with
  | nil => simp [put, keys]
  | cons p rest ih =>
    simp only [put]
    split
    · next h => simp [keys, h]
    · next h =>
      have ih' : List.map Prod.fst (put key value rest) =
          if key ∈ List.map Prod.fst rest then List.map Prod.fst rest
          else List.map Prod.fst rest ++ [key] := ih
      simp only [keys, List.map_cons, ih', List.mem_cons, Ne.symm h, false_or]
      split <;> simp

theorem nodup_keys_put {m : Keyed α β} (h : (keys m).Nodup) (key : α) (value : β) :
    (keys (put key value m)).Nodup := by
  rw [keys_put]
  split
  · exact h
  · next hk =>
    have apart : ∀ a ∈ keys m, a ≠ key := fun a ha e => hk (by rw [← e]; exact ha)
    exact List.nodup_append.2 ⟨h, by simp, by simpa using apart⟩

theorem put_of_not_mem {key : α} {m : Keyed α β} (h : key ∉ keys m) (value : β) :
    put key value m = m ++ [(key, value)] := by
  induction m with
  | nil => rfl
  | cons p rest ih =>
    rw [keys, List.map_cons, List.mem_cons, not_or] at h
    rw [put, if_neg (Ne.symm h.1), ih h.2]
    rfl

theorem putAll_append_of_nodup {pairs m : Keyed α β} (h : (keys (m ++ pairs)).Nodup) :
    putAll pairs m = m ++ pairs := by
  induction pairs generalizing m with
  | nil => rw [List.append_nil]; rfl
  | cons p rest ih =>
    have hnew : p.1 ∉ keys m := by
      intro hp
      rw [keys, List.map_append, List.nodup_append] at h
      exact h.2.2 p.1 hp p.1 List.mem_cons_self rfl
    show putAll rest (put p.1 p.2 m) = _
    rw [put_of_not_mem hnew, ih (by simpa using h), List.append_assoc]
    rfl

/-- Pairs whose keys do not repeat are put one behind the other. -/
theorem putAll_of_nodup {pairs : Keyed α β} (h : (keys pairs).Nodup) : putAll pairs [] = pairs :=
  putAll_append_of_nodup h

theorem nodup_keys_putAll {m : Keyed α β} (h : (keys m).Nodup) (pairs : Keyed α β) :
    (keys (putAll pairs m)).Nodup := by
  induction pairs generalizing m with
  | nil => exact h
  | cons p rest ih => exact ih (nodup_keys_put h p.1 p.2)

/-- Pairs whose keys do not repeat win over what was there. -/
theorem get?_putAll {pairs : Keyed α β} (h : (keys pairs).Nodup) (key : α) (m : Keyed α β) :
    get? key (putAll pairs m) = (get? key pairs).or (get? key m) := by
  induction pairs generalizing m with
  | nil => rfl
  | cons p rest ih =>
    rw [keys, List.map_cons, List.nodup_cons] at h
    have hput : get? key (putAll (p :: rest) m) = (get? key rest).or (get? key (put p.1 p.2 m)) :=
      ih h.2 _
    rw [hput, get?]
    split
    · next hk =>
      have hrest : get? key rest = none := get?_eq_none_iff.2 (hk ▸ h.1)
      rw [hrest, ← hk, get?_put_self]
      rfl
    · next hk => rw [get?_put_of_ne (Ne.symm hk)]

omit [DecidableEq α] in
theorem mem_ascending {p : Int × β} {m : Keyed Int β} : p ∈ ascending m ↔ p ∈ m := by
  simp [ascending]

end Keyed

end LiterateConfig
