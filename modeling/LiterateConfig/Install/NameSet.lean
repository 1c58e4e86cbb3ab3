/-!
# Sets of names

A set of names is the list of its members, each once, by ascending code points.

Results:
* `mem_insert`, `mem_erase`, `mem_ofList`: the members after an operation.
-/
namespace LiterateConfig.Install

abbrev NameSet := List String

namespace NameSet

def insert (name : String) : NameSet → NameSet
  | [] => [name]
  | n :: rest =>
    if name = n then n :: rest
    else if name < n then name :: n :: rest
    else n :: insert name rest

def erase (name : String) (s : NameSet) : NameSet := s.filter fun n => n != name

def ofList (names : List String) : NameSet := names.foldl (fun s n => insert n s) []

theorem mem_insert {name other : String} {s : NameSet} :
    other ∈ insert name s ↔ other = name ∨ other ∈ s := by
  induction s with
  | nil => simp [insert]
  | cons n rest ih =>
    simp only [insert]
    split
    · next h => subst h; simp
    · split
      · simp
      · simp only [List.mem_cons, ih]
        constructor
        · rintro (h | h | h) <;> simp [h]
        · rintro (h | h | h) <;> simp [h]

theorem mem_erase {name other : String} {s : NameSet} :
    other ∈ erase name s ↔ other ∈ s ∧ other ≠ name := by
  simp [erase]

theorem mem_foldl_insert {other : String} {names : List String} {s : NameSet} :
    other ∈ names.foldl (fun s n => insert n s) s ↔ other ∈ s ∨ other ∈ names := by
  induction names generalizing s with
  | nil => simp
  | cons n rest ih =>
    simp only [List.foldl_cons, ih, mem_insert, List.mem_cons]
    constructor
    · rintro ((h | h) | h) <;> simp [h]
    · rintro (h | h | h) <;> simp [h]

theorem mem_ofList {other : String} {names : List String} : other ∈ ofList names ↔ other ∈ names := by
  simp [ofList, mem_foldl_insert]

end NameSet

end LiterateConfig.Install
