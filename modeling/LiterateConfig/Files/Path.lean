import LiterateConfig.Text.Lines

/-!
# Paths

A path is what stands in front (nothing, or one or two slashes for an absolute
path) and the names behind. Empty names and `.` are dropped when a text is
read; `..` is kept, because only a file system can tell where it leads.

Results:
* `join_absolute`, `join_relative`: what the right side of a join decides;
* `name_child`, `parent_child`: the last name and what is in front of it;
* `parts_join_child`: one more name is one more name from anywhere.
-/
namespace LiterateConfig.Files

structure Path where
  /-- The number of slashes in front: none for a relative path. -/
  slashes : Nat
  parts : List String
  deriving DecidableEq, Repr, Inhabited

namespace Path

def isAbsolute (p : Path) : Bool := p.slashes != 0

/-- The path that a text spells. Exactly two slashes in front stay two, more count as one. -/
def ofString (s : String) : Path :=
  let cs := s.toList
  let n := (cs.takeWhile (· == '/')).length
  let names := (Text.splitOn '/' cs).filter fun l => !l.isEmpty && l != ['.']
  ⟨if n = 2 then 2 else min n 1, names.map String.ofList⟩

def toString (p : Path) : String :=
  if p.slashes = 0 && p.parts.isEmpty then "."
  else String.ofList (List.replicate p.slashes '/') ++ "/".intercalate p.parts

/-- `b` seen from `a`: an absolute `b` stands for itself. -/
def join (a b : Path) : Path := if b.isAbsolute then b else ⟨a.slashes, a.parts ++ b.parts⟩

/-- `a` with one more name. -/
def child (a : Path) (name : String) : Path := ⟨a.slashes, a.parts ++ [name]⟩

/-- The path without its last name; a path without names is its own parent. -/
def parent (p : Path) : Path := ⟨p.slashes, p.parts.dropLast⟩

/-- The last name, empty when there is none. -/
def name (p : Path) : String := p.parts.getLast?.getD ""

/-- Replaces a leading `~` by the home directory. The homes of other people are
not known, so `~name` has no expansion. -/
def expandHome? (p home : Path) : Option Path :=
  match p.slashes, p.parts with
  | 0, first :: rest =>
    if first = "~" then some ⟨home.slashes, home.parts ++ rest⟩
    else if first.toList.head? = some '~' then none
    else some p
  | _, _ => some p

/-- What is said of a path that starts with the home of someone unknown. -/
def homeUnknownMessage : String := "Could not determine home directory."

/-- Lets every `..` take back the name in front of it; above the root it is dropped. -/
def collapse (names : List String) : List String :=
  names.foldl (fun done n => if n = ".." then done.dropLast else done ++ [n]) []

/-- The absolute path without `..`, relative paths being seen from `here`. It
has one slash in front. -/
def resolve (p here : Path) : Path := ⟨1, collapse (here.join p).parts⟩

/-! ## Lemmas -/

theorem join_absolute {a b : Path} (h : b.isAbsolute = true) : a.join b = b := by
  simp [join, h]

theorem join_relative {a b : Path} (h : b.isAbsolute = false) :
    a.join b = ⟨a.slashes, a.parts ++ b.parts⟩ := by
  simp [join, h]

theorem name_child (a : Path) (n : String) : (a.child n).name = n := by
  simp [child, name]

theorem parent_child (a : Path) (n : String) : (a.child n).parent = a := by
  simp [child, parent]

theorem parts_join_child (a b : Path) (n : String) :
    (a.join (b.child n)).parts = (a.join b).parts ++ [n] := by
  unfold join child isAbsolute
  dsimp only
  split
  · rfl
  · exact (List.append_assoc _ _ _).symm

end Path

end LiterateConfig.Files
