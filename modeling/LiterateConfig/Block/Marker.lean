import LiterateConfig.Text.Blank
import LiterateConfig.Text.Search

/-!
# Marker lines

A block may start with marker lines: `@ disable` or `@ manual`, perhaps behind
a hash sign, and nothing else on the line. The rest of the block is its body.
-/
namespace LiterateConfig.Block

open LiterateConfig.Text

inductive Marker where
  | disable
  | manual
  deriving DecidableEq, Repr

def Marker.name : Marker → String
  | .disable => "disable"
  | .manual => "manual"

def dropIndent (l : List Char) : List Char := l.dropWhile isIndent

/-- What stands behind an optional hash sign and the spaces after it. -/
def dropHash : List Char → List Char
  | '#' :: r => dropIndent r
  | l => l

/-- A marker's name at the front, and what follows it. -/
def markerName? (l : List Char) : Option (Marker × List Char) :=
  match dropLead? ['d', 'i', 's', 'a', 'b', 'l', 'e'] l with
  | some r => some (.disable, r)
  | none => (dropLead? ['m', 'a', 'n', 'u', 'a', 'l'] l).map fun r => (.manual, r)

/-- A marker line at the front, and what follows it. -/
def markerLine? (l : List Char) : Option (Marker × List Char) :=
  match dropHash (dropIndent l) with
  | '@' :: r => do
    let (m, rest) ← markerName? (dropIndent r)
    match dropIndent rest with
    | [] => some (m, [])
    | '\n' :: behind => some (m, behind)
    | _ => none
  | _ => none

theorem length_dropIndent (l : List Char) : (dropIndent l).length ≤ l.length :=
  (List.dropWhile_suffix _).length_le

theorem length_dropHash (l : List Char) : (dropHash l).length ≤ l.length := by
  unfold dropHash
  split
  · next r => have := length_dropIndent r; simp; omega
  · exact Nat.le_refl _

theorem length_markerName {l : List Char} {m : Marker} {r : List Char}
    (h : markerName? l = some (m, r)) : r.length ≤ l.length := by
  unfold markerName? at h
  split at h
  · next r' hr =>
    simp only [Option.some.injEq, Prod.mk.injEq] at h
    rw [dropLead?_eq_some_iff] at hr
    rw [hr, ← h.2]; simp; omega
  · next hn =>
    simp only [Option.map_eq_some_iff, Prod.mk.injEq] at h
    obtain ⟨r', hr, -, rfl⟩ := h
    rw [dropLead?_eq_some_iff] at hr
    rw [hr]; simp; omega

/-- A marker line uses up at least its at-sign. -/
theorem length_markerLine {l : List Char} {m : Marker} {rest : List Char}
    (h : markerLine? l = some (m, rest)) : rest.length < l.length := by
  unfold markerLine? at h
  have h1 := length_dropHash (dropIndent l)
  have h2 := length_dropIndent l
  split at h
  · next r hr =>
    rw [hr] at h1
    simp only [List.length_cons] at h1
    cases hn : markerName? (dropIndent r) with
    | none => simp [hn] at h
    | some p =>
      obtain ⟨m', rest'⟩ := p
      have h3 := length_markerName hn
      have h4 := length_dropIndent r
      have h5 := length_dropIndent rest'
      simp only [hn, Option.bind_eq_bind, Option.bind_some] at h
      split at h
      · simp only [Option.some.injEq, Prod.mk.injEq] at h
        rw [← h.2]; simp; omega
      · next behind hb =>
        simp only [Option.some.injEq, Prod.mk.injEq] at h
        rw [hb] at h5
        simp only [List.length_cons] at h5
        rw [← h.2]; omega
      · simp at h
  · simp at h

/-- The marker lines at the front, in order, and the body behind them. -/
def readMarkerChars (l : List Char) : List Marker × List Char :=
  match _h : markerLine? (stripStart l) with
  | none => ([], stripStart l)
  | some (m, rest) =>
    let (ms, body) := readMarkerChars rest
    (m :: ms, body)
termination_by l.length
decreasing_by
  have h1 := length_markerLine _h
  have h2 : (stripStart l).length ≤ l.length := (List.dropWhile_suffix _).length_le
  omega

/-- The markers of a text and its body. -/
def readMarkers (text : String) : List Marker × String :=
  let (ms, body) := readMarkerChars text.toList
  (ms, String.ofList body)

end LiterateConfig.Block
