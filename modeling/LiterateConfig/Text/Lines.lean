import LiterateConfig.Text.Blank

/-!
# Lines

Three notions of line meet in this library. `splitLines` ends a line at every
Unicode line boundary; `splitOn` cuts at one character; `unifyBreaks` turns the
two spellings with a carriage return into a plain line feed, as reading a text
file does. `dedent` removes the indentation that all lines share.
-/
namespace LiterateConfig.Text

/-- A character that ends a line of a document. -/
def isLineBreak (c : Char) : Bool :=
  let n := c.toNat
  (10 ≤ n && n ≤ 13) || (28 ≤ n && n ≤ 30) || n == 0x85 || n == 0x2028 || n == 0x2029

/-- The lines of a text, without their ends; a final line end opens no further
line, and a carriage return with its line feed is one end. -/
def splitLines : List Char → List (List Char)
  | [] => []
  | '\r' :: '\n' :: r => [] :: splitLines r
  | c :: r =>
    if isLineBreak c then [] :: splitLines r
    else match splitLines r with
      | [] => [[c]]
      | l :: ls => (c :: l) :: ls

/-- The pieces of `l` between occurrences of `sep`, at least one. -/
def splitOn (sep : Char) : List Char → List (List Char)
  | [] => [[]]
  | c :: r =>
    if c = sep then [] :: splitOn sep r
    else match splitOn sep r with
      | [] => [[c]]
      | l :: ls => (c :: l) :: ls

/-- `ls` with `sep` between neighbours. -/
def joinWith (sep : List Char) : List (List Char) → List Char
  | [] => []
  | [l] => l
  | l :: ls => l ++ sep ++ joinWith sep ls

/-- Every line end spelled `"\r\n"` or `"\r"` becomes `"\n"`. -/
def unifyBreaks : List Char → List Char
  | [] => []
  | '\r' :: '\n' :: r => '\n' :: unifyBreaks r
  | c :: r => (if c = '\r' then '\n' else c) :: unifyBreaks r

/-! ## Shared indentation -/

/-- The longest common start of two lists. -/
def commonStart : List Char → List Char → List Char
  | a :: as, b :: bs => if a = b then a :: commonStart as bs else []
  | _, _ => []

/-- A line of nothing but spaces and tabs. -/
def isIndentOnly (l : List Char) : Bool := l.all isIndent

/-- The indentation shared by all lines that hold more than indentation. -/
def margin (ls : List (List Char)) : List Char :=
  match ls.filter fun l => !isIndentOnly l with
  | [] => []
  | l :: rest => rest.foldl (fun m k => commonStart m (k.takeWhile isIndent)) (l.takeWhile isIndent)

/-- Removes the shared indentation; lines of mere indentation become empty. -/
def dedentLines (ls : List (List Char)) : List (List Char) :=
  let m := margin ls
  ls.map fun l => if isIndentOnly l then [] else l.drop m.length

def dedent (text : List Char) : List Char :=
  joinWith ['\n'] (dedentLines (splitOn '\n' text))

/-- `splitLines` on strings. -/
def lines (s : String) : List String := (splitLines s.toList).map String.ofList

/-! ## Lemmas -/

theorem splitOn_ne_nil (sep : Char) (l : List Char) : splitOn sep l ≠ [] := by
  cases l with
  | nil => simp [splitOn]
  | cons c r =>
    simp only [splitOn]
    split
    · simp
    · split <;> simp

/-- Joining the pieces gives the text back. -/
theorem joinWith_splitOn (sep : Char) (l : List Char) : joinWith [sep] (splitOn sep l) = l := by
  induction l with
  | nil => rfl
  | cons c r ih =>
    simp only [splitOn]
    split
    · next h =>
      cases hr : splitOn sep r with
      | nil => exact absurd hr (splitOn_ne_nil sep r)
      | cons l ls => rw [hr] at ih; simp [joinWith, ih, h]
    · cases hr : splitOn sep r with
      | nil => exact absurd hr (splitOn_ne_nil sep r)
      | cons l ls =>
        rw [hr] at ih
        cases ls with
        | nil => simpa [joinWith] using ih
        | cons k ks => simpa [joinWith] using ih

theorem commonStart_isPrefix_left (a b : List Char) : commonStart a b <+: a := by
  induction a generalizing b with
  | nil => simp [commonStart]
  | cons x as ih =>
    cases b with
    | nil => simp [commonStart]
    | cons y bs =>
      simp only [commonStart]
      split
      · exact (List.prefix_cons_inj x).2 (ih bs)
      · exact List.nil_prefix

end LiterateConfig.Text
