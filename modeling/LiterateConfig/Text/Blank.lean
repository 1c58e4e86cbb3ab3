/-!
# White space at the ends of a text

`isBlank` is the white space of this library: the control characters that
separate lines or records, the ASCII space, and the Unicode spaces. `strip`
removes it from both ends.

Results:
* `strip_eq_self`: a text whose ends are not blank is left alone;
* `stripStart_append_blank`: leading blanks in front of a text do not matter.
-/
namespace LiterateConfig.Text

/-- White space: U+0009 to U+000D, U+001C to U+0020, U+0085, U+00A0 and the
Unicode spaces and separators. -/
def isBlank (c : Char) : Bool :=
  let n := c.toNat
  (9 ≤ n && n ≤ 13) || (28 ≤ n && n ≤ 32) || n == 0x85 || n == 0xa0 || n == 0x1680 ||
    (0x2000 ≤ n && n ≤ 0x200a) || n == 0x2028 || n == 0x2029 || n == 0x202f || n == 0x205f ||
    n == 0x3000

/-- A space or a tab, the only characters that indent. -/
def isIndent (c : Char) : Bool := c == ' ' || c == '\t'

/-- `l` without its longest tail of characters in `p`. -/
def dropEndWhile (p : Char → Bool) (l : List Char) : List Char :=
  (l.reverse.dropWhile p).reverse

def stripStart (l : List Char) : List Char := l.dropWhile isBlank

def stripEnd (l : List Char) : List Char := dropEndWhile isBlank l

/-- `l` without blanks at either end. -/
def strip (l : List Char) : List Char := stripEnd (stripStart l)

/-- `strip` on strings. -/
def trimmed (s : String) : String := String.ofList (strip s.toList)

/-! ## Lemmas -/

theorem dropWhile_eq_self {p : Char → Bool} {l : List Char} (h : ∀ c ∈ l.head?, p c = false) :
    l.dropWhile p = l := by
  cases l with
  | nil => rfl
  | cons c r => simp [h c (by simp)]

theorem stripStart_append_blank {w l : List Char} (h : ∀ c ∈ w, isBlank c = true) :
    stripStart (w ++ l) = stripStart l := by
  induction w with
  | nil => rfl
  | cons c w ih =>
    have hc : isBlank c = true := h c List.mem_cons_self
    simpa [stripStart, List.dropWhile_cons, hc] using ih fun d hd => h d (List.mem_cons_of_mem _ hd)

theorem strip_append_blank {w l : List Char} (h : ∀ c ∈ w, isBlank c = true) :
    strip (w ++ l) = strip l := by
  simp [strip, stripStart_append_blank h]

theorem strip_eq_self {l : List Char} (hs : ∀ c ∈ l.head?, isBlank c = false)
    (he : ∀ c ∈ l.getLast?, isBlank c = false) : strip l = l := by
  have h1 : stripStart l = l := dropWhile_eq_self hs
  have h2 : l.reverse.dropWhile isBlank = l.reverse :=
    dropWhile_eq_self (by simpa [List.head?_reverse] using he)
  simp [strip, h1, stripEnd, dropEndWhile, h2]

end LiterateConfig.Text
