import LiterateConfig.Document.Fence
import LiterateConfig.Document.Heading
import LiterateConfig.Text.Case

/-!
# Extracting fences from lines

`scan` walks over the lines of a document once and gives all of its fences,
each with its language, its text and the section it stands in; which languages
are wanted plays no part in it. Extraction keeps the fences of the accepted
languages.

Results:
* `extractLines_eq_filter`: extraction is a filter on what `scan` gives;
* `scan_outside`, `scan_oneLine`, `scan_body`: one step of the walk.
-/
namespace LiterateConfig.Document

open LiterateConfig.Text

structure Fence where
  language : Option (List Char)
  text : List Char
  within : Section
  deriving DecidableEq, Repr

/-- Cuts the body of a fence off: the lines in front of its closing line, and
those behind it. A fence that is never closed reaches to the end. -/
def takeBody (o : Opening) (lines : List (List Char)) : List (List Char) × List (List Char) :=
  (lines.takeWhile fun l => !closes o l, (lines.dropWhile fun l => !closes o l).drop 1)

theorem length_takeBody_snd (o : Opening) (lines : List (List Char)) :
    (takeBody o lines).2.length ≤ lines.length := by
  have h := (List.dropWhile_suffix (fun l => !closes o l) (l := lines)).length_le
  simp [takeBody]; omega

/-- All fences of a document, `current` being the section in front of it. -/
def scan (current : Section) : List (List Char) → List Fence
  | [] => []
  | line :: rest =>
    match opening? (strip line) with
    | none => scan (sectionAfter current line) rest
    | some o =>
      let language := language? o.info
      if o.isOneLine then
        ⟨language, oneLineText o.info (language.getD []), current⟩ :: scan current rest
      else
        ⟨language, bodyText (takeBody o rest).1, current⟩ :: scan current (takeBody o rest).2
termination_by lines => lines.length
decreasing_by
  all_goals simp_wf
  have := length_takeBody_snd o rest
  omega

/-- The small letters of a language's name. -/
def languageKey (language : List Char) : String := lower (String.ofList language)

/-- Whether a fence is of one of the languages, whatever the case of letters. -/
def accepts (languages : List String) (f : Fence) : Bool :=
  match f.language with
  | some l => (languages.map lower).contains (languageKey l)
  | none => false

/-- The texts of the fences of some languages with their sections. -/
def extractLines (languages : List String) (lines : List String) : List (String × Section) :=
  ((scan .unspecified (lines.map String.toList)).filter (accepts languages)).map
    fun f => (String.ofList f.text, f.within)

/-- The texts of the fences of a document. -/
def extractText (languages : List String) (text : String) : List String :=
  (extractLines languages (Text.lines text)).map Prod.fst

/-! ## Lemmas -/

theorem extractLines_eq_filter (languages lines : List String) :
    extractLines languages lines =
      ((scan .unspecified (lines.map String.toList)).filter (accepts languages)).map
        fun f => (String.ofList f.text, f.within) := rfl

theorem scan_nil (current : Section) : scan current [] = [] := by rw [scan]

theorem scan_outside {current : Section} {line : List Char} {rest : List (List Char)}
    (h : opening? (strip line) = none) :
    scan current (line :: rest) = scan (sectionAfter current line) rest := by
  rw [scan]; simp [h]

theorem scan_oneLine {current : Section} {line : List Char} {rest : List (List Char)} {o : Opening}
    (h : opening? (strip line) = some o) (ho : o.isOneLine = true) :
    scan current (line :: rest) =
      ⟨language? o.info, oneLineText o.info ((language? o.info).getD []), current⟩ ::
        scan current rest := by
  rw [scan]; simp [h, ho]

theorem scan_body {current : Section} {line : List Char} {rest : List (List Char)} {o : Opening}
    (h : opening? (strip line) = some o) (ho : o.isOneLine = false) :
    scan current (line :: rest) =
      ⟨language? o.info, bodyText (takeBody o rest).1, current⟩ ::
        scan current (takeBody o rest).2 := by
  rw [scan]; simp [h, ho]

end LiterateConfig.Document
