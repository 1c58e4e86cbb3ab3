import LiterateConfig.Proofs.Segmentation

/-!
# Documents with a byte-order mark in front

A document may start with a byte-order mark. Normalizing a text drops such marks, but that
comes after the fences have been found: in the walk over the lines the mark is part of the
first line, and as it is neither a blank nor a fence mark nor a hash sign, that line opens
no fence and is no heading, whatever it says: it is `Plain`.

Results:
* `splitLines_cons`: a character in front of a text is in front of its first line;
* `plain_mark`: a line behind a byte-order mark is plain;
* `extractLines_marked`: a document with the mark gives what its lines from the second on
  give;
* `extract_marked`: so it declares the same as without the mark if its first line is plain,
  and loses the fence that stands on its first line.
-/
namespace LiterateConfig

namespace Text

/-- A character that ends no line stands in front of the first line. -/
theorem splitLines_cons {c : Char} (hc : isLineBreak c = false) (t : List Char) :
    splitLines (c :: t) = (c :: (splitLines t).headD []) :: (splitLines t).tail := by
  have hr : c ≠ '\r' := by rintro rfl; simp [isLineBreak] at hc
  rw [splitLines.eq_3 _ _ fun _ e => absurd e hr, if_neg (by simp [hc])]
  cases splitLines t <;> rfl

end Text

namespace Document

open LiterateConfig.Text

/-! ## The mark -/

def byteOrderMark : Char := '\uFEFF'

/-- A text with a byte-order mark in front. -/
def marked (text : String) : String := String.ofList (byteOrderMark :: text.toList)

theorem isBlank_byteOrderMark : isBlank byteOrderMark = false := by decide

/-- **Behind a byte-order mark no line opens a fence or names a section.** -/
theorem plain_mark (line : List Char) : Plain (byteOrderMark :: line) := by
  have hstart : stripStart (byteOrderMark :: line) = byteOrderMark :: line :=
    dropWhile_eq_self fun c hc => by cases hc; exact isBlank_byteOrderMark
  have hhead : ∀ c r, c ≠ byteOrderMark → ¬c :: r <+: strip (byteOrderMark :: line) := by
    intro c r hc hp
    have hp := hp.trans (strip_isPrefix _)
    rw [hstart, List.cons_prefix_cons] at hp
    exact hc hp.1
  constructor
  · exact opening?_eq_none (hhead _ _ (by decide)) (hhead _ _ (by decide))
  · have hmargin : dropShortMargin (byteOrderMark :: line) = byteOrderMark :: line := by
      simp [dropShortMargin, isBlank_byteOrderMark]
    have hhash : (byteOrderMark == '#') = false := by decide
    simp [title?, hmargin, behindHashes?, hhash]

/-- A document with the mark gives what its lines from the second on give. -/
theorem extractLines_marked (languages : List String) (text : String) :
    extractLines languages (Text.lines (marked text)) =
      extractLines languages (Text.lines text).tail := by
  have hlines : (Text.lines (marked text)).map String.toList =
      (byteOrderMark :: (splitLines text.toList).headD []) :: (splitLines text.toList).tail := by
    rw [toList_lines, marked, String.toList_ofList, splitLines_cons (by decide)]
  have htail : (Text.lines text).tail.map String.toList = (splitLines text.toList).tail := by
    rw [List.map_tail, toList_lines]
  rw [extractLines_eq_filter, extractLines_eq_filter, hlines, htail, scan_plain (plain_mark _)]

/-- A plain first line can be left out. -/
theorem extractLines_tail_of_plain (languages : List String) {lines : List String}
    (h : ∀ line ∈ lines.head?, Plain line.toList) :
    extractLines languages lines.tail = extractLines languages lines := by
  cases lines with
  | nil => rfl
  | cons line rest =>
    rw [extractLines_eq_filter, extractLines_eq_filter, List.map_cons, scan_plain (h line rfl),
      List.tail_cons]

/-- A fence on the first line is one of those that are extracted. -/
theorem length_extractLines_of_oneLine {languages : List String} {o : Opening}
    (hnames : o.Names languages) (hone : o.isOneLine = true) {lines : List String}
    (h : ∃ line ∈ lines.head?, opening? (strip line.toList) = some o) :
    (extractLines languages lines).length = (extractLines languages lines.tail).length + 1 := by
  obtain ⟨line, hline, ho⟩ := h
  cases lines with
  | nil => cases hline
  | cons l rest =>
    cases hline
    rw [extractLines_eq_filter, List.map_cons, scan_oneLine ho hone,
      List.filter_cons_of_pos (accepts_eq_true hnames _ _), List.map_cons, List.length_cons,
      List.tail_cons, extractLines_eq_filter]

end Document

/-! ## Blocks -/

namespace Block

open LiterateConfig.Document (Opening Plain extractLines extractLines_marked
  extractLines_tail_of_plain length_extractLines_of_oneLine marked opening?)
open LiterateConfig.Files (Path)

/-- What a block declares: its normalized text, in its section. -/
def declared (b : Block) : String × Document.Section := (b.normalized, b.within)

theorem map_declared_extract (languages : List String) (documents : List (Path × String))
    (w : World) :
    (extract languages documents w).1.map declared = documents.flatMap fun d =>
      (extractLines languages (Text.lines d.2)).map fun f => (normalize f.1, f.2) :=
  map_fromDocuments (f := fun _ x => (normalize x.1, x.2)) (fun _ _ _ => rfl) languages 1 documents

/-- Documents with a byte-order mark in front of each. -/
def markedAll (documents : List (Path × String)) : List (Path × String) :=
  documents.map fun d => (d.1, marked d.2)

theorem map_declared_extract_markedAll (languages : List String)
    (documents : List (Path × String)) (w : World) :
    (extract languages (markedAll documents) w).1.map declared = documents.flatMap fun d =>
      (extractLines languages (Text.lines d.2).tail).map fun f => (normalize f.1, f.2) := by
  rw [map_declared_extract, markedAll, List.flatMap_map]
  refine List.flatMap_congr fun d _ => ?_
  rw [extractLines_marked]

/-- **What a byte-order mark in front of documents does.** Each document declares what its
lines from the second on declare. If no first line opens a fence or names a section, there
are the same number of blocks with the same normalized texts and sections as without the
marks. But a fence of one of the languages that stands on the first line of a document is
not found: there is one block less. -/
theorem extract_marked (languages : List String) :
    (∀ (documents : List (Path × String)) (w : World),
      (extract languages (markedAll documents) w).1.map declared = documents.flatMap fun d =>
        (extractLines languages (Text.lines d.2).tail).map fun f => (normalize f.1, f.2)) ∧
    (∀ (documents : List (Path × String)) (w w' : World),
      (∀ d ∈ documents, ∀ line ∈ (Text.lines d.2).head?, Plain line.toList) →
      (extract languages (markedAll documents) w).1.map declared =
        (extract languages documents w').1.map declared) ∧
    ∀ (d : Path × String) (w w' : World) (o : Opening), o.Names languages → o.isOneLine = true →
      (∃ line ∈ (Text.lines d.2).head?, opening? (Text.strip line.toList) = some o) →
      (extract languages [d] w').1.length = (extract languages (markedAll [d]) w).1.length + 1 := by
  refine ⟨map_declared_extract_markedAll languages, fun documents w w' h => ?_,
    fun d w w' o hnames hone h => ?_⟩
  · rw [map_declared_extract_markedAll, map_declared_extract]
    refine List.flatMap_congr fun d hd => ?_
    rw [extractLines_tail_of_plain languages (h d hd)]
  · have hmarked := congrArg List.length (map_declared_extract_markedAll languages [d] w)
    have hbare := congrArg List.length (map_declared_extract languages [d] w')
    simp only [List.length_map, List.flatMap_cons, List.flatMap_nil, List.append_nil]
      at hmarked hbare
    rw [hmarked, hbare, length_extractLines_of_oneLine hnames hone h]

/-- A document that starts with a title, and one that starts with a blank line. -/
def titledDocuments : List (Path × String) := [
  (⟨1, ["a.md"]⟩, "# Notes\n# Main\n```python\na = 1\n```\n"),
  (⟨1, ["b.md"]⟩, "\r\n~~~python\nb = 2\n~~~")]

/-- A document with a fence on its first line. -/
def fencedDocument : Path × String := (⟨1, ["c.md"]⟩, "```Python c = 3```\n```python\nd = 4\n```\n")

theorem extract_marked_samples :
    (extract ["python"] (markedAll titledDocuments) bareWorld).1.map declared =
        [("a = 1", .main), ("b = 2", .unspecified)] ∧
      (extract ["python"] (markedAll [fencedDocument]) bareWorld).1.map declared =
        [("d = 4", .unspecified)] ∧
      (extract ["python"] [fencedDocument] bareWorld).1.length = 2 := by
  have hplain : ∀ d ∈ titledDocuments, ∀ line ∈ (Text.lines d.2).head?, Plain line.toList := by
    decide +kernel
  have hnames : Opening.Names ["python"] ⟨.backtick, 3, "Python c = 3```".toList⟩ :=
    ⟨"Python".toList, by decide +kernel, by decide +kernel⟩
  have hopens : ∃ line ∈ (Text.lines fencedDocument.2).head?,
      opening? (Text.strip line.toList) = some ⟨.backtick, 3, "Python c = 3```".toList⟩ :=
    ⟨"```Python c = 3```", by decide +kernel, by decide +kernel⟩
  have hfirst := (extract_marked ["python"]).1 [fencedDocument] bareWorld
  refine ⟨?_, hfirst.trans (by decide +kernel), ?_⟩
  · rw [(extract_marked ["python"]).2.1 titledDocuments bareWorld bareWorld hplain]
    decide +kernel
  · rw [(extract_marked ["python"]).2.2 _ bareWorld bareWorld _ hnames (by decide) hopens]
    decide +kernel

end Block

end LiterateConfig
