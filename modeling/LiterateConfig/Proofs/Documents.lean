import LiterateConfig.Proofs.Resilience

/-!
# What keeps documents from being read

That documents are missing or blank is an error of its own, which names the path that
was looked at or the number of the documents. Three other things end the reading of
a project: a path in the home of someone unknown, a path that is longer than a file system
allows, and a document that is not UTF-8.

**Outlines.** A document may be the log file itself, which grows while documents are read.
What is written at its end is text, so it stays a file, and it stays one that is UTF-8 or one
that is not. `SameOutline` says that two disks agree in that.

**Obstacles.** `Obstacle d root document e` says what stands behind an error that is none of
the documents' own.

Results:
* `World.Logs.write`: writing to the log keeps the log file and the outline of the disk;
* `discover_error_iff`, `readBytes_of_discover`: what is found is a file;
* `readEach_error_iff`: reading ends at the first document that is no text;
* `extract_error_iff`: extraction ends with an error of the documents, or there is an
  obstacle; looking at a project and running it end with the same error.
-/
namespace LiterateConfig

open LiterateConfig.Files (Disk Node Path)
open LiterateConfig.Install (Session)

namespace Files

namespace Disk

/-! ## Files that are found -/

theorem isFile_eq_true {d : Disk} {p : Path} (h : d.isFile p = .ok true) :
    ∃ place content, d.locate p = .ok place ∧ d.node? place = some (.file content) := by
  unfold isFile find at h
  split at h
  · next place hl =>
    cases hn : d.node? place with
    | none => rw [hn] at h; cases h
    | some node =>
      cases node with
      | directory => rw [hn] at h; cases h
      | file content => exact ⟨place, content, hl, hn⟩
  · cases h
  · cases h

/-- What is asked about a path is answered, unless the path is too long. -/
theorem map_find_error_iff {β : Type} {d : Disk} {p : Path} (f : Option Node → β) {e : Problem} :
    (d.find p).map f = .error e ↔ e = .nameTooLong ∧ d.locate p = .error .nameTooLong := by
  unfold find
  split
  · next h => simp [h, Except.map]
  · next h => simp [h, Except.map, eq_comm]
  · next hne h =>
    refine iff_of_false nofun fun ⟨_, h'⟩ => ?_
    rw [h'] at h
    cases h
    exact hne rfl

theorem isFile_error_iff {d : Disk} {p : Path} {e : Problem} :
    d.isFile p = .error e ↔ e = .nameTooLong ∧ d.locate p = .error .nameTooLong :=
  map_find_error_iff _

theorem isDirectory_error_iff {d : Disk} {p : Path} {e : Problem} :
    d.isDirectory p = .error e ↔ e = .nameTooLong ∧ d.locate p = .error .nameTooLong :=
  map_find_error_iff _

theorem isFile_of_mem_filesAmong {d : Disk} {ps found : List Path}
    (h : d.filesAmong ps = .ok found) {p : Path} (hp : p ∈ found) : d.isFile p = .ok true := by
  induction ps generalizing found with
  | nil => cases h; cases hp
  | cons q rest ih =>
    rw [filesAmong] at h
    cases hq : d.isFile q with
    | error e => rw [hq] at h; cases h
    | ok there =>
      cases hrest : d.filesAmong rest with
      | error e => rw [hq, hrest] at h; cases h
      | ok others =>
        rw [hq, hrest] at h
        cases h
        cases there with
        | false => exact ih hrest hp
        | true =>
          rcases List.mem_cons.1 hp with rfl | hp
          · exact hq
          · exact ih hrest hp

theorem filesAmong_error_iff {d : Disk} {ps : List Path} {e : Problem} :
    d.filesAmong ps = .error e ↔
      e = .nameTooLong ∧ ∃ p ∈ ps, d.locate p = .error .nameTooLong := by
  induction ps with
  | nil => exact iff_of_false nofun fun ⟨_, _, hp, _⟩ => nomatch hp
  | cons q rest ih =>
    rw [filesAmong]
    cases hq : d.isFile q with
    | error y =>
      obtain ⟨rfl, hlong⟩ := isFile_error_iff.1 hq
      show (Except.error Problem.nameTooLong : Except Problem _) = .error e ↔ _
      rw [Except.error.injEq, eq_comm]
      exact (and_iff_left ⟨q, List.mem_cons_self, hlong⟩).symm
    | ok there =>
      have hfirst : d.locate q ≠ .error .nameTooLong := fun hlong =>
        nomatch hq.symm.trans (isFile_error_iff.2 ⟨rfl, hlong⟩)
      rw [show (∃ p ∈ q :: rest, d.locate p = .error .nameTooLong) ↔
        ∃ p ∈ rest, d.locate p = .error .nameTooLong by simp [hfirst], ← ih]
      cases d.filesAmong rest with
      | error y => exact Iff.rfl
      | ok others => exact iff_of_false nofun nofun

theorem readBytes_of_file {d : Disk} {p : Path} {place : List String} {content : ByteArray}
    (hp : d.locate p = .ok place) (hn : d.node? place = some (.file content)) :
    d.readBytes p = .ok content := by
  unfold readBytes
  simp only [hp, hn, bind, Except.bind]

theorem readText_of_readBytes {d : Disk} {p : Path} {content : ByteArray}
    (h : d.readBytes p = .ok content) : d.readText p = decode content := by
  unfold readText
  rw [h]
  rfl

theorem decode_error_iff {content : ByteArray} {e : Problem} :
    decode content = .error e ↔ e = .undecodable ∧ ¬ content.IsValidUTF8 := by
  unfold decode String.fromUTF8?
  by_cases h : content.IsValidUTF8
  · simp [h]
  · simp [h, eq_comm]

end Disk

/-! ## Outlines -/

/-- A text at the end of a file changes nothing in whether the file is text. -/
theorem isValidUTF8_append_iff (content : ByteArray) (s : String) :
    (content ++ s.toUTF8).IsValidUTF8 ↔ content.IsValidUTF8 := by
  refine ⟨fun h => ?_, fun h => h.append s.isValidUTF8⟩
  obtain ⟨t, ht⟩ : ∃ t : String, t.toByteArray = content ++ s.toUTF8 := ⟨⟨_, h⟩, rfl⟩
  have hsize : t.utf8ByteSize = content.size + s.toUTF8.size := by
    rw [← String.size_toByteArray, ht, ByteArray.size_append]
  have hend : (String.Pos.Raw.mk content.size) ≤ t.rawEndPos := by
    rw [String.Pos.Raw.le_iff]
    show content.size ≤ t.utf8ByteSize
    omega
  have hvalid : String.Pos.Raw.IsValid t ⟨content.size⟩ := by
    refine String.Pos.Raw.isValid_iff_isValidUTF8_extract_utf8ByteSize.2 ⟨hend, ?_⟩
    rw [ht, ByteArray.extract_append_eq_right rfl hsize]
    exact s.isValidUTF8
  have hfront := (String.Pos.Raw.isValid_iff_isValidUTF8_extract_zero.1 hvalid).2
  rwa [ht, ByteArray.extract_append_eq_left rfl] at hfront

/-- Both nodes are directories, or files of which both are text or none is. -/
inductive Node.Alike : Node → Node → Prop
  | directory : Alike .directory .directory
  | file {content content' : ByteArray} (h : content'.IsValidUTF8 ↔ content.IsValidUTF8) :
    Alike (.file content) (.file content')

theorem Node.Alike.refl : ∀ n : Node, Alike n n
  | .directory => .directory
  | .file _ => .file Iff.rfl

theorem Node.Alike.trans {n₁ n₂ n₃ : Node} : Alike n₁ n₂ → Alike n₂ n₃ → Alike n₁ n₃
  | .directory, .directory => .directory
  | .file h, .file h' => .file (h'.trans h)

namespace Disk

/-- Nodes of two disks that stand at the same place. -/
def Beside (p q : List String × Node) : Prop := q.1 = p.1 ∧ p.2.Alike q.2

/-- The disks agree in everything but what is in the files that are text, or that are not. -/
structure SameOutline (d d' : Disk) : Prop where
  here : d'.here = d.here
  home : d'.home = d.home
  entries : List.Forall₂ Beside d.entries d'.entries

namespace SameOutline

variable {d d' : Disk}

theorem refl (d : Disk) : SameOutline d d :=
  ⟨rfl, rfl, List.forall₂_same.2 fun _ _ => ⟨rfl, .refl _⟩⟩

theorem trans {d₁ d₂ d₃ : Disk} (h : SameOutline d₁ d₂) (h' : SameOutline d₂ d₃) :
    SameOutline d₁ d₃ := by
  refine ⟨h'.here.trans h.here, h'.home.trans h.home, ?_⟩
  have h₁ := h.entries
  have h₂ := h'.entries
  generalize d₁.entries = es₁ at h₁
  generalize d₂.entries = es₂ at h₁ h₂
  generalize d₃.entries = es₃ at h₂
  induction h₁ generalizing es₃ with
  | nil => cases h₂; exact .nil
  | cons hp hrest ih =>
    cases h₂ with
    | cons hq hrest' => exact .cons ⟨hq.1.trans hp.1, hp.2.trans hq.2⟩ (ih _ hrest')

theorem node? (h : SameOutline d d') (place : List String) :
    Option.Rel Node.Alike (d.node? place) (d'.node? place) := by
  have hentries := h.entries
  unfold Disk.node?
  split
  · exact .some .directory
  · generalize d.entries = es at hentries
    generalize d'.entries = es' at hentries
    induction hentries with
    | nil => exact .none
    | cons hp hrest ih =>
      rw [Keyed.get?, Keyed.get?, hp.1]
      split
      · exact .some hp.2
      · exact ih

theorem walk (h : SameOutline d d') (place names : List String) :
    d'.walk place names = d.walk place names := by
  induction names generalizing place with
  | nil => rfl
  | cons n rest ih =>
    rw [Disk.walk, Disk.walk]
    have hnode := h.node? place
    generalize d.node? place = node at hnode
    generalize d'.node? place = node' at hnode
    cases hnode with
    | none => rfl
    | some hn =>
      cases hn with
      | file _ => rfl
      | directory =>
        dsimp only
        rw [ih, ih]

theorem locate (h : SameOutline d d') (p : Path) : d'.locate p = d.locate p := by
  unfold Disk.locate
  dsimp only
  rw [h.here, h.walk]

theorem find (h : SameOutline d d') {β : Type} {f : Option Node → β}
    (hf : ∀ {n n'}, Option.Rel Node.Alike n n' → f n' = f n) (p : Path) :
    (d'.find p).map f = (d.find p).map f := by
  unfold Disk.find
  rw [h.locate]
  split
  · exact congrArg Except.ok (hf (h.node? _))
  · rfl
  · rfl

theorem isFile (h : SameOutline d d') (p : Path) : d'.isFile p = d.isFile p := by
  refine h.find (fun hn => ?_) p
  rcases hn with ⟨⟨⟩ | ⟨_⟩⟩ | _ <;> rfl

theorem isDirectory (h : SameOutline d d') (p : Path) : d'.isDirectory p = d.isDirectory p := by
  refine h.find (fun hn => ?_) p
  rcases hn with ⟨⟨⟩ | ⟨_⟩⟩ | _ <;> rfl

theorem names (h : SameOutline d d') (dir : Path) (p : String → Bool) :
    d'.names dir p = d.names dir p := by
  unfold Disk.names
  rw [h.locate]
  split
  · rfl
  · congr 2
    have hentries := h.entries
    generalize d.entries = es at hentries
    generalize d'.entries = es' at hentries
    induction hentries with
    | nil => rfl
    | @cons a b _ _ hp _ ih =>
      obtain ⟨k, _⟩ := a
      obtain ⟨k', _⟩ := b
      obtain rfl : k' = k := hp.1
      rw [List.filterMap_cons, List.filterMap_cons, ih]

theorem filesAmong (h : SameOutline d d') (ps : List Path) :
    d'.filesAmong ps = d.filesAmong ps := by
  induction ps with
  | nil => rfl
  | cons p rest ih => rw [Disk.filesAmong, Disk.filesAmong, h.isFile, ih]

theorem files (h : SameOutline d d') (dir : Path) (p : String → Bool) :
    d'.files dir p = d.files dir p := by
  unfold Disk.files
  rw [h.names, h.filesAmong]

theorem readText_error_iff (h : SameOutline d d') (p : Path) {e : Problem} :
    d'.readText p = .error e ↔ d.readText p = .error e := by
  unfold Disk.readText Disk.readBytes
  rw [h.locate]
  cases d.locate p with
  | error _ => exact Iff.rfl
  | ok place =>
    have hnode := h.node? place
    simp only [bind, Except.bind]
    generalize d.node? place = node at hnode
    generalize d'.node? place = node' at hnode
    cases hnode with
    | none => exact Iff.rfl
    | some hn =>
      cases hn with
      | directory => exact Iff.rfl
      | file hvalid =>
        dsimp only
        rw [decode_error_iff, decode_error_iff, hvalid]

theorem put {d : Disk} {place : List String} {node node' : Node}
    (h : d.node? place = some node) (hplace : place ≠ []) (hn : node.Alike node') :
    SameOutline d (d.put place node') := by
  refine ⟨rfl, rfl, ?_⟩
  unfold Disk.node? at h
  rw [if_neg hplace] at h
  show List.Forall₂ Beside d.entries (d.entries.put place node')
  generalize d.entries = es at h
  induction es with
  | nil => cases h
  | cons p rest ih =>
    rw [Keyed.get?] at h
    rw [Keyed.put]
    split at h
    · next hp =>
      cases h
      rw [if_pos hp]
      exact .cons ⟨rfl, hn⟩ (List.forall₂_same.2 fun _ _ => ⟨rfl, .refl _⟩)
    · next hp =>
      rw [if_neg hp]
      exact .cons ⟨rfl, .refl _⟩ (ih h)

end SameOutline

end Disk

end Files

/-! ## Writing to the log -/

/-- If records go to a log file, it is a file. -/
def World.Logs (w : World) : Prop :=
  ∀ place, w.logFile = some place → ∃ content, w.disk.node? place = some (.file content)

theorem World.Logs.write {w : World} (hw : w.Logs) (r : Log.Record) :
    (w.write r).Logs ∧ Disk.SameOutline w.disk (w.write r).disk := by
  unfold World.write
  cases hlog : w.logFile with
  | none => exact ⟨nofun, .refl _⟩
  | some place =>
    obtain ⟨content, hn⟩ := hw place hlog
    have hplace : place ≠ [] := by
      rintro rfl
      cases hn
    simp only [hn]
    refine ⟨fun q hq => ?_, Disk.SameOutline.put hn hplace
      (.file (Files.isValidUTF8_append_iff content r.fileText))⟩
    obtain rfl : place = q := Option.some.inj hq
    exact ⟨_, Disk.node?_put_self hplace _ _⟩

/-- The log file stays a file, and the outline of the disk is what it was. -/
def Tells (w w' : World) : Prop := w.Logs → w'.Logs ∧ Disk.SameOutline w.disk w'.disk

theorem quiet_tells : Quiet Tells where
  refl _ hw := ⟨hw, .refl _⟩
  trans h h' hw := ⟨(h' (h hw).1).1, (h hw).2.trans (h' (h hw).1).2⟩
  write _ r hw := hw.write r

/-! ## Reading documents -/

namespace Document

/-- The path that is looked at: the named document, or the directory of all of them. -/
def sought? (home root : Path) (document : String) : Option Path :=
  match root.expandHome? home with
  | none => none
  | some root =>
    if document.isEmpty then some root
    else ((Path.ofString document).expandHome? home).map root.join

/-- A path that is looked up to find documents. -/
inductive LookedUp (d : Disk) (root : Path) (document : String) : Path → Prop
  | sought {p : Path} (h : sought? d.home root document = some p) : LookedUp d root document p
  | listed {dir : Path} {name : String} (hall : document.isEmpty = true)
      (h : sought? d.home root document = some dir) (hdir : d.isDirectory dir = .ok true)
      (hname : name ∈ d.names dir isDocumentName) : LookedUp d root document (dir.child name)

/-- What is in the way of reading documents, other than that there are none or blank ones. -/
inductive Obstacle (d : Disk) (root : Path) (document : String) : Problem → Prop
  /-- The path is in the home of someone unknown. -/
  | stranger (h : sought? d.home root document = none) : Obstacle d root document .homeUnknown
  /-- A path that is looked up is too long, or has a name that is. -/
  | long {p : Path} (h : LookedUp d root document p) (hlong : d.locate p = .error .nameTooLong) :
    Obstacle d root document (.unusable .nameTooLong)
  /-- One of the documents is not UTF-8. -/
  | bytes {ps : List Path} {p : Path} {content : ByteArray}
      (h : discover d root document = .ok ps) (hp : p ∈ ps) (hcontent : d.readBytes p = .ok content)
      (hbytes : ¬ content.IsValidUTF8) : Obstacle d root document (.unusable .undecodable)

theorem discover_congr {d d' : Disk} (h : d.SameOutline d') (root : Path) (document : String) :
    discover d' root document = discover d root document := by
  unfold discover
  simp only [h.home, h.isDirectory, h.isFile, h.files]

/-- How discovery ends where the home is known. -/
theorem discover_of_sought {d : Disk} {root p : Path} {document : String}
    (h : sought? d.home root document = some p) :
    discover d root document =
      if document.isEmpty then
        orUnusable (d.isDirectory p) >>= fun there =>
          if there then
            orUnusable (d.files p isDocumentName) >>= fun found =>
              match found with
              | [] => .error (.noDocuments p)
              | documents => .ok documents
          else .error (.directoryNotFound p)
      else
        orUnusable (d.isFile p) >>= fun there =>
          if there then .ok [p]
          else .error (.documentNotFound p) := by
  unfold sought? at h
  unfold discover
  cases hroot : root.expandHome? d.home with
  | none => rw [hroot] at h; cases h
  | some r =>
    rw [hroot] at h
    dsimp only at h ⊢
    split at h
    · next hall =>
      cases h
      exact (if_pos hall).trans (if_pos hall).symm
    · next hnamed =>
      rw [if_neg hnamed, if_neg hnamed]
      cases hdoc : (Path.ofString document).expandHome? d.home with
      | none => rw [hdoc] at h; cases h
      | some q =>
        rw [hdoc] at h
        cases h
        rfl

theorem discover_of_stranger {d : Disk} {root : Path} {document : String}
    (h : sought? d.home root document = none) : discover d root document = .error .homeUnknown := by
  unfold sought? at h
  unfold discover
  cases hroot : root.expandHome? d.home with
  | none => rfl
  | some r =>
    rw [hroot] at h
    dsimp only at h ⊢
    split at h
    · cases h
    · next hnamed =>
      rw [if_neg hnamed]
      cases hdoc : (Path.ofString document).expandHome? d.home with
      | none => rfl
      | some q => rw [hdoc] at h; cases h

/-- What a problem with files comes to as the first thing that is asked. -/
theorem orUnusable_bind_error_iff {α β : Type} {x : Except Files.Problem α}
    {f : α → Except Problem β} {e : Problem} :
    (orUnusable x >>= f) = .error e ↔
      (∃ y, x = .error y ∧ e = .unusable y) ∨ ∃ a, x = .ok a ∧ f a = .error e := by
  cases x with
  | error y =>
    show (Except.error (Problem.unusable y) : Except Problem β) = .error e ↔ _
    simp [eq_comm]
  | ok a =>
    show f a = .error e ↔ _
    simp

/-- **Discovery** fails with an error of the documents, or a path cannot be looked up. -/
theorem discover_error_iff {d : Disk} {root : Path} {document : String} {e : Problem}
    (he : e.message? = none) :
    discover d root document = .error e ↔
      e = .homeUnknown ∧ sought? d.home root document = none ∨
        e = .unusable .nameTooLong ∧
          ∃ p, LookedUp d root document p ∧ d.locate p = .error .nameTooLong := by
  constructor
  · intro h
    cases hs : sought? d.home root document with
    | none =>
      rw [discover_of_stranger hs] at h
      cases h
      exact Or.inl ⟨rfl, rfl⟩
    | some p =>
      rw [discover_of_sought hs] at h
      refine Or.inr ?_
      split at h
      · next hall =>
        obtain ⟨y, hy, rfl⟩ | ⟨there, hthere, h⟩ := orUnusable_bind_error_iff.1 h
        · obtain ⟨rfl, hlong⟩ := Disk.isDirectory_error_iff.1 hy
          exact ⟨rfl, p, .sought hs, hlong⟩
        · cases there with
          | false => cases h; cases he
          | true =>
            obtain ⟨y, hy, rfl⟩ | ⟨found, -, h⟩ := orUnusable_bind_error_iff.1 h
            · obtain ⟨rfl, q, hq, hlong⟩ := Disk.filesAmong_error_iff.1 hy
              obtain ⟨name, hname, rfl⟩ := List.mem_map.1 hq
              exact ⟨rfl, _, .listed hall hs hthere hname, hlong⟩
            · cases found <;> cases h
              cases he
      · obtain ⟨y, hy, rfl⟩ | ⟨there, -, h⟩ := orUnusable_bind_error_iff.1 h
        · obtain ⟨rfl, hlong⟩ := Disk.isFile_error_iff.1 hy
          exact ⟨rfl, p, .sought hs, hlong⟩
        · cases there <;> cases h
          cases he
  · rintro (⟨rfl, hs⟩ | ⟨rfl, p, hp, hlong⟩)
    · exact discover_of_stranger hs
    · cases hp with
      | sought hs =>
        rw [discover_of_sought hs]
        split
        · exact orUnusable_bind_error_iff.2
            (Or.inl ⟨_, Disk.isDirectory_error_iff.2 ⟨rfl, hlong⟩, rfl⟩)
        · exact orUnusable_bind_error_iff.2
            (Or.inl ⟨_, Disk.isFile_error_iff.2 ⟨rfl, hlong⟩, rfl⟩)
      | listed hall hs hdir hname =>
        rw [discover_of_sought hs, if_pos hall]
        refine orUnusable_bind_error_iff.2 (Or.inr ⟨true, hdir, ?_⟩)
        refine orUnusable_bind_error_iff.2 (Or.inl ⟨_, Disk.filesAmong_error_iff.2 ⟨rfl, _, ?_, hlong⟩, rfl⟩)
        exact List.mem_map_of_mem hname

/-- **A document that is found is a file**, whose bytes are read. -/
theorem readBytes_of_discover {d : Disk} {root : Path} {document : String} {ps : List Path}
    (h : discover d root document = .ok ps) {p : Path} (hp : p ∈ ps) :
    ∃ content, d.readBytes p = .ok content := by
  have hfile : d.isFile p = .ok true := by
    cases hs : sought? d.home root document with
    | none => rw [discover_of_stranger hs] at h; cases h
    | some q =>
      rw [discover_of_sought hs] at h
      split at h
      · cases hdir : d.isDirectory q with
        | error e => rw [hdir] at h; cases h
        | ok there =>
          rw [hdir] at h
          cases there with
          | false => cases h
          | true =>
            cases hfound : d.files q isDocumentName with
            | error e => simp only [hfound] at h; cases h
            | ok found =>
              simp only [hfound] at h
              cases found with
              | nil => cases h
              | cons r rest =>
                cases h
                exact Disk.isFile_of_mem_filesAmong hfound hp
      · cases hthere : d.isFile q with
        | error e => rw [hthere] at h; cases h
        | ok there =>
          rw [hthere] at h
          cases there with
          | false => cases h
          | true =>
            cases h
            rw [List.mem_singleton.1 hp, hthere]
  obtain ⟨place, content, hl, hn⟩ := Disk.isFile_eq_true hfile
  exact ⟨content, Disk.readBytes_of_file hl hn⟩

/-- **Reading documents** ends at the first of them that is no text, if no other error
can come up. -/
theorem readEach_error_iff {ps : List Path} {w : World} (hw : w.Logs) {x : Files.Problem}
    (h : ∀ p ∈ ps, ∀ y, w.disk.readText p = .error y → y = x) {e : Problem} :
    (readEach ps w).1 = .error e ↔ e = .unusable x ∧ ∃ p ∈ ps, w.disk.readText p = .error x := by
  induction ps generalizing w with
  | nil => exact iff_of_false nofun fun ⟨_, p, hp, _⟩ => nomatch hp
  | cons p rest ih =>
    obtain ⟨hp, hrest⟩ := List.forall_mem_cons.1 h
    rw [readEach, Try.getWorld_bind]
    cases ht : w.disk.readText p with
    | error y =>
      obtain rfl := hp y ht
      show (Except.error (Problem.unusable y) : Except Problem _) = .error e ↔ _
      rw [Except.error.injEq, eq_comm]
      exact (and_iff_left ⟨p, List.mem_cons_self, ht⟩).symm
    | ok text =>
      have hlater : (∃ q ∈ p :: rest, w.disk.readText q = .error x) ↔
          ∃ q ∈ rest, w.disk.readText q = .error x := by
        simp [ht]
      rw [hlater]
      dsimp only
      split
      · rw [Try.act_bind]
        have hmove : Tells w
            (note .warning "extractor" s!"Skipping empty document {p.toString}" false w).2 :=
          quiet_tells.note w
        have hnoted := hmove hw
        rw [ih hnoted.1 fun q hq y hy => hrest q hq y ((hnoted.2.readText_error_iff q).1 hy)]
        simp only [hnoted.2.readText_error_iff]
      · rw [← ih hw hrest]
        rw [Try.bind_apply]
        rcases readEach rest w with ⟨_ | _, _⟩
        · rfl
        · exact iff_of_false nofun nofun

theorem read_error_iff {ps : List Path} {w : World} {e : Problem} (he : e.message? = none) :
    (read ps w).1 = .error e ↔ (readEach ps w).1 = .error e := by
  unfold read
  rw [Try.bind_apply]
  rcases readEach ps w with ⟨y | loaded, w₁⟩
  · exact Iff.rfl
  · refine iff_of_false (fun h => ?_) nofun
    dsimp only at h
    split at h
    · cases h
      cases he
    · cases h

/-- Of a document that is found only the spelling can be wrong. -/
theorem readText_of_discover {d : Disk} {root : Path} {document : String} {ps : List Path}
    (h : discover d root document = .ok ps) {p : Path} (hp : p ∈ ps) {e : Files.Problem}
    (he : d.readText p = .error e) :
    e = .undecodable ∧ ∃ content, d.readBytes p = .ok content ∧ ¬ content.IsValidUTF8 := by
  obtain ⟨content, hcontent⟩ := readBytes_of_discover h hp
  rw [Disk.readText_of_readBytes hcontent] at he
  obtain ⟨rfl, hbytes⟩ := Disk.decode_error_iff.1 he
  exact ⟨rfl, content, hcontent, hbytes⟩

/-- Where an obstacle is met: in finding the documents, or in reading them. -/
theorem obstacle_iff {d : Disk} {root : Path} {document : String} {e : Problem}
    (he : e.message? = none) :
    Obstacle d root document e ↔
      discover d root document = .error e ∨
        ∃ ps, discover d root document = .ok ps ∧ e = .unusable .undecodable ∧
          ∃ p ∈ ps, d.readText p = .error .undecodable := by
  constructor
  · intro h
    cases h with
    | stranger h => exact Or.inl (discover_of_stranger h)
    | long h hlong => exact Or.inl ((discover_error_iff he).2 (Or.inr ⟨rfl, _, h, hlong⟩))
    | bytes h hp hcontent hbytes =>
      refine Or.inr ⟨_, h, rfl, _, hp, ?_⟩
      rw [Disk.readText_of_readBytes hcontent]
      exact Disk.decode_error_iff.2 ⟨rfl, hbytes⟩
  · rintro (h | ⟨ps, h, rfl, p, hp, htext⟩)
    · obtain ⟨rfl, hs⟩ | ⟨rfl, p, hp, hlong⟩ := (discover_error_iff he).1 h
      · exact .stranger hs
      · exact .long hp hlong
    · obtain ⟨-, content, hcontent, hbytes⟩ := readText_of_discover h hp htext
      exact .bytes h hp hcontent hbytes

/-- Obstacles do not depend on what is in the files that are text. -/
theorem obstacle_congr {d d' : Disk} (h : d.SameOutline d') {root : Path} {document : String}
    {e : Problem} (he : e.message? = none) :
    Obstacle d' root document e ↔ Obstacle d root document e := by
  simp only [obstacle_iff he, discover_congr h, h.readText_error_iff]

end Document

namespace Project

variable {s : Settings} {w : World}

/-! ## Extraction -/

/-- Extraction has errors with documents only. -/
theorem extract_error {f : Fault} (h : (extract s w).1 = .error f) : ∃ e, f = .documents e := by
  unfold extract at h
  rw [Try.getWorld_bind] at h
  cases hd : Document.discover w.disk s.root s.document with
  | error e =>
    rw [hd] at h
    cases h
    exact ⟨e, rfl⟩
  | ok ps =>
    rw [hd] at h
    dsimp only at h
    rw [Try.bind_apply, Try.adapt_apply] at h
    rcases hr : Document.read ps w with ⟨e | texts, w₁⟩ <;> rw [hr] at h
    · cases h
      exact ⟨e, rfl⟩
    · cases h

/-- An error that is none of the documents' own has an obstacle behind it. -/
theorem extract_obstacle_iff (hw : w.Logs) {e : Document.Problem} (he : e.message? = none) :
    (extract s w).1 = .error (.documents e) ↔ Document.Obstacle w.disk s.root s.document e := by
  rw [Document.obstacle_iff he]
  unfold extract
  rw [Try.getWorld_bind]
  cases hd : Document.discover w.disk s.root s.document with
  | error y =>
    show (Except.error (Fault.documents y) : Except Fault _) = .error (.documents e) ↔ _
    simp
  | ok ps =>
    have honly : ∀ p ∈ ps, ∀ y, w.disk.readText p = .error y → y = .undecodable :=
      fun p hp y hy => (Document.readText_of_discover hd hp hy).1
    have hread : (Document.read ps w).1 = .error e ↔
        e = .unusable .undecodable ∧ ∃ p ∈ ps, w.disk.readText p = .error .undecodable := by
      rw [Document.read_error_iff he, Document.readEach_error_iff hw honly]
    simp only [reduceCtorEq, false_or, Except.ok.injEq, exists_eq_left']
    rw [← hread, Try.bind_apply, Try.adapt_apply]
    rcases Document.read ps w with ⟨y | texts, w₁⟩
    · show (Except.error (Fault.documents y) : Except Fault _) = .error (.documents e) ↔ _
      rw [Except.error.injEq, Except.error.injEq, Fault.documents.injEq]
    · exact iff_of_false nofun nofun

/-! ## Looking at a project, and running it -/

/-- An error that does not come up later comes up at once. -/
theorem bind_error_iff {ε α β : Type} {x : Try ε α} {f : α → Try ε β} {e : ε}
    (hf : ∀ a w', (f a w').1 ≠ .error e) : ((x >>= f) w).1 = .error e ↔ (x w).1 = .error e := by
  rw [Try.bind_apply]
  rcases x w with ⟨y | a, w₁⟩
  · show (Except.error y : Except ε β) = _ ↔ (Except.error y : Except ε α) = _
    rw [Except.error.injEq, Except.error.injEq]
  · exact iff_of_false (hf a w₁) nofun

/-- Scanning only classifies what extraction yields. -/
theorem scan_error_iff {f : Fault} : (scan s w).1 = .error f ↔ (extract s w).1 = .error f :=
  bind_error_iff fun _ _ => nofun

/-- The ledger is read when the documents have been. -/
theorem status_documents_iff {e : Document.Problem} :
    (status s w).1 = .error (.documents e) ↔ (extract s w).1 = .error (.documents e) := by
  refine bind_error_iff fun ⟨_, blocks⟩ w' h => ?_
  dsimp only at h
  rw [Try.bind_apply, Try.adapt_apply] at h
  rcases hr : Ledger.compare s.ledgerPath blocks w' with ⟨_ | _, _⟩ <;> rw [hr] at h
  · cases (show Except.error (Fault.ledger _) = Except.error (Fault.documents e) from h)
  · cases (show Except.ok _ = Except.error (Fault.documents e) from h)

/-- The stage has no errors with documents. -/
def Undisturbed {α : Type} (x : Stage α) : Prop :=
  ∀ t w e, (x t w).1.1 ≠ .error (.documents e)

namespace Undisturbed

variable {α β : Type}

/-- What comes later has no part in the errors with documents. -/
theorem bind_iff {x : Stage α} {f : α → Stage β} (hf : ∀ a, Undisturbed (f a)) {t : Session}
    {w : World} {e : Document.Problem} :
    ((x >>= f) t w).1.1 = .error (.documents e) ↔ (x t w).1.1 = .error (.documents e) := by
  rw [Using.bind_apply]
  rcases x t w with ⟨⟨y | a, t₁⟩, w₁⟩
  · show (Except.error y : Except Fault β) = _ ↔ (Except.error y : Except Fault α) = _
    rw [Except.error.injEq, Except.error.injEq]
  · exact iff_of_false (hf a t₁ w₁ e) nofun

theorem bind {x : Stage α} {f : α → Stage β} (hx : Undisturbed x) (hf : ∀ a, Undisturbed (f a)) :
    Undisturbed (x >>= f) :=
  fun t w e h => hx t w e ((bind_iff hf).1 h)

theorem pure (a : α) : Undisturbed (Pure.pure a) := fun _ _ _ => nofun

theorem act (x : Act α) : Undisturbed (liftM x) := fun _ _ _ => nofun

theorem adapt {ε : Type} (f : ε → Fault) (hf : ∀ y e, f y ≠ .documents e) (x : Using Session ε α) :
    Undisturbed (ExceptT.adapt f x) := by
  intro t w e h
  rw [Using.adapt_apply] at h
  cases hr : (x t w).1.1 <;> rw [hr] at h
  · exact hf _ e (Except.error.inj h)
  · cases h

theorem adaptTry {ε : Type} (f : ε → Fault) (hf : ∀ y e, f y ≠ .documents e) (x : Try ε α) :
    Undisturbed (liftM (ExceptT.adapt f x : Try Fault α)) :=
  adapt f hf (liftM x)

theorem raising (x : Using Session Script.Raised α) : Undisturbed (raising x) :=
  adapt .raised (fun _ _ => nofun) x

theorem writing (x : Try Files.Problem α) : Undisturbed (writing x) :=
  adaptTry .files (fun _ _ => nofun) x

theorem saveBlocks (s : Settings) (blocks : List Block) : Undisturbed (saveBlocks s blocks) := by
  intro t w e
  unfold Project.saveBlocks
  rw [Using.getWorld_bind]
  split
  · exact (writing _).bind (fun _ => pure _) t w e
  · exact pure _ t w e

theorem arrange (p : Project) (d : Declaration) : Undisturbed (arrange p d) := by
  unfold Project.arrange
  exact (act _).bind fun _ => (writing _).bind fun _ => (raising _).bind fun _ => pure _

theorem install (i : Install.Installer) (specs : List Component.Spec) :
    Undisturbed (install i specs) := by
  unfold Project.install
  refine (raising _).bind fun r => ?_
  split
  · exact pure _
  · exact (act _).bind fun _ => pure _

theorem registerCleanup (i : Install.Installer) (number : Nat) (specs : List Component.Spec)
    (installed : Install.NameSet) : Undisturbed (registerCleanup i number specs installed) := by
  unfold Project.registerCleanup
  refine (raising _).bind fun r => ?_
  split
  · exact pure _
  · exact act _

end Undisturbed

theorem declare_documents_iff (p : Project) (t : Session) {e : Document.Problem} :
    (declare p t w).1.1 = .error (.documents e) ↔
      (extract p.settings (started p w)).1 = .error (.documents e) := by
  unfold declare
  refine Undisturbed.bind_iff (x := liftM (extract p.settings)) fun ⟨_, blocks⟩ => ?_
  refine (Undisturbed.saveBlocks _ _).bind fun _ => ?_
  refine (Undisturbed.adaptTry .ledger (fun _ _ => nofun) _).bind fun _ => ?_
  refine (Undisturbed.act _).bind fun _ => (Undisturbed.raising _).bind fun _ => ?_
  exact (Undisturbed.act _).bind fun _ => .pure _

/-- **A run** has the errors with documents that extraction has. -/
theorem run_documents_iff (p : Project) (t : Session) {e : Document.Problem} :
    (p.run t w).1.1 = .error (.documents e) ↔
      (extract p.settings (started p w)).1 = .error (.documents e) := by
  refine Iff.trans ?_ (declare_documents_iff p t.numbered)
  unfold run newNumber
  simp only [bind_assoc, Using.getState_bind, Using.modifyState_bind, pure_bind]
  refine Undisturbed.bind_iff fun d => (Undisturbed.arrange p d).bind fun _ => ?_
  refine (Undisturbed.act _).bind fun _ => (Undisturbed.install _ _).bind fun _ => ?_
  refine (Undisturbed.registerCleanup _ _ _ _).bind fun _ => (Undisturbed.raising _).bind fun _ => ?_
  exact (Undisturbed.act _).bind fun _ => .pure _

/-- Two documents, of which the first is a byte that starts no character. -/
def garbledWorld : World where
  machine := ⟨.empty, ""⟩
  disk := {
    entries := [(["p"], .directory), (["p", "a.md"], .file ⟨#[0xff]⟩),
      (["p", "b.md"], .file "```python\nspec = ['a/a']\n```\n".toUTF8)]
    here := ⟨1, []⟩
    home := ⟨1, []⟩ }
  threshold := .info
  records := []
  logFile := none

end Project

end LiterateConfig
