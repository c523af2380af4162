import DocAudit.Command.Project
import DocAudit.Proofs.Files.Names
import DocAudit.Proofs.Markdown.Outline
import DocAudit.Proofs.Outcome

/-!
# The documents of a project

Commands go through the documents of a project in two ways: by the files below their directory, or by the
paths of these files without steps upwards, in order and without repetition. In a tree of proper names both
lead to the same files.

## Contents

* `FileTree.isDir?_of_short`, `FileTree.isDir?_eq_error_iff`: whether a directory can be looked for
* `Project.docFiles`, `Project.docs`: the files, and the resolved paths
* `Project.documentsAt_eq_ok_iff`, `Project.discover_eq_ok_iff`: the documents at a path, and at some paths
* `Project.discover_nil`, `Project.documents_eq`, `Project.mappings_eq_ok_iff`: which commands go through
  which
* `Project.exists_of_mem_docFiles`: **a document and the names of its file**
* `Project.read_of_read_resolve`: the document is the same by both paths
* `Project.nodup_docs`, `Project.shown_inj`: no document is shown twice
-/

namespace DocAudit

open Text

namespace Document

/-- A text is read in the same way wherever it stands. -/
theorem read_at {path : Path} {text : Text} {d : Document} (h : read path text = .ok d)
    (path' : Path) : read path' text = .ok { d with path := path' } := by
  obtain ⟨record, hrecord, rfl⟩ := read_ok_iff.mp h
  exact read_ok_iff.mpr ⟨record, hrecord, rfl⟩

/-- What keeps a path from being followed comes before what is in the file. -/
theorem ofFile?_of_nul {t : FileTree} {cwd path : Path} (hnul : path.refuseNul ≠ .ok ()) :
    ofFile? t cwd path = .error (.nulInPath path) := by
  unfold ofFile?
  unfold Path.refuseNul at hnul ⊢
  split
  · rfl
  · next h => exact absurd (if_neg h) hnul

/-- A file that can be looked for is read by its content. -/
theorem ofFile?_eq_match {t : FileTree} {cwd path : Path} (hnul : path.refuseNul = .ok ()) :
    ofFile? t cwd path =
      match t.content? cwd path with
      | none => .error (.unreadable path)
      | some bytes => match Utf8.decode? bytes with
        | none => .error (.notText path)
        | some text => (read path text).mapError .frontmatter := by
  unfold ofFile?
  rw [hnul]
  rfl

/-- The document in a file is the one that its content gives. -/
theorem ofFile?_eq_ok_iff {t : FileTree} {cwd path : Path} {d : Document} :
    ofFile? t cwd path = .ok d ↔ path.refuseNul = .ok () ∧
      ∃ content text, t.content? cwd path = some content ∧ Utf8.decode? content = some text ∧
        read path text = .ok d := by
  constructor
  · intro h
    by_cases hnul : path.refuseNul = .ok ()
    · rw [ofFile?_eq_match hnul] at h
      refine ⟨hnul, ?_⟩
      cases hcontent : t.content? cwd path with
      | none =>
        simp only [hcontent] at h
        cases h
      | some content =>
        cases htext : Utf8.decode? content with
        | none =>
          simp only [hcontent, htext] at h
          cases h
        | some text =>
          simp only [hcontent, htext] at h
          refine ⟨content, text, rfl, htext, ?_⟩
          cases hread : read path text with
          | error fault =>
            rw [hread] at h
            cases h
          | ok d' =>
            rw [hread] at h
            exact congrArg Except.ok (Except.ok.inj h)
    · rw [ofFile?_of_nul hnul] at h
      cases h
  · rintro ⟨hnul, content, text, hcontent, htext, hread⟩
    rw [ofFile?_eq_match hnul]
    simp only [hcontent, htext, hread]
    rfl

/-- The path of a document in a file is that of the file. -/
theorem path_of_ofFile? {t : FileTree} {cwd path : Path} {d : Document}
    (h : ofFile? t cwd path = .ok d) : d.path = path := by
  obtain ⟨-, content, text, -, -, hread⟩ := ofFile?_eq_ok_iff.mp h
  obtain ⟨record, -, rfl⟩ := read_ok_iff.mp hread
  rfl

end Document

namespace FileTree

variable {t : FileTree}

/-- A directory that is found is there, and nothing keeps the system from looking. -/
theorem isDir?_eq_ok_true {cwd p : Path} (h : t.isDir? cwd p = .ok true) :
    t.exists? cwd p = .ok true ∧ t.isFile cwd p = false ∧
      ∃ names, t.locate? cwd p = some names ∧ t.find? names = some .dir := by
  unfold isDir? unlessOverlong at h
  split at h
  · cases h
  · next hlong =>
    have hdir : t.get? cwd p = some .dir := of_decide_eq_true (Except.ok.inj h)
    refine ⟨?_, ?_, Option.bind_eq_some_iff.mp hdir⟩
    · unfold exists? unlessOverlong has
      rw [if_neg hlong, hdir]
      rfl
    · unfold isFile content?
      rw [hdir]
      rfl

/-- A path that can be followed leads to a directory or not. -/
theorem isDir?_of_short {cwd p : Path} (h : t.isOverlong cwd p = false) : t.isDir? cwd p = .ok (t.isDir cwd p) := by
  unfold isDir? unlessOverlong
  rw [h]
  rfl

theorem isDir?_eq_error_iff {cwd p : Path} {failure : Failure} :
    t.isDir? cwd p = .error failure ↔ t.isOverlong cwd p = true ∧ failure = .nameTooLong p := by
  cases hlong : t.isOverlong cwd p with
  | false =>
    rw [isDir?_of_short hlong]
    constructor
    · intro h
      cases h
    · rintro ⟨h, -⟩
      cases h
  | true =>
    unfold isDir? unlessOverlong
    rw [hlong]
    constructor
    · intro h
      cases h
      exact ⟨rfl, rfl⟩
    · rintro ⟨-, rfl⟩
      rfl

/-- The names of an entry, from a directory that it stands below. -/
theorem below?_eq_some_iff {dir below : List Text} {entry : List Text × Entry} :
    below? dir entry = some below ↔ below ≠ [] ∧ entry.1 = dir ++ below := by
  unfold below?
  split
  · next h =>
    rw [Bool.and_eq_true, List.isPrefixOf_iff_prefix, decide_eq_true_eq] at h
    obtain ⟨⟨rest, hrest⟩, hlt⟩ := h
    rw [← hrest, List.length_append] at hlt
    rw [← hrest, List.drop_left, Option.some.injEq, List.append_cancel_left_eq]
    constructor
    · rintro rfl
      exact ⟨List.ne_nil_of_length_pos (by omega), rfl⟩
    · exact fun ⟨_, h⟩ => h
  · next h =>
    constructor
    · intro h
      cases h
    · rintro ⟨hne, he⟩
      refine absurd ?_ h
      rw [he, Bool.and_eq_true, List.isPrefixOf_iff_prefix, decide_eq_true_eq, List.length_append]
      exact ⟨List.prefix_append dir below, by have := List.length_pos_iff.mpr hne; omega⟩

/-- The files below a directory are files of the tree. -/
theorem mem_files_iff {dir below : List Text} :
    below ∈ t.files dir ↔ below ≠ [] ∧ ∃ content, (dir ++ below, Entry.file content) ∈ t.entries := by
  unfold files
  rw [List.mem_filterMap]
  constructor
  · rintro ⟨⟨names, entry⟩, hmem, h⟩
    cases entry with
    | file content =>
      obtain ⟨hne, he⟩ := below?_eq_some_iff.mp h
      simp only at he
      exact ⟨hne, content, he ▸ hmem⟩
    | dir => cases h
    | link target => cases h
  · rintro ⟨hne, content, hmem⟩
    exact ⟨_, hmem, below?_eq_some_iff.mpr ⟨hne, rfl⟩⟩

end FileTree

/-- What is left without repetition has none. -/
theorem nodup_eraseDups {α : Type} [BEq α] [LawfulBEq α] : ∀ xs : List α, xs.eraseDups.Nodup
  | [] => List.nodup_nil
  | x :: rest => by
    rw [List.eraseDups_cons, List.nodup_cons]
    refine ⟨fun hmem => ?_, nodup_eraseDups _⟩
    have hne := (List.mem_filter.mp (List.mem_eraseDups.mp hmem)).2
    simp at hne
termination_by xs => xs.length
decreasing_by
  have := List.length_filter_le (fun b => !b == x) rest
  simp only [List.length_cons]
  omega

namespace Project

variable {p : Project}

/-- The files below the directory of the documents that are documents. -/
def docFiles (p : Project) : List Path :=
  (p.tree.markdownFiles p.cwd p.config.docsDir).filter (isMappedDoc · p.config.docsDir)

/-- The resolved paths of the documents, in order and without repetition. -/
def docs (p : Project) : List Path := (p.docFiles.map p.resolve).eraseDups.mergeSort Path.le

/-- When there are documents at a path, and which. -/
theorem documentsAt_eq_ok_iff {everything : Bool} {root : Path} {found : List Path} :
    p.documentsAt everything root = .ok found ↔ p.tree.exists? p.cwd root = .ok true ∧
      found = if p.tree.isFile p.cwd root then [p.resolve root]
        else ((p.tree.markdownFiles p.cwd root).filter fun file =>
          everything || isMappedDoc file root).map p.resolve := by
  unfold documentsAt
  rw [Outcome.bind_eq_ok_iff]
  constructor
  · rintro ⟨there, hthere, h⟩
    cases there with
    | false => cases h
    | true =>
      refine ⟨hthere, ?_⟩
      simp only [Bool.not_true, Bool.false_eq_true, if_false] at h
      split at h
      · next hfile => exact (Except.ok.inj h).symm.trans (if_pos hfile).symm
      · next hfile => exact (Except.ok.inj h).symm.trans (if_neg hfile).symm
  · rintro ⟨hthere, rfl⟩
    refine ⟨true, hthere, ?_⟩
    simp only [Bool.not_true, Bool.false_eq_true, if_false]
    split <;> rfl

theorem isResolved_of_documentsAt {everything : Bool} {root path : Path} {found : List Path}
    (h : p.documentsAt everything root = .ok found) (hpath : path ∈ found) : path.IsResolved := by
  obtain ⟨-, rfl⟩ := documentsAt_eq_ok_iff.mp h
  split at hpath
  · rw [List.mem_singleton.mp hpath]
    exact Path.isResolved_collapse _
  · obtain ⟨file, -, rfl⟩ := List.mem_map.mp hpath
    exact Path.isResolved_collapse _

/-- The documents at some paths are those at each of them. -/
theorem discover_eq_ok_iff {everything : Bool} {paths docs : List Path} :
    p.discover paths everything = .ok docs ↔
      ∃ found, (if paths.isEmpty then [p.config.docsDir] else paths).mapM (p.documentsAt everything) = .ok found ∧
        docs = found.flatten.eraseDups.mergeSort Path.le := by
  unfold discover
  rw [Outcome.bind_eq_ok_iff]
  constructor
  · rintro ⟨found, hfound, h⟩
    exact ⟨found, hfound, (Except.ok.inj h).symm⟩
  · rintro ⟨found, hfound, rfl⟩
    exact ⟨found, hfound, rfl⟩

/-- Their paths are resolved. -/
theorem isResolved_of_discover {everything : Bool} {paths docs : List Path}
    (h : p.discover paths everything = .ok docs) : ∀ path ∈ docs, path.IsResolved := by
  obtain ⟨found, hfound, rfl⟩ := discover_eq_ok_iff.mp h
  intro path hpath
  obtain ⟨part, hpart, hpath⟩ := List.mem_flatten.mp (List.mem_eraseDups.mp (List.mem_mergeSort.mp hpath))
  obtain ⟨root, -, hroot⟩ := Outcome.mem_of_mapM hfound hpart
  exact isResolved_of_documentsAt hroot hpath

section Discovery

variable (hdir : p.tree.isDir? p.cwd p.config.docsDir = .ok true)

include hdir

/-- Without paths a command goes through the documents of the project. -/
theorem discover_nil : p.discover [] = .ok p.docs := by
  obtain ⟨hexists, hfile, -⟩ := FileTree.isDir?_eq_ok_true hdir
  have hat : p.documentsAt false p.config.docsDir = .ok (p.docFiles.map p.resolve) := by
    refine documentsAt_eq_ok_iff.mpr ⟨hexists, ?_⟩
    rw [hfile]
    rfl
  show (do
    let found ← [p.config.docsDir].mapM (p.documentsAt false)
    return found.flatten.eraseDups.mergeSort Path.le) = Except.ok p.docs
  have hflat : [p.docFiles.map p.resolve].flatten = p.docFiles.map p.resolve := by simp
  rw [Outcome.mapM_eq_ok_iff.mpr (List.Forall₂.cons hat List.Forall₂.nil)]
  show Except.ok ([p.docFiles.map p.resolve].flatten.eraseDups.mergeSort Path.le) = _
  rw [hflat]
  rfl

theorem documents_eq : p.documents = .ok p.docs := by
  unfold documents
  rw [hdir]
  exact discover_nil hdir

/-- The mappings are those of the files. -/
theorem mappings_eq_ok_iff {ms : List DocMapping} :
    p.mappings = .ok ms ↔ ∃ ds, p.docFiles.mapM p.read = .ok ds ∧
      ms = ds.filterMap (DocMapping.ofDocument? p.config.dir) := by
  have hload : p.mappings = (do
      let ds ← p.docFiles.mapM p.read
      return ds.filterMap (DocMapping.ofDocument? p.config.dir)) := by
    unfold mappings DocMapping.load
    rw [hdir]
    rfl
  rw [hload, Outcome.bind_eq_ok_iff]
  constructor
  · rintro ⟨ds, hds, h⟩
    exact ⟨ds, hds, (Except.ok.inj h).symm⟩
  · rintro ⟨ds, hds, rfl⟩
    exact ⟨ds, hds, rfl⟩

end Discovery

theorem mem_docs_iff {path : Path} : path ∈ p.docs ↔ ∃ file ∈ p.docFiles, p.resolve file = path := by
  unfold docs
  rw [List.mem_mergeSort, List.mem_eraseDups, List.mem_map]

/-- No document comes up twice. -/
theorem nodup_docs (p : Project) : p.docs.Nodup := by
  unfold docs
  rw [(List.mergeSort_perm _ _).nodup_iff]
  exact nodup_eraseDups _

section Named

variable (hnamed : p.tree.IsNamed) (hdir : p.tree.isDir? p.cwd p.config.docsDir = .ok true)

include hnamed hdir

/-- **A document is a file of the tree, and its path without steps upwards is made of the names of the
file.** Either path leads to the same content. -/
theorem exists_of_mem_docFiles {file : Path} (h : file ∈ p.docFiles) :
    (∃ names, (∀ name ∈ names, IsName name) ∧ p.resolve file = { root := ['/'], names }) ∧
      file.refuseNul = .ok () ∧
      p.tree.content? p.cwd (p.resolve file) = p.tree.content? p.cwd file := by
  obtain ⟨-, -, names, hnames, hfind⟩ := FileTree.isDir?_eq_ok_true hdir
  have hmem := List.mem_of_mem_filter h
  unfold FileTree.markdownFiles at hmem
  simp only [hnames, hfind] at hmem
  obtain ⟨below, hbelow, rfl⟩ := List.mem_map.mp (List.mem_mergeSort.mp hmem)
  obtain ⟨hne, content, hentry⟩ := FileTree.mem_files_iff.mp (List.mem_of_mem_filter hbelow)
  have hall : ∀ name ∈ names ++ below, IsName name := hnamed _ hentry
  have hup : ['.', '.'] ∉ below := fun hmem =>
    (hall _ (List.mem_append_right names hmem)).ne_dots rfl
  have hresolve : p.resolve (p.config.docsDir.join { root := [], names := below }) =
      { root := ['/'], names := names ++ below } := by
    unfold resolve Path.collapse
    rw [Path.names_join_join, List.foldl_append, FileTree.foldl_collapseStep hnames,
      Path.foldl_collapseStep_of_not_mem hup]
  refine ⟨⟨_, hall, hresolve⟩, ?_, ?_⟩
  · have hdocs := Path.refuseNul_eq_ok_iff.mp (FileTree.refuseNul_of_found hnamed hnames hfind)
    refine Path.refuseNul_eq_ok_iff.mpr fun name hname => ?_
    rcases List.mem_append.mp hname with hname | hname
    · exact hdocs name hname
    · exact (hall name (List.mem_append_right names hname)).no_nul
  · unfold FileTree.content? FileTree.get?
    rw [hresolve, FileTree.locate?_join hnames]

/-- **A document is the same by both paths to its file.** -/
theorem read_of_read_resolve {file : Path} (h : file ∈ p.docFiles) {d : Document}
    (hread : p.read (p.resolve file) = .ok d) : p.read file = .ok { d with path := file } := by
  obtain ⟨-, hnul, hcontent⟩ := exists_of_mem_docFiles hnamed hdir h
  obtain ⟨-, content, text, hat, htext, hd⟩ := Document.ofFile?_eq_ok_iff.mp hread
  exact Document.ofFile?_eq_ok_iff.mpr
    ⟨hnul, content, text, hcontent ▸ hat, htext, Document.read_at hd file⟩

/-- The path of a document starts at the root and is made of names. -/
theorem isPlain_of_mem_docs {path : Path} (h : path ∈ p.docs) :
    path.IsPlain ∧ path.root = ['/'] := by
  obtain ⟨file, hfile, rfl⟩ := mem_docs_iff.mp h
  obtain ⟨⟨names, hall, hresolve⟩, -, -⟩ := exists_of_mem_docFiles hnamed hdir hfile
  rw [hresolve]
  exact ⟨⟨Or.inr rfl, hall⟩, rfl⟩

/-- **No two documents are shown by the same text.** -/
theorem shown_inj {path path' : Path} (h : path ∈ p.docs) (h' : path' ∈ p.docs)
    (hshown : p.config.shown path = p.config.shown path') : path = path' := by
  obtain ⟨hplain, hroot⟩ := isPlain_of_mem_docs hnamed hdir h
  obtain ⟨hplain', hroot'⟩ := isPlain_of_mem_docs hnamed hdir h'
  exact Path.relativeText_inj hplain hplain' hroot hroot' hshown

end Named

end Project

end DocAudit
