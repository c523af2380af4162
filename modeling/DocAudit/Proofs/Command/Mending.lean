import DocAudit.Command.Lint
import DocAudit.Proofs.Command.Verdicts
import DocAudit.Proofs.Lint.Settled
import Mathlib

/-!
# Mending documents

The command that checks the prose of documents may mend them one after the other, and it may fail on its way.
However it ends, the files of these documents have lost nothing but spaces and tabs at the ends of prose lines,
and all other files are as they were. When it comes to an end, nothing is left for a second run, which comes to
an end as well.

## Contents

* `FileTree.SameShape.mem_markdownFiles_iff`, `Project.exists_proseDocuments`: the documents of a tree whose
  files were written to
* `FileTree.Trimmed`: a tree before and after files were mended
* `Project.lintAll_cases`: **what is done with one document**
* `Project.trimmed_lintAll`: **what is left of the files**
* `Project.lintAll_ok`, `Project.lintAll_settled`: documents after a run, and a run over such documents
* `Project.runLint_mends`: **mending changes nothing else, and nothing a second time**
-/

namespace DocAudit

open Text

/-! ## The documents of a tree whose files were written to -/

namespace FileTree.SameShape

variable {t t' : FileTree} (h : SameShape t t')

include h

theorem mem_files_iff {dir below : List Text} : below ∈ t'.files dir ↔ below ∈ t.files dir := by
  rw [FileTree.mem_files_iff, FileTree.mem_files_iff, h.listed]

/-- The markdown files at a path are the same. -/
theorem mem_markdownFiles_iff {cwd root path : Path} :
    path ∈ t'.markdownFiles cwd root ↔ path ∈ t.markdownFiles cwd root := by
  unfold markdownFiles
  rw [h.locate?_eq]
  cases t.locate? cwd root with
  | none => exact Iff.rfl
  | some names =>
    rcases h.find? names with he | ⟨content, content', hfile, hfile'⟩
    · simp only [he]
      cases t.find? names with
      | none => exact Iff.rfl
      | some entry =>
        cases entry with
        | file content => exact Iff.rfl
        | link target => exact Iff.rfl
        | dir => simp only [List.mem_mergeSort, List.mem_map, List.mem_filter, h.mem_files_iff]
    · simp only [hfile, hfile']

end FileTree.SameShape

namespace Project

variable {p : Project} {everything : Bool} {root path : Path} {paths found docs : List Path}

/-- The documents whose prose is checked are those at the paths, without templates. -/
theorem proseDocuments_eq_ok_iff : p.proseDocuments paths = .ok docs ↔
    ∃ found, (if paths.isEmpty then [p.config.docsDir] else paths).mapM (p.documentsAt true) = .ok found ∧
      docs = (found.flatten.eraseDups.mergeSort Path.le).filter fun path =>
        !((Path.ofText (p.config.shown path)).components.dropLast.any isTemplateDir) := by
  unfold proseDocuments
  simp only [Outcome.bind_eq_ok_iff, discover_eq_ok_iff]
  constructor
  · rintro ⟨all, ⟨found, hfound, rfl⟩, hdocs⟩
    cases hdocs
    exact ⟨found, hfound, rfl⟩
  · rintro ⟨found, hfound, rfl⟩
    exact ⟨_, ⟨found, hfound, rfl⟩, rfl⟩

/-- Their paths are resolved, and no document comes up twice. -/
theorem isResolved_of_proseDocuments (h : p.proseDocuments paths = .ok docs) :
    (∀ path ∈ docs, path.IsResolved) ∧ docs.Nodup := by
  obtain ⟨found, hfound, rfl⟩ := proseDocuments_eq_ok_iff.mp h
  have hdiscover : p.discover paths true = .ok (found.flatten.eraseDups.mergeSort Path.le) :=
    discover_eq_ok_iff.mpr ⟨found, hfound, rfl⟩
  constructor
  · exact fun path hpath => isResolved_of_discover hdiscover path (List.mem_of_mem_filter hpath)
  · refine List.filter_sublist.nodup ?_
    rw [(List.mergeSort_perm _ _).nodup_iff]
    exact nodup_eraseDups _

section Shape

variable {t' : FileTree} (hshape : FileTree.SameShape p.tree t')

include hshape

theorem exists_documentsAt (h : p.documentsAt everything root = .ok found) :
    ∃ found', { p with tree := t' }.documentsAt everything root = .ok found' ∧
      ∀ path, path ∈ found' ↔ path ∈ found := by
  obtain ⟨hthere, rfl⟩ := documentsAt_eq_ok_iff.mp h
  refine ⟨_, documentsAt_eq_ok_iff.mpr ⟨(hshape.exists?_eq _ _).trans hthere, rfl⟩, fun path => ?_⟩
  show path ∈ (if t'.isFile p.cwd root then _ else _) ↔ _
  rw [hshape.isFile_eq]
  split
  · exact Iff.rfl
  · simp only [List.mem_map, List.mem_filter, hshape.mem_markdownFiles_iff]
    exact Iff.rfl

/-- **Writing to files leaves the same documents to be checked.** -/
theorem exists_proseDocuments (h : p.proseDocuments paths = .ok docs) :
    ∃ docs', { p with tree := t' }.proseDocuments paths = .ok docs' ∧ ∀ path, path ∈ docs' ↔ path ∈ docs := by
  obtain ⟨found, hfound, rfl⟩ := proseDocuments_eq_ok_iff.mp h
  obtain ⟨found', hfound'⟩ := Outcome.exists_mapM_iff.mpr fun root hroot => by
    obtain ⟨part, -, hpart⟩ := Outcome.exists_of_mapM hfound hroot
    obtain ⟨part', hpart', -⟩ := exists_documentsAt hshape hpart
    exact ⟨part', hpart'⟩
  refine ⟨_, proseDocuments_eq_ok_iff.mpr ⟨found', hfound', rfl⟩, fun path => ?_⟩
  have hflatten : path ∈ found'.flatten ↔ path ∈ found.flatten := by
    rw [List.mem_flatten, List.mem_flatten]
    constructor
    · rintro ⟨part', hmem, hpath⟩
      obtain ⟨root, hroot, hpart'⟩ := Outcome.mem_of_mapM hfound' hmem
      obtain ⟨part, hmem, hpart⟩ := Outcome.exists_of_mapM hfound hroot
      obtain ⟨part'', hpart'', hsame⟩ := exists_documentsAt hshape hpart
      cases hpart'.symm.trans hpart''
      exact ⟨part, hmem, (hsame path).mp hpath⟩
    · rintro ⟨part, hmem, hpath⟩
      obtain ⟨root, hroot, hpart⟩ := Outcome.mem_of_mapM hfound hmem
      obtain ⟨part', hmem', hpart'⟩ := Outcome.exists_of_mapM hfound' hroot
      obtain ⟨part'', hpart'', hsame⟩ := exists_documentsAt hshape hpart
      cases hpart'.symm.trans hpart''
      exact ⟨part', hmem', (hsame path).mpr hpath⟩
  simp only [List.mem_filter, List.mem_mergeSort, List.mem_eraseDups, hflatten]

end Shape

end Project

/-! ## One document after the other -/

/-- A tree before and after some files were mended. All other entries are the same, and these files lost nothing
but spaces and tabs at the ends of prose lines. -/
structure FileTree.Trimmed (mended : List (List Text)) (t t' : FileTree) : Prop where
  names : t'.entries.map (·.1) = t.entries.map (·.1)
  modes : t'.modes = t.modes
  others : ∀ names, names ∉ mended → t'.find? names = t.find? names
  mended : ∀ names ∈ mended, t'.find? names = t.find? names ∨
    ∃ text text', t.find? names = some (.file (Utf8.encode text)) ∧
      t'.find? names = some (.file (Utf8.encode text')) ∧ IsTrimmed text text'

namespace FileTree

variable {t t' t'' : FileTree} {names : List Text} {rest : List (List Text)} {text : Text}

theorem Trimmed.refl (mended : List (List Text)) (t : FileTree) : Trimmed mended t t :=
  ⟨rfl, rfl, fun _ _ => rfl, fun _ _ => .inl rfl⟩

/-- One file is mended. -/
theorem trimmed_mend (rules : List LintRule) (fix : Bool)
    (hfile : t.find? names = some (.file (Utf8.encode text))) : Trimmed [names] t (t.mend names rules fix text) := by
  have hfind := find?_mend rules fix hfile
  refine ⟨?_, ?_, fun other hother => ?_, fun other hother =>
    .inr ⟨text, _, ?_, ?_, isTrimmed_mendedText rules fix text⟩⟩
  · unfold mend
    split
    · rfl
    · exact names_put hfile (ne_nil_of_file hfile) _
  · unfold mend
    split <;> rfl
  · rw [hfind, if_neg fun he => hother (List.mem_singleton.mpr he)]
  · rw [List.mem_singleton.mp hother, hfile]
  · rw [hfind, if_pos (List.mem_singleton.mp hother)]

/-- One file is mended, and then others. -/
theorem Trimmed.cons (hnames : names ∉ rest) (h : Trimmed [names] t t') (h' : Trimmed rest t' t'') :
    Trimmed (names :: rest) t t'' := by
  have hsame : ∀ other ∈ rest, t'.find? other = t.find? other := fun other hother =>
    h.others other fun he => hnames (List.mem_singleton.mp he ▸ hother)
  refine ⟨h'.names.trans h.names, h'.modes.trans h.modes, fun other hother => ?_, fun other hother => ?_⟩
  · obtain ⟨hne, hrest⟩ := List.ne_and_not_mem_of_not_mem_cons hother
    rw [h'.others other hrest, h.others other fun he => hne (List.mem_singleton.mp he)]
  · rcases List.mem_cons.mp hother with rfl | hother
    · rw [h'.others other hnames]
      exact h.mended other List.mem_cons_self
    · rw [← hsame other hother]
      exact h'.mended other hother

end FileTree

namespace Project

variable {p : Project} {urlFault : Text → Option Text} {rules : List LintRule} {r : LintRequest} {path : Path}
  {docs : List Path}

/-- The project after the text of a document was mended. -/
def mend (p : Project) (rules : List LintRule) (fix : Bool) (path : Path) (text : Text) : Project :=
  { p with tree := p.tree.mend path.names rules fix text }

/-- **What is done with one document:** it cannot be checked, or its file is mended before the others are
checked. -/
theorem lintAll_cases (hpath : path.IsResolved) (rest : List Path) :
    (∃ failure, p.lintAll urlFault rules r (path :: rest) = (.error failure, p.tree)) ∨
      ∃ text outcome, p.tree.locate? p.cwd path = some path.names ∧
        p.tree.find? path.names = some (.file (Utf8.encode text)) ∧
        lintText rules r.fix (p.lintScope urlFault r path) text = .ok outcome ∧
        p.lintAll urlFault rules r (path :: rest) =
          (((p.mend rules r.fix path text).lintAll urlFault rules r rest).1.map fun later =>
            (outcome.issues.map (issueEntry (p.config.shown path)) ++ later.1,
              mendedCount rules r.fix text + later.2),
            ((p.mend rules r.fix path text).lintAll urlFault rules r rest).2) := by
  cases hlint : lintFile rules r.fix (p.lintScope urlFault r path) with
  | error failure =>
    refine .inl ⟨failure, ?_⟩
    rw [lintAll, hlint]
  | ok result =>
    obtain ⟨names, text, hat, hfile⟩ := exists_of_lintFile hlint
    obtain rfl : names = path.names := FileTree.names_of_locate? hpath hat
    rw [lintFile_eq hat hfile] at hlint
    obtain ⟨outcome, houtcome, rfl⟩ := Outcome.map_eq_ok_iff.mp hlint
    refine .inr ⟨text, outcome, hat, hfile, houtcome, ?_⟩
    rw [lintAll, lintFile_eq hat hfile, houtcome, ← (lintText_ok houtcome).1]
    rfl

/-- Checking documents leaves the shape of the tree. -/
theorem sameShape_lintAll (hdocs : ∀ path ∈ docs, path.IsResolved) :
    FileTree.SameShape p.tree (p.lintAll urlFault rules r docs).2 := by
  induction docs generalizing p with
  | nil => exact .refl p.tree
  | cons path rest ih =>
    obtain ⟨hpath, hrest⟩ := List.forall_mem_cons.mp hdocs
    rcases lintAll_cases hpath rest with ⟨failure, h⟩ | ⟨text, outcome, -, hfile, -, h⟩
    · rw [h]
      exact .refl p.tree
    · rw [h]
      exact (FileTree.sameShape_mend rules r.fix hfile).trans
        (ih (p := p.mend rules r.fix path text) hrest)

/-- **What is left of the files, however the checks end.** -/
theorem trimmed_lintAll (hdocs : ∀ path ∈ docs, path.IsResolved) (hnodup : (docs.map (·.names)).Nodup) :
    FileTree.Trimmed (docs.map (·.names)) p.tree (p.lintAll urlFault rules r docs).2 := by
  induction docs generalizing p with
  | nil => exact .refl [] p.tree
  | cons path rest ih =>
    obtain ⟨hpath, hrest⟩ := List.forall_mem_cons.mp hdocs
    obtain ⟨hnames, hnodup⟩ := List.nodup_cons.mp hnodup
    rcases lintAll_cases hpath rest with ⟨failure, h⟩ | ⟨text, outcome, -, hfile, -, h⟩
    · rw [h]
      exact .refl _ p.tree
    · rw [h]
      exact (FileTree.trimmed_mend rules r.fix hfile).cons hnames
        (ih (p := p.mend rules r.fix path text) hrest hnodup)

end Project

/-- The text in the file at the names; empty when there is none. -/
def FileTree.textOf (t : FileTree) (names : List Text) : Text :=
  match t.find? names with
  | some (.file content) => (Utf8.decode? content).getD []
  | _ => []

theorem FileTree.textOf_eq {t : FileTree} {names : List Text} {text : Text}
    (h : t.find? names = some (.file (Utf8.encode text))) : t.textOf names = text := by
  unfold textOf
  simp only [h, Utf8.decode?_encode, Option.getD_some]

namespace Project

/-- A document of one tree that was checked and mended in another one. -/
structure IsMended (p : Project) (urlFault : Text → Option Text) (rules : List LintRule) (r : LintRequest)
    (t' : FileTree) (path : Path) : Prop where
  located : p.tree.locate? p.cwd path = some path.names
  before : p.tree.find? path.names = some (.file (Utf8.encode (p.tree.textOf path.names)))
  checked : ∃ outcome,
    lintText rules r.fix (p.lintScope urlFault r path) (p.tree.textOf path.names) = .ok outcome
  after : t'.find? path.names =
    some (.file (Utf8.encode (mendedText rules r.fix (p.tree.textOf path.names))))

variable {p : Project} {urlFault : Text → Option Text} {rules : List LintRule} {r : LintRequest} {path : Path}
  {docs : List Path}

section Others

variable {text : Text} {path' : Path} (hfile : p.tree.find? path.names = some (.file (Utf8.encode text)))
  (hne : path'.names ≠ path.names)

include hfile hne

/-- A file that is not mended. -/
theorem find?_mend : (p.mend rules r.fix path text).tree.find? path'.names = p.tree.find? path'.names := by
  rw [mend, FileTree.find?_mend rules r.fix hfile, if_neg hne]

theorem textOf_mend : (p.mend rules r.fix path text).tree.textOf path'.names = p.tree.textOf path'.names := by
  unfold FileTree.textOf
  rw [find?_mend hfile hne]

/-- What was there before another file was mended. -/
theorem IsMended.of_mend {t' : FileTree}
    (h : (p.mend rules r.fix path text).IsMended urlFault rules r t' path') :
    p.IsMended urlFault rules r t' path' := by
  obtain ⟨hat, hbefore, hchecked, hafter⟩ := h
  rw [textOf_mend hfile hne] at hbefore hchecked hafter
  rw [find?_mend hfile hne] at hbefore
  have hkinds := (FileTree.sameShape_mend rules r.fix hfile).toSameKinds.symm
  have hchecked' := exists_lintText (s := (p.mend rules r.fix path text).lintScope urlFault r path') hkinds
    (.refl _) hchecked
  exact ⟨(hkinds.locate?_eq _ _).trans hat, hbefore, hchecked', hafter⟩

end Others

/-- **When all documents could be checked, the number of mended lines is that of all loose lines in them, and
their files hold what mending leaves.** -/
theorem lintAll_ok (hdocs : ∀ path ∈ docs, path.IsResolved) (hnodup : (docs.map (·.names)).Nodup)
    {found : List IssueEntry × Nat} (h : (p.lintAll urlFault rules r docs).1 = .ok found) :
    found.2 = (docs.map fun path => mendedCount rules r.fix (p.tree.textOf path.names)).sum ∧
      ∀ path ∈ docs, p.IsMended urlFault rules r (p.lintAll urlFault rules r docs).2 path := by
  induction docs generalizing p found with
  | nil =>
    cases h
    exact ⟨rfl, fun _ h => by cases h⟩
  | cons path rest ih =>
    obtain ⟨hpath, hrest⟩ := List.forall_mem_cons.mp hdocs
    obtain ⟨hnames, hnodup⟩ := List.nodup_cons.mp hnodup
    rcases lintAll_cases (p := p) (r := r) hpath rest with
      ⟨failure, hrun⟩ | ⟨text, outcome, hat, hfile, hchecked, hrun⟩
    · rw [hrun] at h
      cases h
    · rw [hrun] at h ⊢
      obtain ⟨later, hlater, rfl⟩ := Outcome.map_eq_ok_iff.mp h
      obtain ⟨hcount, hmended⟩ := ih hrest hnodup hlater
      have htext := FileTree.textOf_eq hfile
      have hothers : ∀ path' ∈ rest, path'.names ≠ path.names := fun path' hpath' he =>
        hnames (List.mem_map.mpr ⟨path', hpath', he⟩)
      have htrimmed : FileTree.Trimmed (rest.map (·.names)) (p.mend rules r.fix path text).tree
          ((p.mend rules r.fix path text).lintAll urlFault rules r rest).2 := trimmed_lintAll hrest hnodup
      constructor
      · have htexts : rest.map (fun path' => mendedCount rules r.fix
            ((p.mend rules r.fix path text).tree.textOf path'.names)) =
            rest.map fun path' => mendedCount rules r.fix (p.tree.textOf path'.names) := by
          refine List.map_congr_left fun path' hpath' => ?_
          rw [textOf_mend hfile (hothers path' hpath')]
        show mendedCount rules r.fix text + later.2 = _
        rw [List.map_cons, List.sum_cons, htext, hcount, htexts]
      · refine List.forall_mem_cons.mpr ⟨⟨hat, ?_, ?_, ?_⟩, fun path' hpath' =>
          (hmended path' hpath').of_mend hfile (hothers path' hpath')⟩
        · rw [htext, hfile]
        · rw [htext]
          exact ⟨outcome, hchecked⟩
        · rw [htrimmed.others path.names hnames, htext, mend, FileTree.find?_mend rules r.fix hfile, if_pos rfl]

/-- Where nothing is to be mended, nothing is written. -/
theorem lintAll_unmended (hnone : ∀ text, mendedCount rules r.fix text = 0)
    (hdocs : ∀ path ∈ docs, path.IsResolved) : (p.lintAll urlFault rules r docs).2 = p.tree := by
  induction docs with
  | nil => rfl
  | cons path rest ih =>
    obtain ⟨hpath, hrest⟩ := List.forall_mem_cons.mp hdocs
    rcases lintAll_cases hpath rest with ⟨failure, h⟩ | ⟨text, outcome, -, -, -, h⟩
    · rw [h]
    · have hsame : p.mend rules r.fix path text = p := by
        rw [mend, FileTree.mend, if_pos (hnone text)]
      rw [h, hsame]
      exact ih hrest

/-- **Documents that were mended can be checked again, and nothing is left to be mended.** -/
theorem lintAll_settled {t' : FileTree} (hkinds : FileTree.SameKinds p.tree t')
    (hmended : ∀ path ∈ docs, p.IsMended urlFault rules r t' path) :
    ∃ issues, { p with tree := t' }.lintAll urlFault rules r docs = (.ok (issues, 0), t') := by
  induction docs with
  | nil => exact ⟨[], rfl⟩
  | cons path rest ih =>
    obtain ⟨⟨hat, -, hchecked, hafter⟩, hrest⟩ := List.forall_mem_cons.mp hmended
    obtain ⟨issues, hissues⟩ := ih hrest
    have hat' : t'.locate? p.cwd path = some path.names := (hkinds.locate?_eq _ _).trans hat
    obtain ⟨outcome, houtcome⟩ := exists_lintText hkinds (sameParts_mendedText rules r.fix _) hchecked
    have hnone := mendedCount_mendedText rules r.fix (p.tree.textOf path.names)
    have hcount : outcome.fixedCount = 0 := (lintText_ok houtcome).1.trans hnone
    have hlint : lintFile rules r.fix ({ p with tree := t' }.lintScope urlFault r path) = .ok (outcome, t') := by
      rw [lintFile_eq hat' hafter]
      refine Outcome.map_eq_ok_iff.mpr ⟨outcome, houtcome, ?_⟩
      rw [FileTree.mend, if_pos hnone]
      rfl
    refine ⟨outcome.issues.map (issueEntry (p.config.shown path)) ++ issues, ?_⟩
    rw [lintAll, hlint]
    simp only [hissues, hcount]
    rfl

/-- Of all checks some are made, and each of these once. -/
theorem nodup_of_select {requested : List Text} {o : LintOptions} (h : LintRule.select requested o = .ok rules) :
    rules.Nodup := by
  have hmade : ∀ made : LintRule → Bool, (LintRule.all.filter made).Nodup := fun made =>
    List.filter_sublist.nodup (by decide)
  unfold LintRule.select at h
  simp only at h
  split at h
  · obtain ⟨asked, -, h⟩ := Outcome.bind_eq_ok_iff.mp h
    cases h
    exact hmade _
  · split at h
    · obtain ⟨enabled, -, h⟩ := Outcome.bind_eq_ok_iff.mp h
      cases h
      exact hmade _
    · cases h
      exact hmade _

/-- The run takes spaces and tabs from the ends of lines. -/
def mends (p : Project) (r : LintRequest) : Bool :=
  r.fix && (LintRule.select r.rules p.config.lint).toOption.any (·.contains .trailingWhitespace)

/-- The names of the files whose prose is checked. -/
def lintedFiles (p : Project) (paths : List Path) : List (List Text) :=
  ((p.proseDocuments paths).toOption.getD []).map (·.names)

/-- What is mended in a text. -/
theorem mendedCount_eq (h : LintRule.select r.rules p.config.lint = .ok rules) (text : Text) :
    mendedCount rules r.fix text = if p.mends r then looseLines text else 0 := by
  unfold mendedCount mends
  rw [h, (nodup_of_select h).count]
  cases r.fix with
  | false => rfl
  | true =>
    by_cases hrule : LintRule.trailingWhitespace ∈ rules
    · simp [hrule, Except.toOption]
    · simp [hrule, Except.toOption]

/-- No file is checked twice. -/
theorem nodup_lintedFiles (p : Project) (paths : List Path) : (p.lintedFiles paths).Nodup := by
  unfold lintedFiles
  cases hdocs : p.proseDocuments paths with
  | error failure => exact List.nodup_nil
  | ok docs =>
    obtain ⟨hresolved, hnodup⟩ := isResolved_of_proseDocuments hdocs
    exact List.Nodup.map_on
      (fun path hpath path' hpath' he => (hresolved path hpath).ext (hresolved path' hpath') he) hnodup

/-- A run checks all documents, unless they are not found or a check has no name. -/
theorem runLint_cases (p : Project) (urlFault : Text → Option Text) (r : LintRequest) :
    (∃ failure, p.runLint urlFault r = (.error failure, p.tree)) ∨
      ∃ rules docs, LintRule.select r.rules p.config.lint = .ok rules ∧ p.proseDocuments r.paths = .ok docs ∧
        p.runLint urlFault r = ((p.lintAll urlFault rules r docs).1.map fun found =>
          ({ filesLinted := docs.length, issues := found.1, fixedCount := found.2 },
            if found.1.isEmpty then 0 else 1),
          (p.lintAll urlFault rules r docs).2) := by
  unfold runLint
  cases hselect : LintRule.select r.rules p.config.lint with
  | error failure => exact .inl ⟨failure, rfl⟩
  | ok rules =>
    cases hdocs : p.proseDocuments r.paths with
    | error failure => exact .inl ⟨failure, rfl⟩
    | ok docs => exact .inr ⟨rules, docs, rfl, rfl, rfl⟩

/--
**Mending changes nothing but spaces and tabs at the ends of prose lines, and nothing a second time.**

Unless the run is asked to mend and the check for trailing whitespace is among those that are made, the tree
stays as it is. However the run ends, no other file is touched than those whose prose is checked, and each of
these is as it was or has lost nothing but spaces and tabs at the ends of lines outside of frontmatter and
fences. When the run comes to an end, it reports the number of such lines that ended in spaces or tabs, and the
same run comes to an end once more, with nothing to mend.
-/
theorem runLint_mends (p : Project) (urlFault : Text → Option Text) (r : LintRequest) :
    (p.mends r = false → (p.runLint urlFault r).2 = p.tree) ∧
      (p.lintedFiles r.paths).Nodup ∧
      FileTree.Trimmed (p.lintedFiles r.paths) p.tree (p.runLint urlFault r).2 ∧
      ∀ report code, (p.runLint urlFault r).1 = .ok (report, code) →
        report.fixedCount = (if p.mends r then
          ((p.lintedFiles r.paths).map fun names => looseLines (p.tree.textOf names)).sum else 0) ∧
        ∃ again code', { p with tree := (p.runLint urlFault r).2 }.runLint urlFault r =
          (.ok (again, code'), (p.runLint urlFault r).2) ∧ again.fixedCount = 0 := by
  rcases runLint_cases p urlFault r with ⟨failure, hrun⟩ | ⟨rules, docs, hselect, hdocs, hrun⟩
  · rw [hrun]
    exact ⟨fun _ => rfl, p.nodup_lintedFiles r.paths, .refl _ p.tree, fun report code h => by cases h⟩
  have hlinted : p.lintedFiles r.paths = docs.map (·.names) := by
    rw [lintedFiles, hdocs]
    rfl
  have hnodup : (docs.map (·.names)).Nodup := hlinted ▸ p.nodup_lintedFiles r.paths
  obtain ⟨hresolved, -⟩ := isResolved_of_proseDocuments hdocs
  rw [hrun, hlinted]
  refine ⟨fun hmends => lintAll_unmended (fun text => ?_) hresolved, hnodup, trimmed_lintAll hresolved hnodup,
    fun report code h => ?_⟩
  · rw [mendedCount_eq hselect, hmends]
    rfl
  obtain ⟨found, hfound, hreport⟩ := Outcome.map_eq_ok_iff.mp h
  cases hreport
  obtain ⟨hcount, hmended⟩ := lintAll_ok hresolved hnodup hfound
  constructor
  · refine congrArg Int.ofNat ?_
    rw [hcount, List.map_map]
    split
    · next hmends =>
      refine congrArg List.sum (List.map_congr_left fun path _ => ?_)
      rw [mendedCount_eq hselect, if_pos hmends]
      rfl
    · next hmends =>
      refine List.sum_eq_zero fun n hn => ?_
      obtain ⟨path, -, rfl⟩ := List.mem_map.mp hn
      rw [mendedCount_eq hselect, if_neg hmends]
  -- the second run finds the same documents, perhaps listed differently
  have hshape : FileTree.SameShape p.tree (p.lintAll urlFault rules r docs).2 := sameShape_lintAll hresolved
  obtain ⟨docs', hdocs', hsame⟩ := exists_proseDocuments hshape hdocs
  obtain ⟨issues, hsettled⟩ := lintAll_settled hshape.toSameKinds fun path hpath =>
    hmended path ((hsame path).mp hpath)
  refine ⟨{ filesLinted := docs'.length, issues, fixedCount := 0 }, if issues.isEmpty then 0 else 1, ?_, rfl⟩
  unfold runLint
  simp only [hselect, hdocs', hsettled]
  rfl

/-- A project with two documents. In one of them a line vanishes, and the other one starts with frontmatter. -/
def ragged : Project :=
  inRoot [("a.md".toList, "# A \r\t\n```\nx \n```\n".toList), ("b.md".toList, "---\nk: v \n---\ny\t ".toList)] {}

/-- Three lines are mended there, and none when the run is made again. -/
theorem runLint_mends_ragged :
    let done := ragged.runLint (fun _ => none) { fix := true }
    ragged.mends { fix := true } = true ∧
      FileTree.Trimmed (["a.md", "b.md"].map fun name => ["docs".toList, name.toList]) ragged.tree done.2 ∧
      done.2.textOf ["docs".toList, "a.md".toList] = "# A\r\n```\nx \n```\n".toList ∧
      (∃ report code, done.1 = .ok (report, code) ∧ report.fixedCount = 3) ∧
      ∃ again code, { ragged with tree := done.2 }.runLint (fun _ => none) { fix := true } =
        (.ok (again, code), done.2) ∧ again.fixedCount = 0 := by
  intro done
  let docs := ["/docs/a.md", "/docs/b.md"].map fun name => Path.ofText name.toList
  let all := ragged.lintAll (fun _ => none) LintRule.all { fix := true } docs
  have hdocs : ragged.proseDocuments [] = .ok docs := by cbv
  have hlinted : ragged.lintedFiles [] = ["a.md", "b.md"].map fun name => ["docs".toList, name.toList] := by
    rw [lintedFiles, hdocs]
    rfl
  have hdone : done = (all.1.map fun found =>
      ({ filesLinted := docs.length, issues := found.1, fixedCount := found.2 },
        if found.1.isEmpty then 0 else 1), all.2) := by
    have hselect : LintRule.select [] ragged.config.lint = .ok LintRule.all := rfl
    show ragged.runLint _ _ = _
    unfold runLint
    simp only [hselect, hdocs]
    rfl
  have hcount : done.1.toOption.map (·.1.fixedCount) = some 3 := by
    rw [hdone]
    decide +kernel
  have htext : done.2.textOf ["docs".toList, "a.md".toList] = "# A\r\n```\nx \n```\n".toList := by
    rw [hdone]
    decide +kernel
  obtain ⟨-, -, htrimmed, hreturned⟩ := runLint_mends ragged (fun _ => none) { fix := true }
  rw [hlinted] at htrimmed
  cases hreport : done.1 with
  | error failure =>
    rw [hreport] at hcount
    cases hcount
  | ok result =>
    rw [hreport] at hcount
    exact ⟨rfl, htrimmed, htext, ⟨result.1, result.2, rfl, Option.some.inj hcount⟩,
      (hreturned result.1 result.2 hreport).2⟩

end Project

end DocAudit
