import DocAudit.Command.Check
import DocAudit.Proofs.Command.Documents
import DocAudit.Proofs.Validation.Findings

/-!
# Verdicts on documents

What the rules find in each document of a project. All commands that hold the documents against the rules
start from these findings, and the command that lists them lists nothing else.

## Contents

* `Project.check_eq_ok_iff`, `Project.check_eq_error_iff`: when a document can be checked
* `Project.verdict`, `Project.IsCheckable`: what is found, and that it is found for all documents
* `Project.openReport`, `Project.runCheck_eq`: **the report on all documents**
* `Project.isCheckable_of_runCheck`: a report needs all documents
* `Project.inRoot`: a project with given files
-/

namespace DocAudit

open Text

namespace Project

variable {p : Project}

/-- When a document can be checked, and what the rules find in it. -/
theorem check_eq_ok_iff {path : Path} {c : DocumentKind × List Diagnostic} :
    p.check path = .ok c ↔ ∃ d, p.read path = .ok d ∧ p.config.docsDir.refuseNul = .ok () ∧
      Decimal.isOverlong p.config.rules.maxLines = false ∧
      c.1 = DocumentKind.detect d (path.relativeText (p.resolve p.config.docsDir)) ∧
      c.2 = d.findings (Rule.set p.config.rules p.files c.1) := by
  unfold check
  rw [Outcome.bind_eq_ok_iff]
  constructor
  · rintro ⟨d, hread, h⟩
    obtain ⟨⟨⟩, hnul, h⟩ := Outcome.bind_eq_ok_iff.mp h
    refine ⟨d, hread, hnul, ?_⟩
    cases hlimit : Decimal.isOverlong p.config.rules.maxLines with
    | true => simp [hlimit, throw, throwThe, MonadExceptOf.throw, bind, Except.bind] at h
    | false =>
      simp [hlimit, pure, Except.pure] at h
      rw [← h]
      exact ⟨rfl, rfl, rfl⟩
  · rintro ⟨d, hread, hnul, hlimit, hkind, hfound⟩
    refine ⟨d, hread, Outcome.bind_eq_ok_iff.mpr ⟨(), hnul, ?_⟩⟩
    simp [hlimit, pure, Except.pure, ← hkind, ← hfound]

/-- A limit that cannot be written keeps every document that can be read from being checked. -/
theorem check_eq_error {path : Path} {d : Document} (hread : p.read path = .ok d)
    (hnul : p.config.docsDir.refuseNul = .ok ())
    (hlimit : Decimal.isOverlong p.config.rules.maxLines = true) :
    p.check path = .error (.config .numberTooLong) := by
  unfold check
  rw [hread, hnul]
  simp [hlimit, bind, Except.bind, throw, throwThe, MonadExceptOf.throw]

/-- A document that can be read can be checked, when the limit can be written. -/
theorem exists_check {path : Path} {d : Document} (hread : p.read path = .ok d)
    (hnul : p.config.docsDir.refuseNul = .ok ())
    (hlimit : Decimal.isOverlong p.config.rules.maxLines = false) : ∃ c, p.check path = .ok c :=
  ⟨(DocumentKind.detect d (path.relativeText (p.resolve p.config.docsDir)),
      d.findings (Rule.set p.config.rules p.files
        (DocumentKind.detect d (path.relativeText (p.resolve p.config.docsDir))))),
    check_eq_ok_iff.mpr ⟨d, hread, hnul, hlimit, rfl, rfl⟩⟩

/-- A document cannot be checked when it cannot be read, or when the limit cannot be written. -/
theorem check_eq_error_iff (hnul : p.config.docsDir.refuseNul = .ok ()) {path : Path} {failure : Failure} :
    p.check path = .error failure ↔ p.read path = .error failure ∨
      (∃ d, p.read path = .ok d) ∧ Decimal.isOverlong p.config.rules.maxLines = true ∧
        failure = .config .numberTooLong := by
  cases hread : p.read path with
  | error failure' =>
    have hcheck : p.check path = .error failure' := by
      unfold check
      rw [hread]
      rfl
    rw [hcheck]
    constructor
    · intro h
      cases h
      exact .inl rfl
    · rintro (h | ⟨⟨d, h⟩, -⟩)
      · cases h
        rfl
      · cases h
  | ok d =>
    cases hlimit : Decimal.isOverlong p.config.rules.maxLines with
    | true =>
      rw [check_eq_error hread hnul hlimit]
      constructor
      · intro h
        cases h
        exact .inr ⟨⟨d, rfl⟩, rfl, rfl⟩
      · rintro (h | ⟨-, -, rfl⟩)
        · cases h
        · rfl
    | false =>
      obtain ⟨c, hc⟩ := exists_check hread hnul hlimit
      rw [hc]
      constructor
      · intro h
        cases h
      · rintro (h | ⟨-, h, -⟩)
        · cases h
        · cases h

/-- What is found in a document is reported under its path. -/
theorem file_finding_of_check (hnamed : p.tree.IsNamed) {path : Path} (hpath : path.IsResolved)
    {c : DocumentKind × List Diagnostic} (h : p.check path = .ok c) {x : Diagnostic} (hx : x ∈ c.2) :
    (p.finding x).file = p.config.shown path := by
  obtain ⟨d, hread, -, -, -, hfound⟩ := check_eq_ok_iff.mp h
  obtain ⟨-, content, text, hcontent, -⟩ := Document.ofFile?_eq_ok_iff.mp hread
  have hplain : path.IsPlain := FileTree.isPlain_of_content hnamed hpath hcontent
  rw [hfound] at hx
  show p.config.shown (Path.ofText x.file) = _
  rw [Rule.file_of_mem_findings hx, Document.path_of_ofFile? hread, Path.ofText_text hplain]

/-- The kind of a document and what is wrong with it, when it can be checked. -/
def verdict (p : Project) (path : Path) : DocumentKind × List Diagnostic :=
  (p.check path).toOption.getD (.other, [])

/-- All documents can be checked. -/
def IsCheckable (p : Project) : Prop := ∀ path ∈ p.docs, p.check path = .ok (p.verdict path)

theorem isCheckable_of_exists (h : ∀ path ∈ p.docs, ∃ c, p.check path = .ok c) : p.IsCheckable := by
  intro path hpath
  obtain ⟨c, hc⟩ := h path hpath
  unfold verdict
  rw [hc]
  rfl

/-- Of documents that can be read, only a limit that cannot be written keeps any from being checked, and
then the first one is. -/
theorem isCheckable_or_isOverlong (hread : ∀ path ∈ p.docs, ∃ d, p.read path = .ok d)
    (hnul : p.config.docsDir.refuseNul = .ok ()) :
    p.IsCheckable ∨ (Decimal.isOverlong p.config.rules.maxLines = true ∧
      ∃ path rest, p.docs = path :: rest ∧ p.check path = .error (.config .numberTooLong)) := by
  cases hlimit : Decimal.isOverlong p.config.rules.maxLines with
  | false =>
    refine Or.inl (isCheckable_of_exists fun path hpath => ?_)
    obtain ⟨d, hd⟩ := hread path hpath
    exact exists_check hd hnul hlimit
  | true =>
    cases hdocs : p.docs with
    | nil =>
      refine Or.inl fun path hpath => ?_
      rw [hdocs] at hpath
      cases hpath
    | cons path rest =>
      obtain ⟨d, hd⟩ := hread path (hdocs ▸ List.mem_cons_self)
      exact Or.inr ⟨rfl, path, rest, rfl, check_eq_error hd hnul hlimit⟩

/-- The findings in a document are about its file. -/
theorem exists_of_isCheckable (h : p.IsCheckable) {path : Path} (hpath : path ∈ p.docs) :
    ∃ d, p.read path = .ok d ∧ d.path = path ∧
      (p.verdict path).2 = d.findings (Rule.set p.config.rules p.files (p.verdict path).1) := by
  obtain ⟨d, hread, -, -, -, hfound⟩ := check_eq_ok_iff.mp (h path hpath)
  exact ⟨d, hread, Document.path_of_ofFile? hread, hfound⟩

/-- The errors in a document. -/
def errorsIn (p : Project) (path : Path) : List Diagnostic := Diagnostic.errors (p.verdict path).2

/-- The warnings about a document. -/
def warningsIn (p : Project) (path : Path) : List Diagnostic := Diagnostic.warnings (p.verdict path).2

/-- The report on all documents outside gradual mode. -/
def openReport (p : Project) : CheckReport where
  filesChecked := p.docs.length
  errors := (p.docs.flatMap p.errorsIn).map p.finding
  warnings := (p.docs.flatMap p.warningsIn).map p.finding
  wouldFail := 0
  gradual := false

section Report

variable {git : Git} {today : Date} {o : CheckOptions}
variable (hdir : p.tree.isDir? p.cwd p.config.docsDir = .ok true) (hpaths : o.paths = [])
  (hchanged : o.changed = false)

include hdir hpaths hchanged

/-- The findings of the documents, one after another, make the report. -/
theorem runCheck_eq_bind : p.runCheck git today o = (do
    let found ← p.docs.mapM fun path => return (← p.check path).2
    let gradual := gradualActive p.config.rules o.strict o.gradual today
    let shown := if gradual then found.map (·.map Diagnostic.soften) else found
    let report : CheckReport := {
      filesChecked := p.docs.length
      errors := (shown.flatMap Diagnostic.errors).map p.finding
      warnings := (shown.flatMap Diagnostic.warnings).map p.finding
      wouldFail := if gradual then (found.flatMap Diagnostic.errors).length else 0
      gradual }
    let failed := !report.errors.isEmpty || (o.strict && !report.warnings.isEmpty)
    return (report, if failed then 1 else 0)) := by
  unfold runCheck
  rw [hpaths, discover_nil hdir, hchanged]
  rfl

/-- **A check of all documents outside gradual mode reports what is found in each of them.** -/
theorem runCheck_eq (hgradual : gradualActive p.config.rules o.strict o.gradual today = false)
    (h : p.IsCheckable) :
    p.runCheck git today o = .ok (p.openReport,
      if !p.openReport.errors.isEmpty || (o.strict && !p.openReport.warnings.isEmpty) then 1 else 0) := by
  have hfound : (p.docs.mapM fun path => (return (← p.check path).2 : Outcome (List Diagnostic))) =
      .ok (p.docs.map fun path => (p.verdict path).2) :=
    Outcome.mapM_return_eq_ok h
  have herrors : ((p.docs.map fun path => (p.verdict path).2).flatMap Diagnostic.errors) =
      p.docs.flatMap p.errorsIn := List.flatMap_map ..
  have hwarnings : ((p.docs.map fun path => (p.verdict path).2).flatMap Diagnostic.warnings) =
      p.docs.flatMap p.warningsIn := List.flatMap_map ..
  rw [runCheck_eq_bind hdir hpaths hchanged, hfound]
  simp only [hgradual, Bool.false_eq_true, if_false]
  show Except.ok _ = Except.ok _
  unfold openReport
  rw [← herrors, ← hwarnings]

/-- A report on all documents is there only if each of them can be checked. -/
theorem isCheckable_of_runCheck {r : CheckReport × Nat} (h : p.runCheck git today o = .ok r) :
    p.IsCheckable := by
  rw [runCheck_eq_bind hdir hpaths hchanged] at h
  obtain ⟨found, hfound, -⟩ := Outcome.bind_eq_ok_iff.mp h
  refine isCheckable_of_exists fun path hpath => ?_
  obtain ⟨_, -, hc⟩ := Outcome.exists_of_mapM hfound hpath
  obtain ⟨c, hc, -⟩ := Outcome.bind_eq_ok_iff.mp hc
  exact ⟨c, hc⟩

/-- A first document that cannot be checked keeps the project from being checked. -/
theorem runCheck_eq_error {path : Path} {rest : List Path} (hdocs : p.docs = path :: rest)
    {failure : Failure} (h : p.check path = .error failure) :
    p.runCheck git today o = .error failure := by
  have hfound : ((path :: rest).mapM fun path =>
      (return (← p.check path).2 : Outcome (List Diagnostic))) = .error failure :=
    Outcome.mapM_return_eq_error h
  rw [runCheck_eq_bind hdir hpaths hchanged, hdocs, hfound]
  rfl

end Report

/-- A project in the root directory, with documents below `docs`. -/
def inRoot (files : List (Text × Text)) (rules : RuleOptions) : Project where
  tree := { entries :=
    (["docs".toList], .dir) ::
      files.map fun (name, content) => (["docs".toList, name], .file (Utf8.encode content)) }
  cwd := Path.ofText "/".toList
  config := {
    path := Path.ofText "/.pave.toml".toList
    docsRoot := "docs".toList
    version := "0.1".toList
    templates := none
    rules
    lint := {}
    exclude := []
    table := default }

end Project

end DocAudit
