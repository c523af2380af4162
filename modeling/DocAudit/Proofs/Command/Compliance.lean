import DocAudit.Command.Doctor
import DocAudit.Proofs.Command.Verdicts
import DocAudit.Proofs.Validation.Findings
import Mathlib

/-!
# Reports on the same documents

Three commands hold the documents of a project against their rules: one lists the errors, one counts the
documents that comply, one looks for problems of the whole project. They agree on which documents fail.

## Contents

* `CheckReport.failingFiles`: the files with errors in a report
* `Project.failing`: the documents that fail
* `Project.failingFiles_openReport`: **the files with errors are the documents that fail, each one once**
* `Project.exitCode_eq_zero_iff`, `Project.strictReady_iff`: when nothing is wrong with any document
* `Health.sectionCheck`, `Health.exists_structureOf`: what is told about documents that fail
* `ReportsAgree`, `Project.exists_reportsAgree`: **the three reports agree on these documents**
-/

namespace DocAudit

open Text

/-- The files with errors in a report, in the order in which they come up. -/
def CheckReport.failingFiles (r : CheckReport) : List Text := (r.errors.map (·.file)).eraseDups

/-! ## Lists with parts -/

section Lists

variable {α : Type}

/-- One value, repeated, is left once. -/
theorem eraseDups_replicate (n : Nat) (x : Text) :
    (List.replicate n x).eraseDups = if n != 0 then [x] else [] := by
  cases n with
  | zero => rfl
  | succ n =>
    have hrest : (List.replicate n x).filter (fun b => !b == x) = [] :=
      List.filter_eq_nil_iff.mpr fun b hb => by simp [List.eq_of_mem_replicate hb]
    rw [List.replicate_succ, List.eraseDups_cons, hrest]
    rfl

/-- Where each member gives one value of its own, any number of times, one value is left for each member that
gives some. -/
theorem eraseDups_flatMap_replicate {f : α → Text} {n : α → Nat} {as : List α} (h : (as.map f).Nodup) :
    (as.flatMap fun a => List.replicate (n a) (f a)).eraseDups = (as.filter (n · != 0)).map f := by
  induction as with
  | nil => rfl
  | cons a as ih =>
    rw [List.map_cons, List.nodup_cons] at h
    -- none of the later values is the one of `a`
    have hlater : (as.flatMap fun a => List.replicate (n a) (f a)).removeAll
        (List.replicate (n a) (f a)) = as.flatMap fun a => List.replicate (n a) (f a) := by
      refine List.filter_eq_self.mpr fun x hx => ?_
      obtain ⟨b, hb, hx⟩ := List.mem_flatMap.mp hx
      have hne : x ≠ f a := by
        rw [List.eq_of_mem_replicate hx]
        exact fun he => h.1 (he ▸ List.mem_map_of_mem hb)
      simp [hne]
    rw [List.flatMap_cons, List.eraseDups_append, hlater, ih h.2, eraseDups_replicate, List.filter_cons]
    by_cases hn : (n a != 0) = true
    · rw [if_pos hn, if_pos hn]
      rfl
    · rw [if_neg hn, if_neg hn]
      rfl

/-- Every member is of one kind. -/
theorem sum_countP_kinds (kindOf : α → DocumentKind) (as : List α) :
    (DocumentKind.all.map fun kind => (as.countP (kindOf · == kind) : Int)).sum = as.length := by
  induction as with
  | nil => rfl
  | cons a as ih =>
    unfold DocumentKind.all at ih ⊢
    simp only [List.map_cons, List.map_nil, List.sum_cons, List.sum_nil, List.countP_cons,
      List.length_cons] at ih ⊢
    cases kindOf a <;> simp <;> omega

end Lists

namespace Project

variable {p : Project}

/-! ## The documents that fail -/

/-- The document has errors. -/
def fails (p : Project) (path : Path) : Bool := !(p.errorsIn path).isEmpty

/-- The documents with errors. -/
def failing (p : Project) : List Path := p.docs.filter p.fails

/-- **The files with errors are the documents that fail, each one once and in the order of the documents.** -/
theorem failingFiles_openReport (hnamed : p.tree.IsNamed)
    (hdir : p.tree.isDir? p.cwd p.config.docsDir = .ok true) (h : p.IsCheckable) :
    p.openReport.failingFiles = p.failing.map p.config.shown := by
  -- each document gives its own path, as often as it has errors
  have hfiles : p.openReport.errors.map (·.file) =
      p.docs.flatMap fun path => List.replicate (p.errorsIn path).length (p.config.shown path) := by
    unfold openReport
    simp only [List.map_map, List.map_flatMap]
    refine List.flatMap_congr fun path hpath => List.eq_replicate_iff.mpr ⟨by simp, fun file hfile => ?_⟩
    obtain ⟨x, hx, rfl⟩ := List.mem_map.mp hfile
    have hresolved := isResolved_of_discover (discover_nil hdir) path hpath
    exact file_finding_of_check hnamed hresolved (h path hpath) (List.mem_of_mem_filter hx)
  have hdistinct : (p.docs.map p.config.shown).Nodup :=
    List.Nodup.map_on (fun path hpath path' hpath' => shown_inj hnamed hdir hpath hpath')
      (nodup_docs p)
  have hfails : (fun path => (p.errorsIn path).length != 0) = p.fails := by
    funext path
    unfold fails
    cases p.errorsIn path <;> rfl
  unfold CheckReport.failingFiles failing
  rw [hfiles, eraseDups_flatMap_replicate hdistinct, hfails]

/-- Nothing is wrong with any document. -/
def IsClean (p : Project) : Prop := ∀ path ∈ p.docs, p.errorsIn path = [] ∧ p.warningsIn path = []

/-- **A strict check succeeds when nothing is wrong with any document.** -/
theorem exitCode_eq_zero_iff :
    (if !p.openReport.errors.isEmpty || (true && !p.openReport.warnings.isEmpty) then 1 else 0) = 0 ↔
      p.IsClean := by
  have herrors : p.openReport.errors = [] ↔ ∀ path ∈ p.docs, p.errorsIn path = [] := by
    unfold openReport
    rw [List.map_eq_nil_iff, List.flatMap_eq_nil_iff]
  have hwarnings : p.openReport.warnings = [] ↔ ∀ path ∈ p.docs, p.warningsIn path = [] := by
    unfold openReport
    rw [List.map_eq_nil_iff, List.flatMap_eq_nil_iff]
  have hclean : p.IsClean ↔ p.openReport.errors = [] ∧ p.openReport.warnings = [] := by
    unfold IsClean
    rw [herrors, hwarnings, forall₂_and]
  rw [hclean]
  cases p.openReport.errors <;> cases p.openReport.warnings <;> simp

/-! ## The count of the documents that comply -/

/-- A verdict without errors. -/
def complies (c : DocumentKind × List Diagnostic) : Bool := (Diagnostic.errors c.2).isEmpty

/-- A document complies or fails. -/
theorem length_complying :
    ((p.docs.map p.verdict).filter complies).length + p.failing.length = p.docs.length := by
  unfold failing
  rw [← List.countP_eq_length_filter, ← List.countP_eq_length_filter, List.countP_map,
    List.length_eq_countP_add_countP p.fails, Nat.add_comm]
  refine congrArg _ (List.countP_congr fun path _ => ?_)
  unfold fails errorsIn
  simp [complies]

/-- **All documents comply without warnings when nothing is wrong with any of them.** -/
theorem strictReady_iff :
    (((p.docs.map p.verdict).filter complies).length == p.docs.length &&
      (((p.docs.map p.verdict).filter complies).filter fun c =>
        !(Diagnostic.warnings c.2).isEmpty).isEmpty) = true ↔ p.IsClean := by
  have hall : ((p.docs.map p.verdict).filter complies).length = p.docs.length ↔
      ∀ path ∈ p.docs, p.errorsIn path = [] := by
    rw [← List.length_map p.verdict, List.length_filter_eq_length_iff, List.forall_mem_map]
    exact forall₂_congr fun path _ => List.isEmpty_iff
  -- only documents that comply are asked for warnings
  have hwarned : (((p.docs.map p.verdict).filter complies).filter fun c =>
      !(Diagnostic.warnings c.2).isEmpty) = [] ↔
        ∀ path ∈ p.docs, p.errorsIn path = [] → p.warningsIn path = [] := by
    rw [List.filter_filter, List.filter_eq_nil_iff, List.forall_mem_map]
    refine forall₂_congr fun path _ => ?_
    show ¬(!(p.warningsIn path).isEmpty && (p.errorsIn path).isEmpty) = true ↔ _
    cases p.errorsIn path <;> cases p.warningsIn path <;> simp
  rw [Bool.and_eq_true, beq_iff_eq, List.isEmpty_iff, hall, hwarned]
  constructor
  · rintro ⟨herrors, hwarnings⟩ path hpath
    exact ⟨herrors path hpath, hwarnings path hpath (herrors path hpath)⟩
  · intro h
    exact ⟨fun path hpath => (h path hpath).1, fun path hpath _ => (h path hpath).2⟩

/-- The counts of a status report on documents that can be checked. -/
theorem exists_status (git : Git) (today : Date)
    (hdir : p.tree.isDir? p.cwd p.config.docsDir = .ok true) (h : p.IsCheckable) :
    ∃ status, p.runStatus git today false none = .ok (status, 0) ∧
      status.total = p.docs.length ∧ status.error = p.failing.length ∧
      status.compliant = status.total - p.failing.length ∧
      (status.kinds.map (·.2.total)).sum = status.total ∧
      (status.kinds.map (·.2.compliant)).sum = status.compliant ∧
      (status.strictReady = true ↔ p.IsClean) := by
  have hcount := length_complying (p := p)
  unfold runStatus
  rw [documents_eq hdir]
  show ∃ status, (do
    let checked ← p.docs.mapM p.check
    _) = Except.ok (status, 0) ∧ _
  rw [Outcome.mapM_eq_ok_map h]
  refine ⟨_, rfl, rfl, ?_, ?_, ?_, ?_, strictReady_iff⟩
  · show (p.docs.length : Int) - ((p.docs.map p.verdict).filter complies).length = p.failing.length
    omega
  · show (((p.docs.map p.verdict).filter complies).length : Int) = p.docs.length - p.failing.length
    omega
  · show (DocumentKind.all.map fun kind =>
      ((p.docs.map p.verdict).countP (·.1 == kind) : Int)).sum = (p.docs.length : Int)
    rw [sum_countP_kinds, List.length_map]
  · exact sum_countP_kinds (·.1) ((p.docs.map p.verdict).filter complies)

end Project

/-! ## The check that tells failures -/

/-- A check that tells that documents fail. -/
def HealthCheck.TellsFailures (c : HealthCheck) : Prop :=
  c.name = "Required sections".toList ∧ c.status = "error".toList

namespace Health

/-- What is told about the files that fail. -/
def sectionCheck (files : List Text) : HealthCheck :=
  if files.isEmpty then pass "Required sections" "All documents pass validation".toList
  else problem "error" "Required sections" (counted files.length "document(s) fail validation")
    "Run `pave check` for details".toList files

theorem tellsFailures_sectionCheck_iff {files : List Text} :
    (sectionCheck files).TellsFailures ↔ files ≠ [] := by
  unfold sectionCheck HealthCheck.TellsFailures
  cases files with
  | nil => decide
  | cons file files => exact iff_of_true ⟨rfl, rfl⟩ (List.cons_ne_nil file files)

/-- Of the checks of a project with documents, one is about the files that fail. -/
theorem exists_structureOf {p : Project} (h : p.IsCheckable) (hdocs : p.docs ≠ []) :
    ∃ category, structureOf p p.docs = .ok category ∧
      sectionCheck (p.failing.map p.config.shown) ∈ category.checks ∧
      ∀ c ∈ category.checks, c.name = "Required sections".toList →
        c = sectionCheck (p.failing.map p.config.shown) := by
  have hfound : (p.docs.mapM fun path =>
      (return (path, (← p.check path).2) : Outcome (Path × List Diagnostic))) =
      .ok (p.docs.map fun path => (path, (p.verdict path).2)) :=
    Outcome.mapM_return_eq_ok h
  have hfailing : (((p.docs.map fun path => (path, (p.verdict path).2)).filter fun c =>
      !(Diagnostic.errors c.2).isEmpty).map (p.config.shown ·.1)) =
      p.failing.map p.config.shown := by
    rw [List.filter_map, List.map_map]
    rfl
  -- the other checks have other names
  have hother : ∀ {c : HealthCheck} (name : Text), c.name = name → name ≠ "Required sections".toList →
      c.name = "Required sections".toList → c = sectionCheck (p.failing.map p.config.shown) :=
    fun _ hname hne he => absurd (hname.symm.trans he) hne
  unfold structureOf
  rw [if_neg (by simpa using hdocs), hfound]
  refine ⟨_, rfl, ?_⟩
  rw [hfailing]
  refine ⟨List.mem_cons_of_mem _ List.mem_cons_self, ?_⟩
  simp only [List.forall_mem_cons]
  refine ⟨hother "Documents".toList rfl (by decide), fun _ => rfl,
    hother "Line limits".toList ?_ (by decide), hother "Index".toList ?_ (by decide), by simp⟩
  · split <;> rfl
  · split <;> rfl

end Health

/-! ## The three reports -/

/-- The reports of a check, of a strict one, of the count and of the search for problems agree on the
documents that fail. -/
structure ReportsAgree (check : CheckReport) (strictCode : Nat) (status : StatusReport)
    (category : HealthCategory) : Prop where
  total : status.total = check.filesChecked
  error : status.error = check.failingFiles.length
  compliant : status.compliant = status.total - check.failingFiles.length
  kinds_total : (status.kinds.map (·.2.total)).sum = status.total
  kinds_compliant : (status.kinds.map (·.2.compliant)).sum = status.compliant
  strict : status.strictReady = true ↔ strictCode = 0
  told : (∃ c ∈ category.checks, c.TellsFailures) ↔ check.failingFiles ≠ []
  affected : ∀ c ∈ category.checks, c.TellsFailures →
    c.message = ofNat check.failingFiles.length ++ " document(s) fail validation".toList ∧
    c.affected = check.failingFiles.take 10

namespace Project

variable {p : Project} {git : Git} {today : Date}

/-- The category about the documents, whether there are any or not. -/
theorem exists_category (hdir : p.tree.isDir? p.cwd p.config.docsDir = .ok true) (h : p.IsCheckable) :
    ∃ category, (do Health.structureOf p (← p.documents)) = .ok category ∧
      ((∃ c ∈ category.checks, c.TellsFailures) ↔ p.failing ≠ []) ∧
      ∀ c ∈ category.checks, c.TellsFailures →
        c = Health.sectionCheck (p.failing.map p.config.shown) := by
  rw [documents_eq hdir]
  show ∃ category, Health.structureOf p p.docs = .ok category ∧ _
  by_cases hdocs : p.docs = []
  · have hnone : ∀ c ∈ [Health.problem "warning" "Documents" "No documents found".toList
        ("Add markdown files under ".toList ++ Health.inQuotes p.config.docsRoot)],
        ¬c.TellsFailures := by
      intro c hc
      rw [List.mem_singleton.mp hc]
      exact fun h => absurd (show "Documents".toList = "Required sections".toList from h.1) (by decide)
    have hfailing : p.failing = [] := by
      unfold failing
      rw [hdocs]
      rfl
    unfold Health.structureOf
    rw [if_pos (List.isEmpty_iff.mpr hdocs)]
    exact ⟨_, rfl, iff_of_false (fun ⟨c, hc, htells⟩ => hnone c hc htells) (fun hne => hne hfailing),
      fun c hc htells => absurd htells (hnone c hc)⟩
  · obtain ⟨category, hcategory, hmem, honly⟩ := Health.exists_structureOf h hdocs
    refine ⟨category, hcategory, ?_, fun c hc htells => honly c hc htells.1⟩
    constructor
    · rintro ⟨c, hc, htells⟩ hfailing
      rw [honly c hc htells.1, Health.tellsFailures_sectionCheck_iff, hfailing] at htells
      exact htells rfl
    · intro hne
      exact ⟨_, hmem, Health.tellsFailures_sectionCheck_iff.mpr (by simpa using hne)⟩

section Failure

variable (hdir : p.tree.isDir? p.cwd p.config.docsDir = .ok true) {path : Path} {rest : List Path}
  (hdocs : p.docs = path :: rest) {failure : Failure} (h : p.check path = .error failure)

include hdir hdocs h

/-- A first document that cannot be checked keeps the documents from being counted. -/
theorem runStatus_eq_error : p.runStatus git today false none = .error failure := by
  unfold runStatus
  rw [documents_eq hdir, hdocs]
  show (do
    let checked ← (path :: rest).mapM p.check
    _) = Except.error failure
  rw [Outcome.mapM_eq_error h]
  rfl

/-- A first document that cannot be checked keeps the project from being searched for problems. -/
theorem structureOf_eq_error : (do Health.structureOf p (← p.documents)) = .error failure := by
  have hfound : ((path :: rest).mapM fun path =>
      (return (path, (← p.check path).2) : Outcome (Path × List Diagnostic))) = .error failure :=
    Outcome.mapM_return_eq_error h
  rw [documents_eq hdir, hdocs]
  show Health.structureOf p (path :: rest) = .error failure
  unfold Health.structureOf
  rw [if_neg (by simp), hfound]
  rfl

end Failure

/-- **A check, a strict check, the count of the documents that comply and the search for problems agree on
the documents that fail, in every project whose documents can be read.** Only a limit that is too long to
be written keeps all of them from a report. -/
theorem exists_reportsAgree (git : Git) (today : Date) (hnamed : p.tree.IsNamed)
    (hdir : p.tree.isDir? p.cwd p.config.docsDir = .ok true)
    (hread : ∀ docs, p.discover [] = .ok docs → ∀ path ∈ docs, ∃ d, p.read path = .ok d)
    (hgradual : gradualActive p.config.rules false false today = false) :
    (∃ check code strictReport strictCode status category,
      p.runCheck git today {} = .ok (check, code) ∧
      p.runCheck git today { strict := true } = .ok (strictReport, strictCode) ∧
      p.runStatus git today false none = .ok (status, 0) ∧
      (do Health.structureOf p (← p.documents)) = .ok category ∧
      ReportsAgree check strictCode status category) ∨
    (Decimal.isOverlong p.config.rules.maxLines = true ∧
      p.runCheck git today {} = .error (.config .numberTooLong) ∧
      p.runCheck git today { strict := true } = .error (.config .numberTooLong) ∧
      p.runStatus git today false none = .error (.config .numberTooLong) ∧
      (do Health.structureOf p (← p.documents)) = .error (.config .numberTooLong)) := by
  obtain ⟨-, -, names, hnames, hfind⟩ := FileTree.isDir?_eq_ok_true hdir
  have hnul := FileTree.refuseNul_of_found hnamed hnames hfind
  have hread := hread p.docs (discover_nil hdir)
  rcases isCheckable_or_isOverlong hread hnul with hcheck | ⟨hlimit, path, rest, hdocs, herror⟩
  · left
    have hfiles := failingFiles_openReport hnamed hdir hcheck
    have hlength : p.openReport.failingFiles.length = p.failing.length := by rw [hfiles, List.length_map]
    obtain ⟨status, hstatus, htotal, herror, hcompliant, hkinds, hcompliants, hready⟩ :=
      exists_status git today hdir hcheck
    obtain ⟨category, hcategory, htold, honly⟩ := exists_category hdir hcheck
    refine ⟨_, _, _, _, status, category, runCheck_eq hdir rfl rfl hgradual hcheck,
      runCheck_eq hdir rfl rfl rfl hcheck, hstatus, hcategory, ?_⟩
    exact {
      total := htotal
      error := by rw [herror, hlength]
      compliant := by rw [hcompliant, hlength]
      kinds_total := hkinds
      kinds_compliant := hcompliants
      strict := hready.trans exitCode_eq_zero_iff.symm
      told := by rw [htold, hfiles, Ne, Ne, List.map_eq_nil_iff]
      affected := fun c hc htells => by
        have hne : p.openReport.failingFiles ≠ [] := by
          rw [honly c hc htells, Health.tellsFailures_sectionCheck_iff, ← hfiles] at htells
          exact htells
        rw [honly c hc htells, ← hfiles]
        unfold Health.sectionCheck
        rw [if_neg (by simpa using hne)]
        exact ⟨rfl, rfl⟩ }
  · -- the first document is checked first by all of them
    right
    exact ⟨hlimit, runCheck_eq_error hdir rfl rfl hdocs herror, runCheck_eq_error hdir rfl rfl hdocs herror,
      runStatus_eq_error hdir hdocs herror, structureOf_eq_error hdir hdocs herror⟩

/-- A project with three documents: one does not tell its purpose, one has too many lines, and nothing is
wrong with the third one. -/
def mixed : Project :=
  inRoot [("a.md".toList, "# A\n".toList),
      ("b.md".toList, "# B\n\n## Purpose\n\nLong.\n".toList),
      ("c.md".toList, "# C\n## Purpose\n".toList)]
    { maxLines := 4, requireVerification := false, requireExamples := false }

/-- The reports agree that the first document fails. -/
theorem exists_reportsAgree_mixed :
    let today : Date := { year := 2026, month := 1, day := 1, valid := by decide }
    (mixed.tree.IsNamed ∧ mixed.tree.isDir? mixed.cwd mixed.config.docsDir = .ok true ∧
      (∀ docs, mixed.discover [] = .ok docs → ∀ path ∈ docs, ∃ d, mixed.read path = .ok d) ∧
      gradualActive mixed.config.rules false false today = false) ∧
    ∃ check code strictReport strictCode status category,
      mixed.runCheck (fun _ => .error []) today {} = .ok (check, code) ∧
      mixed.runCheck (fun _ => .error []) today { strict := true } = .ok (strictReport, strictCode) ∧
      mixed.runStatus (fun _ => .error []) today false none = .ok (status, 0) ∧
      (do Health.structureOf mixed (← mixed.documents)) = .ok category ∧
      check.failingFiles = ["docs/a.md".toList] ∧
      ReportsAgree check strictCode status category := by
  intro today
  have hnamed : mixed.tree.IsNamed := by decide
  have hdir : mixed.tree.isDir? mixed.cwd mixed.config.docsDir = .ok true := rfl
  have hdocs : mixed.docs =
      ["/docs/a.md".toList, "/docs/b.md".toList, "/docs/c.md".toList].map Path.ofText := by cbv
  have hread : ∀ docs, mixed.discover [] = .ok docs → ∀ path ∈ docs, ∃ d, mixed.read path = .ok d := by
    intro docs h path hpath
    have hall : ∀ path ∈ ["/docs/a.md".toList, "/docs/b.md".toList, "/docs/c.md".toList].map Path.ofText,
        (mixed.read path).toOption.isSome = true := by decide +kernel
    cases (discover_nil hdir).symm.trans h
    rw [hdocs] at hpath
    exact Outcome.exists_of_isSome (hall path hpath)
  refine ⟨⟨hnamed, hdir, hread, rfl⟩, ?_⟩
  obtain ⟨check, code, strictReport, strictCode, status, category, hcheck, hstrict, hstatus, hcategory,
    hagree⟩ | ⟨hlimit, -⟩ := exists_reportsAgree (fun _ => .error []) today hnamed hdir hread rfl
  · refine ⟨check, code, strictReport, strictCode, status, category, hcheck, hstrict, hstatus, hcategory,
      ?_, hagree⟩
    have hcheckable := isCheckable_of_runCheck hdir rfl rfl hcheck
    cases (runCheck_eq hdir rfl rfl rfl hcheckable).symm.trans hcheck
    rw [failingFiles_openReport hnamed hdir hcheckable, failing, hdocs]
    decide +kernel
  · exact absurd hlimit (by decide +kernel)

end Project

end DocAudit
