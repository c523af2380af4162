import DocAudit.Command.Doctor
import DocAudit.Proofs.Command.Verdicts
import DocAudit.Proofs.Validation.Findings
import Mathlib

/-!
# Patterns that were checked

The patterns that drive coverage are gathered from the files below the directory of the documents, while
those that are checked are gathered from the resolved paths of the documents. They are the same: a check that
finds nothing wrong with patterns leaves none with which coverage could go wrong.

## Contents

* `Project.document`: the document at a path
* `Project.exists_mappings`: **the patterns of mappings are those of the documents**
* `Project.findings_patterns`: findings about patterns are reported
* `Project.countP_errors`, `Health.exists_coverage`: how many patterns are faulty, by both counts
* `Project.runCheck_validatePaths`: **mappings after a check of the patterns**
-/

namespace DocAudit

open Text

namespace Project

variable {p : Project}

/-- The document at a path, when it can be read. -/
def document (p : Project) (path : Path) : Document := (p.read path).toOption.getD default

theorem read_eq_document (h : p.IsCheckable) {path : Path} (hpath : path ∈ p.docs) :
    p.read path = .ok (p.document path) := by
  obtain ⟨d, hread, -⟩ := exists_of_isCheckable h hpath
  unfold document
  rw [hread]
  rfl

/-- What is found in a document that can be checked. -/
theorem verdict_eq (h : p.IsCheckable) {path : Path} (hpath : path ∈ p.docs) :
    (p.verdict path).2 =
      (p.document path).findings (Rule.set p.config.rules p.files (p.verdict path).1) := by
  obtain ⟨d, hread, -, hfound⟩ := exists_of_isCheckable h hpath
  cases hread.symm.trans (read_eq_document h hpath)
  exact hfound

/-- **Every pattern of a mapping is a pattern of a document that is checked.** -/
theorem exists_mappings (hnamed : p.tree.IsNamed)
    (hdir : p.tree.isDir? p.cwd p.config.docsDir = .ok true) (h : p.IsCheckable) :
    ∃ ms, p.mappings = .ok ms ∧ ∀ m ∈ ms, ∀ pattern ∈ m.patterns,
      ∃ path ∈ p.docs, ∃ line, (line, pattern) ∈ (p.document path).patterns := by
  have hdocs : ∀ file ∈ p.docFiles, p.resolve file ∈ p.docs := fun file hfile =>
    mem_docs_iff.mpr ⟨file, hfile, rfl⟩
  have hread : ∀ file ∈ p.docFiles,
      p.read file = .ok { p.document (p.resolve file) with path := file } := fun file hfile =>
    read_of_read_resolve hnamed hdir hfile (read_eq_document h (hdocs file hfile))
  refine ⟨_, (mappings_eq_ok_iff hdir).mpr ⟨_, Outcome.mapM_eq_ok_map hread, rfl⟩, ?_⟩
  -- the mapping comes from a file, and its patterns stand in the document at the resolved path
  intro m hm pattern hpattern
  obtain ⟨d, hd, hm⟩ := List.mem_filterMap.mp hm
  obtain ⟨file, hfile, rfl⟩ := List.mem_map.mp hd
  refine ⟨p.resolve file, hdocs file hfile, ?_⟩
  unfold DocMapping.ofDocument? at hm
  simp only at hm
  split at hm
  · cases hm
  · rw [← Option.some.inj hm] at hpattern
    obtain ⟨⟨line, _⟩, hmem, rfl⟩ := List.mem_map.mp hpattern
    exact ⟨line, hmem⟩

section Validated

variable (hvalidate : p.config.rules.validatePaths = true) (h : p.IsCheckable)

include hvalidate h

/-- A finding about a pattern is in the report. -/
theorem findings_patterns {path : Path} (hpath : path ∈ p.docs) {x : Diagnostic}
    (hx : x ∈ (Rule.validatePaths (if p.config.rules.warnEmptyPaths then some p.files else none)).findings
      (p.document path)) :
    p.finding x ∈ p.openReport.errors ∨ p.finding x ∈ p.openReport.warnings := by
  have hmem : x ∈ (p.verdict path).2 := by
    rw [verdict_eq h hpath]
    rw [← Document.filter_findings_set hvalidate _ _ (p.verdict path).1] at hx
    exact List.mem_of_mem_filter hx
  cases herror : x.isError with
  | true =>
    exact Or.inl (List.mem_map_of_mem (List.mem_flatMap.mpr
      ⟨path, hpath, List.mem_filter.mpr ⟨hmem, herror⟩⟩))
  | false =>
    exact Or.inr (List.mem_map_of_mem (List.mem_flatMap.mpr
      ⟨path, hpath, List.mem_filter.mpr ⟨hmem, by rw [herror]; rfl⟩⟩))

/-- The errors about patterns are as many as the patterns that are faulty. -/
theorem countP_errors : p.openReport.errors.countP (·.rule == "validate-paths".toList) =
    (p.docs.map fun path => (p.document path).patterns.countP (Health.isBadPattern ·.2)).sum := by
  unfold openReport
  rw [List.countP_map, List.countP_flatMap]
  refine congrArg List.sum (List.map_congr_left fun path hpath => ?_)
  show (Diagnostic.errors (p.verdict path).2).countP (·.rule == "validate-paths".toList) = _
  rw [verdict_eq h hpath, Document.countP_errors_set hvalidate]
  rfl

variable (hnoerror : ∀ x ∈ p.openReport.errors, x.rule ≠ "validate-paths".toList)

include hnoerror

/-- Without an error about patterns, no pattern of a document is faulty. -/
theorem isBadPattern_eq_false {path : Path} (hpath : path ∈ p.docs) {line : Nat} {pattern : Text}
    (hpattern : (line, pattern) ∈ (p.document path).patterns) : Health.isBadPattern pattern = false := by
  have hzero : p.openReport.errors.countP (·.rule == "validate-paths".toList) = 0 :=
    List.countP_eq_zero.mpr fun x hx he => hnoerror x hx (beq_iff_eq.mp he)
  rw [countP_errors hvalidate h] at hzero
  have hnone : (p.document path).patterns.countP (Health.isBadPattern ·.2) = 0 :=
    List.sum_eq_zero_iff_forall_eq_nat.mp hzero _ (List.mem_map_of_mem hpath)
  exact Bool.eq_false_iff.mpr (List.countP_eq_zero.mp hnone _ hpattern)

/-- Without a warning either, every pattern of a document covers a file, when that is looked into. -/
theorem exists_covers (hwarn : p.config.rules.warnEmptyPaths = true)
    (hnowarning : ∀ x ∈ p.openReport.warnings, x.rule ≠ "validate-paths".toList) {path : Path}
    (hpath : path ∈ p.docs) {line : Nat} {pattern : Text}
    (hpattern : (line, pattern) ∈ (p.document path).patterns) :
    ∃ file ∈ p.files, PathPattern.covers file pattern = true := by
  have hfound : Rule.patternFinding? (p.document path) (some p.files) line pattern = none := by
    refine Option.eq_none_iff_forall_ne_some.mpr fun x hx => ?_
    have hrule : (p.finding x).rule = "validate-paths".toList := (Rule.of_patternFinding? hx).2
    have hmem : x ∈ (Rule.validatePaths (if p.config.rules.warnEmptyPaths then some p.files
        else none)).findings (p.document path) := by
      rw [if_pos hwarn]
      exact List.mem_filterMap.mpr ⟨(line, pattern), hpattern, hx⟩
    rcases findings_patterns hvalidate h hpath hmem with hx | hx
    · exact hnoerror _ hx hrule
    · exact hnowarning _ hx hrule
  exact (Rule.patternFinding?_eq_none_iff.mp hfound).2.2 p.files rfl

end Validated

end Project

/-! ## The check that counts patterns -/

/-- A check tells how many patterns are faulty. -/
structure HealthCheck.TellsFaulty (c : HealthCheck) (n : Nat) : Prop where
  name : c.name = "Path patterns".toList
  status : c.status = if n = 0 then "pass".toList else "error".toList
  message : n ≠ 0 → c.message = ofNat n ++ " invalid path pattern(s)".toList

namespace Health

/-- What is told about patterns that are faulty. -/
def patternCheck (bad : List Text) : HealthCheck :=
  if bad.isEmpty then pass "Path patterns" "All path patterns are valid".toList
  else problem "error" "Path patterns" (counted bad.length "invalid path pattern(s)")
    "Use relative glob patterns in ## Paths sections".toList bad

theorem tellsFaulty_patternCheck (bad : List Text) : (patternCheck bad).TellsFaulty bad.length := by
  cases bad with
  | nil => exact ⟨rfl, rfl, fun h => absurd rfl h⟩
  | cons first rest => exact ⟨rfl, rfl, fun _ => rfl⟩

/-- The faulty patterns of the documents, with the places where they stand. -/
def badPatterns (p : Project) : List Text :=
  p.docs.flatMap fun path => ((p.document path).patterns.filter fun q => isBadPattern q.2).map fun q =>
    p.config.shown path ++ ':' :: ofNat q.1 ++ ": ".toList ++ q.2

theorem length_badPatterns (p : Project) : (badPatterns p).length =
    (p.docs.map fun path => (p.document path).patterns.countP (isBadPattern ·.2)).sum := by
  unfold badPatterns
  simp only [List.length_flatMap, List.length_map, List.countP_eq_length_filter]

/-- Of the checks of the coverage, one counts the patterns of the documents that are faulty. -/
theorem exists_coverage {p : Project} (h : p.IsCheckable) {ms : List DocMapping} (hms : p.mappings = .ok ms) :
    ∃ category, coverage p p.docs = .ok category ∧ patternCheck (badPatterns p) ∈ category.checks ∧
      ∀ c ∈ category.checks, c.name = "Path patterns".toList → c = patternCheck (badPatterns p) := by
  have hread : (p.docs.mapM fun path => (return (path, ← p.read path) : Outcome (Path × Document))) =
      .ok (p.docs.map fun path => (path, p.document path)) :=
    Outcome.mapM_return_eq_ok fun _ hpath => Project.read_eq_document h hpath
  -- the other checks have other names
  have hother : ∀ {c : HealthCheck} (name : Text), c.name = name → name ≠ "Path patterns".toList →
      c.name = "Path patterns".toList → c = patternCheck (badPatterns p) :=
    fun _ hname hne he => absurd (hname.symm.trans he) hne
  unfold coverage
  rw [hread]
  show ∃ category, (do
    let mappings ← p.mappings
    _) = Except.ok category ∧ _
  rw [hms, List.flatMap_map]
  by_cases hnone : ms.isEmpty = true
  · refine ⟨_, if_pos hnone, List.mem_cons_self, ?_⟩
    simp only [List.forall_mem_cons]
    exact ⟨fun _ => rfl, hother "Path mappings".toList rfl (by decide), by simp⟩
  · refine ⟨_, if_neg hnone, List.mem_cons_self, ?_⟩
    simp only [List.forall_mem_cons]
    refine ⟨fun _ => rfl, hother "Path mappings".toList rfl (by decide),
      hother "Coverage".toList ?_ (by decide), by simp⟩
    split <;> rfl

end Health

namespace Project

variable {p : Project}

/--
**After a check that finds no error in patterns, no mapping has a faulty one.**

Where patterns that cover nothing are looked for and none is found either, every pattern of a mapping covers
a file of the project. Whatever the check finds, the search for problems counts as many faulty patterns as
there are errors.
-/
theorem runCheck_validatePaths (git : Git) (today : Date) (o : CheckOptions) (hnamed : p.tree.IsNamed)
    (hdir : p.tree.isDir? p.cwd p.config.docsDir = .ok true)
    (hvalidate : p.config.rules.validatePaths = true) (hpaths : o.paths = []) (hchanged : o.changed = false)
    (hgradual : gradualActive p.config.rules o.strict o.gradual today = false)
    {report : CheckReport} {code : Nat} (h : p.runCheck git today o = .ok (report, code)) :
    ∃ mappings category, p.mappings = .ok mappings ∧
      (do Health.coverage p (← p.documents)) = .ok category ∧
      ((∀ x ∈ report.errors, x.rule ≠ "validate-paths".toList) →
        (∀ m ∈ mappings, ∀ pattern ∈ m.patterns,
          PathPattern.isAbsolute pattern = false ∧ PathPattern.fault? pattern = none) ∧
        (p.config.rules.warnEmptyPaths = true →
          (∀ x ∈ report.warnings, x.rule ≠ "validate-paths".toList) →
          ∀ m ∈ mappings, ∀ pattern ∈ m.patterns,
            ∃ file ∈ p.files, PathPattern.covers file pattern = true)) ∧
      (∃ c ∈ category.checks, c.name = "Path patterns".toList) ∧
      ∀ c ∈ category.checks, c.name = "Path patterns".toList →
        c.TellsFaulty (report.errors.countP (·.rule == "validate-paths".toList)) := by
  have hcheck := isCheckable_of_runCheck hdir hpaths hchanged h
  cases (runCheck_eq hdir hpaths hchanged hgradual hcheck).symm.trans h
  obtain ⟨mappings, hmappings, hpatterns⟩ := exists_mappings hnamed hdir hcheck
  obtain ⟨category, hcategory, hmem, honly⟩ := Health.exists_coverage hcheck hmappings
  have hcount : (Health.badPatterns p).length =
      p.openReport.errors.countP (·.rule == "validate-paths".toList) := by
    rw [countP_errors hvalidate hcheck, Health.length_badPatterns]
  have htold := Health.tellsFaulty_patternCheck (Health.badPatterns p)
  refine ⟨mappings, category, hmappings, ?_, ?_, ⟨_, hmem, htold.name⟩, ?_⟩
  · rw [documents_eq hdir]
    exact hcategory
  · intro hnoerror
    constructor
    · intro m hm pattern hpattern
      obtain ⟨path, hpath, line, hpattern⟩ := hpatterns m hm pattern hpattern
      have hgood := isBadPattern_eq_false hvalidate hcheck hnoerror hpath hpattern
      unfold Health.isBadPattern at hgood
      rw [Bool.or_eq_false_iff, Option.isSome_eq_false_iff, Option.isNone_iff_eq_none] at hgood
      exact hgood
    · intro hwarn hnowarning m hm pattern hpattern
      obtain ⟨path, hpath, line, hpattern⟩ := hpatterns m hm pattern hpattern
      exact exists_covers hvalidate hcheck hnoerror hwarn hnowarning hpath hpattern
  · intro c hc hname
    rw [honly c hc hname, ← hcount]
    exact htold

/-- A project with a document that lists one pattern, which covers the document. -/
def listing : Project :=
  inRoot [("a.md".toList, "# A\n## Purpose\n## Paths\n- docs/*.md\n".toList)]
    { requireVerification := false, requireExamples := false, validatePaths := true, warnEmptyPaths := true }

/-- Nothing is found in the project, and its only pattern covers a file. -/
theorem runCheck_validatePaths_listing :
    let today : Date := { year := 2026, month := 1, day := 1, valid := by decide }
    let o : CheckOptions := {}
    (listing.tree.IsNamed ∧ listing.tree.isDir? listing.cwd listing.config.docsDir = .ok true ∧
      listing.config.rules.validatePaths = true ∧ o.paths = [] ∧ o.changed = false ∧
      gradualActive listing.config.rules o.strict o.gradual today = false) ∧
    ∃ report code mappings category,
      listing.runCheck (fun _ => .error []) today o = .ok (report, code) ∧
      report.errors = [] ∧ report.warnings = [] ∧ listing.mappings = .ok mappings ∧
      (do Health.coverage listing (← listing.documents)) = .ok category ∧
      mappings.map (·.patterns) = [["docs/*.md".toList]] ∧
      (∀ m ∈ mappings, ∀ pattern ∈ m.patterns,
        ∃ file ∈ listing.files, PathPattern.covers file pattern = true) ∧
      ∀ c ∈ category.checks, c.name = "Path patterns".toList → c.TellsFaulty 0 := by
  intro today o
  have hnamed : listing.tree.IsNamed := by decide
  have hdir : listing.tree.isDir? listing.cwd listing.config.docsDir = .ok true := rfl
  have hfiles : listing.files = ["docs/a.md".toList] := by cbv
  have hdocFiles : listing.docFiles = [Path.ofText "/docs/a.md".toList] := by cbv
  have hdocs : listing.docs = [Path.ofText "/docs/a.md".toList] := by cbv
  have hcheck : listing.IsCheckable := by
    refine isCheckable_of_exists fun path hpath => ?_
    rw [hdocs, List.mem_singleton] at hpath
    rw [hpath]
    exact Outcome.exists_of_isSome (by decide +kernel)
  have hclean : (listing.verdict (Path.ofText "/docs/a.md".toList)).2 = [] := by
    rw [verdict_eq hcheck (by rw [hdocs]; exact List.mem_singleton_self _), hfiles]
    decide +kernel
  have herrors : listing.openReport.errors = [] := by
    simp only [openReport, errorsIn, hdocs, List.flatMap_cons, List.flatMap_nil, hclean]
    rfl
  have hwarnings : listing.openReport.warnings = [] := by
    simp only [openReport, warningsIn, hdocs, List.flatMap_cons, List.flatMap_nil, hclean]
    rfl
  have hrun : listing.runCheck (fun _ => .error []) today o = .ok (listing.openReport, 0) := by
    rw [runCheck_eq hdir rfl rfl rfl hcheck, herrors]
    rfl
  obtain ⟨mappings, category, hmappings, hcategory, hgood, -, hcount⟩ :=
    runCheck_validatePaths (fun _ => .error []) today o hnamed hdir rfl rfl rfl rfl hrun
  rw [herrors] at hgood hcount
  rw [hwarnings] at hgood
  refine ⟨⟨hnamed, hdir, rfl, rfl, rfl, rfl⟩, _, _, mappings, category, hrun, herrors, hwarnings, hmappings,
    hcategory, ?_, (hgood (by simp)).2 rfl (by simp), hcount⟩
  obtain ⟨ds, hds, rfl⟩ := (mappings_eq_ok_iff hdir).mp hmappings
  have hlisted : ([Path.ofText "/docs/a.md".toList].mapM listing.read).toOption.map (fun ds =>
      (ds.filterMap (DocMapping.ofDocument? listing.config.dir)).map (·.patterns)) =
      some [["docs/*.md".toList]] := by decide +kernel
  rw [← hdocFiles, hds] at hlisted
  exact Option.some.inj hlisted

end Project

end DocAudit
