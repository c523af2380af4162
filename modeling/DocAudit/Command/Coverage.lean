import DocAudit.Command.Project
import DocAudit.Coverage.Report
import DocAudit.Report.Coverage

/-!
# Code and documents

The commands that compare the code of a project with the patterns of its documents: all code, new code,
and code that changed.

## Contents

* `Project.runCoverage`, `Project.runNewCode`, `Project.runChanges`
-/

namespace DocAudit

open Text

namespace Project

/-- Files that no document is about, as they are reported. -/
def uncoveredEntries (files : List Text) : List UncoveredEntry :=
  files.map fun path => { path, suggestedDoc := suggestedDoc? path }

/-- The filter with the exclusions of the configuration before its own. -/
def widened (p : Project) (f : FileFilter) : FileFilter :=
  { f with excluded := p.config.exclude ++ f.excluded }

/-- Reports the coverage of all code. The exit code is 1 when it is below a threshold. -/
def runCoverage (p : Project) (threshold : Option Float) (f : FileFilter) :
    Outcome (CoverageSummary × Nat) := do
  let r := CoverageReport.ofProject p.tree p.config.dir.names (← p.mappings) (p.widened f)
  let report : CoverageSummary := {
    covered := r.covered.length
    uncovered := r.uncovered.length
    total := r.total
    percentage := Decimal.round 2 r.percentage
    directories := r.directories.map fun d =>
      { path := d.path, covered := d.covered, total := d.total,
        percentage := Decimal.round 2 d.percentage }
    uncoveredFiles := uncoveredEntries r.uncovered
    suggestions := r.suggestions.map fun s => { description := s.description, files := s.files }
    threshold := threshold.map fun limit => { limit, met := limit ≤ r.percentage } }
  return (report, if report.thresholdMet then 0 else 1)

/-- Reports the coverage of the code that is new since a base. The exit code is 1 when some of it is not
covered. -/
def runNewCode (p : Project) (git : Git) (base : Option Text) (f : FileFilter) :
    Outcome (NewCodeSummary × Nat) := do
  let (baseRef, added) ← ask do
    let baseRef ← Inquiry.baseRef git base
    return (baseRef, ← Inquiry.addedFiles git baseRef)
  let r := NewCodeReport.analyze (← p.mappings) added (p.widened f)
  let report : NewCodeSummary := {
    baseRef
    newFiles := r.newFiles.length
    newCodeFiles := r.codeFiles.length
    covered := r.covered.length
    uncovered := r.uncovered.length
    uncoveredFiles := uncoveredEntries r.uncovered
    allCovered := r.uncovered.isEmpty }
  return (report, if r.uncovered.isEmpty then 0 else 1)

/-- Reports the documents that the changes since a base are about. In strict mode the exit code is 1
when one of them was not updated. -/
def runChanges (p : Project) (git : Git) (base : Option Text) (strict : Bool) :
    Outcome (ChangeReport × Nat) := do
  let (baseRef, changed) ← ask do
    let baseRef ← Inquiry.baseRef git base
    return (baseRef, ← Inquiry.changedFiles git baseRef)
  let impacted := impactedDocs (← p.mappings) changed
  let missing := (impacted.filter (!·.updated)).map (·.doc)
  let report : ChangeReport := {
    baseRef
    changedFiles := changed.length
    impacted := impacted.map fun d =>
      { doc := d.doc, title := d.title, matched := d.matched, updated := d.updated }
    missing }
  return (report, if strict && !missing.isEmpty then 1 else 0)

end Project

end DocAudit
