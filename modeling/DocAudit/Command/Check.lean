import DocAudit.Command.Project
import DocAudit.Report.Check
import DocAudit.Report.Status

/-!
# Checking documents

The commands that hold documents against their rules: one lists all findings, the other counts the
documents that comply.

## Contents

* `Project.runCheck`
* `Project.runStatus`
-/

namespace DocAudit

open Text

/-- Options of the command that checks. -/
structure CheckOptions where
  paths : List Path := []
  strict : Bool := false
  gradual : Bool := false
  changed : Bool := false
  base : Option Text := none

namespace Project

/-- A finding as it is reported. -/
def finding (p : Project) (d : Diagnostic) : Finding where
  file := p.config.shown (Path.ofText d.file)
  line := d.line.map Int.ofNat
  severity := d.severity.name
  rule := d.rule
  message := d.message
  hint := d.hint
  converted := d.converted

/-- The documents among those that changed since a base. -/
def changedAmong (p : Project) (git : Git) (base : Option Text) (docs : List Path) :
    Outcome (List Path) := do
  let changed ← ask do Inquiry.changedFiles git (← Inquiry.baseRef git base)
  return docs.filter fun path => changed.contains (p.config.shown path)

/-- Checks documents. The exit code is 1 when there are errors, and in strict mode when there are
warnings. -/
def runCheck (p : Project) (git : Git) (today : Date) (o : CheckOptions) :
    Outcome (CheckReport × Nat) := do
  let docs ← p.discover o.paths
  let docs ← if o.changed then p.changedAmong git o.base docs else pure docs
  let gradual := gradualActive p.config.rules o.strict o.gradual today
  let found ← docs.mapM fun path => return (← p.check path).2
  let shown := if gradual then found.map (·.map Diagnostic.soften) else found
  let report : CheckReport := {
    filesChecked := docs.length
    errors := (shown.flatMap Diagnostic.errors).map p.finding
    warnings := (shown.flatMap Diagnostic.warnings).map p.finding
    wouldFail := if gradual then (found.flatMap Diagnostic.errors).length else 0
    gradual }
  let failed := !report.errors.isEmpty || (o.strict && !report.warnings.isEmpty)
  return (report, if failed then 1 else 0)

/-- The name under which documents of a kind are counted. -/
def kindKey : DocumentKind → Text
  | .component => "components".toList
  | .runbook => "runbooks".toList
  | .adr => "adrs".toList
  | .other => "other".toList

/-- The documents that changed since a base and those that the changes are about. -/
def recentChanges (p : Project) (git : Git) (base : Option Text) : Outcome RecentChanges := do
  let (baseRef, changed) ← ask do
    let baseRef ← Inquiry.baseRef git base
    return (baseRef, ← Inquiry.changedFiles git baseRef)
  return {
    baseRef
    changedDocs := changed.filter (".md".toList.isSuffixOf ·)
    impactedDocs := (impactedDocs (← p.mappings) changed).map (·.doc) }

/-- Counts the documents that comply: those without errors. -/
def runStatus (p : Project) (git : Git) (today : Date) (changed : Bool) (base : Option Text) :
    Outcome (StatusReport × Nat) := do
  let docs ← p.documents
  let checked ← docs.mapM p.check
  let complies (c : DocumentKind × List Diagnostic) : Bool := (Diagnostic.errors c.2).isEmpty
  let compliant := checked.filter complies
  let warned := compliant.filter fun c => !(Diagnostic.warnings c.2).isEmpty
  let recent ← if changed then some <$> p.recentChanges git base else pure none
  let report : StatusReport := {
    total := docs.length
    compliant := compliant.length
    warning := warned.length
    error := docs.length - compliant.length
    compliance :=
      if docs.isEmpty then 100.0
      else Decimal.round 2 (compliant.length.toFloat / docs.length.toFloat * 100.0)
    kinds := DocumentKind.all.map fun kind =>
      (kindKey kind, { total := checked.countP (·.1 == kind), compliant := compliant.countP (·.1 == kind) })
    recent
    gradual := gradualActive p.config.rules false false today
    strictReady := compliant.length == docs.length && warned.isEmpty }
  return (report, 0)

end Project

end DocAudit
