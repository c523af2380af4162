import DocAudit.Report.Check
import DocAudit.Report.Coverage
import DocAudit.Report.Doctor
import DocAudit.Report.Lint
import DocAudit.Report.Status
import DocAudit.Report.Verify
import DocAudit.Text.Case

/-!
# Formats of reports

Every report can be written in words, as JSON, and as annotations for a workflow.
-/

namespace DocAudit

open Text

/-- The report of a command. -/
inductive CommandReport
  | check (r : CheckReport)
  | verify (r : VerifyReport)
  | coverage (r : CoverageSummary)
  | newCode (r : NewCodeSummary)
  | changes (r : ChangeReport)
  | lint (r : LintReport)
  | health (r : HealthReport)
  | status (r : StatusReport)
  deriving Repr

/-- The formats. -/
inductive ReportFormat
  | text
  | json
  | github
  deriving DecidableEq, Repr

/-- The format of a name, in any case and between blanks. -/
def ReportFormat.ofName? (name : Text) : Option ReportFormat :=
  match String.ofList (lower (strip name)) with
  | "text" => some .text
  | "json" => some .json
  | "github" => some .github
  | _ => none

namespace CommandReport

/-- The fields of a report. -/
def toJson : CommandReport → Json
  | .check r => r.toJson
  | .verify r => r.toJson
  | .coverage r => r.toJson
  | .newCode r => r.toJson
  | .changes r => r.toJson
  | .lint r => r.toJson
  | .health r => r.toJson
  | .status r => r.toJson

/-- The report can be put in words. -/
def hasText : CommandReport → Bool
  | .verify r => r.hasText
  | _ => true

/-- A report in words. -/
def text : CommandReport → Text
  | .check r => r.text
  | .verify r => r.text
  | .coverage r => r.text
  | .newCode r => r.text
  | .changes r => r.text
  | .lint r => r.text
  | .health r => r.text
  | .status r => r.text

/-- A report as annotations. -/
def annotations : CommandReport → Text
  | .check r => r.annotations
  | .verify r => r.annotations
  | .coverage r => r.annotations
  | .newCode r => r.annotations
  | .changes r => r.annotations
  | .lint r => r.annotations
  | .health r => r.annotations
  | .status r => r.annotations

/-- A report in a format. -/
def render (r : CommandReport) : ReportFormat → Text
  | .text => r.text
  | .json => r.toJson.render
  | .github => r.annotations

end CommandReport

end DocAudit
