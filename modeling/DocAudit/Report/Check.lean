import DocAudit.Report.Wording

/-!
# Check reports

The findings in all documents that were checked.
-/

namespace DocAudit

open Text Report

/-- A finding as it is reported. -/
structure Finding where
  file : Text
  line : Option Int
  severity : Text
  rule : Text
  message : Text
  hint : Option Text
  converted : Bool
  deriving DecidableEq, Repr

/-- The findings of a check. -/
structure CheckReport where
  filesChecked : Int
  errors : List Finding
  warnings : List Finding
  /-- How many errors gradual mode turned into warnings. -/
  wouldFail : Int
  gradual : Bool
  deriving DecidableEq, Repr

namespace Finding

/-- The fields of a finding. -/
def toJson (f : Finding) : Json :=
  record [("file", .str f.file), ("line", orNull .int f.line), ("severity", .str f.severity),
    ("rule", .str f.rule), ("message", .str f.message), ("hint", orNull .str f.hint),
    ("converted_from_error", .bool f.converted)]

/-- Where the finding is. -/
def location (f : Finding) : Text :=
  match f.line with
  | some n => f.file ++ ':' :: ofInt n
  | none => f.file

/-- The lines about a finding. -/
def textLines (f : Finding) : List Text :=
  [f.location ++ ": ".toList ++ f.severity ++ ": ".toList ++ f.message] ++
  (match nonempty f.hint with | some hint => ["  hint: ".toList ++ hint] | none => []) ++
  (if f.converted then ["  note: This would be an error outside gradual mode".toList] else []) ++
  [[]]

end Finding

namespace CheckReport

/-- The fields of the report. -/
def toJson (r : CheckReport) : Json :=
  record [("files_checked", .int r.filesChecked), ("errors", .arr (r.errors.map (·.toJson))),
    ("warnings", .arr (r.warnings.map (·.toJson))), ("would_fail_count", .int r.wouldFail),
    ("gradual_mode", .bool r.gradual)]

/-- Gradual mode hides errors. -/
def hidesErrors (r : CheckReport) : Bool := r.gradual && r.wouldFail != 0

/-- The report in words. -/
def text (r : CheckReport) : Text :=
  let documents := plural r.filesChecked "document"
  unlines ((r.errors ++ r.warnings).flatMap (·.textLines) ++
    [if r.errors.isEmpty && r.warnings.isEmpty then
        "Checked ".toList ++ documents ++ ": all checks passed".toList
      else
        "Checked ".toList ++ documents ++ ": ".toList ++ plural r.errors.length "error" ++ ", ".toList ++
          plural r.warnings.length "warning"] ++
    (if r.hidesErrors then
      ["Gradual mode: ".toList ++ plural r.wouldFail "issue" ++ " would fail in strict mode".toList]
    else []))

/-- The report as annotations. -/
def annotations (r : CheckReport) : Text :=
  unlines ((r.errors.map fun f => errorNote f.message f.file f.line) ++
    (r.warnings.map fun f => warningNote f.message f.file f.line) ++
    (if r.hidesErrors then
      [workflowNote "notice".toList ("Gradual mode active: ".toList ++ plural r.wouldFail "issue" ++
        " would fail in strict mode".toList)]
    else []))

end CheckReport

end DocAudit
