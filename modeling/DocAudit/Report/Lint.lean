import DocAudit.Report.Wording

/-!
# Prose reports

What the prose checks found in all files.
-/

namespace DocAudit

open Text Report

/-- An issue as it is reported. -/
structure IssueEntry where
  file : Text
  line : Int
  rule : Text
  message : Text
  fixable : Bool
  deriving DecidableEq, Repr

/-- The issues in all files. -/
structure LintReport where
  filesLinted : Int
  issues : List IssueEntry
  fixedCount : Int
  deriving DecidableEq, Repr

namespace LintReport

/-- The fields of the report. -/
def toJson (r : LintReport) : Json :=
  record [("files_linted", .int r.filesLinted),
    ("issues", .arr (r.issues.map fun i =>
      record [("file", .str i.file), ("line", .int i.line), ("rule", .str i.rule),
        ("message", .str i.message), ("fixable", .bool i.fixable)])),
    ("fixed_count", .int r.fixedCount)]

/-- The lines about issues: a file is named where it differs from the one before. -/
def issueLines (current : Option Text) : List IssueEntry → List Text
  | [] => []
  | i :: rest =>
    (if current == some i.file then []
     else (if current.isSome then [[]] else []) ++ [i.file]) ++
    ["  ".toList ++ ofInt i.line ++ ": [".toList ++ i.rule ++ "] ".toList ++ i.message] ++
    issueLines (some i.file) rest

/-- The report in words. -/
def text (r : LintReport) : Text :=
  let files := plural r.filesLinted "file"
  let fixable := r.issues.countP (·.fixable)
  unlines (issueLines none r.issues ++ (if r.issues.isEmpty then [] else [[]]) ++
    [if r.issues.isEmpty then "Linted ".toList ++ files ++ ": no issues found".toList
      else "Linted ".toList ++ files ++ ": ".toList ++ plural r.issues.length "issue"] ++
    (if r.fixedCount != 0 then ["Fixed ".toList ++ plural r.fixedCount "issue"] else []) ++
    (if fixable != 0 then
      ["Run `pave lint --fix` to fix ".toList ++ plural fixable "issue" ++ " automatically".toList]
    else []))

/-- The report as annotations. -/
def annotations (r : LintReport) : Text :=
  unlines (r.issues.map fun i =>
    warningNote ('[' :: i.rule ++ "] ".toList ++ i.message) i.file i.line)

end LintReport

end DocAudit
