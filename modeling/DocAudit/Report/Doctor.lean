import DocAudit.Report.Wording

/-!
# Health reports

The state of a project: checks in categories, each passed or not.
-/

namespace DocAudit

open Text Report

/-- A check of a project. -/
structure HealthCheck where
  name : Text
  status : Text
  message : Text
  suggestion : Option Text
  affected : List Text
  deriving DecidableEq, Repr

/-- Checks that belong together. -/
structure HealthCategory where
  name : Text
  checks : List HealthCheck
  deriving DecidableEq, Repr

/-- All checks of a project. -/
structure HealthReport where
  categories : List HealthCategory
  passed : Int
  warnings : Int
  errors : Int
  deriving DecidableEq, Repr

namespace HealthCheck

/-- The fields of a check. -/
def toJson (c : HealthCheck) : Json :=
  record [("name", .str c.name), ("status", .str c.status), ("message", .str c.message),
    ("suggestion", orNull .str c.suggestion), ("affected_files", texts c.affected)]

/-- The check passed. -/
def hasPassed (c : HealthCheck) : Bool := c.status == "pass".toList

/-- The short form of a status. -/
def tag (c : HealthCheck) : Text :=
  if c.hasPassed then "PASS".toList
  else if c.status == "warning".toList then "WARN".toList
  else if c.status == "error".toList then "ERROR".toList
  else c.status

/-- The lines about a check. -/
def textLines (c : HealthCheck) : List Text :=
  ["  [".toList ++ c.tag ++ "] ".toList ++ c.name ++ ": ".toList ++ c.message] ++
  (match nonempty c.suggestion with
    | some s => if c.hasPassed then [] else ["      suggestion: ".toList ++ s]
    | none => []) ++
  c.affected.map fun file => "      - ".toList ++ file

/-- The annotation about a check that did not pass. -/
def note? (category : Text) (c : HealthCheck) : Option Text :=
  let message := category ++ " / ".toList ++ c.name ++ ": ".toList ++ c.message
  if c.hasPassed then none
  else if c.status == "error".toList then some (errorNote message)
  else some (warningNote message)

end HealthCheck

namespace HealthReport

/-- The fields of the report. -/
def toJson (r : HealthReport) : Json :=
  record [("categories", .arr (r.categories.map fun c =>
      record [("name", .str c.name), ("checks", .arr (c.checks.map (·.toJson)))])),
    ("passed", .int r.passed), ("warnings", .int r.warnings), ("errors", .int r.errors)]

/-- The report in words. -/
def text (r : HealthReport) : Text :=
  unlines ((r.categories.flatMap fun c => c.name :: c.checks.flatMap (·.textLines) ++ [[]]) ++
    ["Summary: ".toList ++ ofInt r.passed ++ " passed, ".toList ++ plural r.warnings "warning" ++
      ", ".toList ++ plural r.errors "error"])

/-- The report as annotations. -/
def annotations (r : HealthReport) : Text :=
  unlines (r.categories.flatMap fun c => c.checks.filterMap (HealthCheck.note? c.name))

end HealthReport

end DocAudit
