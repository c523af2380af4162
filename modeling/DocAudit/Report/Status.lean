import DocAudit.Report.Wording

/-!
# Status reports

How many documents comply, in all and of each kind, and what changed of late.
-/

namespace DocAudit

open Text Report

/-- How many documents of a kind there are, and how many comply. -/
structure KindCount where
  total : Int
  compliant : Int
  deriving DecidableEq, Repr

/-- The documents that changed since a base, and those that other changes are about. -/
structure RecentChanges where
  baseRef : Text
  changedDocs : List Text
  impactedDocs : List Text
  deriving DecidableEq, Repr

/-- The state of all documents. -/
structure StatusReport where
  total : Int
  compliant : Int
  warning : Int
  error : Int
  compliance : Float
  kinds : List (Text × KindCount)
  recent : Option RecentChanges
  gradual : Bool
  strictReady : Bool
  deriving Repr

namespace StatusReport

/-- The fields of the report. -/
def toJson (r : StatusReport) : Json :=
  record [("total_docs", .int r.total), ("compliant_docs", .int r.compliant),
    ("warning_docs", .int r.warning), ("error_docs", .int r.error),
    ("compliance_percent", .float r.compliance),
    ("type_stats", .obj (r.kinds.map fun (name, k) =>
      (name, record [("total", .int k.total), ("compliant", .int k.compliant)]))),
    ("recent_changes", orNull (fun c =>
      record [("base_ref", .str c.baseRef), ("changed_docs", texts c.changedDocs),
        ("impacted_docs", texts c.impactedDocs)]) r.recent),
    ("gradual_mode", .bool r.gradual), ("strict_mode_ready", .bool r.strictReady)]

/-- The lines about recent changes. -/
def recentLines (c : RecentChanges) : List Text :=
  let listed (files : List Text) : List Text := files.map fun file => "    - ".toList ++ file
  [[], "Recent changes against ".toList ++ c.baseRef ++ [':'],
    "  docs changed:  ".toList ++ ofNat c.changedDocs.length] ++ listed c.changedDocs ++
  ["  docs impacted: ".toList ++ ofNat c.impactedDocs.length] ++ listed c.impactedDocs

/-- The report in words. -/
def text (r : StatusReport) : Text :=
  unlines (["Documentation Status".toList, "====================".toList, [],
      "Documents:  ".toList ++ ofInt r.total,
      "Compliant:  ".toList ++ ofInt r.compliant ++ " (".toList ++ percent r.compliance ++ [')'],
      "Warnings:   ".toList ++ ofInt r.warning,
      "Errors:     ".toList ++ ofInt r.error, [], "By type:".toList] ++
    (r.kinds.map fun (name, k) =>
      "  ".toList ++ column 10 name ++ "  ".toList ++ ofInt k.compliant ++ '/' :: ofInt k.total ++
        " compliant".toList) ++
    [[], "Gradual mode:      ".toList ++ (if r.gradual then "active" else "inactive").toList,
      "Strict mode ready: ".toList ++ (if r.strictReady then "yes" else "no").toList] ++
    (match r.recent with | none => [] | some c => recentLines c))

/-- The report as annotations. -/
def annotations (r : StatusReport) : Text :=
  workflowNote "notice".toList (ofInt r.compliant ++ '/' :: ofInt r.total ++
    " documents compliant (".toList ++ percent r.compliance ++ [')'])

end StatusReport

end DocAudit
