import DocAudit.Report.Wording

/-!
# Coverage and change reports

How much of the code documents are about, of all code and of new code, and the documents that a change of
code is about.
-/

namespace DocAudit

open Text Report

/-- The coverage of a directory. -/
structure DirectoryEntry where
  path : Text
  covered : Int
  total : Int
  percentage : Float
  deriving Repr

/-- A file that no document is about. -/
structure UncoveredEntry where
  path : Text
  suggestedDoc : Option Text
  deriving DecidableEq, Repr

/-- A document that could be written. -/
structure SuggestionEntry where
  description : Text
  files : List Text
  deriving DecidableEq, Repr

/-- A percentage that the coverage was to reach, and whether it did. -/
structure Threshold where
  limit : Float
  met : Bool
  deriving Repr

/-- The coverage of all code. -/
structure CoverageSummary where
  covered : Int
  uncovered : Int
  total : Int
  percentage : Float
  directories : List DirectoryEntry
  uncoveredFiles : List UncoveredEntry
  suggestions : List SuggestionEntry
  threshold : Option Threshold
  deriving Repr

/-- The coverage of new code. -/
structure NewCodeSummary where
  baseRef : Text
  newFiles : Int
  newCodeFiles : Int
  covered : Int
  uncovered : Int
  uncoveredFiles : List UncoveredEntry
  allCovered : Bool
  deriving DecidableEq, Repr

/-- The fields of an uncovered file. -/
def UncoveredEntry.toJson (u : UncoveredEntry) : Json :=
  record [("path", .str u.path), ("suggested_doc", orNull .str u.suggestedDoc)]

namespace CoverageSummary

/-- The coverage is not below a threshold. -/
def thresholdMet (r : CoverageSummary) : Bool := r.threshold.all (·.met)

/-- The fields of the report. -/
def toJson (r : CoverageSummary) : Json :=
  record [("covered_files", .int r.covered), ("uncovered_files", .int r.uncovered),
    ("total_files", .int r.total), ("coverage_percentage", .float r.percentage),
    ("by_directory", .arr (r.directories.map fun d =>
      record [("path", .str d.path), ("covered", .int d.covered), ("total", .int d.total),
        ("percentage", .float d.percentage)])),
    ("uncovered", .arr (r.uncoveredFiles.map (·.toJson))),
    ("suggestions", .arr (r.suggestions.map fun s =>
      record [("description", .str s.description), ("files", texts s.files)])),
    ("threshold", orNull .float (r.threshold.map (·.limit))), ("threshold_met", .bool r.thresholdMet)]

/-- The lines about directories, their names in a column. -/
def directoryLines (ds : List DirectoryEntry) : List Text :=
  if ds.isEmpty then []
  else
    let width := (ds.map (·.path.length)).foldl max 0
    [[], "By directory:".toList] ++ ds.map fun d =>
      "  ".toList ++ column width d.path ++ "  ".toList ++ ofInt d.covered ++ '/' :: ofInt d.total ++
        " (".toList ++ percent d.percentage ++ [')']

/-- The report in words. -/
def text (r : CoverageSummary) : Text :=
  unlines (["Code Coverage Report".toList, "====================".toList, [],
      "Covered:   ".toList ++ plural r.covered "file",
      "Uncovered: ".toList ++ plural r.uncovered "file",
      "Total:     ".toList ++ plural r.total "file",
      "Coverage:  ".toList ++ percent r.percentage] ++
    directoryLines r.directories ++
    (if r.uncoveredFiles.isEmpty then []
     else [[], "Uncovered files:".toList] ++ r.uncoveredFiles.map fun u =>
      "  ".toList ++ u.path ++
        (match nonempty u.suggestedDoc with | some doc => " -> ".toList ++ doc | none => [])) ++
    (if r.suggestions.isEmpty then []
     else [[], "Suggestions:".toList] ++ r.suggestions.map fun s =>
      "  ".toList ++ s.description ++ " (".toList ++ plural s.files.length "file" ++ [')']) ++
    (match r.threshold with
      | none => []
      | some t =>
        [[], "Threshold: ".toList ++ percent t.limit ++
          (if t.met then " (met)".toList else " (not met)".toList)]))

/-- The report as annotations. -/
def annotations (r : CoverageSummary) : Text :=
  unlines ((r.uncoveredFiles.map fun u =>
      warningNote "file is not covered by any doc".toList u.path) ++
    (match r.threshold with
      | some { limit, met := false } =>
        [errorNote ("coverage ".toList ++ percent r.percentage ++ " is below threshold ".toList ++
          percent limit)]
      | _ => []))

end CoverageSummary

namespace NewCodeSummary

/-- The fields of the report. -/
def toJson (r : NewCodeSummary) : Json :=
  record [("base_ref", .str r.baseRef), ("new_files_count", .int r.newFiles),
    ("new_code_files_count", .int r.newCodeFiles), ("covered_count", .int r.covered),
    ("uncovered_count", .int r.uncovered), ("uncovered", .arr (r.uncoveredFiles.map (·.toJson))),
    ("all_covered", .bool r.allCovered)]

/-- The report in words. -/
def text (r : NewCodeSummary) : Text :=
  unlines (["New code against ".toList ++ r.baseRef ++ ": ".toList ++ plural r.newFiles "new file" ++
      ", ".toList ++ plural r.newCodeFiles "code file",
      "Covered: ".toList ++ ofInt r.covered ++ ", Uncovered: ".toList ++ ofInt r.uncovered, []] ++
    (if r.uncoveredFiles.isEmpty then ["All new code is documented.".toList]
     else "Uncovered new files:".toList :: r.uncoveredFiles.map fun u =>
      "  ".toList ++ u.path ++
        (match nonempty u.suggestedDoc with
          | some doc => " (create ".toList ++ doc ++ [')']
          | none => [])))

/-- The report as annotations. -/
def annotations (r : NewCodeSummary) : Text :=
  unlines (r.uncoveredFiles.map fun u =>
    errorNote ("new code file has no documentation".toList ++
      (match nonempty u.suggestedDoc with | some doc => "; create ".toList ++ doc | none => [])) u.path)

end NewCodeSummary

/-! ## Changes -/

/-- A document that a change is about. -/
structure ImpactEntry where
  doc : Text
  title : Option Text
  matched : List Text
  updated : Bool
  deriving DecidableEq, Repr

/-- The documents that the changes since a base are about. -/
structure ChangeReport where
  baseRef : Text
  changedFiles : Int
  impacted : List ImpactEntry
  missing : List Text
  deriving DecidableEq, Repr

namespace ChangeReport

/-- The fields of the report. -/
def toJson (r : ChangeReport) : Json :=
  record [("base_ref", .str r.baseRef), ("changed_files_count", .int r.changedFiles),
    ("impacted_docs", .arr (r.impacted.map fun d =>
      record [("doc_path", .str d.doc), ("title", orNull .str d.title),
        ("matched_files", texts d.matched), ("was_updated", .bool d.updated)])),
    ("missing_updates", texts r.missing)]

/-- The lines about a document. -/
def docLines (d : ImpactEntry) : List Text :=
  ("  ".toList ++ d.doc ++
    (match nonempty d.title with | some title => " (".toList ++ title ++ [')'] | none => []) ++
    (if d.updated then " [updated]".toList else " [NOT UPDATED]".toList)) ::
  d.matched.map fun file => "    - ".toList ++ file

/-- The report in words. -/
def text (r : ChangeReport) : Text :=
  unlines (("Changes against ".toList ++ r.baseRef ++ ": ".toList ++ plural r.changedFiles "file") ::
    (if r.impacted.isEmpty then ["No documentation is impacted.".toList]
     else
      [[], "Impacted docs:".toList] ++ r.impacted.flatMap docLines ++
      (if r.missing.isEmpty then []
       else [[], plural r.missing.length "doc" ++ " may need updates:".toList] ++
        r.missing.map fun file => "  ".toList ++ file)))

/-- The report as annotations. -/
def annotations (r : ChangeReport) : Text :=
  unlines ((r.impacted.filter (!·.updated)).map fun d =>
    warningNote ("code mapped by this doc changed (".toList ++ joinWith ", ".toList d.matched ++
      ") but the doc was not updated".toList) d.doc)

end ChangeReport

end DocAudit
