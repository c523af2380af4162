import DocAudit.Command.Project
import DocAudit.Coverage.Report
import DocAudit.Report.Doctor
import DocAudit.Report.Wording
import DocAudit.Verification.Spec

/-!
# Project health

The command that looks for problems of a whole project: in its configuration, in the structure of its
documents, in their verification, and in the coverage of its code.

## Contents

* one function for each category of checks
* `runDoctor`
-/

namespace DocAudit

open Text

namespace Health

/-- A check that passed. -/
def pass (name : String) (message : Text) : HealthCheck :=
  { name := name.toList, status := "pass".toList, message, suggestion := none, affected := [] }

/-- The greatest number of files that a check lists. -/
def affectedLimit : Nat := 10

/-- A check that did not pass. -/
def problem (status name : String) (message suggestion : Text) (affected : List Text := []) :
    HealthCheck :=
  { name := name.toList, status := status.toList, message, suggestion := some suggestion,
    affected := affected.take affectedLimit }

/-- A count in front of what is counted. -/
def counted (n : Nat) (rest : String) : Text := ofNat n ++ ' ' :: rest.toList

/-- A text between quotes. -/
def inQuotes (s : Text) : Text := '\'' :: s ++ ['\'']

/-- The configuration and the directories that it names. -/
def configuration (p : Project) : Outcome HealthCategory := do
  let c := p.config
  let hasDocs ← p.tree.isDir? p.cwd c.docsDir
  let docs :=
    if hasDocs then
      pass "Docs root" ("Docs root ".toList ++ inQuotes c.docsRoot ++ " exists".toList)
    else
      problem "error" "Docs root" ("Docs root ".toList ++ inQuotes c.docsRoot ++ " does not exist".toList)
        "Create the directory or update docs.root in .pave.toml".toList
  let templates ← c.templates.toList.mapM fun dir => do
    if ← p.tree.isDir? p.cwd (c.dir.join (Path.ofText dir)) then
      return pass "Templates" ("Templates found in ".toList ++ inQuotes dir)
    else
      return problem "warning" "Templates"
        ("Templates directory ".toList ++ inQuotes dir ++ " does not exist".toList)
        "Create the directory or remove docs.templates from .pave.toml".toList
  return { name := "Configuration".toList,
           checks := pass "Config file" ("Loaded ".toList ++ c.path.text) :: docs :: templates }

/-- The documents and what their rules find. -/
def structureOf (p : Project) (docs : List Path) : Outcome HealthCategory := do
  let name := "Documentation Structure".toList
  if docs.isEmpty then
    return { name, checks := [problem "warning" "Documents" "No documents found".toList
      ("Add markdown files under ".toList ++ inQuotes p.config.docsRoot)] }
  let limit := p.config.rules.maxLines
  let checked ← docs.mapM fun path => return (path, (← p.check path).2)
  let failing := (checked.filter fun c => !(Diagnostic.errors c.2).isEmpty).map (p.config.shown ·.1)
  let tooLong := (checked.filter fun c => (Diagnostic.warnings c.2).any fun d =>
    d.rule == (Rule.maxLines limit).name).map (p.config.shown ·.1)
  return { name, checks := [
    pass "Documents" ("Found ".toList ++ counted docs.length "document(s)"),
    if failing.isEmpty then pass "Required sections" "All documents pass validation".toList
    else problem "error" "Required sections" (counted failing.length "document(s) fail validation")
      "Run `pave check` for details".toList failing,
    if tooLong.isEmpty then pass "Line limits" "All documents are within the line limit".toList
    else problem "warning" "Line limits"
      (counted tooLong.length "document(s) exceed " ++ ofInt limit ++ " lines".toList)
      "Split long documents into smaller focused ones".toList tooLong,
    if p.tree.isFile p.cwd (p.config.docsDir.join (Path.ofText "index.md".toList)) then
      pass "Index" "index.md present".toList
    else problem "warning" "Index" "No index.md in the docs root".toList
      ("Create ".toList ++ p.config.docsRoot ++ "/index.md linking your documents".toList)] }

/-- The shell and the documents that can be verified. -/
def verification (p : Project) (hasShell : Bool) (docs : List Path) : Outcome HealthCategory := do
  let read ← docs.mapM fun path => return (path, ← p.read path)
  let missing := (read.filter fun d => (d.2.spec? 0).isNone).map (p.config.shown ·.1)
  return { name := "Verification Commands".toList, checks := [
    if hasShell then pass "Shell" "`sh` is available".toList
    else problem "error" "Shell" "No `sh` executable on PATH".toList
      "Install a POSIX shell so `pave verify` can run commands".toList,
    if !missing.isEmpty && p.config.rules.requireVerification then
      problem "warning" "Verification sections"
        (counted missing.length "document(s) have no runnable verification commands")
        "Add a bash block to each document's Verification section".toList missing
    else pass "Verification sections"
      (counted (docs.length - missing.length) "document(s) have runnable verification commands")] }

/-- A pattern that covers nothing because of its form. -/
def isBadPattern (pattern : Text) : Bool :=
  PathPattern.isAbsolute pattern || (PathPattern.fault? pattern).isSome

/-- The patterns of documents and the code that they cover. -/
def coverage (p : Project) (docs : List Path) : Outcome HealthCategory := do
  let read ← docs.mapM fun path => return (path, ← p.read path)
  let bad := read.flatMap fun (path, d) =>
    (d.patterns.filter fun (_, pattern) => isBadPattern pattern).map fun (line, pattern) =>
      p.config.shown path ++ ':' :: ofNat line ++ ": ".toList ++ pattern
  let patterns :=
    if bad.isEmpty then pass "Path patterns" "All path patterns are valid".toList
    else problem "error" "Path patterns" (counted bad.length "invalid path pattern(s)")
      "Use relative glob patterns in ## Paths sections".toList bad
  let mappings ← p.mappings
  let name := "Code Coverage".toList
  if mappings.isEmpty then
    return { name, checks := [patterns,
      problem "warning" "Path mappings" "No documents declare a ## Paths section".toList
        "List the code each document describes under ## Paths".toList] }
  let r := CoverageReport.ofProject p.tree p.config.dir.names mappings { excluded := p.config.exclude }
  return { name, checks := [patterns,
    pass "Path mappings" (counted mappings.length "document(s) map code paths"),
    if r.uncovered.isEmpty then pass "Coverage" "All code files are documented".toList
    else problem "warning" "Coverage"
      (Report.percent r.percentage ++ " of code files are documented".toList)
      "Run `pave coverage` to see uncovered files".toList r.uncovered] }

/-- The report on categories, with the checks counted. -/
def report (categories : List HealthCategory) : HealthReport :=
  let count (status : String) : Int :=
    (categories.flatMap (·.checks)).countP (·.status == status.toList)
  { categories, passed := count "pass", warnings := count "warning", errors := count "error" }

/-- The categories of a project whose configuration can be read. -/
def ofProject (p : Project) (hasShell : Bool) : Outcome (List HealthCategory) := do
  let docs ← p.documents
  return [← configuration p, ← structureOf p docs, ← verification p hasShell docs, ← coverage p docs]

/-- The category that tells why there is no configuration. -/
def unconfigured (message : Text) : HealthCategory where
  name := "Configuration".toList
  checks := [problem "error" "Config file" message "Create a .pave.toml with a [docs] root entry".toList]

end Health

/-- Looks for problems of a project. That it has no usable configuration is one of them. The exit code is
1 when there are errors. -/
def runDoctor (t : FileTree) (cwd : Path) (file : Option Path) (hasShell : Bool) :
    Outcome (HealthReport × Nat) := do
  let categories ← match Config.load t cwd file with
    | .ok config => Health.ofProject { tree := t, cwd, config } hasShell
    | .error failure => match failure.message? with
      | some message => .ok [Health.unconfigured message]
      | none => .error failure
  let report := Health.report categories
  return (report, if report.errors = 0 then 0 else 1)

end DocAudit
