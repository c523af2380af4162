import DocAudit.Command.Project
import DocAudit.Lint.Outcome
import DocAudit.Report.Lint

/-!
# Checking prose

The command that checks the prose of documents, and mends what it can. A document that cannot be read
ends the command, but what was mended before stays mended.
-/

namespace DocAudit

open Text

/-- Options of the command that checks prose. -/
structure LintRequest where
  paths : List Path := []
  rules : List Text := []
  fix : Bool := false
  externalLinks : Bool := false

namespace Project

/-- An issue in a file, as it is reported. -/
def issueEntry (file : Text) (i : Issue) : IssueEntry :=
  { file, line := i.line, rule := i.rule.name, message := i.message, fixable := i.rule.fixable }

/-- What the prose of a file is checked against. -/
def lintScope (p : Project) (urlFault : Text → Option Text) (r : LintRequest) (path : Path) :
    LintScope where
  tree := p.tree
  cwd := p.cwd
  projectRoot := p.config.dir
  path := path
  externalLinks := r.externalLinks || p.config.lint.externalLinks
  urlFault := urlFault
  maxParagraphWords := p.config.lint.maxParagraphWords

/-- The files one after the other: the issues, the number of mended lines, and the tree after that. -/
def lintAll (p : Project) (urlFault : Text → Option Text) (rules : List LintRule) (r : LintRequest) :
    List Path → Outcome (List IssueEntry × Nat) × FileTree
  | [] => (.ok ([], 0), p.tree)
  | path :: rest =>
    match lintFile rules r.fix (p.lintScope urlFault r path) with
    | .error failure => (.error failure, p.tree)
    | .ok (outcome, tree) =>
      let (later, tree) := lintAll { p with tree } urlFault rules r rest
      (later.map fun (issues, fixed) =>
        (outcome.issues.map (issueEntry (p.config.shown path)) ++ issues, outcome.fixedCount + fixed),
        tree)

/-- The documents whose prose is checked: templates are left out. -/
def proseDocuments (p : Project) (paths : List Path) : Outcome (List Path) := do
  return (← p.discover paths true).filter fun path =>
    !((Path.ofText (p.config.shown path)).components.dropLast.any isTemplateDir)

/-- Checks the prose of documents. The exit code is 1 when there are issues. The files may be others
afterwards. -/
def runLint (p : Project) (urlFault : Text → Option Text) (r : LintRequest) :
    Outcome (LintReport × Nat) × FileTree :=
  match LintRule.select r.rules p.config.lint, p.proseDocuments r.paths with
  | .error failure, _ => (.error failure, p.tree)
  | _, .error failure => (.error failure, p.tree)
  | .ok rules, .ok docs =>
    let (found, tree) := p.lintAll urlFault rules r docs
    (found.map fun (issues, fixedCount) =>
      ({ filesLinted := docs.length, issues, fixedCount }, if issues.isEmpty then 0 else 1), tree)

end Project

end DocAudit
