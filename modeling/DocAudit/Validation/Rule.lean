import DocAudit.Glob.Match
import DocAudit.Markdown.Document

/-!
# Rules

What a document must have: certain sections, code and commands in them, no more than so many lines, and
path patterns that make sense. A rule has a name and finds what is wrong with a document, and how severe
that is.

## Contents

* `Severity`, `Diagnostic`: what is found
* `Rule`, `Rule.name`, `Rule.findings`
-/

namespace DocAudit

open Text

/-! ## Findings -/

/-- How severe a finding is. -/
inductive Severity
  | error
  | warning
  deriving DecidableEq, Repr

/-- The name of a severity. -/
def Severity.name : Severity → Text
  | .error => "error".toList
  | .warning => "warning".toList

/-- A finding of a rule in a document. -/
structure Diagnostic where
  file : Text
  line : Option Nat := none
  severity : Severity := .error
  rule : Text
  message : Text
  hint : Option Text := none
  /-- The finding was an error before it became a warning. -/
  converted : Bool := false
  deriving DecidableEq, Repr

namespace Diagnostic

/-- The finding counts as an error. -/
def isError (d : Diagnostic) : Bool := d.severity == .error

/-- The finding as a warning; an error remembers that it was one. -/
def soften (d : Diagnostic) : Diagnostic :=
  if d.isError then { d with severity := .warning, converted := true } else d

/-- The errors among findings. -/
def errors (ds : List Diagnostic) : List Diagnostic := ds.filter (·.isError)

/-- The warnings among findings. -/
def warnings (ds : List Diagnostic) : List Diagnostic := ds.filter (!·.isError)

/-- **Softened findings hold no error.** -/
theorem errors_map_soften (ds : List Diagnostic) : errors (ds.map soften) = [] := by
  induction ds with
  | nil => rfl
  | cons d rest ih =>
    have h : (soften d).isError = false := by
      unfold soften
      split
      · rfl
      · simpa using ‹¬d.isError = true›
    simpa [errors, h] using ih

end Diagnostic

/-! ## Rules -/

/-- The states that a decision can be in. -/
def decisionStates : List Text :=
  ["proposed".toList, "accepted".toList, "deprecated".toList, "superseded".toList]

/-- A rule for documents. -/
inductive Rule
  | requireSection (name : Text)
  | requireOneOf (names : List Text)
  | maxLines (limit : Int)
  | requireCodeBlock (inSection : Text)
  | requireCommand (inSection : Text)
  | requireDecisionState
  /-- Path patterns are well formed; when files are given, each pattern covers one of them. -/
  | validatePaths (files : Option (List Text))
  deriving DecidableEq, Repr

namespace Rule

/-- The name of a rule. -/
def name : Rule → Text
  | .requireSection name => "require-section-".toList ++ lower name
  | .requireOneOf names => "require-one-of-".toList ++ joinWith ['-'] (names.map lower)
  | .maxLines limit => "max-lines-".toList ++ ofInt limit
  | .requireCodeBlock inSection => "require-code-block-in-".toList ++ lower inSection
  | .requireCommand inSection => "require-command-in-".toList ++ lower inSection
  | .requireDecisionState => "require-valid-adr-status".toList
  | .validatePaths _ => "validate-paths".toList

/-- A text between single quotes. -/
def inQuotes (s : Text) : Text := '\'' :: s ++ ['\'']

/-- How to mend a missing section. -/
def sectionHint (name : Text) : Text :=
  if lower name == "verification".toList then
    "Add a '## Verification' section with test commands".toList
  else if lower name == "examples".toList then
    "Add an '## Examples' section with concrete usage examples".toList
  else "Add a '## ".toList ++ name ++ "' section".toList

/-- What is wrong with a pattern that stands in a line of the document, when something is. -/
def patternFinding? (d : Document) (files : Option (List Text)) (line : Nat) (pattern : Text) :
    Option Diagnostic :=
  let finding (severity : Severity) (message hint : Text) : Diagnostic :=
    { file := d.path.text, line := some line, severity, rule := "validate-paths".toList, message,
      hint := some hint }
  if PathPattern.isAbsolute pattern then
    some (finding .error
      ("path pattern ".toList ++ inQuotes pattern ++
        " is absolute; patterns must be relative to the project root".toList)
      "Remove the leading '/' and use a relative path".toList)
  else match PathPattern.fault? pattern with
    | some fault =>
      some (finding .error
        ("invalid glob pattern ".toList ++ inQuotes pattern ++ ": ".toList ++ fault.message)
        "Fix the glob syntax, for example close any '[' bracket".toList)
    | none =>
      match files with
      | none => none
      | some files =>
        if files.any (PathPattern.covers · pattern) then none
        else some (finding .warning
          ("path pattern ".toList ++ inQuotes pattern ++ " matches no files".toList)
          "Update the pattern or remove it if the code was moved".toList)

/-- What a rule finds wrong with a document. -/
def findings (rule : Rule) (d : Document) : List Diagnostic :=
  let finding (line : Option Nat) (message hint : Text) : Diagnostic :=
    { file := d.path.text, line, rule := rule.name, message, hint := some hint }
  match rule with
  | .requireSection name =>
    if (d.find? name).isSome then []
    else [finding none ("Missing required section ".toList ++ inQuotes name) (sectionHint name)]
  | .requireOneOf names =>
    if names.any fun name => (d.find? name).isSome then []
    else [finding none
      ("Missing one of required sections: ".toList ++
        joinWith ", ".toList (names.map inQuotes))
      ("Add a ".toList ++
        joinWith " or ".toList (names.map fun name => inQuotes ("## ".toList ++ name)) ++
        " section".toList)]
  | .maxLines limit =>
    if (d.lineCount : Int) ≤ limit then []
    else [{ finding (some d.lineCount)
      ("Document exceeds ".toList ++ ofInt limit ++ " line limit (".toList ++ ofNat d.lineCount ++
        " lines)".toList)
      "Consider splitting into smaller, focused documents".toList with severity := .warning }]
  | .requireCodeBlock inSection =>
    match d.find? inSection with
    | none => []
    | some s =>
      if s.blocks.isEmpty then
        [finding (some s.startLine)
          ("section ".toList ++ inQuotes inSection ++ " must contain at least one code block".toList)
          ("Add a fenced code block with an example to ".toList ++ inQuotes inSection)]
      else []
  | .requireCommand inSection =>
    match d.find? inSection with
    | none => []
    | some s =>
      if s.hasCommands || !s.executableBlocks.isEmpty then []
      else [finding (some s.startLine)
        ("section ".toList ++ inQuotes inSection ++ " should contain a runnable command".toList)
        ("Add a shell command in a ```bash code block in ".toList ++ inQuotes inSection)]
  | .requireDecisionState =>
    match d.find? "Status".toList with
    | none => []
    | some s =>
      if decisionStates.any fun state => hasInfix state (lower s.content) then []
      else [finding (some s.startLine)
        ("ADR status must be one of: ".toList ++ joinWith ", ".toList decisionStates)
        "Set the status to proposed, accepted, deprecated or superseded".toList]
  | .validatePaths files =>
    d.patterns.filterMap fun (line, pattern) => patternFinding? d files line pattern

end Rule

end DocAudit
