import DocAudit.Config.Options
import DocAudit.Validation.Rule

/-!
# Rule sets

A document is a component description, a runbook, a decision record or something else. Its path tells
first, and then the sections that it has. The rules that hold for documents of a kind under given options,
and what they find. In gradual mode errors become warnings; a deadline may end it.

## Contents

* `DocumentKind`, `DocumentKind.detect`: the kind of a document
* `Rule.forAll`, `Rule.forKind`, `Rule.set`
* `Document.findings`
* `gradualActive`
-/

namespace DocAudit

open Text

/-! ## Kinds of documents -/

/-- The kind of a document. -/
inductive DocumentKind
  | component
  | runbook
  | adr
  | other
  deriving DecidableEq, Repr

namespace DocumentKind

/-- The name of a kind. -/
def name : DocumentKind → Text
  | .component => "component".toList
  | .runbook => "runbook".toList
  | .adr => "adr".toList
  | .other => "other".toList

/-- All kinds, in the order in which they are counted. -/
def all : List DocumentKind := [.component, .runbook, .adr, .other]

/-- The kind of a name. -/
def ofName? (name : Text) : Option DocumentKind := all.find? (·.name == name)

/-- The kind that a path tells. -/
def ofPath? (path : Text) : Option DocumentKind :=
  let path := lower path
  let holds (word : String) : Bool := hasInfix word.toList path
  if holds "component" then some .component
  else if holds "runbook" then some .runbook
  else if holds "adr" || holds "decision" then some .adr
  else none

/-- The kind that the sections tell. -/
def ofSections (d : Document) : DocumentKind :=
  let has (name : String) : Bool := (d.find? name.toList).isSome
  let decided : Bool := match d.find? "Status".toList with
    | none => false
    | some s => decisionStates.any fun state => hasInfix state (lower s.content)
  if decided then .adr
  else if has "When to Use" || has "Preconditions" || has "Steps" then .runbook
  else if has "Interface" || has "Configuration" then .component
  else .other

/-- The kind of a document that is known under the given path. -/
def detect (d : Document) (path : Text) : DocumentKind := (ofPath? path).getD (ofSections d)

end DocumentKind

/-! ## The rules of a kind -/

namespace Rule

/-- The rules for every document. `files` are the files of the project. -/
def forAll (o : RuleOptions) (files : List Text) : List Rule :=
  [.requireSection "Purpose".toList] ++
  (if o.requireVerification then
    .requireSection "Verification".toList ::
      (if o.requireVerificationCommands then [.requireCommand "Verification".toList] else [])
   else []) ++
  (if o.requireExamples then
    [.requireSection "Examples".toList, .requireCodeBlock "Examples".toList]
   else []) ++
  [.maxLines o.maxLines] ++
  (if o.validatePaths then [.validatePaths (if o.warnEmptyPaths then some files else none)] else [])

/-- The further rules for documents of a kind. -/
def forKind (o : RuleOptions) : DocumentKind → List Rule
  | .runbook =>
    if o.kinds.runbooks then
      ["When to Use", "Steps", "Rollback"].map fun name => .requireSection name.toList
    else []
  | .adr =>
    if o.kinds.adrs then
      (["Status", "Context", "Decision", "Consequences"].map fun name =>
        .requireSection name.toList) ++ [.requireDecisionState]
    else []
  | .component =>
    if o.kinds.components then
      [.requireOneOf ["Interface".toList, "Configuration".toList]]
    else []
  | .other => []

/-- The rules for documents of a kind. -/
def set (o : RuleOptions) (files : List Text) (kind : DocumentKind) : List Rule :=
  forAll o files ++ forKind o kind

end Rule

/-- What rules find wrong with a document, in the order of the rules. -/
def Document.findings (d : Document) (rules : List Rule) : List Diagnostic :=
  rules.flatMap (·.findings d)

/-- The deadline is a day before today. What names no day is no deadline. -/
def deadlinePassed (deadline : Text) (today : Date) : Bool :=
  match Date.read? (strip deadline) with
  | none => false
  | some limit => limit.lt today

/-- Errors count as warnings: when that is asked for, and else when the options say so and no deadline
has passed, but never in strict mode. -/
def gradualActive (o : RuleOptions) (strict gradual : Bool) (today : Date) : Bool :=
  if strict then false
  else if gradual then true
  else if !o.gradual then false
  else match o.gradualUntil with
    | none => true
    | some deadline => deadline.isEmpty || !deadlinePassed deadline today

end DocAudit
