import DocAudit.Config.Setting
import DocAudit.Files.Path
import DocAudit.Text.Blank
import DocAudit.Text.Case

/-!
# Configurations

What a configuration says, with the values that hold where it says nothing.

## Contents

* `RuleOptions`, `LintOptions`, `Config`
* `ConfigFault`: why there is no configuration
* `Setting.asBool`, `Setting.asText?`, `Setting.asNames`: values read for a purpose
* `Config.ofTable?`
-/

namespace DocAudit

open Text

/-- The kinds of documents that have rules of their own. -/
structure KindOptions where
  runbooks : Bool := false
  adrs : Bool := false
  components : Bool := false
  deriving DecidableEq, Repr, Inhabited

/-- What is required of documents. -/
structure RuleOptions where
  maxLines : Int := 300
  requireVerification : Bool := true
  requireExamples : Bool := true
  requireVerificationCommands : Bool := true
  strictOutput : Bool := false
  skipOutput : Bool := false
  validatePaths : Bool := false
  warnEmptyPaths : Bool := false
  gradual : Bool := false
  gradualUntil : Option Text := none
  kinds : KindOptions := {}
  deriving DecidableEq, Repr, Inhabited

/-- What the prose checks do. -/
structure LintOptions where
  enable : List Text := []
  disable : List Text := []
  maxParagraphWords : Int := 150
  externalLinks : Bool := false
  deriving DecidableEq, Repr, Inhabited

/-- A configuration, the file that it comes from and the table in it. -/
structure Config where
  path : Path
  docsRoot : Text
  version : Text
  templates : Option Text
  rules : RuleOptions
  lint : LintOptions
  exclude : List Text
  table : SettingTable
  deriving Repr, Inhabited

/-- Why there is no configuration, or no value in it. -/
inductive ConfigFault
  | notFound
  | unreadable (path : Path)
  | unparsable (path : Path)
  | rootMissing
  | notAnInteger (key : Text)
  | versionEmpty
  | rootEmpty
  | maxLinesNotPositive
  | noSuchKey (key : Text)
  | unknownRule (name : Text)
  /-- The file is no text. -/
  | notText
  /-- A whole number has too many digits to be read or to be written. -/
  | numberTooLong
  /-- Values stand too deep in values. -/
  | tooDeep
  deriving DecidableEq, Repr

/-- The name of configuration files. -/
def configName : Text := ".pave.toml".toList

/-- The wording of a fault that is reported. -/
def ConfigFault.message? : ConfigFault → Option Text
  | .notFound =>
    some ("No ".toList ++ configName ++ " found in current directory or any parent directory".toList)
  | .unreadable path => some ("failed to read config file: ".toList ++ path.text)
  | .unparsable path => some ("failed to parse config file: ".toList ++ path.text)
  | .rootMissing => some "docs.root is required".toList
  | .notAnInteger key => some (key ++ " must be an integer".toList)
  | .versionEmpty => some "pave.version cannot be empty".toList
  | .rootEmpty => some "docs.root cannot be empty".toList
  | .maxLinesNotPositive => some "rules.max_lines must be greater than 0".toList
  | .noSuchKey key => some ("config key not found: ".toList ++ key)
  | .unknownRule name => some ("Unknown lint rule in config: ".toList ++ name)
  | .notText => none
  | .numberTooLong => none
  | .tooDeep => none

/-! ## Values read for a purpose -/

namespace Setting

/-- The words that mean yes. -/
def yesWords : List Text := ["1".toList, "true".toList, "yes".toList, "on".toList]

/-- A truth value; what is none counts as the default. -/
def asBool (default : Bool) : Setting → Bool
  | .bool b => b
  | .int n => n != 0
  | .str s => yesWords.contains (lower (strip s))
  | _ => default

/-- A text; nothing for the empty value. Dates are written in their standard form. -/
def asText? : Setting → Except ConfigFault (Option Text)
  | .null => .ok none
  | .date d => .ok (some d.text)
  | .moment m => .ok (some (m.text 'T'))
  | value => if value.isOverlong then .error .numberTooLong else .ok (some value.text)

/-- A whole number. -/
def asInt? : Setting → Option Int
  | .int n => some n
  | _ => none

/-- The names between the commas of a text. -/
def namesIn (s : Text) : List Text :=
  ((splitAt ',' s).map strip).filter (!·.isEmpty)

/-- The names in a text or in the texts of a list. -/
def asNames : Setting → List Text
  | .str s => namesIn s
  | .list items => items.flatMap fun
    | .str s => namesIn s
    | _ => []
  | _ => []

end Setting

namespace SettingTable

/-- The truth value of a key. -/
def bool (t : SettingTable) (key : String) (default : Bool) : Bool :=
  ((t.find? key.toList).map (·.asBool default)).getD default

/-- The names under a key. -/
def names (t : SettingTable) (key : String) : List Text :=
  ((t.find? key.toList).map (·.asNames)).getD []

/-- The text of a key. -/
def text? (t : SettingTable) (key : String) : Except ConfigFault (Option Text) :=
  match t.find? key.toList with
  | none => .ok none
  | some value => value.asText?

/-- The whole number of a key in the table of the given name. -/
def int (t : SettingTable) (name key : String) (default : Int) : Except ConfigFault Int :=
  match t.find? key.toList with
  | none => .ok default
  | some .null => .ok default
  | some value => match value.asInt? with
    | some n => .ok n
    | none => .error (.notAnInteger (name.toList ++ '.' :: key.toList))

end SettingTable

/-- The options in a table of rules. -/
def RuleOptions.ofTable? (t : SettingTable) : Except ConfigFault RuleOptions := do
  let kinds := t.subtable "type_specific".toList
  return {
    maxLines := ← t.int "rules" "max_lines" 300
    requireVerification := t.bool "require_verification" true
    requireExamples := t.bool "require_examples" true
    requireVerificationCommands := t.bool "require_verification_commands" true
    strictOutput := t.bool "strict_output_matching" false
    skipOutput := t.bool "skip_output_matching" false
    validatePaths := t.bool "validate_paths" false
    warnEmptyPaths := t.bool "warn_empty_paths" false
    gradual := t.bool "gradual" false
    gradualUntil := ← t.text? "gradual_until"
    kinds := {
      runbooks := kinds.bool "runbooks" false
      adrs := kinds.bool "adrs" false
      components := kinds.bool "components" false } }

/-- The options in a table of prose checks. -/
def LintOptions.ofTable? (t : SettingTable) : Except ConfigFault LintOptions := do
  return {
    enable := t.names "enable"
    disable := t.names "disable"
    maxParagraphWords := ← t.int "lint" "max_paragraph_words" 150
    externalLinks := t.bool "external_links" false }

namespace Config

/-- The first fault of a configuration whose values are of the right kinds. -/
def fault? (c : Config) : Option ConfigFault :=
  if isBlankText c.version then some .versionEmpty
  else if isBlankText c.docsRoot then some .rootEmpty
  else if c.rules.maxLines ≤ 0 then some .maxLinesNotPositive
  else none

/-- The configuration in a table that comes from a file. -/
def ofTable? (path : Path) (t : SettingTable) : Except ConfigFault Config := do
  let pave := t.subtable "pave".toList
  let docs := t.subtable "docs".toList
  if (docs.find? "root".toList).isNone then throw .rootMissing
  let docsRoot := (← docs.text? "root").getD []
  let version ← match pave.find? "version".toList with
    | none => pure "0.1".toList
    | some value => value.asText?.map (·.getD [])
  let config : Config := {
    path
    docsRoot
    version
    templates := ← docs.text? "templates"
    rules := ← RuleOptions.ofTable? (t.subtable "rules".toList)
    lint := ← LintOptions.ofTable? (t.subtable "lint".toList)
    exclude := (t.subtable "mapping".toList).names "exclude"
    table := t }
  match config.fault? with
  | some fault => throw fault
  | none => return config

/-- The directory of the configuration: all paths in it start there. -/
def dir (c : Config) : Path := c.path.parent

/-- The directory of the documents. -/
def docsDir (c : Config) : Path := c.dir.join (Path.ofText c.docsRoot)

/-- A path as it is shown: from the directory of the configuration. -/
def shown (c : Config) (p : Path) : Text := p.relativeText c.dir

/-- The value at a path of keys with dots between them. -/
def value? (c : Config) (key : Text) : Except ConfigFault Setting :=
  match c.table.at? (splitAt '.' key) with
  | some value => .ok value
  | none => .error (.noSuchKey key)

end Config

end DocAudit
