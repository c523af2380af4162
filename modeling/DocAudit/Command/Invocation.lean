import DocAudit.Command.Check
import DocAudit.Command.Lint
import DocAudit.Coverage.Mapping
import DocAudit.Decimal.Reading
import DocAudit.Report.Format

/-!
# Invocations

What the words of a command line ask for. Options are flags or have a value, may stand anywhere after
the name of the command, and end at two dashes.

## Contents

* `OptionSpec`, `Words`, `sortWords`: words sorted into options and arguments
* `Invocation`, `Invocation.ofWords?`
* no result means that the words are misused

## Termination

Every step of `sortWords` takes a word, or a letter of a word.
-/

namespace DocAudit

open Text

/-- An option: its names, and whether it has a value. -/
structure OptionSpec where
  key : String
  long : String
  short : Option Char := none
  valued : Bool := false
  deriving DecidableEq, Repr

/-- Words sorted into options, in their order, and arguments. -/
structure Words where
  options : List (String × Text) := []
  arguments : List Text := []
  deriving DecidableEq, Repr

namespace Words

/-- The words with an option in front. -/
def withOption (w : Words) (key : String) (value : Text) : Words :=
  { w with options := (key, value) :: w.options }

/-- The words with an argument in front. -/
def withArgument (w : Words) (a : Text) : Words := { w with arguments := a :: w.arguments }

/-- The value of an option: the last one that was given. -/
def value? (w : Words) (key : String) : Option Text :=
  (w.options.filter (·.1 == key)).getLast?.map (·.2)

/-- All values of an option. -/
def values (w : Words) (key : String) : List Text := (w.options.filter (·.1 == key)).map (·.2)

/-- The option was given. -/
def has (w : Words) (key : String) : Bool := w.options.any (·.1 == key)

end Words

/-- The letters of a word with a single dash. A letter of an option with a value is followed by the value,
in the same word or in the next one. -/
def shortOptions (specs : List OptionSpec) : (letters : Text) → (rest : List Text) →
    Option (List (String × Text) × List Text)
  | [], rest => some ([], rest)
  | c :: letters, rest =>
    match specs.find? (·.short == some c) with
    | none => none
    | some spec =>
      if spec.valued then
        match letters, rest with
        | _ :: _, rest => some ([(spec.key, letters)], rest)
        | [], value :: rest => some ([(spec.key, value)], rest)
        | [], [] => none
      else (shortOptions specs letters rest).map fun (os, rest) => ((spec.key, []) :: os, rest)

/-- A word with two dashes and the words after it. -/
def longOption (specs : List OptionSpec) (word : Text) (rest : List Text) :
    Option ((String × Text) × List Text) :=
  let (name, attached) : Text × Option Text := match cut '=' word with
    | some (name, value) => (name, some value)
    | none => (word, none)
  match specs.find? (·.long.toList == name) with
  | none => none
  | some spec =>
    match spec.valued, attached, rest with
    | false, none, rest => some ((spec.key, []), rest)
    | false, some _, _ => none
    | true, some value, rest => some ((spec.key, value), rest)
    | true, none, value :: rest => some ((spec.key, value), rest)
    | true, none, [] => none

/-- Words sorted into options and arguments; without `mixed`, options end at the first argument. -/
def sortWords (specs : List OptionSpec) (mixed : Bool) (ws : List Text) : Option Words :=
  match ws with
  | [] => some {}
  | word :: rest =>
    if word == ['-', '-'] then some { arguments := rest }
    else match word with
      | '-' :: '-' :: _ =>
        match longOption specs word rest with
        | none => none
        | some ((key, value), after) =>
          if _h : after.length ≤ rest.length then
            (sortWords specs mixed after).map (·.withOption key value)
          else none
      | '-' :: c :: letters =>
        match shortOptions specs (c :: letters) rest with
        | none => none
        | some (os, after) =>
          if _h : after.length ≤ rest.length then
            (sortWords specs mixed after).map fun w => { w with options := os ++ w.options }
          else none
      | word =>
        if mixed then (sortWords specs mixed rest).map (·.withArgument word)
        else some { arguments := word :: rest }
termination_by ws.length

/-! ## Options -/

/-- Options in front of the command. -/
def globalOptions : List OptionSpec :=
  [{ key := "verbose", long := "--verbose", short := some 'v' },
    { key := "config", long := "--config", valued := true }]

/-- The option for the format of the report. -/
def formatOption : OptionSpec := { key := "format", long := "--format", short := some 'f', valued := true }

/-- A flag. -/
def flag (key : String) : OptionSpec := { key, long := "--" ++ key }

/-- An option with a value. -/
def valued (key : String) : OptionSpec := { key, long := "--" ++ key, valued := true }

/-- What a command does. -/
inductive Action
  | check (o : CheckOptions)
  | verify (paths : List Path) (timeout : Int) (keepGoing : Bool) (report : Option Path)
  | coverage (threshold : Option Float) (filter : FileFilter)
  | newCode (base : Option Text) (filter : FileFilter)
  | changes (base : Option Text) (strict : Bool)
  | lint (r : LintRequest)
  | doctor
  | status (changed : Bool) (base : Option Text)

/-- What a command prints: the report of an action, or a value of the configuration. -/
inductive Request
  | report (format : ReportFormat) (action : Action)
  | setting (key : Text)

/-- What a command line asks for. -/
structure Invocation where
  config : Option Path
  request : Request

/-- Words of a command that has no arguments. -/
def noArguments (w : Words) : Option Unit := if w.arguments.isEmpty then some () else none

/-- The format that the words ask for. -/
def formatOf (w : Words) : Option ReportFormat :=
  match w.value? "format" with
  | none => some .text
  | some name => ReportFormat.ofName? name

/-- The files that the words include and exclude. -/
def filterOf (w : Words) : FileFilter := { included := w.values "include", excluded := w.values "exclude" }

/-- The paths among the arguments. -/
def pathsOf (w : Words) : List Path := w.arguments.map Path.ofText

/-- A threshold from 0 to 100. -/
def thresholdOf (w : Words) : Option (Option Float) :=
  match w.value? "threshold" with
  | none => some none
  | some s =>
    match Decimal.float? s with
    | none => none
    | some x => if 0.0 ≤ x && x ≤ 100.0 then some (some x) else none

/-- The milliseconds of a time limit, which is given in seconds and positive. -/
def timeoutOf (w : Words) : Option Int :=
  match w.value? "timeout" with
  | none => some 30000
  | some s => ((Decimal.int? 10 s).filter (0 < ·)).map (1000 * ·)

/-- What a command with these words prints. -/
def requestOf? (name : Text) (ws : List Text) : Option Request := do
  let sorted (specs : List OptionSpec) : Option (Words × ReportFormat) := do
    let w ← sortWords (formatOption :: specs) true ws
    return (w, ← formatOf w)
  match String.ofList name with
  | "check" =>
    let (w, format) ← sorted [flag "strict", flag "gradual", flag "changed", valued "base"]
    return .report format (.check {
      paths := pathsOf w
      strict := w.has "strict"
      gradual := w.has "gradual"
      changed := w.has "changed"
      base := w.value? "base" })
  | "verify" =>
    let (w, format) ← sorted [valued "timeout", flag "keep-going", valued "report"]
    return .report format (.verify (pathsOf w) (← timeoutOf w) (w.has "keep-going")
      ((w.value? "report").map Path.ofText))
  | "coverage" =>
    let (w, format) ← sorted [valued "threshold", valued "include", valued "exclude"]
    noArguments w
    return .report format (.coverage (← thresholdOf w) (filterOf w))
  | "coverage-changed" =>
    let (w, format) ← sorted [valued "base", valued "include", valued "exclude"]
    noArguments w
    return .report format (.newCode (w.value? "base") (filterOf w))
  | "changed" =>
    let (w, format) ← sorted [valued "base", flag "strict"]
    noArguments w
    return .report format (.changes (w.value? "base") (w.has "strict"))
  | "lint" =>
    let (w, format) ← sorted [flag "fix", valued "rules", flag "external-links"]
    return .report format (.lint {
      paths := pathsOf w
      rules := splitAt ',' ((w.value? "rules").getD [])
      fix := w.has "fix"
      externalLinks := w.has "external-links" })
  | "doctor" =>
    let (w, format) ← sorted []
    noArguments w
    return .report format .doctor
  | "status" =>
    let (w, format) ← sorted [flag "changed", valued "base"]
    noArguments w
    return .report format (.status (w.has "changed") (w.value? "base"))
  | "config" =>
    let outer ← sortWords [] false ws
    match outer.arguments with
    | name :: ws =>
      if name != "get".toList then none
      let w ← sortWords [] true ws
      match w.arguments with
      | [key] => return .setting key
      | _ => none
    | [] => none
  | _ => none

/-- What the words of a command line ask for. -/
def Invocation.ofWords? (ws : List Text) : Option Invocation := do
  let w ← sortWords globalOptions false ws
  match w.arguments with
  | [] => none
  | name :: rest =>
    return { config := (w.value? "config").map Path.ofText, request := ← requestOf? name rest }

end DocAudit
