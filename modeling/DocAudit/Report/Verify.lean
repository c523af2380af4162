import DocAudit.Report.Wording
import DocAudit.Text.Case

/-!
# Verification reports

What became of the commands of all documents that were verified.
-/

namespace DocAudit

open Text Report

/-- Output that was not as expected. -/
structure MismatchEntry where
  expected : Text
  strategy : Text
  actual : Text
  deriving DecidableEq, Repr

/-- What became of a command. -/
structure CommandEntry where
  command : Text
  status : Text
  exitCode : Option Int
  expectedExit : Int
  stdout : Option Text
  stderr : Option Text
  millis : Int
  mismatch : Option MismatchEntry
  workingDir : Option Text
  env : List (Text × Text)
  deriving DecidableEq, Repr

/-- What became of the commands of a document. -/
structure DocumentEntry where
  file : Text
  line : Int
  status : Text
  commands : List CommandEntry
  deriving DecidableEq, Repr

/-- What became of all commands. -/
structure VerifyReport where
  documentsVerified : Int
  executed : Int
  passed : Int
  warned : Int
  failed : Int
  skipped : Int
  documents : List DocumentEntry
  deriving DecidableEq, Repr

namespace CommandEntry

/-- The fields of a mismatch. -/
def mismatchJson (m : MismatchEntry) : Json :=
  record [("expected", .str m.expected), ("strategy", .str m.strategy), ("actual", .str m.actual)]

/-- The fields of a command. -/
def toJson (c : CommandEntry) : Json :=
  record [("command", .str c.command), ("status", .str c.status), ("exit_code", orNull .int c.exitCode),
    ("expected_exit_code", .int c.expectedExit), ("stdout", orNull .str c.stdout),
    ("stderr", orNull .str c.stderr), ("duration_ms", .int c.millis),
    ("output_mismatch", orNull mismatchJson c.mismatch), ("working_dir", orNull .str c.workingDir),
    ("env_vars", .arr (c.env.map fun (key, value) => record [("key", .str key), ("value", .str value)]))]

/-- The command with its variables and its directory, to be typed by hand. -/
def manual (c : CommandEntry) : Text :=
  joinWith [' '] ((c.env.map fun (key, value) => key ++ '=' :: value) ++
    (match nonempty c.workingDir with
      | some dir => ["cd ".toList ++ dir ++ " &&".toList]
      | none => []) ++
    [c.command])

/-- The status is one of a failure. -/
def hasFailed (c : CommandEntry) : Bool := c.status == "fail".toList || c.status == "timeout".toList

/-- The short form of a status. -/
def tag (c : CommandEntry) : Text :=
  if c.status == "skipped".toList then "SKIP".toList else upper c.status

/-- Why a command failed. -/
def reasonLines (c : CommandEntry) : List Text :=
  (if c.status == "fail".toList && c.mismatch.isNone then
    match c.exitCode with
    | none => ["    command could not be started".toList]
    | some code =>
      ["    exit code: ".toList ++ ofInt code ++ " (expected ".toList ++ ofInt c.expectedExit ++ [')']]
   else []) ++
  (if c.status == "timeout".toList then ["    command timed out".toList] else [])

/-- The lines about a command below its own. -/
def detailLines (c : CommandEntry) : List Text :=
  c.reasonLines ++
  (match c.mismatch with
    | none => []
    | some m =>
      ["    output mismatch (".toList ++ m.strategy ++ "):".toList,
        "      expected: ".toList ++ shortened m.expected,
        "      actual:   ".toList ++ shortened m.actual]) ++
  (if c.hasFailed then
    (match nonempty c.stderr with | some s => ["    stderr: ".toList ++ shortened s] | none => []) ++
    (match nonempty c.stdout, c.mismatch with
      | some s, none => ["    stdout: ".toList ++ shortened s]
      | _, _ => []) ++
    ["    Try running manually: ".toList ++ c.manual]
   else [])

/-- The number nearest to the seconds. -/
def secondsOf (millis : Int) : Float :=
  let x := Float.ofScientific millis.natAbs true 3
  if millis < 0 then -x else x

/-- Seconds with two places. -/
def seconds (millis : Int) : Text := Decimal.fixed 2 (secondsOf millis)

/-- The time of the command can be shown in seconds, or need not be. -/
def hasSeconds (c : CommandEntry) : Bool :=
  c.status == "skipped".toList || (secondsOf c.millis).isFinite

/-- The lines about a command. -/
def textLines (c : CommandEntry) : List Text :=
  if c.status == "skipped".toList then ["  [".toList ++ c.tag ++ "] ".toList ++ c.command]
  else
    ("  [".toList ++ c.tag ++ "] (".toList ++ seconds c.millis ++ "s) ".toList ++ c.command) ::
      c.detailLines

/-- The annotation about a command that did not pass. -/
def note? (d : DocumentEntry) (c : CommandEntry) : Option Text :=
  if c.hasFailed then
    some (errorNote ("verification ".toList ++ c.status ++ ": ".toList ++ c.command) d.file d.line)
  else if c.status == "warn".toList then
    some (warningNote ("output mismatch: ".toList ++ c.command) d.file d.line)
  else none

end CommandEntry

namespace DocumentEntry

/-- The fields of a document. -/
def toJson (d : DocumentEntry) : Json :=
  record [("file", .str d.file), ("section_line", .int d.line), ("status", .str d.status),
    ("commands", .arr (d.commands.map (·.toJson)))]

/-- The lines about a document. -/
def textLines (d : DocumentEntry) : List Text :=
  (d.file ++ " (Verification at line ".toList ++ ofInt d.line ++ [')']) ::
    d.commands.flatMap (·.textLines) ++ [[]]

end DocumentEntry

namespace VerifyReport

/-- The fields of the report. -/
def toJson (r : VerifyReport) : Json :=
  record [("documents_verified", .int r.documentsVerified), ("commands_executed", .int r.executed),
    ("commands_passed", .int r.passed), ("commands_warned", .int r.warned),
    ("commands_failed", .int r.failed), ("commands_skipped", .int r.skipped),
    ("documents", .arr (r.documents.map (·.toJson)))]

/-- The last line of the report. -/
def summary (r : VerifyReport) : Text :=
  "Verified ".toList ++ plural r.documentsVerified "document" ++ ": ".toList ++ ofInt r.passed ++
    " passed, ".toList ++ ofInt r.warned ++ " warned, ".toList ++ ofInt r.failed ++ " failed".toList ++
    (if r.skipped != 0 then ", ".toList ++ ofInt r.skipped ++ " skipped".toList else [])

/-- The times of all commands can be shown. Otherwise there is no report in words. -/
def hasText (r : VerifyReport) : Bool := r.documents.all fun d => d.commands.all (·.hasSeconds)

/-- The report in words. -/
def text (r : VerifyReport) : Text :=
  if r.documents.isEmpty then "No verification commands found".toList
  else unlines (r.documents.flatMap (·.textLines) ++ [r.summary])

/-- The report as annotations. -/
def annotations (r : VerifyReport) : Text :=
  unlines (r.documents.flatMap fun d => d.commands.filterMap (CommandEntry.note? d))

end VerifyReport

end DocAudit
