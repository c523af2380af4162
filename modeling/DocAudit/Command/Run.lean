import DocAudit.Command.Coverage
import DocAudit.Command.Doctor
import DocAudit.Command.Invocation
import DocAudit.Command.Verify
import DocAudit.Shell.Runner

/-!
# Running commands

An action gives a report and an exit code, or fails, and may change files. A command line prints what its
action gives.

## Contents

* `Text.withoutSequences`: a text without control sequences
* `Surroundings`: what a command depends on besides its words
* `Action.run`
* `runCommandLine`
-/

namespace DocAudit

open Text

/-! ## Control sequences

Sequences that tell a terminal about colours and positions. What is not written to a terminal is written
without them. -/

namespace Text

/-- Characters of the numbers in a sequence. -/
def isParameterChar (c : Char) : Bool := c.isDigit || c == ';' || c == '?'

/-- The text after a sequence that starts it: the escape character, a bracket, numbers and a letter. -/
def sequence? (s : Text) : Option Text :=
  match s with
  | '\x1B' :: '[' :: r =>
    match r.dropWhile isParameterChar with
    | c :: rest => if c.isAlpha then some rest else none
    | [] => none
  | _ => none

/-- What is behind a sequence is shorter than the whole. -/
theorem length_of_sequence? {s rest : Text} (h : sequence? s = some rest) : rest.length < s.length := by
  unfold sequence? at h
  split at h
  · next r =>
    have hr := (List.dropWhile_suffix isParameterChar (l := r)).length_le
    split at h
    · next c rest' heq =>
      split at h
      · cases h
        rw [heq, List.length_cons] at hr
        rw [List.length_cons, List.length_cons]
        omega
      · cases h
    · cases h
  · cases h

/-- A text without the sequences in it. -/
def withoutSequences (s : Text) : Text :=
  match s with
  | [] => []
  | c :: r =>
    match _h : sequence? (c :: r) with
    | some rest => withoutSequences rest
    | none => c :: withoutSequences r
termination_by s.length
decreasing_by
  · exact length_of_sequence? _h
  · rw [List.length_cons]
    omega

end Text

/-! ## Commands -/

/-- What a command depends on besides its words. -/
structure Surroundings where
  tree : FileTree
  cwd : Path
  git : Git
  /-- What is wrong with an external link, when something is. -/
  urlFault : Text → Option Text
  /-- A shell can be found. -/
  hasShell : Bool := true
  today : Date

/-- The tree with the directory that a path names, and all on the way to it, unless a file is in the
way. -/
def FileTree.makeDir (t : FileTree) (cwd dir : Path) : Option FileTree :=
  let step (place : List Text × FileTree) (name : Text) : Option (List Text × FileTree) :=
    let next := Path.collapseStep place.1 name
    match place.2.find? next with
    | some .dir => some (next, place.2)
    | some _ => none
    | none => some (next, place.2.put next .dir)
  ((cwd.join dir).names.foldlM step ([], t)).map (·.2)

/-- Writes a report, and makes the directories that it needs. -/
def writeReport (t : FileTree) (cwd file : Path) (report : Text) : Outcome Unit × FileTree :=
  match t.makeDir cwd file.parent with
  | none => (.error (.reportNotWritten file), t)
  | some t =>
    match file.refuseNul, (t.locate? cwd file).bind fun names => t.write names (Utf8.encode report) with
    | .error failure, _ => (.error failure, t)
    | .ok (), some t => (.ok (), t)
    | .ok (), none => (.error (.reportNotWritten file), t)

/-- What a command gives: a report and an exit code, and the files after it. -/
abbrev Effect := Outcome (CommandReport × Nat) × FileTree

namespace Surroundings

/-- A report that changes no files. -/
def reading {α : Type} (s : Surroundings) (kind : α → CommandReport) (r : Outcome (α × Nat)) : Effect :=
  (r.map fun (report, code) => (kind report, code), s.tree)

/-- Goes on with the project whose configuration is in a file, or is the one that holds in the current
directory. -/
def within (s : Surroundings) (file : Option Path) (body : Project → Effect) : Effect :=
  match Config.load s.tree s.cwd file with
  | .error failure => (.error failure, s.tree)
  | .ok config => body { tree := s.tree, cwd := s.cwd, config }

/-- Verifies documents, and writes the report to a file when that is asked for. -/
def verify (s : Surroundings) (paths : List Path) (timeout : Int) (keepGoing : Bool)
    (report : Option Path) (p : Project) : Effect :=
  let run := Shell.shellRunner p.config.dir p.matching
  match (p.runVerify run paths timeout keepGoing).run p.tree with
  | (.error failure, tree) => (.error failure, tree)
  | (.ok (r, code), tree) =>
    match report with
    | none => (.ok (.verify r, code), tree)
    | some file =>
      let (written, tree) := writeReport tree s.cwd file (r.toJson.render ++ ['\n'])
      (written.map fun _ => (.verify r, code), tree)

end Surroundings

/-- Runs an action. -/
def Action.run (s : Surroundings) (file : Option Path) : Action → Effect
  | .check o => s.within file fun p => s.reading .check (p.runCheck s.git s.today o)
  | .verify paths timeout keepGoing report =>
    s.within file (s.verify paths timeout keepGoing report)
  | .coverage threshold filter =>
    s.within file fun p => s.reading .coverage (p.runCoverage threshold filter)
  | .newCode base filter => s.within file fun p => s.reading .newCode (p.runNewCode s.git base filter)
  | .changes base strict => s.within file fun p => s.reading .changes (p.runChanges s.git base strict)
  | .lint r => s.within file fun p =>
    let (found, tree) := p.runLint s.urlFault r
    (found.map fun (report, code) => (.lint report, code), tree)
  | .status changed base =>
    s.within file fun p => s.reading .status (p.runStatus s.git s.today changed base)
  | .doctor => s.reading .health (runDoctor s.tree s.cwd file s.hasShell)

/-- A value of the configuration as it is printed. -/
def printedSetting : Setting → Text
  | .bool true => "true".toList
  | .bool false => "false".toList
  | .list items => (Json.ofSetting (.list items)).render
  | .table pairs => (Json.ofSetting (.table pairs)).render
  | value => value.text

/-- What a command line does: what it prints and its exit code, or a failure that has no words. -/
inductive Ending
  | ended (exit : Nat) (stdout stderr : Text)
  | escaped (failure : Failure)

namespace Ending

/-- The words of the command line are misused. -/
def misused : Ending := .ended 2 [] "Usage: pave [OPTIONS] COMMAND [ARGS]...\n".toList

/-- The end by a failure. An unknown check counts as a misuse. -/
def failed (f : Failure) : Ending :=
  match f with
  | .unknownRule _ => misused
  | f => match f.message? with
    | some message => .ended 2 [] ("error: ".toList ++ message ++ ['\n'])
    | none => .escaped f

/-- The end with some output, which is a line when there is any. -/
def printed (code : Nat) (s : Text) : Ending := .ended code (if s.isEmpty then [] else s ++ ['\n']) []

end Ending

/-- Prints a value of the configuration. -/
def printSetting (s : Surroundings) (file : Option Path) (key : Text) : Ending :=
  match Config.load s.tree s.cwd file with
  | .error failure => .failed failure
  | .ok config => match config.value? key with
    | .error fault => .failed (.config fault)
    | .ok value =>
      if value.isOverlong then .escaped (.config .numberTooLong)
      else .ended 0 (printedSetting value ++ ['\n']) []

/-- Runs what an invocation asks for. -/
def Invocation.run (s : Surroundings) (i : Invocation) : Ending × FileTree :=
  match i.request with
  | .setting key => (printSetting s i.config key, s.tree)
  | .report format action =>
    let (outcome, tree) := action.run s i.config
    (match outcome with
      | .error failure => .failed failure
      | .ok (report, code) => .printed code (report.render format), tree)

/-- The end as it shows where no terminal is. -/
def Ending.plain : Ending → Ending
  | .ended exit stdout stderr => .ended exit (withoutSequences stdout) (withoutSequences stderr)
  | e => e

/-- Runs a command line. -/
def runCommandLine (s : Surroundings) (ws : List Text) : Ending × FileTree :=
  match Invocation.ofWords? ws with
  | none => (.misused, s.tree)
  | some i =>
    let (ending, tree) := i.run s
    (ending.plain, tree)

end DocAudit
