import DocAudit.Failure
import DocAudit.Regex.Match
import DocAudit.Verification.Spec

/-!
# Verification status

What became of a command, and how its output compares with what was expected.

## Contents

* `Status`, its rank, and the strongest of several
* `ExpectedOutput.isMet`
* `Attempt`: what running a command gives
* `ItemResult`, `ItemResult.ofAttempt`
-/

namespace DocAudit

open Text

/-- What became of a command. -/
inductive Status
  | pass
  | warn
  | fail
  | timeout
  | skipped
  deriving DecidableEq, Repr

namespace Status

/-- The name of a status. -/
def name : Status → Text
  | .pass => "pass".toList
  | .warn => "warn".toList
  | .fail => "fail".toList
  | .timeout => "timeout".toList
  | .skipped => "skipped".toList

/-- All of them. -/
def all : List Status := [.pass, .warn, .fail, .timeout, .skipped]

/-- The status of a name. -/
def ofName? (name : Text) : Option Status := all.find? (·.name == name)

/-- How strongly a status counts for the whole. -/
def rank : Status → Nat
  | .pass => 0
  | .skipped => 1
  | .warn => 2
  | .fail => 3
  | .timeout => 3

/-- The status is a failure. -/
def failed : Status → Bool
  | .fail => true
  | .timeout => true
  | _ => false

/-- The stronger of two; of equally strong ones the first. -/
def stronger (a b : Status) : Status := if a.rank < b.rank then b else a

/-- The first of the strongest ones, and `pass` where there is none. -/
def strongest (statuses : List Status) : Status := statuses.foldl stronger .pass

/-- Failures are what has the highest rank. -/
theorem failed_iff {s : Status} : s.failed = true ↔ s.rank = 3 := by cases s <;> decide

end Status

/-- How output is compared. -/
structure Matching where
  strict : Bool := false
  skip : Bool := false
  deriving DecidableEq, Repr

/-- The output is as expected. A text that is no expression is not found in any output. -/
def ExpectedOutput.isMet (e : ExpectedOutput) (stdout : Text) : Outcome Bool :=
  match e.strategy with
  | .contains => .ok (hasInfix e.content stdout)
  | .regex =>
    match Regex.ofText { multiLine := true } e.content with
    | .ok (modes, r) => .ok (r.matchesIn modes stdout)
    | .error .malformed => .ok false
    | .error fault => .error (.expression fault)
  | .exact => .ok (strip stdout == strip e.content)

/-- The output is as expected, which it always is where nothing is expected. -/
def outputMet (expected : Option ExpectedOutput) (stdout : Text) : Outcome Bool :=
  match expected with
  | none => .ok true
  | some e => e.isMet stdout

/-- Output that was not as expected. -/
structure Mismatch where
  expected : Text
  strategy : OutputStrategy
  actual : Text
  deriving DecidableEq, Repr

/-- What running a command gives. Killed by a signal, it has the negative number of the signal as its
exit code. -/
inductive Attempt
  | finished (code : Int) (stdout stderr : Text)
  | timedOut (stdout stderr : Text)
  | notStarted
  deriving DecidableEq, Repr

/-- What became of an item. -/
structure ItemResult where
  item : Item
  status : Status
  exitCode : Option Int := none
  stdout : Text := []
  stderr : Text := []
  millis : Nat := 0
  mismatch : Option Mismatch := none
  deriving DecidableEq, Repr

namespace ItemResult

/-- The status of an item that ended with a code and an output, and how the output differs. -/
def classify (m : Matching) (item : Item) (code : Int) (stdout : Text) :
    Outcome (Status × Option Mismatch) := do
  if code ≠ item.expectedExit then return (.fail, none)
  else match item.expected with
    | none => return (.pass, none)
    | some e =>
      if (← e.isMet stdout) || m.skip then return (.pass, none)
      else
        return (if m.strict then .fail else .warn,
          some { expected := e.content, strategy := e.strategy, actual := stdout })

/-- The result of an item that was run. -/
def ofAttempt (m : Matching) (item : Item) : Attempt → Outcome ItemResult
  | .finished code stdout stderr =>
    (classify m item code stdout).map fun (status, mismatch) =>
      { item, status, exitCode := some code, stdout, stderr, mismatch }
  | .timedOut stdout stderr => .ok { item, status := .timeout, stdout, stderr }
  | .notStarted => .ok { item, status := .fail, stderr := "failed to spawn command".toList }

/-- The result of an item that is not run. -/
def skipped (item : Item) : ItemResult := { item, status := .skipped }

end ItemResult

end DocAudit
