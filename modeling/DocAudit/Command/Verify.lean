import DocAudit.Command.Project
import DocAudit.Report.Verify
import DocAudit.Verification.Run

/-!
# Verifying documents

The command that runs what documents say about their own verification.
-/

namespace DocAudit

open Text

namespace Project

/-- A text that is not empty. -/
def shownOutput (s : Text) : Option Text := if s.isEmpty then none else some s

/-- What became of a command, as it is reported. -/
def commandEntry (r : ItemResult) : CommandEntry where
  command := r.item.command
  status := r.status.name
  exitCode := r.exitCode
  expectedExit := r.item.expectedExit
  stdout := shownOutput r.stdout
  stderr := shownOutput r.stderr
  millis := r.millis
  mismatch := r.mismatch.map fun m =>
    { expected := m.expected, strategy := m.strategy.name, actual := m.actual }
  workingDir := r.item.workingDir
  env := r.item.env

/-- The report on what became of documents. -/
def verifyReport (p : Project) (outcomes : List SpecResult) : VerifyReport :=
  let statuses := outcomes.flatMap fun o => o.results.map (·.status)
  { documentsVerified := outcomes.length
    executed := statuses.countP (· != .skipped)
    passed := statuses.count .pass
    warned := statuses.count .warn
    failed := statuses.countP (·.failed)
    skipped := statuses.count .skipped
    documents := outcomes.map fun o =>
      { file := p.config.shown o.spec.file, line := o.spec.line, status := o.status.name,
        commands := o.results.map commandEntry } }

/-- How the configuration compares output. -/
def matching (p : Project) : Matching :=
  { strict := p.config.rules.strictOutput, skip := p.config.rules.skipOutput }

/-- The specs of documents, each command with so many milliseconds at most. -/
def specs (p : Project) (paths : List Path) (timeout : Int) : Outcome (List Spec) := do
  if timeout ≤ 0 then throw .timeoutNotPositive
  let docs ← (← p.discover paths).mapM p.read
  return docs.filterMap (Document.spec? · timeout)

/-- Runs the commands of documents. The exit code is 1 when one of them fails. All documents are read
before the first command is run. -/
def runVerify {σ : Type} (p : Project) (run : Runner (Work σ)) (paths : List Path) (timeout : Int)
    (keepGoing : Bool) : Work σ (VerifyReport × Nat) := do
  let specs ← ExceptT.mk (pure (p.specs paths timeout))
  let outcomes ← Spec.runAll run keepGoing specs
  let failed := outcomes.any (·.status.failed)
  return (p.verifyReport outcomes, if failed then 1 else 0)

section

variable {σ : Type} {p : Project} {run : Runner (Work σ)} {paths : List Path} {timeout : Int} {keepGoing : Bool}

/-- Without specs nothing is run. -/
theorem runVerify_of_error {failure : Failure} (h : p.specs paths timeout = .error failure) (w : σ) :
    (p.runVerify run paths timeout keepGoing).run.run w = (.error failure, w) := by
  unfold runVerify
  rw [h]
  rfl

/-- With specs their items are run, and the outcomes are reported. -/
theorem runVerify_of_ok {specs : List Spec} (h : p.specs paths timeout = .ok specs) :
    p.runVerify run paths timeout keepGoing =
      (fun outcomes => (p.verifyReport outcomes, if outcomes.any (·.status.failed) then 1 else 0)) <$>
        Spec.runAll run keepGoing specs := by
  unfold runVerify
  rw [h]
  rfl

end

end Project

end DocAudit
