import DocAudit.Text.Blank
import DocAudit.Text.Lines

/-!
# Changes

Which files changed since a base revision, asked of git. Git itself is a function that answers a list
of arguments; every question that was asked is recorded.

## Contents

* `Git`, `GitAnswer`, `GitFault`
* `Inquiry`: a computation that asks git questions
* `baseRef`, `changedFiles`, `addedFiles`
-/

namespace DocAudit

open Text

/-- What git answers. -/
structure GitAnswer where
  code : Int := 0
  stdout : Text := []
  stderr : Text := []
  deriving DecidableEq, Repr, Inhabited

/-- Git: its answer to a list of arguments, or the reason why it could not be run. -/
abbrev Git := List Text → Except Text GitAnswer

/-- Why git gave no usable answer. -/
inductive GitFault
  | notRun (reason : Text)
  | noBase
  | diffFailed (output : Text)
  deriving DecidableEq, Repr

/-- The revisions that are tried when no base is given. -/
def baseCandidates : List Text := ["origin/main".toList, "origin/master".toList, "HEAD~1".toList]

/-- The wording of a fault. -/
def GitFault.message : GitFault → Text
  | .notRun reason => "failed to run git: ".toList ++ reason
  | .noBase =>
    "could not determine a base ref (tried ".toList ++ joinWith [',', ' '] baseCandidates ++
      "); pass --base explicitly".toList
  | .diffFailed output => "git diff failed: ".toList ++ strip output

/-- A computation that asks git. The state holds the questions so far, also after a fault. -/
abbrev Inquiry := ExceptT GitFault (StateM (List (List Text)))

namespace Inquiry

/-- The result of an inquiry and the questions that it asked. -/
def run {α : Type} (q : Inquiry α) : Except GitFault α × List (List Text) := StateT.run (ExceptT.run q) []

/-- One question. -/
def ask (git : Git) (args : List Text) : Inquiry GitAnswer := do
  modify (· ++ [args])
  match git args with
  | .ok answer => return answer
  | .error reason => throw (.notRun reason)

/-- The revision exists. -/
def refExists (git : Git) (ref : Text) : Inquiry Bool := do
  let answer ← ask git ["rev-parse".toList, "--verify".toList, "--quiet".toList, ref]
  return answer.code == 0

/-- The first of the candidates that exists. -/
def firstRef (git : Git) : List Text → Inquiry Text
  | [] => throw .noBase
  | candidate :: rest => do
    if ← refExists git candidate then return candidate else firstRef git rest

/-- The base revision: the given one, when it is not empty, else the first candidate that exists. -/
def baseRef (git : Git) (base : Option Text) : Inquiry Text :=
  match base.filter (!·.isEmpty) with
  | some ref => return ref
  | none => firstRef git baseCandidates

/-- The names that an answer lists, one on each line. -/
def namesIn (stdout : Text) : List Text := ((lines stdout).map strip).filter (!·.isEmpty)

/-- The files that differ from the base: those of the commits since then, and where there are no such
commits those of the working tree. -/
def diff (git : Git) (options : List Text) (base : Text) : Inquiry (List Text) := do
  let asked (range : Text) := ["diff".toList, "--name-only".toList] ++ options ++ [range]
  let answer ← ask git (asked (base ++ "..HEAD".toList))
  if answer.code == 0 then return namesIn answer.stdout
  let answer ← ask git (asked base)
  if answer.code == 0 then return namesIn answer.stdout
  throw (.diffFailed answer.stderr)

/-- The files that changed since the base. -/
def changedFiles (git : Git) (base : Text) : Inquiry (List Text) := diff git [] base

/-- The files that were added since the base. -/
def addedFiles (git : Git) (base : Text) : Inquiry (List Text) :=
  diff git ["--diff-filter=A".toList] base

end Inquiry

end DocAudit
