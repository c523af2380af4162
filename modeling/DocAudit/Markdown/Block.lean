import DocAudit.Markdown.Directive
import DocAudit.Markdown.Fence
import DocAudit.Text.Blank
import DocAudit.Text.Case

/-!
# Code blocks

The fenced blocks among the lines of a section. Directives before a fence belong to its block; a block
that is declared as expected output is not a block of its own, but goes to the block before it. The lines of a
block may show a session: commands after a prompt, and their output.

## Contents

* `isPrompted`, `Transcript.ofLines`, `Transcript.output?`: the session that lines show
* `Annotations`: the directives gathered before a fence
* `RawBlock`, `RawBlock.scan`: the fenced blocks with their directives, in one pass
* `CodeBlock`, `CodeBlock.attach`: the blocks of a section
-/

namespace DocAudit

open Text

/-! ## Transcripts -/

/-- The line starts with a prompt, `$` or `>`, and a space. -/
def isPrompted (line : Text) : Bool :=
  startsWithAny [['$', ' '], ['>', ' ']] (strip line)

/-- A block read as a session: its command lines and its output lines, both as written. -/
structure Transcript where
  commands : List Text
  output : List Text
  deriving DecidableEq, Repr

namespace Transcript

/-- The lines after a first prompt. `started` tells whether there was output already: blank lines and
comments before it are skipped. -/
def afterPrompt (started : Bool) : List Text → Transcript
  | [] => ⟨[], []⟩
  | line :: rest =>
    if isPrompted line then
      let t := afterPrompt started rest
      { t with commands := line :: t.commands }
    else if !started && (isBlankText line || ['#'].isPrefixOf (strip line)) then
      afterPrompt started rest
    else
      let t := afterPrompt true rest
      { t with output := line :: t.output }

/-- The session that the lines show. What stands before the first prompt is a command. -/
def ofLines : List Text → Transcript
  | [] => ⟨[], []⟩
  | line :: rest =>
    let t := if isPrompted line then afterPrompt false rest else ofLines rest
    { t with commands := line :: t.commands }

/-- The output as one text, when it is more than white space. -/
def output? (t : Transcript) : Option Text :=
  let text := joinWith ['\n'] t.output
  if isBlankText text then none else some text

end Transcript

/-! ## Blocks -/

/-- The directives before a fence. -/
structure Annotations where
  run : Bool := false
  expect : Option OutputStrategy := none
  workingDir : Option Text := none
  env : List (Text × Text) := []
  deriving DecidableEq, Repr, Inhabited

namespace Annotations

/-- No directives. -/
def none : Annotations := {}

/-- The directives with one more behind them. -/
def add (a : Annotations) : Directive → Annotations
  | .run => { a with run := true }
  | .expect strategy => { a with expect := some strategy }
  | .workingDir dir => { a with workingDir := some dir }
  | .env name value => { a with env := a.env ++ [(name, value)] }

/-- The directives after one more line outside of fences: blank lines change nothing, and a line that
is neither blank nor a directive drops all directives before it. -/
def afterLine (a : Annotations) (line : Text) : Annotations :=
  match Directive.ofLine? line with
  | some d => a.add d
  | Option.none => if isBlankText line then a else none

end Annotations

/-- A fenced block as it stands: its language, its lines, the number of its opening line, and the
directives before it. -/
structure RawBlock where
  language : Text
  body : List Text
  startLine : Nat
  annotations : Annotations
  deriving DecidableEq, Repr, Inhabited

namespace RawBlock

/-- The fenced blocks of the lines, the first of which has the number `n`. Before them, when a fence
is open, the lines up to its end. -/
def scan (fence : Option Fence) (pending : Annotations) (n : Nat) :
    List Text → List Text × List RawBlock
  | [] => ([], [])
  | line :: rest =>
    match fence with
    | some f =>
      if f.closes line then ([], (scan none Annotations.none (n + 1) rest).2)
      else
        let (body, blocks) := scan (some f) pending (n + 1) rest
        (line :: body, blocks)
    | none =>
      match Fence.opening? line with
      | some f =>
        let (body, blocks) := scan (some f) Annotations.none (n + 1) rest
        ([], { language := (words f.info).headD [], body, startLine := n, annotations := pending }
          :: blocks)
      | none => ([], (scan none (pending.afterLine line) (n + 1) rest).2)

end RawBlock

/-- Output that a run is compared with. -/
structure ExpectedOutput where
  strategy : OutputStrategy
  content : Text
  deriving DecidableEq, Repr

/-- A code block of a section. -/
structure CodeBlock where
  language : Text
  body : List Text
  startLine : Nat
  executable : Bool
  workingDir : Option Text := none
  env : List (Text × Text) := []
  expected : Option ExpectedOutput := none
  deriving DecidableEq, Repr, Inhabited

/-- The languages of blocks that a shell can run. -/
def shellLanguages : List Text :=
  ["bash".toList, "sh".toList, "shell".toList, "zsh".toList]

namespace CodeBlock

/-- The lines of the block in one text. -/
def content (b : CodeBlock) : Text := joinWith ['\n'] b.body

/-- Some line of the block starts with a prompt. -/
def hasPrompts (b : CodeBlock) : Bool := b.body.any isPrompted

/-- A block is run when a directive says so, when its language is that of a shell, and without a
language when its first line that is not blank starts with a prompt. -/
def isExecutable (raw : RawBlock) : Bool :=
  raw.annotations.run || shellLanguages.contains (lower raw.language) ||
    (raw.language.isEmpty &&
      match raw.body.dropWhile isBlankText with
      | [] => false
      | line :: _ => ['$', ' '].isPrefixOf (stripStart line))

/-- The code block of a fenced block. What is run and shows its own output is expected to give it. -/
def ofRaw (raw : RawBlock) : CodeBlock where
  language := raw.language
  body := raw.body
  startLine := raw.startLine
  executable := isExecutable raw
  workingDir := raw.annotations.workingDir
  env := raw.annotations.env
  expected :=
    if isExecutable raw then
      (Transcript.ofLines raw.body).output?.map fun content => { strategy := .contains, content }
    else none

/-- The block, expecting the given output when it is run and expects none so far. -/
def expecting (b : CodeBlock) (output : ExpectedOutput) : CodeBlock :=
  if b.executable && b.expected.isNone then { b with expected := some output } else b

/-- The blocks, the last one first, after one more fenced block: expected output goes to the last
block, everything else is a block of its own. -/
def attachOne (blocks : List CodeBlock) (raw : RawBlock) : List CodeBlock :=
  match raw.annotations.expect with
  | none => ofRaw raw :: blocks
  | some strategy =>
    match blocks with
    | [] => []
    | b :: rest => b.expecting { strategy, content := joinWith ['\n'] raw.body } :: rest

/-- The blocks of a section. -/
def attach (raws : List RawBlock) : List CodeBlock := (raws.foldl attachOne []).reverse

end CodeBlock

end DocAudit
