import DocAudit.Markdown.Document

/-!
# Verification specs

The commands by which a document verifies itself: one item for each executable block of its
verification section.

## Contents

* `Item`, `Spec`
* `CodeBlock.commands`: the command lines of a block
* `Document.spec?`
-/

namespace DocAudit

open Text

/-- A command to be run and what is expected of it. The time that it may take is in milliseconds. -/
structure Item where
  command : Text
  workingDir : Option Text := none
  expectedExit : Int := 0
  expected : Option ExpectedOutput := none
  timeout : Int := 30000
  env : List (Text × Text) := []
  deriving DecidableEq, Repr, Inhabited

/-- The items of a document. -/
structure Spec where
  file : Path
  line : Nat
  items : List Item
  deriving DecidableEq, Repr, Inhabited

/-- The command in a line: nothing for a blank line, for a comment and for a prompt alone. -/
def commandIn? (line : Text) : Option Text :=
  let trimmed := strip line
  if trimmed.isEmpty || ['#'].isPrefixOf trimmed then none
  else
    let command := if isPrompted trimmed then strip (trimmed.drop 2) else trimmed
    if command.isEmpty then none else some command

/-- The command lines of a block. Where there are prompts, what is no command is output. -/
def CodeBlock.commands (b : CodeBlock) : List Text :=
  (if b.hasPrompts then (Transcript.ofLines b.body).commands else b.body).filterMap commandIn?

/-- The item of a block, when there is a command in it. -/
def Item.ofBlock? (d : Document) (timeout : Int) (b : CodeBlock) : Option Item :=
  let command := joinWith " && ".toList b.commands
  if command.isEmpty then none
  else some { command, workingDir := b.workingDir.or d.workingDir, expected := b.expected, timeout,
              env := b.env }

/-- The name of the section that verifies. -/
def verificationSection : Text := "Verification".toList

/-- How a document verifies itself, when it does. -/
def Document.spec? (d : Document) (timeout : Int) : Option Spec :=
  match d.find? verificationSection with
  | none => none
  | some s =>
    let items := s.executableBlocks.filterMap (Item.ofBlock? d timeout)
    if items.isEmpty then none else some { file := d.path, line := s.startLine, items }

end DocAudit
