import DocAudit.Config.Options
import DocAudit.History.Changes
import DocAudit.Markdown.Document
import DocAudit.Files.Tree
import DocAudit.Regex.Reader

/-!
# Failures

What keeps a command from giving a result. Most failures are reported in words; some are faults of a
single value, for which there are no words.

## Contents

* `Failure`, `Failure.message?`, `Outcome`, `Work`
* `Path.refuseNul`, `FileTree.exists?`, `FileTree.isDir?`, `FileTree.isFile?`: questions about a path
* `Document.ofFile?`: the document in a file
-/

namespace DocAudit

open Text

/-- Why the system cannot even try to start a command, or to wait for it. -/
inductive StartFault
  /-- A name of a variable has an equals sign in it. -/
  | nameWithEquals
  /-- The command, its directory or a variable has a zero character in it. -/
  | zeroCharacter
  /-- The time to wait is too long to be counted. -/
  | timeTooLong
  deriving DecidableEq, Repr

/-- Why a command gives no result. -/
inductive Failure
  /-- The configuration cannot be used. -/
  | config (fault : ConfigFault)
  /-- A check of that name was asked for. -/
  | unknownRule (name : Text)
  /-- A document cannot be read. -/
  | unreadable (path : Path)
  /-- A document is no text. -/
  | notText (path : Path)
  /-- A value in the frontmatter of a document is at fault. -/
  | frontmatter (fault : Yaml.Fault)
  /-- Git gave no answer. -/
  | git (fault : GitFault)
  /-- The system refuses to follow a path, because a name in it is too long. -/
  | nameTooLong (path : Path)
  /-- A path has a zero character in it. -/
  | nulInPath (path : Path)
  /-- A path leads nowhere. -/
  | pathNotFound (path : Path)
  /-- The time for a command is not positive. -/
  | timeoutNotPositive
  /-- A command of a document cannot be started. -/
  | command (fault : StartFault)
  /-- The expression that is expected in an output cannot be read, for another reason than being none. -/
  | expression (fault : Regex.Fault)
  /-- The report cannot be written. -/
  | reportNotWritten (path : Path)
  deriving DecidableEq, Repr

/-- A result, or the reason for having none. -/
abbrev Outcome := Except Failure

/-- Work in a world that it may change. What it changed stays when it fails. -/
abbrev Work (σ : Type) := ExceptT Failure (StateM σ)

namespace Failure

/-- The wording of a failure that is reported. -/
def message? : Failure → Option Text
  | .config fault => fault.message?
  | .unknownRule name => some ("Unknown lint rule: ".toList ++ name)
  | .unreadable path => some ("failed to read ".toList ++ path.text)
  | .notText path => some (path.text ++ " is not valid UTF-8".toList)
  | .git fault => some fault.message
  | .pathNotFound path => some ("path not found: ".toList ++ path.text)
  | .timeoutNotPositive => some "timeout must be greater than 0".toList
  | .reportNotWritten path => some ("failed to write report ".toList ++ path.text)
  | .frontmatter _ => none
  | .nameTooLong _ => none
  | .command _ => none
  | .expression _ => none
  | .nulInPath _ => none

end Failure

/-- Fails for a path with a zero character in it. -/
def Path.refuseNul (p : Path) : Outcome Unit :=
  if p.names.any (·.contains '\x00') then .error (.nulInPath p) else .ok ()

namespace FileTree

/-- The answer about a path, unless the system refuses to follow it. -/
def unlessOverlong (t : FileTree) (cwd p : Path) (answer : Bool) : Outcome Bool :=
  if t.isOverlong cwd p then .error (.nameTooLong p) else .ok answer

/-- Whether there is something at the path. -/
def exists? (t : FileTree) (cwd p : Path) : Outcome Bool := t.unlessOverlong cwd p (t.has cwd p)

/-- Whether there is a directory at the path. -/
def isDir? (t : FileTree) (cwd p : Path) : Outcome Bool := t.unlessOverlong cwd p (t.isDir cwd p)

/-- Whether there is a file at the path. -/
def isFile? (t : FileTree) (cwd p : Path) : Outcome Bool := t.unlessOverlong cwd p (t.isFile cwd p)

end FileTree

namespace Document

/-- The document in a file of the tree. -/
def ofFile? (t : FileTree) (cwd path : Path) : Outcome Document := do
  path.refuseNul
  match t.content? cwd path with
  | none => throw (.unreadable path)
  | some bytes =>
    match Utf8.decode? bytes with
    | none => throw (.notText path)
    | some text => (read path text).mapError .frontmatter

end Document

end DocAudit
