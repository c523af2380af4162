import DocAudit.Files.Path
import DocAudit.Markdown.Block
import DocAudit.Markdown.Frontmatter
import DocAudit.Text.Lines

/-!
# Documents

A markdown text as a document: frontmatter, title, and the sections under its headings of the second
level. Fenced lines are never headings.

## Contents

* `Section`, `Document`
* `Document.outline`: the lines before the first heading, and every heading with the lines under it
* `Document.read`, and `Document.find?`, which looks for a section without regard to case
* `Document.patterns`: the patterns of the files that the document is about
-/

namespace DocAudit

open Text

/-- A section: its name, the number of its heading line, and the lines under it. -/
structure Section where
  name : Text
  startLine : Nat
  body : List Text
  deriving DecidableEq, Repr, Inhabited

/-- What commands in a section begin with. -/
def commandStarts : List Text :=
  ["$ ".toList, "make ".toList, "npm ".toList, "cargo ".toList, "pave ".toList, "git ".toList,
    "docker ".toList, "kubectl ".toList]

namespace Section

/-- The lines under the heading in one text. -/
def content (s : Section) : Text := joinWith ['\n'] s.body

/-- The code blocks of the section. -/
def blocks (s : Section) : List CodeBlock :=
  CodeBlock.attach (RawBlock.scan none Annotations.none (s.startLine + 1) s.body).2

/-- The blocks of the section that are run. -/
def executableBlocks (s : Section) : List CodeBlock := s.blocks.filter (·.executable)

/-- Some line looks like a command. -/
def hasCommands (s : Section) : Bool :=
  s.body.any fun line => startsWithAny commandStarts (strip line)

end Section

/-- A document. -/
structure Document where
  path : Path
  title : Option Text
  sections : List Section
  lineCount : Nat
  frontmatter : Option Record
  deriving Repr, Inhabited

namespace Document

/-- The name in a heading of the second level. -/
def heading? (line : Text) : Option Text :=
  let trimmed := strip line
  if ['#', '#', ' '].isPrefixOf trimmed then some (strip (trimmed.drop 3)) else none

/-- The text in a heading of the first level. -/
def title? (line : Text) : Option Text :=
  let trimmed := strip line
  if ['#', ' '].isPrefixOf trimmed then some (strip (trimmed.drop 2)) else none

/-- The lines before the first heading outside of fences, and the sections from there on. The first
line has the number `n`, and `fence` is open before it. -/
def outline (fence : Option Fence) (n : Nat) : List Text → List Text × List Section
  | [] => ([], [])
  | line :: rest =>
    let (next, isFence) := Fence.step fence line
    let (body, sections) := outline next (n + 1) rest
    match if fence.isSome || isFence then none else heading? line with
    | some name => ([], { name, startLine := n, body } :: sections)
    | none => (line :: body, sections)

/-- The first title outside of fences. -/
def firstTitle? (fence : Option Fence) : List Text → Option Text
  | [] => none
  | line :: rest =>
    let (next, isFence) := Fence.step fence line
    match if fence.isSome || isFence then none else title? line with
    | some title => some title
    | none => firstTitle? next rest

/-- The document that a text holds. Only a faulty value in the frontmatter stands against it. -/
def read (path : Path) (text : Text) : Yaml.Outcome Document := do
  let ls := lines text
  let (inner, start) := Frontmatter.split ls
  let frontmatter ← inner.mapM Frontmatter.read
  let body := ls.drop start
  return { path, title := firstTitle? none body, sections := (outline none (start + 1) body).2,
           lineCount := ls.length, frontmatter }

/-- The first section of the name, without regard to case. -/
def find? (d : Document) (name : Text) : Option Section :=
  d.sections.find? fun s => fold s.name == fold name

/-- The directory in which the commands of the document run, when the frontmatter names one. -/
def workingDir (d : Document) : Option Text :=
  match d.frontmatter with
  | none => none
  | some record =>
    let nonempty (name : String) : Option Text :=
      (record.get? name.toList).filter (!·.isEmpty)
    (nonempty "working_dir").or (nonempty "pave.working_dir")

end Document

/-! ## Path patterns

The section `Paths` of a document lists the patterns of the files that the document is about, one in
each bullet item. Fenced lines are not items. -/

/-- The name of the section that lists patterns. -/
def pathsSection : Text := "Paths".toList

/-- The pattern in a bullet item: what follows the bullet, without the backticks around it. -/
def bulletPattern? (line : Text) : Option Text :=
  let trimmed := strip line
  if startsWithAny [['-', ' '], ['*', ' ']] trimmed then
    let item := strip (trim (· == '`') (strip (trimmed.drop 2)))
    if item.isEmpty then none else some item
  else none

/-- The patterns of lines of which the first has the number `n`, each with its line. -/
def bulletPatterns (fence : Option Fence) (n : Nat) : List Text → List (Nat × Text)
  | [] => []
  | line :: rest =>
    let (next, isFence) := Fence.step fence line
    match if fence.isSome || isFence then none else bulletPattern? line with
    | some pattern => (n, pattern) :: bulletPatterns next (n + 1) rest
    | none => bulletPatterns next (n + 1) rest

/-- The patterns of a section, each with its line. -/
def Section.patterns (s : Section) : List (Nat × Text) :=
  bulletPatterns none (s.startLine + 1) s.body

/-- The patterns that a document lists, each with its line. -/
def Document.patterns (d : Document) : List (Nat × Text) :=
  match d.find? pathsSection with
  | none => []
  | some s => s.patterns

end DocAudit
