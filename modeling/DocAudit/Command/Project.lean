import DocAudit.Coverage.Mapping
import DocAudit.Toml.Table
import DocAudit.Validation.RuleSet

/-!
# Projects

The files of a project, the current directory and the configuration that holds there.

## Contents

* `Config.locate?`, `Config.load`
* `Project`, `Project.discover`: the documents that a command is about
* `Project.check`: a document with what its rules find
-/

namespace DocAudit

open Text

namespace Config

/-- A directory and all above it, from the inside to the outside. -/
def upwards (names : List Text) : List (List Text) :=
  ((List.range (names.length + 1)).map fun n => names.take n).reverse

/-- The configuration file in a directory or in the next one above it that has one. -/
def locate? (t : FileTree) (cwd start : Path) : Outcome Path := do
  start.refuseNul
  let candidates := (upwards (cwd.join start).collapse.names).map fun names =>
    ({ root := ['/'], names := names ++ [configName] } : Path)
  match ← candidates.findM? (t.isFile? cwd) with
  | some path => return path
  | none => throw (.config .notFound)

/-- The configuration in a file. -/
def load (t : FileTree) (cwd : Path) (file : Option Path) : Outcome Config := do
  let path ← match file with
    | some p => do
      p.refuseNul
      pure (cwd.join p).collapse
    | none => locate? t cwd (Path.ofText [])
  match t.content? cwd path with
  | none => throw (.config (.unreadable path))
  | some bytes =>
    match Utf8.decode? bytes with
    | none => throw (.config .notText)
    | some text =>
      match Toml.readTable (normalizeBreaks text) with
      | .error .malformed => throw (.config (.unparsable path))
      | .error .numberTooLong => throw (.config .numberTooLong)
      | .error .tooDeep => throw (.config .tooDeep)
      | .ok table => (ofTable? path table).mapError .config

end Config

/-- A project: its files, the directory in which commands are given, and its configuration. -/
structure Project where
  tree : FileTree
  cwd : Path
  config : Config

namespace Project

/-- The files of the project, from the directory of its configuration. -/
def files (p : Project) : List Text := p.tree.walk p.config.dir.names

/-- A path without steps upwards, from the root of the file system. -/
def resolve (p : Project) (path : Path) : Path := (p.cwd.join path).collapse

/-- The documents at a path: a file, whatever it is, or the markdown files below a directory; of these
`everything`, or only those that can be mapped. -/
def documentsAt (p : Project) (everything : Bool) (path : Path) : Outcome (List Path) := do
  if !(← p.tree.exists? p.cwd path) then throw (.pathNotFound path)
  else if p.tree.isFile p.cwd path then return [p.resolve path]
  else return (((p.tree.markdownFiles p.cwd path).filter fun file =>
    everything || isMappedDoc file path).map p.resolve)

/-- The documents at some paths, without repetition and in order; without paths those of the project. -/
def discover (p : Project) (paths : List Path) (everything : Bool := false) : Outcome (List Path) := do
  let roots := if paths.isEmpty then [p.config.docsDir] else paths
  let found ← roots.mapM (p.documentsAt everything)
  return found.flatten.eraseDups.mergeSort Path.le

/-- The documents of the project; none when their directory does not exist. -/
def documents (p : Project) : Outcome (List Path) := do
  if ← p.tree.isDir? p.cwd p.config.docsDir then p.discover [] else return []

/-- The document in a file. -/
def read (p : Project) (path : Path) : Outcome Document := Document.ofFile? p.tree p.cwd path

/-- The kind of a document, and what is wrong with it. The rules have names, so their limit must be one
that can be written. -/
def check (p : Project) (path : Path) : Outcome (DocumentKind × List Diagnostic) := do
  let d ← p.read path
  p.config.docsDir.refuseNul
  let kind := DocumentKind.detect d (path.relativeText (p.resolve p.config.docsDir))
  if Decimal.isOverlong p.config.rules.maxLines then throw (.config .numberTooLong)
  return (kind, d.findings (Rule.set p.config.rules p.files kind))

/-- The mappings of the documents of the project. -/
def mappings (p : Project) : Outcome (List DocMapping) :=
  DocMapping.load p.tree p.cwd p.config.docsDir p.config.dir

/-- The result of an inquiry. -/
def ask {α : Type} (q : Inquiry α) : Outcome α := q.run.1.mapError .git

end Project

end DocAudit
