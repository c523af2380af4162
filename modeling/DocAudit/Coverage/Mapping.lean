import DocAudit.Failure
import DocAudit.Files.Tree
import DocAudit.Glob.Match
import DocAudit.Markdown.Document

/-!
# Code and mappings

Which files are code, and which code a document is about: the patterns that it lists.

## Contents

* `isCodeFile`, `FileFilter.passes`: the code that is looked at
* `suggestedDoc?`: the document that would be about a file
* `DocMapping`, `DocMapping.load`
* `isMappedDoc`: the documents that are asked
* `ImpactedDoc`, `impactedDocs`: the documents that a change is about
-/

namespace DocAudit

open Text

/-! ## Code files -/

/-- The endings of code files. -/
def codeEndings : List Text :=
  ["rs", "py", "js", "ts", "jsx", "tsx", "go", "java", "c", "cpp", "h", "hpp", "rb", "php", "swift", "kt",
    "scala", "sh", "bash", "zsh", "pl", "pm", "lua", "ex", "exs", "erl", "hrl", "hs", "ml", "mli", "fs",
    "fsi", "clj", "cljs", "lisp", "el", "vim", "sql"].map String.toList

/-- The path is that of a code file. -/
def isCodeFile (path : Text) : Bool :=
  match (Path.ofText path).suffix with
  | [] => false
  | _ :: ending => codeEndings.contains ending

/-- Which files are looked at: those that an included pattern covers, when
there are any, and no excluded one. -/
structure FileFilter where
  included : List Text := []
  excluded : List Text := []
  deriving DecidableEq, Repr

/-- The file is looked at. -/
def FileFilter.passes (f : FileFilter) (path : Text) : Bool :=
  !PathPattern.anyCovers path f.excluded &&
    (f.included.isEmpty || PathPattern.anyCovers path f.included)

/-- The directory of a file. -/
def parentDir (path : Text) : Text := (Path.ofText path).parent.text

/-- The document about a directory of the given name. -/
def componentDoc (name : Text) : Text := "docs/components/".toList ++ name ++ ".md".toList

/-- The document that would be about a file, when the file is in a directory. -/
def suggestedDoc? (path : Text) : Option Text :=
  let name := (Path.ofText path).parent.name
  if name.isEmpty then none else some (componentDoc name)

/-! ## Mappings -/

/-- A document and its patterns. -/
structure DocMapping where
  doc : Text
  title : Option Text := none
  patterns : List Text
  deriving DecidableEq, Repr, Inhabited

/-- Below one of these directories there are templates, not documents. -/
def isTemplateDir (name : Text) : Bool := name == "templates".toList

/-- A document that can be mapped and checked: no index and no template. -/
def isMappedDoc (path docsDir : Path) : Bool :=
  path.name != "index.md".toList &&
    !(((path.relativeTo? docsDir).getD path).components.dropLast.any isTemplateDir)

namespace DocMapping

/-- The mapping of a document in a project, when the document lists patterns. -/
def ofDocument? (projectRoot : Path) (d : Document) : Option DocMapping :=
  let patterns := d.patterns.map (·.2)
  if patterns.isEmpty then none
  else some { doc := d.path.relativeText projectRoot, title := d.title, patterns }

/-- The mappings of all documents below a directory. -/
def load (t : FileTree) (cwd docsDir projectRoot : Path) : Outcome (List DocMapping) := do
  if !(← t.isDir? cwd docsDir) then return []
  let paths := (t.markdownFiles cwd docsDir).filter (isMappedDoc · docsDir)
  let docs ← paths.mapM (Document.ofFile? t cwd)
  return docs.filterMap (ofDocument? projectRoot)

end DocMapping

/-- A document that a change is about. -/
structure ImpactedDoc where
  doc : Text
  title : Option Text
  matched : List Text
  updated : Bool
  deriving DecidableEq, Repr

/-- The documents that the changed files are about, and whether they were changed too. -/
def impactedDocs (mappings : List DocMapping) (changed : List Text) : List ImpactedDoc :=
  mappings.filterMap fun m =>
    let matched := changed.filter (PathPattern.anyCovers · m.patterns)
    if matched.isEmpty then none
    else some { doc := m.doc, title := m.title, matched, updated := changed.contains m.doc }

end DocAudit
