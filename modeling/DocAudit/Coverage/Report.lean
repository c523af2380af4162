import DocAudit.Coverage.Mapping

/-!
# Coverage

Which code files are covered by the patterns of a document and which are not, by directory, and what
could be written next.

## Contents

* `partitionCovered`
* `DirectoryCoverage`, `Suggestion`, `CoverageReport`
* `CoverageReport.analyze`, `CoverageReport.ofProject`
* `NewCodeReport`: the same for new files
-/

namespace DocAudit

open Text

/-- The files that some mapping covers, and the others. -/
def partitionCovered (mappings : List DocMapping) (files : List Text) : List Text × List Text :=
  files.partition fun file => PathPattern.anyCovers file (mappings.flatMap (·.patterns))

/-- A part of a whole in percent; the whole of nothing is full. -/
def percentage (part whole : Nat) : Float :=
  if whole = 0 then 100.0 else (part.toFloat / whole.toFloat) * 100.0

/-- The files of one directory. -/
structure DirectoryCoverage where
  path : Text
  covered : Nat
  total : Nat
  deriving DecidableEq, Repr

/-- How much of the directory is covered. -/
def DirectoryCoverage.percentage (d : DirectoryCoverage) : Float := DocAudit.percentage d.covered d.total

/-- A document that could be written. -/
structure Suggestion where
  directory : Text
  doc : Text
  files : List Text
  deriving DecidableEq, Repr

/-- What to do. -/
def Suggestion.description (s : Suggestion) : Text :=
  "Create ".toList ++ s.doc ++ " covering ".toList ++ s.directory ++ ['/']

/-- The covered and the uncovered files, both in the order in which they were found. -/
structure CoverageReport where
  covered : List Text
  uncovered : List Text
  directories : List DirectoryCoverage
  suggestions : List Suggestion
  deriving DecidableEq, Repr

namespace CoverageReport

/-- How many files there are. -/
def total (r : CoverageReport) : Nat := r.covered.length + r.uncovered.length

/-- How much of the code is covered. -/
def percentage (r : CoverageReport) : Float := DocAudit.percentage r.covered.length r.total

/-- The directories of files, in order and without repetition. -/
def directoriesOf (files : List Text) : List Text := ((files.map parentDir).eraseDups).mergeSort le

/-- The number of files in a directory. -/
def countIn (directory : Text) (files : List Text) : Nat := files.countP (parentDir · == directory)

/-- The coverage of each directory. -/
def byDirectory (covered uncovered : List Text) : List DirectoryCoverage :=
  (directoriesOf (covered ++ uncovered)).map fun path =>
    { path, covered := countIn path covered, total := countIn path (covered ++ uncovered) }

/-- The greatest number of suggestions. -/
def suggestionLimit : Nat := 5

/-- The suggestion for a directory with uncovered files. -/
def suggestionFor (uncovered : List Text) (directory : Text) : Suggestion where
  directory
  doc :=
    let name := (Path.ofText directory).name
    componentDoc (if name.isEmpty then "root".toList else name)
  files := uncovered.filter (parentDir · == directory)

/-- Suggestions with more files come first; of those with as many, in the order of directories. -/
def precedes (a b : Suggestion) : Bool :=
  b.files.length < a.files.length || (a.files.length == b.files.length && le a.directory b.directory)

/-- What could be written for directories with two uncovered files or more. -/
def suggest (uncovered : List Text) : List Suggestion :=
  ((((directoriesOf uncovered).map (suggestionFor uncovered)).filter
    fun s => 2 ≤ s.files.length).mergeSort precedes).take suggestionLimit

/-- The report on code files. -/
def analyze (mappings : List DocMapping) (files : List Text) : CoverageReport :=
  let (covered, uncovered) := partitionCovered mappings files
  { covered, uncovered, directories := byDirectory covered uncovered, suggestions := suggest uncovered }

/-- The code files of a project that are looked at. -/
def codeFiles (t : FileTree) (root : List Text) (f : FileFilter) : List Text :=
  (t.walk root).filter fun file => isCodeFile file && f.passes file

/-- The report on a project. -/
def ofProject (t : FileTree) (root : List Text) (mappings : List DocMapping) (f : FileFilter) :
    CoverageReport :=
  analyze mappings (codeFiles t root f)

end CoverageReport

/-- New files, the code among them that is looked at, and how it is covered. -/
structure NewCodeReport where
  newFiles : List Text
  codeFiles : List Text
  covered : List Text
  uncovered : List Text
  deriving DecidableEq, Repr

/-- The report on new files. -/
def NewCodeReport.analyze (mappings : List DocMapping) (added : List Text) (f : FileFilter) :
    NewCodeReport :=
  let codeFiles := added.filter fun file => isCodeFile file && f.passes file
  let (covered, uncovered) := partitionCovered mappings codeFiles
  { newFiles := added, codeFiles, covered, uncovered }

end DocAudit
