import DocAudit.Files.Path
import DocAudit.Text.Utf8

/-!
# File trees

The files and directories that a project consists of. A tree lists its entries by the names on the
way to them, from the root of the file system; a path is followed through directories that exist.

## Contents

* `FileTree`, `find?`, `isFile`, `isDir`
* `locate?`: following a path
* `isOverlong`: a path that the system refuses to follow
* `files`: the files below a directory
* `addDir`, `write`, `remove`
* `walk`, `markdownFiles`: the files of a project, and the markdown files
-/

namespace DocAudit

open Text

/-- What a name stands for. -/
inductive Entry
  | dir
  | file (content : List UInt8)
  /-- Another path in the place of this one. Only a shell follows it. -/
  | link (target : Text)
  deriving DecidableEq, Repr

/-- The entries of a file system by their names from its root. The root itself is not listed. -/
structure FileTree where
  entries : List (List Text × Entry) := []
  /-- Permissions that are not the usual ones. -/
  modes : List (List Text × Nat) := []
  deriving Repr, Inhabited

namespace FileTree

/-- The entry at the names. -/
def find? (t : FileTree) (names : List Text) : Option Entry :=
  if names.isEmpty then some .dir else t.entries.lookup names

/-- One step on the way of a path, from a directory. -/
def step (t : FileTree) (at? : Option (List Text)) (name : Text) : Option (List Text) :=
  match at? with
  | none => none
  | some names =>
    match t.find? names with
    | some .dir => some (if name = ['.', '.'] then names.dropLast else names ++ [name])
    | _ => none

/-- The names to which a path leads from the directory `cwd`, when the way exists. The last name need
not. -/
def locate? (t : FileTree) (cwd p : Path) : Option (List Text) :=
  (cwd.join p).names.foldl t.step (some [])

/-- The entry at a path. -/
def get? (t : FileTree) (cwd p : Path) : Option Entry := (t.locate? cwd p).bind t.find?

/-- There is something at the path. -/
def has (t : FileTree) (cwd p : Path) : Bool := (t.get? cwd p).isSome

/-- There is a directory at the path. -/
def isDir (t : FileTree) (cwd p : Path) : Bool := t.get? cwd p = some .dir

/-- The content of the file at the path. -/
def content? (t : FileTree) (cwd p : Path) : Option (List UInt8) :=
  match t.get? cwd p with
  | some (.file content) => some content
  | _ => none

/-- There is a file at the path. -/
def isFile (t : FileTree) (cwd p : Path) : Bool := (t.content? cwd p).isSome

/-- The greatest number of bytes in a name. -/
def nameLimit : Nat := 255

/-- The greatest number of bytes in a path. -/
def pathLimit : Nat := 4095

/-- A name has too many bytes. -/
def isOverlongName (name : Text) : Bool := nameLimit < (Utf8.encode name).length

/-- The path has too many bytes, or following it comes, in a directory, to a name that has too many. What
stands behind a name that does not exist is not looked at. -/
def isOverlong (t : FileTree) (cwd p : Path) : Bool :=
  let names := (cwd.join p).names
  pathLimit < (Utf8.encode p.text).length ||
    (names.any isOverlongName && (List.range names.length).any fun n =>
      (names[n]?).any isOverlongName && t.isDir cwd { root := ['/'], names := names.take n })

/-- The names of an entry below a directory, counted from the directory. -/
def below? (dir : List Text) (entry : List Text × Entry) : Option (List Text) :=
  if dir.isPrefixOf entry.1 && dir.length < entry.1.length then some (entry.1.drop dir.length)
  else none

/-- The files below a directory, each by its names from the directory. -/
def files (t : FileTree) (dir : List Text) : List (List Text) :=
  t.entries.filterMap fun entry => match entry.2 with
    | .file _ => below? dir entry
    | _ => none

/-- The tree with the entry at the names, instead of the one that was there. -/
def put (t : FileTree) (names : List Text) (entry : Entry) : FileTree :=
  { t with entries :=
      if t.entries.any (·.1 == names) then
        t.entries.map fun e => if e.1 == names then (names, entry) else e
      else t.entries ++ [(names, entry)] }

/-- The tree with all the directories on the way to the names, unless a file is in the way. -/
def addDir (t : FileTree) (names : List Text) : Option FileTree :=
  (List.range (names.length + 1)).foldlM (fun t n =>
    match t.find? (names.take n) with
    | none => some (t.put (names.take n) .dir)
    | some .dir => some t
    | some _ => none) t

/-- The tree with the file at the names, in a directory that exists, unless a directory is there. -/
def write (t : FileTree) (names : List Text) (content : List UInt8) : Option FileTree :=
  match t.find? names.dropLast, t.find? names with
  | some .dir, none => some (t.put names (.file content))
  | some .dir, some (.file _) => some (t.put names (.file content))
  | _, _ => none

/-- The tree without the entry at the names and everything below it. -/
def remove (t : FileTree) (names : List Text) : FileTree where
  entries := t.entries.filter fun e => !names.isPrefixOf e.1
  modes := t.modes.filter fun e => !names.isPrefixOf e.1

end FileTree

/-! ## Walks

The files below a directory: all of the project, without build output and hidden directories, and the
markdown files, wherever they are. -/

/-- Directories that hold nothing of the project itself. -/
def skippedDirs : List Text :=
  ["target".toList, "node_modules".toList, "dist".toList, "build".toList, "__pycache__".toList,
    ".git".toList]

/-- A directory that a walk does not enter. -/
def isSkippedDir (name : Text) : Bool := skippedDirs.contains name || ['.'].isPrefixOf name

/-- A file that a walk comes to, by its names from the directory where it starts. -/
def isWalked (names : List Text) : Bool := !names.dropLast.any isSkippedDir

namespace FileTree

/-- The files that a walk from the directory comes to, in the order of their texts. -/
def walk (t : FileTree) (dir : List Text) : List Text :=
  (((t.files dir).filter isWalked).map (joinWith ['/'])).mergeSort le

/-- A name of markdown files. -/
def isMarkdownName (name : Text) : Bool := ".md".toList.isSuffixOf name

/-- The markdown files that a path stands for: itself, or all below it, in the order of paths. -/
def markdownFiles (t : FileTree) (cwd path : Path) : List Path :=
  match t.locate? cwd path with
  | none => []
  | some names =>
    match t.find? names with
    | some (.file _) => if path.suffix == ".md".toList then [path] else []
    | some .dir =>
      (((t.files names).filter fun below => isMarkdownName (below.getLastD [])).map fun below =>
        path.join { root := [], names := below }).mergeSort Path.le
    | _ => []

end FileTree

end DocAudit
