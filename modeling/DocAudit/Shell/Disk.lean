import DocAudit.Files.Tree
import DocAudit.Shell.Raw

/-!
# Files as a shell sees them

Paths are followed from directory to directory and through links. Besides the files of a project there are
the directories of the system, its devices, and its programs.

## Contents

* `FileFault`: why something cannot be done with a path
* `Node`, `node?`: what is at a place
* `follow`, `find`, `stat`: where a path leads
* `mode`: permissions
* `add`, `setContent`, `erase`, `move`: other trees

## Termination

A path is followed name by name; a link puts its own names in front of those that are left, and a number
bounds how often.
-/

namespace DocAudit.Shell

open Text

/-- Why something cannot be done with a path or with an open file. -/
inductive FileFault
  | noEntry
  | notDir
  | isDir
  | exists
  | notEmpty
  | tooManyLinks
  | nameTooLong
  | denied
  | invalid
  | busy
  | badDescriptor
  | noSpace
  | brokenPipe
  | notPermitted
  deriving DecidableEq, Repr

/-- The wording of a fault. -/
def FileFault.message (f : FileFault) : Raw :=
  raw (match f with
    | .noEntry => "No such file or directory"
    | .notDir => "Not a directory"
    | .isDir => "Is a directory"
    | .exists => "File exists"
    | .notEmpty => "Directory not empty"
    | .tooManyLinks => "Too many levels of symbolic links"
    | .nameTooLong => "File name too long"
    | .denied => "Permission denied"
    | .invalid => "Invalid argument"
    | .busy => "Device or resource busy"
    | .badDescriptor => "Bad file descriptor"
    | .noSpace => "No space left on device"
    | .brokenPipe => "Broken pipe"
    | .notPermitted => "Operation not permitted")

/-- Something that is no file but is read or written like one. -/
inductive Device
  | null
  | zero
  | full
  | terminal
  /-- The open file of a number. -/
  | stream (number : Nat)
  deriving DecidableEq, Repr

/-- What is at a place. -/
inductive Node
  | dir
  | file (content : Raw)
  | link (target : Raw)
  | device (d : Device)
  | program
  deriving DecidableEq, Repr

/-- The names of the programs that every system has. -/
def programNames : List String :=
  ["[", "arch", "awk", "b2sum", "base32", "base64", "basename", "cat", "chmod", "cksum", "cmp", "comm",
    "cp", "cut", "dash", "date", "dd", "diff", "dirname", "du", "echo", "egrep", "env", "expand", "expr",
    "factor", "false", "fgrep", "find", "fmt", "fold", "getopt", "grep", "groups", "head", "hostname", "id",
    "install", "join", "kill", "link", "ln", "logname", "ls", "mawk", "md5sum", "mkdir", "mkfifo", "mktemp",
    "mv", "nl", "nice", "nohup", "nproc", "numfmt", "od", "paste", "pathchk", "perl", "pr", "printenv",
    "printf", "pwd", "readlink", "realpath", "rev", "rm", "rmdir", "sed", "seq", "setsid", "sh", "sha1sum",
    "sha224sum", "sha256sum", "sha384sum", "sha512sum", "shuf", "sleep", "sort", "split", "stat", "stty",
    "sum", "sync", "tac", "tail", "tar", "tee", "test", "timeout", "touch", "tr", "true", "truncate",
    "tsort", "tty", "uname", "unexpand", "uniq", "unlink", "wc", "which", "who", "whoami", "xargs", "yes",
    "bash", "python3"]

/-- The directories that every system has. -/
def systemDirs : List (List Text) :=
  [["usr"], ["usr", "bin"], ["usr", "sbin"], ["usr", "lib"], ["usr", "share"], ["usr", "local"],
    ["usr", "local", "bin"], ["usr", "local", "sbin"], ["etc"], ["home"], ["root"], ["tmp"], ["var"],
    ["var", "tmp"], ["opt"], ["proc"], ["sys"], ["mnt"], ["srv"], ["run"], ["dev"], ["dev", "fd"],
    ["media"]].map fun names => names.map String.toList

/-- What the system itself has at a place. -/
def systemNode? (names : List Text) : Option Node :=
  if systemDirs.contains names then some .dir
  else match names.map String.ofList with
    | ["bin"] => some (.link (raw "usr/bin"))
    | ["sbin"] => some (.link (raw "usr/sbin"))
    | ["lib"] => some (.link (raw "usr/lib"))
    | ["dev", "null"] => some (.device .null)
    | ["dev", "zero"] => some (.device .zero)
    | ["dev", "full"] => some (.device .full)
    | ["dev", "tty"] => some (.device .terminal)
    | ["dev", "stdin"] => some (.device (.stream 0))
    | ["dev", "stdout"] => some (.device (.stream 1))
    | ["dev", "stderr"] => some (.device (.stream 2))
    | ["dev", "fd", n] => (Raw.nat? n.toList).map fun n => .device (.stream n)
    | ["usr", "bin", name] => if programNames.contains name then some .program else none
    | ["etc", "passwd"] => some (.file (raw "root:x:0:0:root:/root:/bin/bash\n"))
    | _ => none

namespace Disk

/-- What is at a place. -/
def node? (t : FileTree) (names : List Text) : Option Node :=
  match t.find? names with
  | some .dir => if names == ["bin".toList] then systemNode? names else some .dir
  | some (.file content) => some (.file (Raw.ofBytes content))
  | some (.link target) => some (.link (Raw.ofText target))
  | none => systemNode? names

/-- The names in a path; one that ends in a slash leads to a directory. -/
def pathNames (path : Raw) : List Raw :=
  let names := (splitAt '/' path).filter (!·.isEmpty)
  if path.getLast? == some '/' then names ++ [['.']] else names

/-- Follows the names from the place. The last name need not exist, and when it is a link that one is
followed or not. The first number bounds the links on the way. -/
def follow (t : FileTree) (followLast : Bool) :
    (links : Nat) → (at_ : List Text) → (todo : List Raw) → Except FileFault (List Text)
  | _, at_, [] => .ok at_
  | links, at_, name :: rest =>
    match node? t at_ with
    | none => .error .noEntry
    | some .dir =>
      if name == ['.'] then follow t followLast links at_ rest
      else if name == ['.', '.'] then follow t followLast links at_.dropLast rest
      else if 255 < name.length then .error .nameTooLong
      else
        let here := at_ ++ [Raw.text name]
        match node? t here with
        | some (.link target) =>
          if rest.isEmpty && !followLast then .ok here
          else match links with
            | 0 => .error .tooManyLinks
            | links + 1 =>
              let start := if target.head? == some '/' then [] else at_
              follow t followLast links start (pathNames target ++ rest)
        | _ => follow t followLast links here rest
    | some _ => .error .notDir
termination_by links _ todo => (links, todo.length)

/-- The place to which a path leads from a directory, whether or not something is there. -/
def find (t : FileTree) (cwd : List Text) (path : Raw) (followLast : Bool := true) :
    Except FileFault (List Text) :=
  if path.isEmpty then .error .noEntry
  else if 4095 < path.length then .error .nameTooLong
  else follow t followLast 40 (if path.head? == some '/' then [] else cwd) (pathNames path)

/-- What is at the end of a path. -/
def stat (t : FileTree) (cwd : List Text) (path : Raw) (followLast : Bool := true) :
    Except FileFault (List Text × Node) := do
  let names ← find t cwd path followLast
  match node? t names with
  | some node => return (names, node)
  | none => throw .noEntry

/-- What is at the end of a path, if there is something. -/
def stat? (t : FileTree) (cwd : List Text) (path : Raw) (followLast : Bool := true) : Option Node :=
  (stat t cwd path followLast).toOption.map (·.2)

/-- There is a directory at the end of a path. -/
def isDir (t : FileTree) (cwd : List Text) (path : Raw) : Bool := stat? t cwd path == some .dir

/-- The names in a directory, in the order of their bytes. -/
def list (t : FileTree) (dir : List Text) : List Raw :=
  let own := t.entries.filterMap fun (names, _) =>
    if names.length == dir.length + 1 && dir.isPrefixOf names then names.getLast? else none
  let common := systemDirs.filterMap fun names =>
    if names.length == dir.length + 1 && dir.isPrefixOf names then names.getLast? else none
  ((own ++ common.filter (!own.contains ·)).map Raw.ofText).mergeSort le

/-- The permissions of what is at a place. -/
def mode (t : FileTree) (names : List Text) : Nat :=
  match t.modes.lookup names with
  | some m => m
  | none => match node? t names with
    | some .dir => if names == ["tmp".toList] then 0o1777 else 0o755
    | some (.link _) => 0o777
    | some .program => 0o755
    | some (.device _) => 0o666
    | _ => 0o644

/-- The tree with permissions set. -/
def setMode (t : FileTree) (names : List Text) (m : Nat) : FileTree :=
  { t with modes := (names, m) :: t.modes.filter (·.1 != names) }

/-- What is at a place may be run. -/
def isExecutable (t : FileTree) (names : List Text) : Bool := mode t names &&& 0o111 != 0

/-- A new thing is made at a place where nothing is. -/
def add (t : FileTree) (names : List Text) (entry : Entry) : Except FileFault FileTree :=
  match node? t names, node? t names.dropLast with
  | some _, _ => .error .exists
  | none, some .dir => .ok (t.put names entry)
  | none, none => .error .noEntry
  | none, some _ => .error .notDir

/-- The content of a file is set; the file is made if it is not there. -/
def setContent (t : FileTree) (names : List Text) (content : Raw) : Except FileFault FileTree :=
  match node? t names, node? t names.dropLast with
  | some .dir, _ => .error .isDir
  | some (.file _), _ => .ok (t.put names (.file (Raw.bytes content)))
  | some _, _ => .error .denied
  | none, some .dir => .ok (t.put names (.file (Raw.bytes content)))
  | none, none => .error .noEntry
  | none, some _ => .error .notDir

/-- Nothing is at the place any more, nor below it. -/
def erase (t : FileTree) (names : List Text) : FileTree := t.remove names

/-- What is at a place or below it goes to another one, where nothing may be. -/
def move (t : FileTree) (old new : List Text) : FileTree where
  entries := t.entries.map fun (names, e) =>
    if old.isPrefixOf names then (new ++ names.drop old.length, e) else (names, e)
  modes := t.modes.map fun (names, m) =>
    if old.isPrefixOf names then (new ++ names.drop old.length, m) else (names, m)

end Disk

end DocAudit.Shell
