import DocAudit.Shell.Run
import DocAudit.Verification.Run

/-!
# Verification by the shell

The commands of a verification are scripts, each with a directory, variables and a limit of time.

## Contents

* `environment`, `Item.dir`
* `attempt`, `shellRunner`
-/

namespace DocAudit.Shell

open Text Act

/-- The variables of every command. -/
def environment : List (Text × Text) :=
  [("HOME".toList, "/root".toList), ("PATH".toList, "/usr/local/bin:/usr/bin:/bin".toList)]

/-- The directory in which an item runs. -/
def Item.dir (base : Path) (item : Item) : Path :=
  match item.workingDir with
  | none => base
  | some dir => base.join (Path.ofText dir)

/-- The greatest number of bytes of a command, and of a variable with its value. -/
def wordLimit : Nat := 131071

/-- The greatest number of milliseconds that can be waited for. -/
def waitLimit : Int := 2147483647

/-- What keeps the system from trying to start an item. -/
def startFault? (item : Item) : Option StartFault :=
  if item.env.any fun (name, _) => name.contains '=' then some .nameWithEquals
  else if (item.command :: item.workingDir.toList ++ item.env.flatMap fun (n, v) => [n, v]).any
      (·.contains '\x00') then some .zeroCharacter
  else none

/-- Words that the system can give to a program. -/
def fits (s : Text) : Bool := (Utf8.encode s).length ≤ wordLimit

/-- The directories in which the shell is. -/
def shellDirs : List Text := ["/bin".toList, "/usr/bin".toList]

/-- The shell can be found by a list of directories. -/
def findsShell (dirs : Text) : Bool :=
  (splitAt ':' dirs).any fun dir => shellDirs.contains (Path.ofText dir).collapse.text && ['/'].isPrefixOf dir

/-- The streams of every command: nothing to read, and two ways out. -/
def streams : List OpenFile :=
  [{ place := .null, readable := true }, { place := .console false, writable := true },
    { place := .console true, writable := true }]

/-- A machine with a shell in a directory of the tree. -/
def machine (tree : FileTree) (place : List Text) (vars : List (Text × Text)) (limit : Nat) : Machine :=
  let given := (vars.filter fun (n, _) => isName (Raw.ofText n)).map fun (n, v) =>
    (Raw.ofText n, ({ value := some (Raw.ofText v), exported := true } : Variable))
  let cwd := pathOf place
  let vars := startingVariables cwd given
  let pid := 4242
  { tree, limit
    opened := streams.zipIdx.map fun (f, i) => (i, f)
    fresh := pid + 1
    shell := { cwd, place, vars, pid, known := pid, streams := (List.range 3).map fun i => (i, i) } }

/-- What running an item does. -/
def attempt (base : Path) (item : Item) : Work FileTree Attempt := do
  if let some fault := startFault? item then throw (.command fault)
  let t ← get
  let dir := Item.dir base item
  let vars := item.env.foldl (fun vs (n, v) => (n, v) :: vs.filter (·.1 != n)) environment
  match t.get? base dir, t.locate? base dir with
  | some .dir, some names =>
    if !findsShell ((vars.lookup "PATH".toList).getD []) || !fits item.command ||
        !vars.all fun (n, v) => fits (n ++ '=' :: v) then return .notStarted
    if item.timeout ≤ 0 then return .timedOut [] []
    let done := runCommand (Raw.ofText item.command) (machine t names vars item.timeout.toNat)
    set done.tree
    if waitLimit < item.timeout then throw (.command .timeTooLong)
    let stdout := Raw.text done.stdout
    let stderr := Raw.text done.stderr
    match done.ended with
    | none => return .timedOut stdout stderr
    | some (.killed signal) => return .finished (-(signal : Int)) stdout stderr
    | some (.exited status) => return .finished status stdout stderr
  | _, _ => return .notStarted

/-- Runs items by the shell. -/
def shellRunner (base : Path) (m : Matching) : Runner (Work FileTree) := fun item => do
  let a ← attempt base item
  ExceptT.mk (pure (ItemResult.ofAttempt m item a))

end DocAudit.Shell
