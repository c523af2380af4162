import DocAudit.Shell.Disk
import DocAudit.Shell.Grammar

/-!
# Machines

What shells work on: files, streams, a clock, and the state of the shell that runs at the moment. A process
of its own is a shell whose state is given back when it ends, while files, streams and the clock go on.

## Contents

* `Place`, `OpenFile`, `Pipe`: streams
* `Session`: variables, functions, settings and streams of one process
* `Machine`, `Stop`, `Act`: what actions change, and why they end early
* `write`, `readChunk`, `readAll`, `readLine`: what every tool does with streams
* `say`, `complain`: output and complaints
* `sleep`: time
-/

namespace DocAudit.Shell

open Text

/-! ## Streams -/

/-- What an open file reads from or writes to. -/
inductive Place
  | null
  | zero
  | full
  /-- One of the two streams that lead out of the machine. -/
  | console (isError : Bool)
  | file (names : List Text)
  | dir (names : List Text)
  | pipe (number : Nat)
  deriving DecidableEq, Repr

/-- An open file: where it is, how far it has been read or written, and what may be done with it. -/
structure OpenFile where
  place : Place
  offset : Nat := 0
  append : Bool := false
  readable : Bool := false
  writable : Bool := false
  deriving Repr

/-- A pipe: what can be read, with the times at which it came, and how it goes on. -/
structure Pipe where
  front : List (Nat × Raw) := []
  /-- What came later, the last piece first. -/
  back : List (Nat × Raw) := []
  /-- The number of bytes that have been written. -/
  size : Nat := 0
  /-- Nobody reads more bytes than these. -/
  limit : Option Nat := none
  /-- The time at which no more bytes can come; nothing while there are writers. -/
  closed : Option Nat := none
  /-- A writer was stopped at the limit. -/
  broken : Bool := false
  /-- A reader came to the end of what a stopped writer had written. -/
  starved : Bool := false
  deriving Repr

/-! ## Shells -/

/-- A variable: its value, whether other programs see it, and whether it stays as it is. -/
structure Variable where
  value : Option Raw := none
  exported : Bool := false
  fixed : Bool := false
  deriving DecidableEq, Repr

/-- What is to be again as it was when a function ends: variables, and settings. -/
structure Scope where
  vars : List (Raw × Option Variable) := []
  modes : Option (List Raw) := none

/-- What follows is passed over. -/
inductive Skip
  /-- So many loops are left. -/
  | leave (loops : Nat)
  /-- The next turn of the last of so many loops comes. -/
  | nextTurn (loops : Nat)
  /-- The function or the file is left. -/
  | back
  deriving DecidableEq, Repr

/-- The state of a process that runs a shell, or of a program. -/
structure Session where
  /-- The name that stands in front of complaints. -/
  name : Raw := raw "sh"
  pid : Nat := 1
  /-- The number by which scripts know the shell. -/
  known : Nat := 1
  /-- The current directory: its path as it was reached, and its place. -/
  cwd : Raw
  place : List Text
  vars : List (Raw × Variable)
  params : List Raw := []
  functions : List (Raw × Script) := []
  aliases : List (Raw × Raw) := []
  /-- The letters of the settings that are on, and the names of those without a letter. -/
  modes : List Raw := []
  /-- What is done at a signal, or at the end for the number 0. -/
  traps : List (Nat × Raw) := []
  /-- Signals that came and for which something is to be done. -/
  caught : List Nat := []
  /-- The open file of each stream. -/
  streams : List (Nat × Nat) := []
  line : Nat := 1
  status : Nat := 0
  /-- The command of the shell that is at work. -/
  command : Option Raw := none
  /-- How many loops go on around the command. -/
  loops : Nat := 0
  /-- How many functions go on around the command. -/
  calls : Nat := 0
  /-- In functions: what is to be as it was after each of them. -/
  scopes : List Scope := []
  skip : Option Skip := none
  /-- The process that was last put into the background. -/
  background : Option Nat := none
  /-- The status of the last script whose output was put into a word of the command. -/
  outcome : Nat := 0
  /-- While a trap is at work: the status with which the shell ends if nothing else is said. -/
  kept : Option Nat := none
  /-- Programs that have been looked for already, with their paths. -/
  hashed : List (Raw × Raw) := []
  /-- Why output of the command could not be written. -/
  failed : Option FileFault := none
  /-- Where the reading of options has come to: the next argument, and the letters passed in it. -/
  option : Nat × Nat := (1, 0)
  mask : Nat := 0o022

/-- How a process ended. -/
inductive Ended
  | exited (status : Nat)
  | killed (signal : Nat)
  deriving DecidableEq, Repr

/-- The status of a process for the shell that waits for it. -/
def Ended.status : Ended → Nat
  | .exited n => n
  | .killed signal => 128 + signal

/-- A command in the background. -/
structure Job where
  pid : Nat
  owner : Nat
  script : Script
  shell : Session
  began : Nat
  /-- The time at which a signal came, and the signal. -/
  signal : Option (Nat × Nat) := none
  ended : Option Ended := none

/-! ## Machines -/

/-- The machine. The clock counts milliseconds. -/
structure Machine where
  tree : FileTree
  opened : List (Nat × OpenFile) := []
  pipes : List (Nat × Pipe) := []
  /-- What went out of the machine, with its time, the last piece first. -/
  printed : List (Nat × Bool × Raw) := []
  clock : Nat := 0
  /-- The time at which everything is stopped. -/
  limit : Nat
  /-- The next number for an open file, a pipe or a process. -/
  fresh : Nat := 4242
  /-- Signals for processes that are not at work. -/
  signals : List (Nat × Nat) := []
  jobs : List Job := []
  shell : Session

/-- Why an action ends early. -/
inductive Stop
  /-- A fault of the shell: what goes on is decided by who called the command. -/
  | fault
  /-- The process ends. -/
  | exit
  | killed (signal : Nat)
  | timedOut
  deriving DecidableEq, Repr

/-- An action on a machine. -/
abbrev Act := ExceptT Stop (StateM Machine)

/-- A tool: what it does with its arguments, and its status. -/
abbrev Tool := List Raw → Act Nat

namespace Act

/-- The shell at work. -/
def shell : Act Session := return (← get).shell

/-- Changes the shell at work. -/
def setShell (f : Session → Session) : Act Unit := modify fun m => { m with shell := f m.shell }

/-- An action together with the way in which it ended. -/
def caught {α : Type} (a : Act α) : Act (Except Stop α) := fun m =>
  let (result, m) := a.run m
  (.ok result, m)

/-- The action, and in any case the other one after it. -/
def ensuring {α : Type} (a : Act α) (after : Act Unit) : Act α := do
  let result ← caught a
  after
  match result with
  | .ok v => return v
  | .error stop => throw stop

/-- A number that has not been used yet. -/
def fresh : Act Nat := do
  let m ← get
  set { m with fresh := m.fresh + 1 }
  return m.fresh

/-! ### Signals -/

/-- A signal for the process at work: it is ignored, it waits for its trap, or it ends the process. -/
def receive (signal : Nat) : Act Unit := do
  let s ← shell
  match if signal == 9 || signal == 19 then none else s.traps.lookup signal with
  | some [] => return
  | some _ => setShell fun s => { s with caught := s.caught ++ [signal] }
  | none => if !([0, 17, 18, 23, 28].contains signal) then throw (.killed signal)

/-! ### Open files -/

/-- The open file of a stream. -/
def opened? (stream : Nat) : Act (Option (Nat × OpenFile)) := do
  let m ← get
  match m.shell.streams.lookup stream with
  | none => return none
  | some number => return (m.opened.lookup number).map fun f => (number, f)

/-- Changes an open file. -/
def setOpened (number : Nat) (f : OpenFile) : Act Unit :=
  modify fun m => { m with opened := (number, f) :: m.opened.filter (·.1 != number) }

/-- Changes a pipe. -/
def setPipe (number : Nat) (p : Pipe) : Act Unit :=
  modify fun m => { m with pipes := (number, p) :: m.pipes.filter (·.1 != number) }

/-- A stream is the open file of a number. -/
def point (stream number : Nat) : Act Unit :=
  setShell fun s => { s with streams := (stream, number) :: s.streams.filter (·.1 != stream) }

/-- A stream is closed. -/
def close (stream : Nat) : Act Unit :=
  setShell fun s => { s with streams := s.streams.filter (·.1 != stream) }

/-- A new open file for a stream. -/
def install (stream : Nat) (f : OpenFile) : Act Unit := do
  let number ← fresh
  setOpened number f
  point stream number

/-- The tree of files. -/
def tree : Act FileTree := return (← get).tree

/-- The tree of files after a change, unless there is a fault. -/
def change (f : FileTree → Except FileFault FileTree) : Act (Option FileFault) := do
  let m ← get
  match f m.tree with
  | .ok tree =>
    set { m with tree }
    return none
  | .error fault => return some fault

/-- The bytes from a place on replaced by others. -/
def overlay (old : Raw) (offset : Nat) (new : Raw) : Raw :=
  let before := old.take offset
  before ++ List.replicate (offset - before.length) '\x00' ++ new ++ old.drop (offset + new.length)

/-- Bytes written to a stream, and why they could not be. -/
def write (stream : Nat) (bytes : Raw) : Act (Option FileFault) := do
  match ← opened? stream with
  | none => return some .badDescriptor
  | some (number, f) =>
    if !f.writable then return some .badDescriptor
    if bytes.isEmpty then return none
    match f.place with
    | .null => return none
    | .zero => return none
    | .full => return some .noSpace
    | .dir _ => return some .isDir
    | .console isError =>
      modify fun m => { m with printed := (m.clock, isError, bytes) :: m.printed }
      return none
    | .file names =>
      let t ← tree
      match Disk.node? t names with
      | some (.file old) =>
        let offset := if f.append then old.length else f.offset
        setOpened number { f with offset := offset + bytes.length }
        change fun t => Disk.setContent t names (overlay old offset bytes)
      | _ => return none
    | .pipe p =>
      let m ← get
      match m.pipes.lookup p with
      | none => return some .badDescriptor
      | some pipe =>
        if pipe.limit.any (· ≤ pipe.size) then
          setPipe p { pipe with broken := true }
          receive 13
          return some .brokenPipe
        setPipe p { pipe with back := (m.clock, bytes) :: pipe.back, size := pipe.size + bytes.length }
        return none

/-- The machine waits until the time, unless everything is stopped before. -/
def waitUntil (time : Nat) : Act Unit := do
  let m ← get
  if time < m.limit then set { m with clock := max m.clock time }
  else
    set { m with clock := m.limit }
    throw .timedOut

/-- The bytes of pieces that have come by a time, no more than so many, and the pieces that are left. -/
def takePieces (time : Nat) : (count : Nat) → List (Nat × Raw) → Raw × List (Nat × Raw)
  | _, [] => ([], [])
  | count, (came, bytes) :: rest =>
    if time < came || count == 0 then ([], (came, bytes) :: rest)
    else if count < bytes.length then (bytes.take count, (came, bytes.drop count) :: rest)
    else
      let (more, left) := takePieces time (count - bytes.length) rest
      (bytes ++ more, left)

/-- The next bytes of a pipe, no more than so many; none at its end. -/
def readPipe (p : Nat) (count : Nat) : Act Raw := do
  let m ← get
  match m.pipes.lookup p with
  | none => return []
  | some pipe =>
    match if pipe.back.isEmpty then pipe.front else pipe.front ++ pipe.back.reverse with
    | (time, bytes) :: rest =>
      waitUntil time
      let (now, front) := takePieces (max m.clock time) count ((time, bytes) :: rest)
      setPipe p { pipe with front, back := [] }
      return now
    | [] =>
      if pipe.broken then
        setPipe p { pipe with starved := true }
        return []
      match pipe.closed with
      | some time =>
        waitUntil time
        return []
      | none =>
        waitUntil m.limit
        return []

/-- The next bytes of a stream, no more than so many; none at its end. -/
def readChunk (stream count : Nat) : Act (Except FileFault Raw) := do
  match ← opened? stream with
  | none => return .error .badDescriptor
  | some (number, f) =>
    if !f.readable then return .error .badDescriptor
    match f.place with
    | .null => return .ok []
    | .zero => return .ok (List.replicate count '\x00')
    | .full => return .ok (List.replicate count '\x00')
    | .console _ => return .error .badDescriptor
    | .dir _ => return .error .isDir
    | .file names =>
      match Disk.node? (← tree) names with
      | some (.file content) =>
        let bytes := (content.drop f.offset).take count
        setOpened number { f with offset := f.offset + bytes.length }
        return .ok bytes
      | _ => return .ok []
    | .pipe p => return .ok (← readPipe p count)

/-- The greatest number of bytes that are taken from a stream at once. -/
def chunk : Nat := 1048576

/-- All bytes that are left on a stream. The first number bounds the pieces. -/
def readPieces (stream : Nat) : Nat → List Raw → Act (Except FileFault Raw)
  | 0, soFar => return .ok soFar.reverse.flatten
  | n + 1, soFar => do
    match ← readChunk stream chunk with
    | .error f => return .error f
    | .ok [] => return .ok soFar.reverse.flatten
    | .ok bytes => readPieces stream n (bytes :: soFar)

/-- All bytes that are left on a stream. -/
def readAll (stream : Nat) : Act (Except FileFault Raw) := readPieces stream 100000 []

/-- The bytes up to a line feed, which is taken as well, and whether there was one. The number bounds the
pieces from which they come. -/
def readLinePieces (stream : Nat) : Nat → List Raw → Act (Except FileFault (Raw × Bool))
  | 0, soFar => return .ok (soFar.reverse.flatten, false)
  | n + 1, soFar => do
    match ← opened? stream with
    | some (_, { place := .pipe p, readable := true, .. }) =>
      match ← readPipe p 4096 with
      | [] => return .ok (soFar.reverse.flatten, false)
      | bytes =>
        let line := bytes.takeWhile (· != '\n')
        match bytes.drop line.length with
        | [] => readLinePieces stream n (line :: soFar)
        | _ :: rest =>
          let m ← get
          if let some pipe := m.pipes.lookup p then
            if !rest.isEmpty then setPipe p { pipe with front := (m.clock, rest) :: pipe.front }
          return .ok ((line :: soFar).reverse.flatten, true)
    | some (number, f) =>
      match ← readChunk stream chunk with
      | .error fault => return .error fault
      | .ok bytes =>
        let line := bytes.takeWhile (· != '\n')
        if line.length < bytes.length then
          setOpened number { f with offset := f.offset + line.length + 1 }
          return .ok (line, true)
        else return .ok (line, false)
    | none => return .error .badDescriptor

/-- The bytes up to a line feed, which is taken as well, and whether there was one. -/
def readLine (stream : Nat) : Act (Except FileFault (Raw × Bool)) := readLinePieces stream 100000 []

/-- Gives bytes back to a stream that has just been read. -/
def giveBack (stream : Nat) (bytes : Raw) : Act Unit := do
  match ← opened? stream with
  | some (number, f) =>
    match f.place with
    | .file _ => setOpened number { f with offset := f.offset - bytes.length }
    | _ => return
  | none => return

/-! ### Paths -/

/-- What is at the end of a path from the current directory. -/
def stat (path : Raw) (followLast : Bool := true) : Act (Except FileFault (List Text × Node)) := do
  let m ← get
  return Disk.stat m.tree m.shell.place path followLast

/-- The place to which a path leads from the current directory. -/
def locate (path : Raw) (followLast : Bool := true) : Act (Except FileFault (List Text)) := do
  let m ← get
  return Disk.find m.tree m.shell.place path followLast

/-- A path opened. -/
def openPath (path : Raw) (how : Opening) : Act (Except FileFault OpenFile) := do
  let m ← get
  let s := m.shell
  match Disk.find m.tree s.place path with
  | .error f => return .error f
  | .ok names =>
    let reads := how == .read || how == .both
    let writes := how != .read
    let made (place : Place) : OpenFile :=
      { place, append := how == .append, readable := reads, writable := writes }
    match Disk.node? m.tree names with
    | some (.device .null) => return .ok (made .null)
    | some (.device .zero) => return .ok (made .zero)
    | some (.device .full) => return .ok (made .full)
    | some (.device .terminal) => return .error .denied
    | some (.device (.stream n)) =>
      match ← opened? n with
      | some (_, f) =>
        match f.place with
        | .file _ =>
          return .ok { f with offset := 0, append := how == .append, readable := reads, writable := writes }
        | _ => return .ok { f with readable := f.readable && reads, writable := f.writable && writes }
      | none => return .error .noEntry
    | some .dir => return if writes then .error .isDir else .ok (made (.dir names))
    | some .program => return if writes then .error .denied else .ok (made .null)
    | some (.link _) => return .error .tooManyLinks
    | some (.file _) =>
      if how == .create && s.modes.contains ['C'] then return .error .exists
      if how == .create || how == .overwrite then
        set { m with tree := m.tree.put names (.file []) }
      return .ok (made (.file names))
    | none =>
      if how == .read then return .error .noEntry
      match Disk.add m.tree names (.file []) with
      | .error f => return .error f
      | .ok tree =>
        let mode := 0o666 &&& (0o777 - s.mask % 0o1000)
        let tree := if mode == 0o644 then tree else Disk.setMode tree names mode
        set { m with tree }
        return .ok (made (.file names))

/-- The content of a file, or of the standard input for a dash. -/
def content (path : Raw) (dash : Bool := true) : Act (Except FileFault Raw) := do
  if dash && path == ['-'] then readAll 0
  else
    match ← openPath path .read with
    | .error f => return .error f
    | .ok f =>
      let saved ← shell
      install 1000000 f
      let result ← readAll 1000000
      setShell fun s => { s with streams := saved.streams }
      return result

/-! ### Output -/

/-- Bytes on the standard output. -/
def say (s : Raw) : Act Unit := do
  if let some f ← write 1 s then setShell fun sh => { sh with failed := some f }

/-- A line on the standard error, and a status. -/
def complain (status : Nat) (s : Raw) : Act Nat := do
  let _ ← write 2 (s ++ ['\n'])
  return status

/-- A complaint of the shell itself. -/
def warn (s : Raw) : Act Unit := do
  let sh ← shell
  let command := match sh.command with
    | some name => name ++ raw ": "
    | none => []
  let _ ← write 2 (sh.name ++ raw ": " ++ ofNat sh.line ++ raw ": " ++ command ++ s ++ ['\n'])

/-- A fault of the shell, which stops the command. -/
def fault {α : Type} (s : Raw) (status : Nat := 2) : Act α := do
  setShell fun sh => { sh with status }
  warn s
  throw .fault

/-- The end of the process. -/
def exit {α : Type} (status : Nat) : Act α := do
  setShell fun sh => { sh with status }
  throw .exit

/-! ### Time -/

/-- Time passes. -/
def sleep (millis : Nat) : Act Unit := do waitUntil ((← get).clock + millis)

/-- Time passes without end. -/
def hang : Act Unit := do waitUntil (← get).limit

/-! ### Variables -/

/-- The value of a variable. -/
def value? (name : Raw) : Act (Option Raw) := return ((← shell).vars.lookup name).bind (·.value)

/-- The variables with one of them set as told; a new one comes last. -/
def withVariable (name : Raw) (v : Variable) : List (Raw × Variable) → List (Raw × Variable)
  | [] => [(name, v)]
  | (n, old) :: rest => if n == name then (n, v) :: rest else (n, old) :: withVariable name v rest

/-- A variable is set as told. -/
def setVariable (name : Raw) (v : Variable) : Act Unit :=
  setShell fun s => { s with vars := withVariable name v s.vars }

/-- A variable gets a value. -/
def assign (name value : Raw) (exported : Bool := false) : Act Unit := do
  let s ← shell
  let old := (s.vars.lookup name).getD {}
  if old.fixed then fault (name ++ raw ": is read only")
  setVariable name
    { old with value := some value, exported := old.exported || exported || s.modes.contains ['a'] }
  if name == raw "OPTIND" then
    setShell fun s => { s with option := ((Raw.nat? value).getD 1, 0) }
  else if name == raw "PATH" then setShell fun s => { s with hashed := [] }

/-- The setting of a letter or a name is on. -/
def isOn (mode : String) : Act Bool := return (← shell).modes.contains mode.toList

end Act

end DocAudit.Shell
