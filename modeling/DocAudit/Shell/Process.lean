import DocAudit.Shell.Conditions
import DocAudit.Shell.Builtins

/-!
# Processes

Processes of their own are run to their end before what runs beside them goes on; streams keep the times at
which something was written, so that what comes out of the machine comes in the order of time.

## Contents

* `Course`, `Deeper`: how a script is run, and what runs scripts inside of others
* `toEnd`, `inChild`: processes and what is done at their end
* `tryJob`, `startJob`: commands in the background
* `makePipe`, `printed`: pipes, and what scripts print
* `redirected`: redirections
-/

namespace DocAudit.Shell

open Text Act

/-- How a script is run: whether the process ends with it, and whether a failure decides about what follows,
so that it does not end the shell. -/
structure Course where
  last : Bool := false
  tested : Bool := false
  /-- The script is the rest of a pipeline, whose first part has started. -/
  piped : Bool := false
  deriving DecidableEq, Repr

/-- What runs scripts that are nested one step deeper. -/
structure Deeper where
  script : Course → Script → Act Unit
  text : Course → Raw → Act Unit

/-! ## Processes -/

/-- Signals that have come from other processes. -/
def receiveAll : Act Unit := do
  let m ← get
  let mine := m.signals.filter (·.1 == m.shell.pid)
  set { m with signals := m.signals.filter (·.1 != m.shell.pid) }
  mine.forM fun (_, signal) => receive signal

/-- What is to be done at signals that came is done. -/
def runTraps (d : Deeper) : Act Unit := do
  receiveAll
  let s ← shell
  if s.caught.isEmpty || s.skip.isSome then return
  setShell fun s => { s with caught := [] }
  (s.caught.eraseDups.mergeSort).forM fun signal => do
    match (← shell).traps.lookup signal with
    | some action =>
      if !action.isEmpty then
        let kept := (← shell).kept
        let status := kept.getD (← shell).status
        setShell fun s => { s with kept := some status }
        d.text {} action
        if (← shell).skip != some .back then setShell fun s => { s with status }
        setShell fun s => { s with kept }
    | none => return

/-- There is something to be done at some signal, or at the end. -/
def hasTraps : Act Bool := return (← shell).traps.any fun t => !t.2.isEmpty

/-- What is to be done at the end of the shell is done. -/
def runExitTrap (d : Deeper) : Act Unit := do
  match (← shell).traps.lookup 0 with
  | some action =>
    setShell fun s => { s with traps := s.traps.filter (·.1 != 0), skip := none, command := none }
    if !action.isEmpty then
      let status := (← shell).status
      setShell fun s => { s with kept := some status }
      match ← Act.caught (d.text {} action) with
      | .ok _ => setShell fun s => { s with status }
      | .error .exit => return
      | .error .fault => return
      | .error stop => throw stop
  | none => return

/-- An action to the end of its process. -/
def toEnd (d : Deeper) (body : Act Unit) : Act Ended := do
  match ← Act.caught body with
  | .error (.killed signal) => return .killed signal
  | .error .timedOut => throw .timedOut
  | _ =>
    match ← Act.caught (runExitTrap d) with
    | .error (.killed signal) => return .killed signal
    | .error .timedOut => throw .timedOut
    | _ => return .exited ((← shell).status % 256)

/-- The state of a process that the shell starts. -/
def Session.child (s : Session) (pid : Nat) : Session :=
  { s with pid, traps := s.traps.filter (·.2.isEmpty), caught := [] }

/-- An action in a process of its own. -/
def inChild (d : Deeper) (body : Act Unit) : Act Ended := do
  let s ← shell
  let pid ← fresh
  setShell (·.child pid)
  let e ← ensuring (toEnd d body) (setShell fun _ => s)
  receive 17
  return e

/-- The status of a process that has ended; one that was killed is reported. -/
def reap (e : Ended) : Act Nat := do
  match e with
  | .exited n => return n
  | .killed signal =>
    if signal != 2 && signal != 13 then
      let _ ← write 2 (signalText signal ++ ['\n'])
    return 128 + signal

/-! ### Commands in the background -/

/-- A command in the background is run until a time. Whether it ends by then; if it does not, what it has done
counts only if it is to be kept. -/
def tryJob (d : Deeper) (job : Job) (limit : Nat) (keep : Bool := false) : Act Bool := fun m =>
  let started := { m with
    shell := job.shell, clock := job.began + 1
    limit := match job.signal with
      | some (time, _) => min limit (time + 1)
      | none => limit }
  let (result, after) := (toEnd d (d.script { last := true } job.script)).run started
  let back : Machine := { after with shell := m.shell, clock := m.clock, limit := m.limit }
  let finish (e : Ended) : Except Stop Bool × Machine :=
    let jobs := after.jobs.map fun j =>
      if j.pid == job.pid then { j with ended := some e, began := after.clock } else j
    (.ok true, { back with jobs })
  let unfinished : Except Stop Bool × Machine := (.ok false, if keep then back else m)
  match result with
  | .ok e => finish e
  | .error _ => match job.signal with
    | some (time, signal) => if time + 1 ≤ limit then finish (.killed signal) else unfinished
    | none => unfinished

/-- The commands in the background that have not ended. -/
def pendingJobs : Act (List Job) := return (← get).jobs.filter (·.ended.isNone)

/-- Runs what can have ended by now. -/
def settle (d : Deeper) : Act Unit := do
  for job in ← pendingJobs do
    let _ ← tryJob d job (← get).clock

/-- Waits for a command in the background. -/
def waitForJob (d : Deeper) (pid : Nat) : Act Unit := do
  match (← get).jobs.find? (·.pid == pid) with
  | none => return
  | some job =>
    if job.ended.isNone then
      if !(← tryJob d job (← get).limit) then hang
    match (← get).jobs.find? (·.pid == pid) with
    | some job => waitUntil (max job.began (← get).clock)
    | none => return

/-- The process has a stream that leads to the place. -/
def Machine.holds (m : Machine) (s : Session) (place : Place → Bool) : Bool :=
  s.streams.any fun (_, number) => (m.opened.lookup number).any fun f => f.writable && place f.place

/-- Runs what goes on in the background with a stream that leads to the place, as long as it takes. -/
def drain (d : Deeper) (place : Place → Bool) : Act Unit := do
  for job in ← pendingJobs do
    let m ← get
    if m.holds job.shell place then
      if !(← tryJob d job m.limit) then
        hang
      match (← get).jobs.find? (·.pid == job.pid) with
      | some ended => waitUntil (max ended.began (← get).clock)
      | none => return

/-- Everything in the background is stopped because time is up. -/
def abandon (d : Deeper) : Act Unit := do
  for job in ← pendingJobs do
    let _ ← tryJob d job (← get).limit true

/-- Starts a command in the background. -/
def startJob (script : Script) : Act Unit := do
  let pid ← fresh
  let null ← fresh
  setOpened null { place := .null, readable := true }
  let m ← get
  let s := m.shell.child pid
  let s := { s with streams := (0, null) :: s.streams.filter (·.1 != 0) }
  let job : Job := { pid, owner := m.shell.pid, script, shell := s, began := m.clock }
  set { m with jobs := m.jobs ++ [job] }
  setShell fun s => { s with background := some pid, status := 0 }

/-! ### Pipes -/

/-- A new pipe, with its number. -/
def makePipe (limit : Option Nat) : Act Nat := do
  let p ← fresh
  setPipe p { limit }
  return p

/-- No more bytes come to the pipe. -/
def closePipe (p : Nat) : Act Unit := do
  let m ← get
  if let some pipe := m.pipes.lookup p then setPipe p { pipe with closed := some m.clock }

/-- What a script prints, without line feeds at the end. -/
def printed (d : Deeper) (script : Script) : Act Raw := do
  let p ← makePipe none
  let e ← inChild d (do
    install 1 { place := .pipe p, writable := true }
    d.script { last := true } script)
  receiveAll
  drain d (· == .pipe p)
  let status ← reap e
  setShell fun s => { s with outcome := status }
  let m ← get
  let pipe := (m.pipes.lookup p).getD {}
  set { m with pipes := m.pipes.filter (·.1 != p) }
  let all := ((pipe.front ++ pipe.back.reverse).map (·.2)).flatten
  return dropEnd (· == '\n') (all.filter (· != '\x00'))

/-- What expansion needs. -/
def expander (d : Deeper) : Expander := { printed := printed d }

/-! ## Redirections -/

/-- A redirection with its word put in. -/
inductive Target
  | file (stream : Nat) (how : Opening) (path : Raw)
  | copy (stream : Nat) (source : Option Nat)
  | document (stream : Nat) (body : Raw)

/-- Puts the word of a redirection in. -/
def Redirect.target (d : Deeper) : Redirect → Act Target
  | .file stream how w => return .file stream how (← expandText (expander d) w)
  | .copy stream w => do
    match ← expandText (expander d) w with
    | ['-'] => return .copy stream none
    | [c] => if c.isDigit then return .copy stream (some (c.toNat - 48)) else bad
    | _ => bad
  | .document stream w => return .document stream (← expandText (expander d) w)
  | .pending stream _ => return .document stream []
where
  /-- The word names no stream. -/
  bad : Act Target := do
    fault SyntaxFault.badStream.message

/-- Why a file cannot be opened by a redirection, in words. -/
def openFault (how : Opening) (f : FileFault) : Raw :=
  match f, how with
  | .noEntry, .read => raw "No such file"
  | .notDir, .read => raw "No such file"
  | .noEntry, _ => raw "Directory nonexistent"
  | .notDir, _ => raw "Directory nonexistent"
  | f, _ => f.message

/-- Does what a redirection says. -/
def Target.apply : Target → Act Unit
  | .file stream how path => do
    match ← openPath path how with
    | .ok f => install stream f
    | .error f =>
      fault (raw (if how == .read then "cannot open " else "cannot create ") ++ path ++ raw ": " ++
        openFault how f)
  | .copy stream none => close stream
  | .copy stream (some source) => do
    match (← shell).streams.lookup source with
    | some number => point stream number
    | none => fault (ofNat source ++ raw ": Bad file descriptor")
  | .document stream body => do
    let p ← makePipe none
    setPipe p { front := if body.isEmpty then [] else [(0, body)], closed := some 0 }
    install stream { place := .pipe p, readable := true }

/-- Applies redirections one after the other; the streams as they were, and whether there was a fault. -/
def applyAll (targets : List Target) : Act (List (Nat × Nat) × Bool) := do
  let streams := (← shell).streams
  match ← Act.caught (targets.forM Target.apply) with
  | .ok _ => return (streams, true)
  | .error .fault =>
    setShell fun s => { s with streams, status := 2 }
    return (streams, false)
  | .error stop => throw stop

/-- An action with redirections in force; whether there was no fault in them. -/
def redirected (d : Deeper) (rs : List Redirect) (body : Act Unit) : Act Bool := do
  let targets ← rs.mapM (Redirect.target d)
  let (streams, good) ← applyAll targets
  if good then ensuring body (setShell fun s => { s with streams })
  return good

end DocAudit.Shell
