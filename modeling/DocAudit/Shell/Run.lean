import DocAudit.Shell.Program

/-!
# Running scripts

A script is run on a machine, command by command.

## Contents

* `execSimple`: commands
* `exec`: scripts; `runText`: texts
* `runCommand`: a text as the script of a shell

## Termination

Scripts inside of scripts (functions, texts that are run, outputs) are run by a function that is given as an
argument; a number bounds how deep they are nested. A loop takes a bounded number of turns, after which time
runs out.
-/

namespace DocAudit.Shell

open Text Act

/-! ## Commands -/

/-- Runs a function. -/
def call (d : Deeper) (course : Course) (body : Script) (args : List Raw) : Act Unit := do
  let s ← shell
  if 1000 ≤ s.calls then fault (raw "Maximum function recursion depth (1000) reached")
  setShell fun s => { s with
    params := args, loops := 0, calls := s.calls + 1, option := (1, 0) }
  ensuring (inScope (d.script { tested := course.tested } body)) (do
    setShell fun now => { now with
      params := s.params, loops := s.loops, calls := s.calls, option := s.option
      skip := if now.skip == some .back then none else now.skip })

/-- The commands of the shell that change nothing but the shell, or only print. -/
def plainBuiltin? (name : Raw) : Option Tool :=
  match String.ofList name with
  | ":" => some fun _ => return 0
  | "true" => some fun _ => return 0
  | "false" => some fun _ => return 1
  | "[" => some bracket
  | "test" => some test
  | "echo" => some echo
  | "printf" => some printf
  | "alias" => some aliasWith
  | "unalias" => some unaliasWith
  | "break" => some (leave .leave)
  | "continue" => some (leave .nextTurn)
  | "cd" => some cd
  | "chdir" => some cd
  | "pwd" => some pwd
  | "umask" => some umask
  | "exit" => some exitWith
  | "return" => some returnWith
  | "shift" => some shift
  | "export" =>
    some (mark "export" (fun v => { v with exported := true }) fun v => v.exported)
  | "readonly" =>
    some (mark "readonly" (fun v => { v with fixed := true }) fun v => v.fixed)
  | "local" => some localVars
  | "unset" => some unsetNames
  | "read" => some read
  | "getopts" => some getopts
  | "set" => some setModes
  | "trap" => some trap
  | "type" => some fun names => do
    let mut status := 0
    for name in names do
      let s ← describe name true
      if s != 0 then status := s
    return status
  | "hash" => some fun args => do
    let (options, names) ← shellOptions "rv" args
    if !options.isEmpty then setShell fun s => { s with hashed := [] }
    if options.isEmpty && names.isEmpty then
      say ((← shell).hashed.reverse.flatMap fun (_, path) => path ++ ['\n'])
    let mut status := 0
    for name in names do
      if !name.contains '/' && !isBuiltin name && ((← shell).functions.lookup name).isNone then
        match ← search name with
        | .ok _ => status := status
        | .error _ =>
          warn (name ++ raw ": not found")
          status := 1
    return status
  | "ulimit" => some fun _ => do
    say (raw "unlimited\n")
    return 0
  | "times" => some fun _ => do
    say (raw "0m0.000000s 0m0.000000s\n0m0.000000s 0m0.000000s\n")
    return 0
  | "fg" => some fun _ => fault (raw "No current job")
  | "bg" => some fun _ => fault (raw "No current job")
  | _ => none

/-- The command in the background that a text such as `%1` names. -/
def jobOf (s : Raw) : Act Job := do
  let m ← get
  let mine := m.jobs.filter (·.owner == m.shell.pid)
  let found := match s with
    | ['%'] => mine.getLast?
    | ['%', '%'] => mine.getLast?
    | ['%', '+'] => mine.getLast?
    | ['%', '-'] => mine[mine.length - 2]?
    | '%' :: digits => (Raw.nat? digits).bind fun n => mine[n - 1]?
    | _ => none
  match found with
  | some job => return job
  | none => fault (raw "No such job: " ++ s)

/-- Waits for commands in the background. -/
def wait (d : Deeper) : Tool := fun args => do
  let (_, args) ← shellOptions "" args
  if args.isEmpty then
    for job in (← get).jobs do
      if job.owner == (← shell).pid then waitForJob d job.pid
    return 0
  let mut status := 127
  for arg in args do
    let pid ← if arg.head? == some '%' then pure (← jobOf arg).pid else numberArg arg
    if (← get).jobs.any (·.pid == pid) then
      waitForJob d pid
      match (← get).jobs.find? (·.pid == pid) with
      | some { ended := some e, .. } => status ← reap e
      | _ => status := 127
    else status := 127
  return status

/-- Shows the commands in the background. -/
def jobs (d : Deeper) : Tool := fun _ => do
  settle d
  let m ← get
  let mine := m.jobs.filter (·.owner == m.shell.pid)
  for (job, i) in mine.zipIdx do
    let sign := if i + 1 == mine.length then '+' else if i + 2 == mine.length then '-' else ' '
    let state := match job.ended with
      | none => raw "Running"
      | some (.exited 0) => raw "Done"
      | some (.exited n) => raw "Done(" ++ ofNat n ++ [')']
      | some (.killed signal) => signalText signal
    say (Raw.padRight 33 (['['] ++ ofNat (i + 1) ++ raw "] " ++ [sign, ' '] ++ state) ++ ['\n'])
  modify fun m => { m with jobs := m.jobs.filter fun j => j.owner != m.shell.pid || j.ended.isNone }
  return 0

/-- A signal for a process. -/
def send (pid signal : Nat) : Act Bool := do
  let m ← get
  if pid == m.shell.pid then
    receive signal
    return true
  else if m.jobs.any fun j => j.pid == pid && j.ended.isNone then
    let passed := [0, 17, 18, 23, 28].contains signal
    set { m with jobs := m.jobs.map fun (j : Job) =>
      if j.pid == pid && j.signal.isNone && !passed && j.shell.traps.lookup signal != some [] then
        { j with signal := some (m.clock, signal) }
      else j }
    return true
  else if pid < 4242 && pid != 1 then return false
  else if pid < m.fresh then
    if signal != 0 then set { m with signals := m.signals ++ [(pid, signal)] }
    return true
  else return false

/-- Sends signals, or names them. -/
def kill : Tool := fun args => do
  let usage : Act Nat := fault (raw
    "Usage: kill [-s sigspec | -signum | -sigspec] [pid | job]... or\nkill -l [exitstatus]")
  let sendAll (signal : Nat) (targets : List Raw) : Act Nat := do
    if targets.isEmpty then usage
    else
      let mut status := 0
      for target in targets do
        let pid ← match target with
          | '%' :: _ => pure (← jobOf target).pid
          | '-' :: digits => numberArg digits
          | digits => numberArg digits
        let self := (← shell).pid
        let pid := if pid == 0 then self else pid
        if !(← send pid signal) then
          warn (raw "No such process\n")
          status := 1
      return status
  match args with
  | [] => usage
  | ('-' :: spec) :: rest =>
    match if spec.isEmpty then none else signal? spec with
    | some signal => sendAll signal rest
    | none =>
      let (options, rest) ← shellOptions "ls:" args
      if options.any (·.1 == 'l') then
        match rest with
        | [] =>
          say (raw "0\n")
          say ((signalNames.drop 1).flatMap fun n => n.toList ++ ['\n'])
          say (((List.range 31).drop 1).flatMap fun i =>
            raw (if i ≤ 15 then "RTMIN+" else "RTMAX-") ++ ofNat (if i ≤ 15 then i else 30 - i) ++ ['\n'])
          return 0
        | arg :: _ =>
          let n ← numberArg arg
          let n := if n > 128 then n - 128 else n
          match if n == 0 then none else signalNames[n]? with
          | some name =>
            say (name.toList ++ ['\n'])
            return 0
          | none => fault (raw "invalid signal number or exit status: " ++ arg)
      else match options.getLast? with
        | some (_, name) => match signal? name with
          | some signal => sendAll signal rest
          | none => fault (raw "invalid signal number or name: " ++ name)
        | none => sendAll 15 rest
  | args => sendAll 15 args

/-- A script in a file that is run by the shell itself. -/
def source (d : Deeper) : Tool := fun args => do
  let (_, args) ← shellOptions "" args
  match args with
  | [] => return 0
  | file :: _ =>
    let m ← get
    let path ← if file.contains '/' then pure file else
      let dirs := splitAt ':' ((← value? (raw "PATH")).getD [])
      let hit := dirs.findSome? fun dir =>
        let path := if dir.isEmpty then file else dir ++ '/' :: file
        match Disk.stat? m.tree m.shell.place path with
        | some (.file _) => some path
        | _ => none
      match hit with
      | some path => pure path
      | none => fault (file ++ raw ": not found")
    match ← content path false with
    | .error f => fault (raw "cannot open " ++ path ++ raw ": " ++ openFault .read f)
    | .ok script =>
      setShell fun s => { s with command := some path }
      d.text {} script
      setShell fun s => { s with skip := if s.skip == some .back then none else s.skip }
      return (← shell).status

/-- A command of the shell itself. -/
def builtin? (d : Deeper) (course : Course) (name : Raw) : Option Tool :=
  match String.ofList name with
  | "eval" => some fun args => do
    if args.isEmpty then return 0
    d.text { tested := course.tested } (joinWith [' '] args)
    return (← shell).status
  | "." => some (source d)
  | "exec" => some fun args => do
    match args with
    | [] => return 0
    | name :: args =>
      let path ← if name.contains '/' then pure (.ok name) else search name
      match path with
      | .error f =>
        warn (name ++ raw ": " ++ programFault f)
        exit (if f == .noEntry then 127 else 126)
      | .ok path =>
        become d path name args
        setShell fun s => { s with traps := s.traps.filter (·.1 != 0) }
        throw .exit
  | "command" => some fun args => do
    let (options, names) ← shellOptions "pvV" args
    match options.getLast?, names with
    | some (c, _), name :: _ => if c == 'p' then return 0 else describe name (c == 'V')
    | _, _ => return 0
  | "wait" => some (wait d)
  | "jobs" => some (jobs d)
  | "kill" => some kill
  | _ => plainBuiltin? name

/-- Runs a command of the shell itself. -/
def runBuiltin (name : Raw) (special : Bool) (tool : Tool) (args : List Raw) : Act Unit := do
  let before := (← shell).command
  setShell fun s => { s with command := some name, failed := none }
  let result ← Act.caught (do
    let status ← tool args
    if (← shell).failed.isSome then
      setShell fun s => { s with command := some name, failed := none }
      warn (name ++ raw ": I/O error")
      return status ||| 1
    return status)
  setShell fun s => { s with command := before }
  match result with
  | .ok status => setShell fun s => { s with status }
  | .error .fault => if special then throw .fault
  | .error stop => throw stop

/-- A command of the shell that runs another one, and what is left: whether functions count, and whether the
command stands for itself. -/
def withoutCommand : Nat → List Raw → Option (List Raw)
  | 0, _ => none
  | n + 1, args =>
    match args with
    | [] => none
    | ['-', '-'] :: rest => if rest.isEmpty then none else some rest
    | ('-' :: c :: cs) :: rest => if (c :: cs).all (· == 'p') then withoutCommand n rest else none
    | rest => some rest

/-- Expands words up to the first ones that are something. -/
def firstFields (d : Expander) : List Word → Act (List Raw × List Word)
  | [] => return ([], [])
  | w :: rest => do
    match ← expandWord d w with
    | [] => firstFields d rest
    | fields => return (fields, rest)

/-- The fields of a command after a prefix that runs another command, and whether there was one. The number
bounds the prefixes. -/
def unprefixed (d : Expander) : Nat → List Raw → List Word → Act (List Raw × List Word × Bool)
  | 0, fields, ws => return (fields, ws, false)
  | n + 1, fields, ws => do
    match fields with
    | name :: args =>
      if name != raw "command" || ((← shell).functions.lookup name).isSome then return (fields, ws, false)
      let (args, ws) ← if args.isEmpty then firstFields d ws else pure (args, ws)
      match withoutCommand (args.length + 1) args with
      | some rest =>
        let (fields, ws, _) ← unprefixed d n rest ws
        return (fields, ws, true)
      | none =>
        if args.any fun a => a.head? == some '-' && a.length > 1 && !(a.drop 1).all (· == 'p') then
          return (name :: args, ws, false)
        let (more, ws) ← firstFields d ws
        match more with
        | [] => return (name :: args, ws, false)
        | more =>
          let (fields, ws, _) ← unprefixed d n (name :: args ++ more) ws
          return (fields, ws, true)
    | [] => return (fields, ws, false)

/-- An argument that is expanded like an assignment where assignments are arguments. -/
def expandArgument (d : Expander) (assignments : Bool) (w : Word) : Act (List Raw) := do
  match if assignments then assignment? w else none with
  | some (name, value) => return [name ++ '=' :: (← expandAssigned d value)]
  | none => expandWord d w

/-- Shows a command in front of its effects, on the streams that it has before its redirections. -/
def trace (d : Deeper) (streams : List (Nat × Nat)) (words : List Raw) : Act Unit := do
  if ← isOn "x" then
    let now := (← shell).streams
    let mark := (← value? (raw "PS4")).getD (raw "+ ")
    let mark ← match Script.next (Source.ofRaw (raw "\"" ++ mark ++ raw "\"") 1 []) with
      | .ok (some (.simple _ _ [w] _, _), _) =>
        setMode ['x'] false
        let text ← expandText (expander d) w
        setMode ['x'] true
        pure text
      | _ => pure mark
    setShell fun s => { s with streams }
    let _ ← write 2 (mark ++ joinWith [' '] words ++ ['\n'])
    setShell fun s => { s with streams := now }

/-- A simple command. -/
def execSimple (d : Deeper) (course : Course) (line : Nat) (assigned : List (Raw × Word)) (ws : List Word)
    (rs : List Redirect) : Act Unit := do
  let x := expander d
  setShell fun s => { s with line, outcome := 0 }
  let (fields, ws) ← firstFields x ws
  let first := fields.headD []
  let (fields, ws, bare) ← unprefixed x 100 fields ws
  let name := fields.headD []
  let known := (← shell).functions
  let functions := if bare then [] else known
  let isFunction := !isSpecialCommand name && (functions.lookup name).isSome
  let builtin := !fields.isEmpty && !isFunction && isBuiltin name
  let special := isSpecialCommand first && !isFunction && builtin
  let more ← ws.mapM (expandArgument x (builtin && takesAssignments name))
  let fields := fields ++ more.flatten
  let args := fields.drop 1
  let targets ← rs.mapM (Redirect.target d)
  let (streams, good) ← applyAll targets
  let isExec := builtin && name == raw "exec"
  let keep := isExec && args.isEmpty
  if !good then
    if special then throw .fault
    return
  let body : Act Unit := do
    let mut shown : List Raw := []
    let mut saved : List (Raw × Option Variable) := []
    let ownOnly := !fields.isEmpty && !special
    for (assignee, w) in assigned do
      let v ← expandAssigned x w
      if ownOnly then saved := (assignee, (← shell).vars.lookup assignee) :: saved
      assign assignee v (ownOnly || (isExec && !args.isEmpty))
      shown := (assignee ++ '=' :: v) :: shown
    let act : Act Unit := do
      let shownWords := shown.reverse ++ fields
      if !shownWords.isEmpty then trace d streams shownWords
      if fields.isEmpty then setShell fun s => { s with status := s.outcome }
      else match if isFunction then functions.lookup name else none with
        | some f => call d course f args
        | none => match if builtin then builtin? d course name else none with
          | some tool => runBuiltin name special (if special then tool else inScope ∘ tool) args
          | none => program name args
    ensuring act (restore saved)
  if keep then body
  else ensuring body (setShell fun s => { s with streams })
where
  /-- Runs a program. -/
  program (name : Raw) (args : List Raw) : Act Unit := do
    let path ← if name.contains '/' then pure (.ok name) else search name
    match path with
    | .error f =>
      warn (name ++ raw ": " ++ programFault f)
      setShell fun s => { s with status := 127 }
    | .ok path =>
      let clock := (← get).clock
      if course.last && !(← hasTraps) then
        become d path name args
        throw .exit
      else
        let e ← inChild d (become d path name args)
        if clock < (← get).clock then settle d
        let status ← reap e
        setShell fun s => { s with status }

/-! ## Scripts -/

/-- How many turns a loop takes at most. -/
def turnLimit : Nat := 30000

/-- What is passed over after one turn of a loop: whether the loop ends. -/
def afterTurn : Act Bool := do
  match (← shell).skip with
  | some (.leave (n + 2)) =>
    setShell fun s => { s with skip := some (.leave (n + 1)) }
    return true
  | some (.leave _) =>
    setShell fun s => { s with skip := none }
    return true
  | some (.nextTurn (n + 2)) =>
    setShell fun s => { s with skip := some (.nextTurn (n + 1)) }
    return true
  | some (.nextTurn _) =>
    setShell fun s => { s with skip := none }
    return false
  | some .back => return true
  | none => return false

/-- Turns of a loop as long as the test lets them go on; the status of the last body. -/
def turns (test : Act Bool) (body : Act Unit) : Nat → (status : Nat) → Act Nat
  | 0, status => do
    hang
    return status
  | n + 1, status => do
    let goesOn ← test
    let s ← shell
    if s.skip.isSome then
      let status := if s.skip == some .back then s.status else status
      if ← afterTurn then return status else turns test body n status
    else if !goesOn then return status
    else
      body
      let status := (← shell).status
      if ← afterTurn then return status else turns test body n status

/-- A turn for each of the values; the status of the last body. -/
def turnsOver (name : Raw) (body : Act Unit) : List Raw → (status : Nat) → Act Nat
  | [], status => return status
  | value :: rest, _ => do
    assign name value
    body
    let status := (← shell).status
    if ← afterTurn then return status else turnsOver name body rest status

/-- An action that is a loop around its commands. -/
def looping (body : Act Nat) : Act Unit := do
  setShell fun s => { s with loops := s.loops + 1 }
  let status ← ensuring body (setShell fun s => { s with loops := s.loops - 1 })
  setShell fun s => { s with status }

/-- The shell ends if a command failed, unless it was only tested. -/
def check (course : Course) : Act Unit := do
  let s ← shell
  if s.status != 0 && !course.tested && s.modes.contains ['e'] then throw .exit

/-- The numbers of bytes that are tried one after the other as what a reader takes from a pipe. -/
def pipeLimits : List (Option Nat) := [some 4096, some 65536, some 2097152, none]

/-- Two commands of which the second one reads what the first one prints. The first one is stopped where
nobody reads any more; if the second one wants more than that, both are run again. -/
def feed (d : Deeper) (first : Act Unit) (second : Act Ended) : List (Option Nat) → Act Ended
  | [] => return .exited 0
  | limit :: more => do
    let start ← get
    let p ← makePipe limit
    let left ← Act.caught (do
      let e ← inChild d (do
        install 1 { place := .pipe p, writable := true }
        first)
      drain d (· == .pipe p)
      return e)
    let leftClock := (← get).clock
    match left with
    | .error .timedOut => return ← goOn p start leftClock none more
    | .error stop => throw stop
    | .ok e =>
      closePipe p
      goOn p start leftClock (some e) more
where
  /-- The second command, after the first one. -/
  goOn (p : Nat) (start : Machine) (leftClock : Nat) (left : Option Ended) (more : List (Option Nat)) :
      Act Ended := do
    modify fun m => { m with clock := start.clock }
    let streams := (← shell).streams
    install 0 { place := .pipe p, readable := true }
    let right ← ensuring second (setShell fun s => { s with streams })
    let m ← get
    if (m.pipes.lookup p).any (·.starved) && !more.isEmpty then
      set start
      feed d first second more
    else
      set { m with clock := max m.clock leftClock, pipes := m.pipes.filter (·.1 != p) }
      match left with
      | some e =>
        let _ ← reap e
        return right
      | none =>
        hang
        return right

/-- A script on a machine. -/
def exec (d : Deeper) (course : Course) (script : Script) : Act Unit := do
  if (← isOn "n") && !(← isOn "i") then
    return
  if !course.piped then runTraps d
  match script with
  | .nothing => return
  | .simple line assigned ws rs =>
    execSimple d course line assigned ws rs
    runTraps d
    check course
  | .pipe first rest =>
    let inner : Course := { last := true, tested := course.tested }
    let second : Act Ended :=
      if rest matches .pipe _ _ then do
        exec d { inner with piped := true } rest
        return .exited (← shell).status
      else inChild d (exec d inner rest)
    let e ← feed d (exec d inner first) second pipeLimits
    let status ← reap e
    setShell fun s => { s with status }
    if !course.piped then
      runTraps d
      check course
  | .both first second =>
    exec d { tested := true } first
    if (← shell).status == 0 && (← shell).skip.isNone then exec d course second
  | .either first second =>
    exec d { tested := true } first
    if (← shell).status != 0 && (← shell).skip.isNone then exec d course second
  | .seq first second =>
    exec d { tested := course.tested } first
    if (← shell).skip.isNone then exec d course second
  | .background _ body =>
    startJob body
    runTraps d
  | .negated body =>
    exec d { tested := true } body
    if (← shell).skip.isNone then
      setShell fun s => { s with status := if s.status == 0 then 1 else 0 }
    runTraps d
  | .enclosed line body rs =>
    setShell fun s => { s with line }
    let targets ← rs.mapM (Redirect.target d)
    let inner : Act Unit := do
      targets.forM Target.apply
      exec d { last := true, tested := course.tested } body
    if course.last && !(← hasTraps) then
      inner
      throw .exit
    else
      let clock := (← get).clock
      let e ← inChild d inner
      if clock < (← get).clock then settle d
      let status ← reap e
      setShell fun s => { s with status }
    runTraps d
    check course
  | .redirected line body rs =>
    setShell fun s => { s with line }
    let good ← redirected d rs (exec d { tested := course.tested } body)
    runTraps d
    if !good then check course
  | .cond test yes no =>
    exec d { tested := true } test
    if (← shell).skip.isNone then
      if (← shell).status == 0 then exec d course yes
      else
        if no matches .nothing then setShell fun s => { s with status := 0 }
        exec d course no
    runTraps d
  | .loop whileFails test body =>
    looping (turns (do
        exec d { tested := true } test
        return ((← shell).status == 0) != whileFails)
      (exec d { tested := course.tested } body) turnLimit 0)
    runTraps d
  | .each line name ws body =>
    setShell fun s => { s with line }
    let fields ← expandWords (expander d) ws
    looping (turnsOver name (exec d { tested := course.tested } body) fields 0)
    runTraps d
  | .choose line subject choices =>
    setShell fun s => { s with line }
    let s ← expandText (expander d) subject
    execChoices s choices
    runTraps d
  | .define name body =>
    setShell fun s => { s with
      functions := (name, body) :: s.functions.filter (·.1 != name), status := 0 }
where
  /-- The first of the choices of which a pattern matches. -/
  execChoices (s : Raw) : Choices → Act Unit
    | .none => setShell fun s => { s with status := 0 }
    | .more patterns body rest => do
      let mut hit := false
      for p in patterns do
        if !hit then
          let pattern ← expandPattern (expander d) p
          hit := Pattern.accepts (Pattern.read pattern) s
      if hit then
        if body matches .nothing then setShell fun s => { s with status := 0 }
        exec d course body
      else execChoices s rest

/-! ## Texts -/

/-- The commands of a source one after the other, and the status of the last one. The number bounds them. -/
def runSource (d : Deeper) (course : Course) : Nat → Source → (status : Nat) → Act Nat
  | 0, _, status => return status
  | n + 1, source, status => do
    let aliases := (← shell).aliases
    match Script.next { source with aliases } with
    | .error e =>
      setShell fun s => { s with line := e.line }
      fault e.fault.message
    | .ok (none, _) => return status
    | .ok (some (script, ends), source) =>
      exec d { course with last := course.last && ends } script
      let s ← shell
      let status := if script matches .nothing then status else s.status
      if s.skip.isSome then return status
      runSource d course n source status

/-- Runs a text. -/
def runText (d : Deeper) (course : Course) (text : Raw) : Act Unit := do
  let status ← runSource d course (text.length + 1) (Source.ofRaw text 1 []) 0
  setShell fun s => { s with status }

/-- What runs scripts that are nested no deeper than the number says. -/
def deeper : Nat → Deeper
  | 0 =>
    { script := fun _ _ => tooDeep
      text := fun _ _ => tooDeep }
  | n + 1 =>
    { script := exec (deeper n)
      text := runText (deeper n) }
where
  /-- The nesting is too deep. -/
  tooDeep : Act Unit := fault (raw "Maximum function recursion depth (1000) reached")

/-- How deep scripts are nested at most. -/
def nestingLimit : Nat := 2500

/-! ## Commands of their own -/

/-- A command that has been run. -/
structure Finished where
  /-- How the command ended; nothing if it was stopped because its time was up. -/
  ended : Option Ended
  stdout : Raw
  stderr : Raw
  tree : FileTree

/-- The output of a stream in the order of time. -/
def Machine.output (m : Machine) (isError : Bool) : Raw :=
  ((m.printed.reverse.filter (·.2.1 == isError)).mergeSort fun a b => a.1 ≤ b.1).flatMap (·.2.2)

/-- Runs a text as the script of the machine's shell, and waits until nothing can be printed any more. What
is still in the background when time is up leaves behind what it has done so far. -/
def runCommand (script : Raw) (m : Machine) : Finished :=
  let d := deeper nestingLimit
  let whole : Act Ended := do
    let e ← toEnd d (d.text { last := true } script)
    drain d fun place => place matches .console _
    settle d
    return e
  let (result, m) := whole.run m
  let m := match result with
    | .ok _ => m
    | .error _ => (abandon d).run m |>.2
  { ended := result.toOption, stdout := m.output false, stderr := m.output true, tree := m.tree }

end DocAudit.Shell
