import DocAudit.Shell.Process
import DocAudit.Shell.Tools

/-!
# Programs

## Contents

* `ShellStart`, `runShell`: shells that are started
* `launchFault?`, `runProgram`, `become`: programs by their paths
-/

namespace DocAudit.Shell

open Text Act

/-! ## Programs -/

/-- The settings and parameters of a shell that is started with arguments. -/
structure ShellStart where
  modes : List Raw := []
  script : Option Raw := none
  fromInput : Bool := false
  args : List Raw := []

/-- A setting turned on or off. -/
def ShellStart.setMode (s : ShellStart) (mode : Raw) (on : Bool) : ShellStart :=
  let others := s.modes.filter (· != mode)
  { s with modes := if on then mode :: others else others }

/-- The arguments of a shell that is started: its options, and what is left. -/
def ShellStart.read : Nat → ShellStart → List Raw → Act ShellStart
  | 0, s, _ => return s
  | n + 1, s, args => do
    let letters (on : Bool) (cs : Raw) (rest : List Raw) : Act ShellStart := do
      let mut soFar := s
      let mut rest := rest
      for c in cs do
        if c == 'o' then
          match rest with
          | name :: more =>
            rest := more
            match modeNames.find? fun (n, _) => n.toList == name with
            | some (_, l) => soFar := soFar.setMode l.toList on
            | none => bad (raw "Illegal option -o " ++ name)
          | [] => rest := []
        else if c == 's' then soFar := { soFar.setMode [c] on with fromInput := true }
        else if modeLetters.contains c then soFar := soFar.setMode [c] on
        else if c != 'c' && c != 'l' then bad (raw "Illegal option -" ++ [c])
      let start ← ShellStart.read n soFar rest
      if !cs.contains 'c' then return start
      match start.args with
      | script :: args => return { start with script := some script, args }
      | [] => bad (raw "-c requires an argument")
    match args with
    | ['-'] :: rest => return { s with args := rest }
    | ['-', '-'] :: rest => return { s with args := rest }
    | ('-' :: cs) :: rest => letters true cs rest
    | ('+' :: cs) :: rest => letters false cs rest
    | args => return { s with args }
where
  /-- The shell does not start. -/
  bad {α : Type} (s : Raw) : Act α := do
    setShell fun sh => { sh with line := 0 }
    fault s

/-- The directories in which programs are looked for if nobody tells. -/
def usualPath : Raw := raw "/usr/local/sbin:/usr/local/bin:/usr/sbin:/usr/bin:/sbin:/bin"

/-- The variables with which a shell begins: those that were given to it, and its own. -/
def startingVariables (cwd : Raw) (given : List (Raw × Variable)) : List (Raw × Variable) :=
  let own : List (Raw × Raw × Bool) :=
    [(raw "IFS", usualSeparators, false), (raw "OPTIND", ['1'], false), (raw "PATH", usualPath, false),
      (raw "PS1", raw "# ", false), (raw "PS2", raw "> ", false), (raw "PS4", raw "+ ", false),
      (raw "PPID", ['1'], false), (raw "PWD", cwd, true)]
  own.foldl (fun vs (n, v, exported) =>
    let old : Variable := (vs.lookup n).getD {}
    let kept := n == raw "PATH" || n == raw "PS1" || n == raw "PS2" || n == raw "PS4"
    let value := if kept then old.value.getD v else v
    withVariable n { value := some value, exported := exported || old.exported } vs) given

/-- Runs a shell with its name and arguments in the process at work. -/
def runShell (d : Deeper) (name : Raw) (args : List Raw) : Act Nat := do
  let old ← shell
  setShell fun s => { s with
    vars := startingVariables s.cwd (s.vars.filter (·.2.exported)), functions := [], aliases := [],
      modes := [], params := []
    name, known := s.pid, line := 1, status := 0, command := none, loops := 0, calls := 0
    scopes := [], skip := none, background := none, hashed := [], option := (1, 0), kept := none }
  let body : Act Unit := do
    let start ← ShellStart.read (args.length + 1) {} args
    setShell fun s => { s with line := 0 }
    for mode in start.modes.reverse do
      setMode mode true
    setShell fun s => { s with line := 1 }
    match start.script with
    | some script =>
      setShell fun s => { s with name := start.args.headD name, params := start.args.drop 1 }
      d.text { last := true } script
    | none =>
      match if start.fromInput then [] else start.args with
      | file :: params =>
        match ← content file false with
        | .ok script =>
          setShell fun s => { s with name := file, params }
          d.text {} script
        | .error f =>
          setShell fun s => { s with line := 0 }
          fault (raw "cannot open " ++ file ++ raw ": " ++ openFault .read f)
      | [] =>
        setShell fun s => { s with params := start.args }
        match ← readAll 0 with
        | .ok script => d.text {} script
        | .error _ => return
  let e ← ensuring (toEnd d body) (setShell fun s => { old with status := s.status })
  match e with
  | .exited n => return n
  | .killed signal => throw (.killed signal)

/-- The program and the argument in the first line of a script. -/
def interpreter? (script : Raw) : Option (Raw × List Raw) :=
  match script with
  | '#' :: '!' :: rest =>
    let line := trim (fun c => c == ' ' || c == '\t') (rest.takeWhile (· != '\n'))
    let program := line.takeWhile fun c => c != ' ' && c != '\t'
    let arg := trim (fun c => c == ' ' || c == '\t') (line.drop program.length)
    some (program, if arg.isEmpty then [] else [arg])
  | _ => none

/-- The names of shells. -/
def shellNames : List Text := ["sh".toList, "dash".toList, "bash".toList]

/-- How many programs run each other at most. -/
def programLimit : Nat := 50

/-- Why the program at a path cannot be run. The number bounds how many programs run each other. -/
def launchFault? : Nat → (path : Raw) → Act (Option FileFault)
  | 0, _ => return some .tooManyLinks
  | n + 1, path => do
    match ← stat path with
    | .error f => return some f
    | .ok (_, .program) => return none
    | .ok (names, .file script) =>
      if !Disk.isExecutable (← tree) names then return some .denied
      match interpreter? script with
      | some (program, _) => if program.isEmpty then return none else launchFault? n program
      | none => return none
    | .ok _ => return some .denied

/-- Runs the program at a path with a name and arguments in the process at work. The number bounds how many
programs run each other. -/
def runProgram (d : Deeper) : Nat → (path name : Raw) → List Raw → Act (Except FileFault Nat)
  | 0, _, _, _ => return .error .tooManyLinks
  | n + 1, path, name, args => do
    let start (name : Raw) (path : Raw) (args : List Raw) : Act (Except FileFault Nat) :=
      runProgram d n path name args
    let found (words : List Raw) : Act (Except FileFault (Raw × Raw × List Raw)) := do
      let name := words.headD []
      if name.isEmpty then return .error .noEntry
      let dirs := splitAt ':' ((← value? (raw "PATH")).getD (raw "/bin:/usr/bin"))
      let m ← get
      match if name.contains '/' then .ok name else searchIn m.tree m.shell.place name .noEntry dirs with
      | .error f => return .error f
      | .ok path => return match ← launchFault? programLimit path with
        | some f => .error f
        | none => .ok (path, name, words.drop 1)
    let launcher : Launcher := {
      become := fun words => do
        match ← found words with
        | .error f => return .error f
        | .ok (path, name, args) => start name path args
      spawn := fun words => do
        match ← found words with
        | .error f => return .error f
        | .ok (path, name, args) => return .ok (← inChild d do
            if let .ok status ← start name path args then setShell fun s => { s with status }) }
    match ← stat path with
    | .error f => return .error f
    | .ok (names, .program) =>
      let base := names.getLastD []
      if shellNames.contains base then return .ok (← runShell d name args)
      match tool? launcher (Raw.ofText base) with
      | some tool =>
        setShell fun s => { s with name, failed := none, skip := none }
        return .ok (← finished (Raw.ofText base) (tool args))
      | none => return .ok 0
    | .ok (names, .file script) =>
      if !Disk.isExecutable (← tree) names then return .error .denied
      match interpreter? script with
      | some (program, more) =>
        if program.isEmpty then return .ok (← runShell d name (path :: args))
        start program program (more ++ path :: args)
      | none => return .ok (← runShell d name (path :: args))
    | .ok _ => return .error .denied
where
  /-- A tool to its end, at which output that could not be written is reported. -/
  finished (base : Raw) (tool : Act Nat) : Act Nat := do
    let status ← tool
    match (← shell).failed with
    | none => return status
    | some f =>
      grumble (raw "write error: " ++ f.message)
      return if [raw "ls", raw "sort", raw "grep", raw "cmp", raw "diff", raw "tty", raw "printenv",
        raw "test", raw "expr"].contains base then 2 else 1

/-- The place of a variable among those that other programs see. -/
def variableOrder (name : Raw) : Nat :=
  (16 * ((name.head?.map Char.toNat).getD 0) + totalOf (name.map Char.toNat)) % 39

/-- Runs a program in the process at work, which ends with it. -/
def become (d : Deeper) (path name : Raw) (args : List Raw) : Act Unit := do
  let before ← shell
  setShell fun s => { s with
    traps := s.traps.filter (·.2.isEmpty)
    vars := (s.vars.filter (·.2.exported)).mergeSort fun a b => variableOrder a.1 ≤ variableOrder b.1 }
  match ← runProgram d programLimit path name args with
  | .ok status => setShell fun s => { s with status }
  | .error f =>
    setShell fun _ => before
    let status := if f == .noEntry || f == .notDir then 127 else 126
    warn (name ++ raw ": " ++ programFault f)
    setShell fun s => { s with status }

end DocAudit.Shell
