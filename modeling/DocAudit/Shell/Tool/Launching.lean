import DocAudit.Shell.Builtins
import DocAudit.Shell.Options

/-!
# Running other programs

## Contents

* `env`, `printenv`: the variables of programs
* `sleepTool`, `timeout`: time
* `nohup`, `nice`, `setsid`: programs that are run with something changed
* `which`: where programs are
-/

namespace DocAudit.Shell.Tool

open Text Act

/-! ## Variables -/

/-- How `env` runs a program. -/
structure EnvPlan where
  fresh : Bool := false
  without : List Raw := []
  dir : Option Raw := none
  ending : Char := '\n'
  wordy : Bool := false
  split : Option Raw := none

/-- The variables that programs see, as lines. -/
def variableText (ending : Char) : Act Raw := do
  return ((← shell).vars.filter (·.2.exported)).flatMap fun (name, v) =>
    name ++ '=' :: v.value.getD [] ++ [ending]

/-- A word of a text that is split, and the words so far. The number bounds the characters. -/
def splitWords : Nat → (word : Option Raw) → (quote : Option Char) → Raw → Except Raw (List Raw)
  | 0, _, _, _ => .ok []
  | n + 1, word, quote, s =>
    let soFar := word.getD []
    let done : List Raw := word.toList
    match s, quote with
    | [], some _ => .error (raw "no terminating quote in -S string")
    | [], none => .ok done
    | '\\' :: c :: rest, quote =>
      let simple (d : Char) : Except Raw (List Raw) := splitWords n (some (soFar ++ [d])) quote rest
      if quote == some '\'' && c != '\\' && c != '\'' then
        splitWords n (some (soFar ++ ['\\', c])) quote rest
      else match c with
        | 'n' => simple '\n'
        | 't' => simple '\t'
        | 'r' => simple '\r'
        | 'f' => simple '\x0c'
        | 'v' => simple '\x0b'
        | '_' =>
          if quote.isSome then simple ' '
          else (splitWords n none none rest).map (done ++ ·)
        | 'c' => if quote.isSome then .error (raw "'\\c' must not appear in double-quoted -S string")
          else .ok done
        | c =>
          if "\"#$'\\".toList.contains c then simple c
          else .error (raw "invalid sequence '\\" ++ [c, '\''] ++ raw " in -S")
    | '\\' :: [], _ => .error (raw "invalid backslash at end of string in -S")
    | c :: rest, some q =>
      if c == q then splitWords n (some soFar) none rest
      else splitWords n (some (soFar ++ [c])) quote rest
    | c :: rest, none =>
      if c == '"' || c == '\'' then splitWords n (some soFar) (some c) rest
      else if Raw.isSpace c then (splitWords n none none rest).map (done ++ ·)
      else if c == '#' && word.isNone then .ok done
      else splitWords n (some (soFar ++ [c])) none rest

/-- Runs a program with other variables, or shows them. -/
def env (launcher : Launcher) : Tool := fun args => do
  let read (args : List Raw) (v : EnvPlan) : Act (EnvPlan × List Raw) :=
    optionsOf ("i/ignore-environment 0/null u/unset= C/chdir= S/split-string= v/debug /block-signal% " ++
        "/default-signal% /ignore-signal% /list-signal-handling") 125 true args v fun v key value =>
        return match key with
      | "i" => { v with fresh := true }
      | "0" => { v with ending := '\x00' }
      | "u" => { v with without := v.without ++ [value] }
      | "C" => { v with dir := some value }
      | "S" => { v with split := some value }
      | "v" => { v with wordy := true }
      | _ => v
  let (first, words) ← read args {}
  let (v, words) ← match first.split with
    | none => pure (first, words)
    | some s => match splitWords (s.length + 1) none none s with
      | .ok more => read (more ++ words) { first with split := none }
      | .error message => giveUp 125 message
  let (v, words) : EnvPlan × List Raw := match words with
    | ['-'] :: rest => ({ v with fresh := true }, rest)
    | words => (v, words)
  if v.fresh then setShell fun s => { s with vars := s.vars.filter fun x => !x.2.exported }
  for name in v.without do
    if name.isEmpty || name.contains '=' then
      giveUp 125 (raw "cannot unset " ++ Quoted.between name ++ raw ": " ++ FileFault.invalid.message)
    setShell fun s => { s with vars := s.vars.filter (·.1 != name) }
  let given := words.takeWhile (·.contains '=')
  for word in given do
    let (name, value) := namedValue word
    if v.wordy then let _ ← complain 0 (raw "setenv:   " ++ word)
    setVariable name { value := some (value.getD []), exported := true }
  let program := words.drop given.length
  match program with
  | [] =>
    if v.dir.isSome then misuse 125 (raw "must specify command with --chdir (-C)")
    say (← variableText v.ending)
    return 0
  | name :: args =>
    if v.ending == '\x00' then misuse 125 (raw "cannot specify --null (-0) with command")
    if let some dir := v.dir then
      match ← stat dir with
      | .ok (place, .dir) => setShell fun s => { s with place, cwd := pathOf place }
      | .ok _ =>
        giveUp 125 (raw "cannot change directory to " ++ Quoted.always dir ++ raw ": " ++
          FileFault.notDir.message)
      | .error f => giveUp 125 (raw "cannot change directory to " ++ Quoted.always dir ++ raw ": " ++
        f.message)
    if v.wordy then
      let _ ← complain 0 (raw "executing: " ++ name)
      for (arg, i) in program.zipIdx do
        let _ ← complain 0 (raw "   arg[" ++ ofNat i ++ raw "]= " ++ Quoted.between arg)
    let tool := (← shell).name
    match ← launcher.become (name :: args) with
    | .ok status => return status
    | .error f => complain (launchStatus f) (tool ++ raw ": " ++ Quoted.between name ++ raw ": " ++ f.message)

/-- Shows variables. -/
def printenv : Tool := fun args => do
  let (ending, names) ← optionsOf "0/null" 2 true args '\n' fun _ _ _ => return '\x00'
  if names.isEmpty then
    say (← variableText ending)
    return 0
  let mut status := 0
  for name in names do
    match (← shell).vars.lookup name with
    | some { value := some value, exported := true, .. } => say (value ++ [ending])
    | _ => status := 1
  return status

/-! ## Time -/

/-- The milliseconds of a number with a letter for its unit. -/
def interval? (s : Raw) : Option Nat := do
  let (x, rest) ← leadingFloat? s
  let factor ← match rest with
    | [] => some 1.0
    | ['s'] => some 1.0
    | ['m'] => some 60.0
    | ['h'] => some 3600.0
    | ['d'] => some 86400.0
    | _ => none
  if x ≥ 0.0 then
    let millis := x * factor * 1000.0
    return if millis ≥ 1000000000000.0 then 1000000000000 else millis.ceil.toUInt64.toNat
  else none

/-- The complaint about something that is no interval. -/
def badInterval (s : Raw) : Act Unit := grumble (raw "invalid time interval " ++ Quoted.between s)

/-- Waits. -/
def sleepTool : Tool := fun args => do
  let (_, operands) ← optionsOf "" 1 true args () fun _ _ _ => return ()
  if operands.isEmpty then missingOperand
  let mut total := 0
  let mut good := true
  for s in operands do
    match interval? s with
    | some n => total := total + n
    | none =>
      badInterval s
      good := false
  if !good then hint 1
  Act.sleep total
  return 0

/-- How a program is stopped when its time is up. -/
structure Stopping where
  signal : Nat := 15
  keepStatus : Bool := false
  wordy : Bool := false

/-- Runs a program for some time. -/
def timeout (launcher : Launcher) : Tool := fun args => do
  let checked (s : Raw) : Act Nat := do
    match interval? s with
    | some n => return n
    | none =>
      badInterval s
      hint 125
  let (v, operands) ← optionsOf "f/foreground k/kill-after= p/preserve-status s/signal= v/verbose" 125 true
    args ({} : Stopping) fun v key value => do
      match key with
      | "p" => return { v with keepStatus := true }
      | "v" => return { v with wordy := true }
      | "s" =>
        match signal? value with
        | some signal => return { v with signal }
        | none => misuse 125 (Quoted.between value ++ raw ": invalid signal")
      | "k" =>
        let _ ← checked value
        return v
      | _ => return v
  match operands with
  | time :: name :: args =>
    let millis ← checked time
    let tool := (← shell).name
    let m ← get
    let whole := m.limit
    let limit := if millis == 0 then whole else min whole (m.clock + millis)
    let s ← shell
    set { m with limit }
    let result ← Act.caught (launcher.spawn (name :: args))
    modify fun m => { m with limit := whole }
    match result with
    | .ok (.error f) =>
      complain (launchStatus f)
        (tool ++ raw ": failed to run command " ++ Quoted.between name ++ raw ": " ++ f.message)
    | .ok (.ok (.exited status)) => return status
    | .ok (.ok (.killed signal)) => throw (.killed signal)
    | .error .timedOut =>
      if limit == whole then throw .timedOut
      setShell fun _ => s
      let names := signalNames.map String.toList
      if v.wordy then
        let _ ← complain 0 (tool ++ raw ": sending signal " ++ names.getD v.signal [] ++ raw " to command " ++
          Quoted.between name)
      if v.signal == 9 then throw (.killed 9)
      return if v.keepStatus then 128 + v.signal else 124
    | .error stop => throw stop
  | _ => hint 125

/-! ## Programs with something changed -/

/-- Runs a program that goes on when its terminal is gone. -/
def nohup (launcher : Launcher) : Tool := fun args => do
  let (_, words) ← optionsOf "" 125 true args () fun _ _ _ => return ()
  match words with
  | [] => misuse 125 (raw "missing operand")
  | name :: args =>
    let tool := (← shell).name
    match ← launcher.become (name :: args) with
    | .ok status => return status
    | .error f =>
      complain (launchStatus f) (tool ++ raw ": failed to run command " ++ Quoted.always name ++ raw ": " ++
        f.message)

/-- Arguments of which the first ones may be adjustments in the old form. -/
def newAdjustments : List Raw → List Raw
  | ('-' :: s) :: rest =>
    let digits := if s.head? == some '-' || s.head? == some '+' then s.drop 1 else s
    if digits.head?.any Char.isDigit then raw "-n" :: s :: newAdjustments rest
    else if s == ['n'] then match rest with
      | value :: rest => ['-', 'n'] :: value :: newAdjustments rest
      | [] => [['-', 'n']]
    else ('-' :: s) :: rest
  | args => args

/-- Runs a program that gives way to others, or shows how much it does. -/
def nice (launcher : Launcher) : Tool := fun args => do
  let (adjustment, words) ← optionsOf "n/adjustment=" 125 true (newAdjustments args) none
    fun _ _ value => return some value
  match adjustment with
  | some s => if (Raw.int? s).isNone then giveUp 125 (raw "invalid adjustment " ++ Quoted.between s)
  | none => pure ()
  match words with
  | [] =>
    if adjustment.isSome then misuse 125 (raw "a command must be given with an adjustment")
    say (raw "0\n")
    return 0
  | name :: args =>
    let tool := (← shell).name
    match ← launcher.become (name :: args) with
    | .ok status => return status
    | .error f => complain (launchStatus f) (tool ++ raw ": " ++ Quoted.between name ++ raw ": " ++ f.message)

/-- Runs a program in a session of its own. -/
def setsid (launcher : Launcher) : Tool := fun args => do
  let (_, words) ← optionsOf "c/ctty f/fork w/wait" 1 true args () fun _ _ _ => return ()
  match words with
  | [] => misuse 1 (raw "no command specified")
  | name :: args =>
    let tool := (← shell).name
    match ← launcher.become (name :: args) with
    | .ok status => return status
    | .error f =>
      complain (launchStatus f) (tool ++ raw ": failed to execute " ++ name ++ raw ": " ++ f.message)

/-! ## Places of programs -/

/-- The paths of programs of a name in directories. -/
def programPaths (name : Raw) (dirs : List Raw) : Act (List Raw) := do
  let m ← get
  return dirs.filterMap fun dir =>
    let path := if dir.isEmpty then raw "./" ++ name else dir ++ '/' :: name
    match Disk.stat m.tree m.shell.place path with
    | .ok (_, .program) => some path
    | .ok (names, .file _) => if Disk.isExecutable m.tree names then some path else none
    | _ => none

/-- Shows where programs are. -/
def which : Tool := fun args => do
  let isOption (s : Raw) : Bool := s.head? == some '-' && 1 < s.length
  let letters := ((args.takeWhile isOption).filter (· != raw "--")).flatMap (·.drop 1)
  let names := args.dropWhile isOption
  match letters.find? fun c => c != 'a' && c != 's' with
  | some c =>
    let _ ← write 2 (raw "Illegal option -" ++ [c, '\n'])
    say (raw "Usage: /usr/bin/which [-as] args\n")
    return 2
  | none => pure ()
  if names.isEmpty then return 1
  let path := splitAt ':' ((← value? (raw "PATH")).getD [])
  let mut status := 0
  for name in names do
    let found ← if name.contains '/' then
        match ← stat name with
        | .ok (_, .program) => pure [name]
        | .ok (names, .file _) => pure (if Disk.isExecutable (← tree) names then [name] else [])
        | _ => pure []
      else if name.isEmpty then pure []
      else programPaths name path
    if found.isEmpty then status := 1
    if !letters.contains 's' then
      say ((if letters.contains 'a' then found else found.take 1).flatMap fun p => p ++ ['\n'])
  return status

end DocAudit.Shell.Tool
