import DocAudit.Shell.Expansion
import DocAudit.Shell.Format

/-!
# Commands that change the shell

Commands that no program could be, since they change the shell that runs them: its directory, its variables,
its settings, and how it goes on.

## Contents

* `builtinNames`, `isBuiltin`, `search`, `describe`: what a name stands for
* `quoteOnce`: a text in quotes
* `shellOptions`: the options of such a command
* `exitWith`, `leave`, `returnWith`, `shift`: how the shell goes on
* `cd`, `pwd`, `umask`
* `mark`, `unsetNames`, `localVars`, `read`, `getopts`: variables
* `setModes`, `trap`, `aliasWith`, `unaliasWith`: settings
* `echo`, `printf`: output
-/

namespace DocAudit.Shell

open Text Act

/-! ## What commands are

A name in front of a command may be a word of the language, an alias, a function, a command of the shell
itself, or a program in one of the directories that `PATH` lists. -/

/-- The commands of the shell itself. -/
def builtinNames : List Raw :=
  [".", ":", "[", "alias", "bg", "break", "cd", "chdir", "command", "continue", "echo", "eval", "exec",
    "exit", "export", "false", "fg", "getopts", "hash", "jobs", "kill", "local", "printf", "pwd", "read",
    "readonly", "return", "set", "shift", "test", "times", "trap", "true", "type", "ulimit", "umask",
    "unalias", "unset", "wait"].map String.toList

/-- The name is a command of the shell itself. -/
def isBuiltin (name : Raw) : Bool := builtinNames.contains name

/-- Commands of the shell whose arguments may be assignments. -/
def takesAssignments (name : Raw) : Bool :=
  (["alias", "export", "local", "readonly"].map String.toList).contains name

/-- Why a program cannot be run, in words. -/
def programFault (f : FileFault) : Raw :=
  match f with
  | .noEntry => raw "not found"
  | .notDir => raw "not found"
  | f => f.message

/-- The path of the program of a name in the directories that are left. -/
def searchIn (t : FileTree) (cwd : List Text) (name : Raw) : FileFault → List Raw → Except FileFault Raw
  | fault, [] => .error fault
  | fault, dir :: rest =>
    let path := if dir.isEmpty then name else dir ++ '/' :: name
    match Disk.stat t cwd path with
    | .error .noEntry => searchIn t cwd name fault rest
    | .error .notDir => searchIn t cwd name fault rest
    | .error f => searchIn t cwd name f rest
    | .ok (_, .program) => .ok path
    | .ok (names, .file _) =>
      if Disk.isExecutable t names then .ok path else searchIn t cwd name .denied rest
    | .ok _ => searchIn t cwd name .denied rest

/-- The path of the program of a name. One that was found is kept in mind. -/
def search (name : Raw) : Act (Except FileFault Raw) := do
  let m ← get
  match m.shell.hashed.lookup name with
  | some path => return .ok path
  | none =>
    let dirs := splitAt ':' ((← value? (raw "PATH")).getD [])
    match searchIn m.tree m.shell.place name .noEntry dirs with
    | .ok path =>
      setShell fun s => { s with hashed := (name, path) :: s.hashed }
      return .ok path
    | .error f => return .error f

/-- A text in quotes, as a shell reads it back. The number bounds the length. -/
def quotePieces : Nat → Raw → Raw
  | 0, _ => []
  | n + 1, s =>
    let plain := s.takeWhile (· != '\'')
    let rest := s.drop plain.length
    let marks := rest.takeWhile (· == '\'')
    let rest := rest.drop marks.length
    let piece := '\'' :: plain ++ ['\'']
    if marks.isEmpty then piece
    else if rest.isEmpty then piece ++ '"' :: marks ++ ['"']
    else piece ++ '"' :: marks ++ '"' :: quotePieces n rest

/-- A text in quotes, as a shell reads it back. -/
def quoteOnce (s : Raw) : Raw := quotePieces (s.length + 1) s

/-- What a name stands for: in words, or as something that can be run. -/
def describe (name : Raw) (wordy : Bool) : Act Nat := do
  let s ← shell
  let show_ (long short : Raw) : Act Nat := do
    say ((if wordy then name ++ long else short) ++ ['\n'])
    return 0
  if reservedWords.contains name then show_ (raw " is a shell keyword") name
  else match s.aliases.lookup name with
    | some v => show_ (raw " is an alias for " ++ v) (raw "alias " ++ name ++ '=' :: quoteOnce v)
    | none =>
      if isSpecialCommand name then show_ (raw " is a special shell builtin") name
      else if (s.functions.lookup name).isSome then show_ (raw " is a shell function") name
      else if isBuiltin name then show_ (raw " is a shell builtin") name
      else if name.contains '/' then
        if (← stat name).toBool then show_ (raw " is " ++ name) name else missing
      else
        let known := (s.hashed.lookup name).isSome
        match ← search name with
        | .ok path =>
          show_ (raw (if known then " is a tracked alias for " else " is ") ++ path) path
        | .error _ => missing
where
  /-- Nothing is known by the name. -/
  missing : Act Nat := do
    if wordy then say (name ++ raw ": not found\n")
    return 127

/-! ## Arguments -/

/-- The options among which a command of the shell knows the letters of `known`; one with a colon behind it
takes a value. The number bounds the letters. -/
def shellOptionsFrom (known : Raw) : Nat → List (Char × Raw) → List Raw → Act (List (Char × Raw) × List Raw)
  | 0, found, args => return (found.reverse, args)
  | n + 1, found, args => do
    match args with
    | ['-', '-'] :: rest => return (found.reverse, rest)
    | ('-' :: c :: letters) :: rest =>
      let after := if known.contains c && c != ':' then (known.dropWhile (· != c)).drop 1 else []
      if !known.contains c || c == ':' then fault (raw "Illegal option -" ++ [c])
      else if after.head? == some ':' then
        match letters, rest with
        | [], [] => fault (raw "No arg for -" ++ c :: raw " option")
        | [], value :: rest => shellOptionsFrom known n ((c, value) :: found) rest
        | value, rest => shellOptionsFrom known n ((c, value) :: found) rest
      else if letters.isEmpty then shellOptionsFrom known n ((c, []) :: found) rest
      else shellOptionsFrom known n ((c, []) :: found) (('-' :: letters) :: rest)
    | args => return (found.reverse, args)

/-- The options of a command of the shell, and its other arguments. -/
def shellOptions (known : String) (args : List Raw) : Act (List (Char × Raw) × List Raw) :=
  shellOptionsFrom known.toList (totalOf (args.map (·.length)) + 1) [] args

/-- A number that an argument writes. -/
def numberArg (s : Raw) : Act Nat := do
  match Number.number? 10 s with
  | some n => if n < 0 || 2147483647 < n then fault (raw "Illegal number: " ++ s) else return n.toNat
  | none => fault (raw "Illegal number: " ++ s)

/-! ## How the shell goes on -/

/-- The shell exits. -/
def exitWith : Tool := fun args => do
  match args with
  | [] =>
    let s ← shell
    exit (s.kept.getD s.status)
  | arg :: _ => exit (← numberArg arg)

/-- The function or the file is left. -/
def returnWith : Tool := fun args => do
  let status ← match args with
    | [] => pure (← shell).status
    | arg :: _ => numberArg arg
  setShell fun s => { s with skip := some .back }
  return status

/-- Loops are left, as many as the argument says. -/
def leave (how : Nat → Skip) : Tool := fun args => do
  let n ← match args with
    | [] => pure 1
    | arg :: _ =>
      let n ← numberArg arg
      if n == 0 then fault (raw "Illegal number: " ++ arg)
      pure n
  let n := min n (← shell).loops
  if n != 0 then setShell fun s => { s with skip := some (how n) }
  return 0

/-- Drops parameters. -/
def shift : Tool := fun args => do
  let n ← match args with
    | [] => pure 1
    | arg :: _ => numberArg arg
  if n > (← shell).params.length then fault (raw "can't shift that many")
  setShell fun s => { s with params := s.params.drop n, option := (1, 0) }
  return 0

/-! ## Directories -/

/-- The path of a directory that is reached from another one by a path, name by name. -/
def joinedPath (cwd path : Raw) : Raw :=
  let start := if path.head? == some '/' then [] else (splitAt '/' cwd).filter (!·.isEmpty)
  let names := ((splitAt '/' path).filter (!·.isEmpty)).foldl (fun names name =>
    if name == ['.'] then names
    else if name == ['.', '.'] then names.dropLast
    else names ++ [name]) start
  let root : Raw :=
    if ['/', '/'].isPrefixOf path && !(['/', '/', '/'].isPrefixOf path) then ['/', '/'] else ['/']
  root ++ joinWith ['/'] names

/-- The path of a place. -/
def pathOf (names : List Text) : Raw := '/' :: joinWith ['/'] (names.map Raw.ofText)

/-- The shell goes to a directory, if it is one. -/
def enter (path : Raw) (physical : Bool) : Act Bool := do
  let s ← shell
  let logical := joinedPath s.cwd path
  match ← stat (if physical then path else logical) with
  | .ok (names, .dir) =>
    let cwd := if physical then pathOf names else logical
    assign (raw "OLDPWD") s.cwd true
    setShell fun s => { s with cwd, place := names }
    assign (raw "PWD") cwd true
    return true
  | _ => return false

/-- Changes the current directory. -/
def cd : Tool := fun args => do
  let (options, targets) ← shellOptions "LP" args
  let physical := (options.getLast?.map (·.1)) == some 'P'
  let back := targets.head? == some ['-']
  let target ← match targets with
    | [] => pure ((← value? (raw "HOME")).getD [])
    | t :: _ => if back then pure ((← value? (raw "OLDPWD")).getD []) else pure t
  let s ← shell
  let direct := target.head? == some '/' || target == ['.'] || target == ['.', '.'] ||
    (raw "./").isPrefixOf target || (raw "../").isPrefixOf target
  let target' := if target.isEmpty then ['.'] else target
  let listed := (← value? (raw "CDPATH")).getD []
  let dirs := if direct then [] else splitAt ':' listed
  let t ← tree
  let hit := dirs.find? fun dir =>
    !dir.isEmpty && Disk.isDir t s.place (dir ++ '/' :: target')
  let there := match hit with
    | some dir => dir ++ '/' :: target'
    | none => target'
  if !(← enter there physical) then fault (raw "can't cd to " ++ target)
  if back || hit.isSome then say ((← shell).cwd ++ ['\n'])
  return 0

/-- Shows the current directory. -/
def pwd : Tool := fun args => do
  let (options, _) ← shellOptions "LP" args
  let s ← shell
  say ((if (options.getLast?.map (·.1)) == some 'P' then pathOf s.place else s.cwd) ++ ['\n'])
  return 0

/-- The permissions of one kind of user, in letters. -/
def permissionLetters (bits : Nat) : Raw :=
  (if bits &&& 4 != 0 then ['r'] else []) ++ (if bits &&& 2 != 0 then ['w'] else []) ++
    (if bits &&& 1 != 0 then ['x'] else [])

/-- What one permission of a kind of user counts. -/
def userUnit (c : Char) : Nat := if c == 'u' then 64 else if c == 'g' then 8 else 1

/-- Permissions changed by signs and letters for kinds of users. The number bounds the signs. -/
def permissionsBy (units : List Nat) : Nat → Raw → (given : Nat) → Option Nat
  | 0, _, given => some given
  | n + 1, s, given =>
    match s with
    | [] => some given
    | sign :: rest =>
      if !(['+', '-', '='].contains sign) then none
      else
        let letters := rest.takeWhile fun c => !(['+', '-', '='].contains c)
        if !letters.all "rwxXstugo".toList.contains then none
        else
          let bits := letters.foldl (fun bits c => bits ||| (match c with
            | 'r' => 4
            | 'w' => 2
            | 'x' => 1
            | 'X' => if given &&& 0o111 != 0 then 1 else 0
            | c => if "ugo".toList.contains c then given / userUnit c % 8 else 0)) 0
          let changed := units.foldl (fun given unit =>
            let old := given / unit % 8
            let new := if sign == '+' then old ||| bits else if sign == '-' then old - (old &&& bits)
              else bits
            given - old * unit + new * unit) given
          permissionsBy units n (rest.drop letters.length) changed

/-- Shows or sets the permissions that new files do not get. -/
def umask : Tool := fun args => do
  let (options, args) ← shellOptions "S" args
  let mask := (← shell).mask
  match args with
  | [] =>
    if options.isEmpty then say (Raw.padLeft '0' 4 (Nat.toDigits 8 mask) ++ ['\n'])
    else
      let given := 0o777 - mask % 0o1000
      say (raw "u=" ++ permissionLetters (given / 64) ++ raw ",g=" ++ permissionLetters (given / 8 % 8) ++
        raw ",o=" ++ permissionLetters (given % 8) ++ ['\n'])
    return 0
  | arg :: _ =>
    if arg.head?.any Char.isDigit then
      if arg.any fun c => !('0' ≤ c && c ≤ '7') then fault (raw "Illegal number: " ++ arg)
      let mask := arg.foldl (fun n c => 8 * n + (c.toNat - 48)) 0 % 0o1000
      setShell fun s => { s with mask }
      return 0
    else
      let given := 0o777 - mask % 0o1000
      match (splitAt ',' arg).foldlM (fun given clause =>
          let who := clause.takeWhile fun c => "ugoa".toList.contains c
          let who := if who.isEmpty || who.contains 'a' then ['u', 'g', 'o'] else who
          permissionsBy (who.map userUnit) (clause.length + 1)
            (clause.dropWhile fun c => "ugoa".toList.contains c) given) given with
      | some given =>
        setShell fun s => { s with mask := 0o777 - given }
        return 0
      | none => fault (raw "Illegal mode: " ++ arg)

/-! ## Variables -/

/-- The variables that are chosen, in the order of their names, as a shell reads them back. -/
def showVariables (before : String) (chosen : Variable → Bool) : Act Unit := do
  let vars := ((← shell).vars.filter fun v => chosen v.2).mergeSort fun a b => le a.1 b.1
  say (vars.flatMap fun (name, v) =>
    raw before ++ name ++ (match v.value with
      | some value => '=' :: quoteOnce value
      | none => []) ++ ['\n'])

/-- A name and the value behind it, if there is one. -/
def namedValue (arg : Raw) : Raw × Option Raw :=
  match cut '=' arg with
  | some (name, value) => (name, some value)
  | none => (arg, none)

/-- Sets the variables that are given a value, and marks all of them. -/
def mark (command : String) (how : Variable → Variable) (chosen : Variable → Bool) : Tool := fun args => do
  let (options, args) ← shellOptions "p" args
  if args.isEmpty || !options.isEmpty then
    showVariables (command ++ " ") chosen
    return 0
  for arg in args do
    let (name, value) := namedValue arg
    if !isName name then fault (name ++ raw ": bad variable name")
    if let some value := value then assign name value
    setVariable name (how (((← shell).vars.lookup name).getD {}))
  return 0

/-- Removes variables or functions. -/
def unsetNames : Tool := fun args => do
  let (options, names) ← shellOptions "vf" args
  let kind := options.getLast?.map (·.1)
  for name in names do
    if kind == some 'f' then
      setShell fun s => { s with functions := s.functions.filter (·.1 != name) }
    else
      if !isName name then fault (name ++ raw ": bad variable name")
      let s ← shell
      if (s.vars.lookup name).any (·.fixed) then fault (name ++ raw ": is read only")
      setShell fun s => { s with vars := s.vars.filter (·.1 != name) }
      if name == raw "PATH" then setShell fun s => { s with hashed := [] }
  return 0

/-- Gives variables a value until the scope ends. -/
def localVars : Tool := fun args => do
  for arg in args do
    let s ← shell
    match s.scopes with
    | [] => fault (raw "not in a function")
    | here :: outer =>
      let (name, value) := namedValue arg
      if arg == ['-'] then
        let modes := here.modes.getD s.modes
        setShell fun s => { s with scopes := { here with modes } :: outer }
      else
        if !isName name then fault (name ++ raw ": bad variable name")
        let vars := (name, s.vars.lookup name) :: here.vars
        setShell fun s => { s with scopes := { here with vars } :: outer }
        match value with
        | some value => assign name value
        | none => if (s.vars.lookup name).isNone then setVariable name {}
  if (← shell).scopes.isEmpty then fault (raw "not in a function")
  return 0

/-- The variables as they were before. -/
def restore (saved : List (Raw × Option Variable)) : Act Unit :=
  saved.forM fun (name, old) => setShell fun s =>
    let others := s.vars.filter (·.1 != name)
    { s with
      vars := (match old with
        | some v => (name, v) :: others
        | none => others)
      hashed := if name == raw "PATH" then [] else s.hashed }

/-- An action in a scope of its own. -/
def inScope {α : Type} (body : Act α) : Act α := do
  let outer := (← shell).scopes
  setShell fun s => { s with scopes := {} :: s.scopes }
  ensuring body (do
    let here := (← shell).scopes.headD {}
    restore here.vars
    setShell fun s => { s with scopes := outer, modes := here.modes.getD s.modes })

/-- A line as pieces: characters behind a backslash separate nothing. -/
def linePieces (raw_ : Bool) : (run : Raw) → Raw → List Piece
  | run, [] => [{ atoms := atomsOf false run.reverse, cutting := .atSeparators }]
  | run, '\\' :: c :: rest =>
    if raw_ then linePieces raw_ ('\\' :: run) (c :: rest)
    else
      { atoms := atomsOf false run.reverse, cutting := .atSeparators } ::
        { atoms := [.char c true], cutting := .never } :: linePieces raw_ [] rest
  | run, c :: rest =>
    if c == '\\' && !raw_ then linePieces raw_ run rest else linePieces raw_ (c :: run) rest

/-- A line of the standard input, in which a backslash at its end joins it with the next one, and whether
there was a line feed. The number bounds the lines. -/
def readJoined (raw_ : Bool) : Nat → Raw → Act (Raw × Bool)
  | 0, soFar => return (soFar, true)
  | n + 1, soFar => do
    match ← readLine 0 with
    | .error _ => return (soFar, false)
    | .ok (line, ended) =>
      let line := line.filter (· != '\x00')
      let backslashes := (line.reverse.takeWhile (· == '\\')).length
      if !raw_ && ended && backslashes % 2 == 1 then readJoined raw_ n (soFar ++ line.dropLast)
      else return (soFar ++ line, ended)

/-- Reads a line of the standard input into variables. -/
def read : Tool := fun args => do
  let (options, names) ← shellOptions "p:r" args
  if names.isEmpty then fault (raw "arg count")
  let raw_ := options.any (·.1 == 'r')
  let (line, ended) ← readJoined raw_ 100000 []
  let fields := splitPieces (← separators) (some names.length) (linePieces raw_ [] line)
  for (name, i) in names.zipIdx do
    if !isName name then fault (name ++ raw ": bad variable name")
    assign name (((fields[i]?).map textOf).getD [])
  return if ended then 0 else 1

/-- Reads the next option among the parameters into a variable. -/
def getopts : Tool := fun args => do
  let (_, args) ← shellOptions "" args
  match args with
  | letters :: name :: given =>
    let s ← shell
    let params := if given.isEmpty then s.params else given
    let (index, passed) := if params.length + 1 < s.option.1 then (1, 0) else s.option
    let quiet := letters.head? == some ':'
    let set (name value : Raw) : Act Unit := do
      let v := ((← shell).vars.lookup name).getD {}
      if v.fixed then fault (name ++ raw ": is read only")
      setVariable name { v with value := some value }
    let finish (letter : Char) (next : Nat × Nat) (status : Nat) : Act Nat := do
      set (raw "OPTIND") (ofNat next.1)
      setShell fun s => { s with option := next }
      if !isName name then fault (name ++ raw ": bad variable name")
      set name [letter]
      return status
    let left : Raw :=
      if index ≤ 1 || passed == 0 then [] else ((params[index - 2]?).getD []).drop passed
    let start : Option (Raw × Nat × Nat) :=
      if !left.isEmpty then some (left, index, passed)
      else match params[index - 1]? with
        | some ('-' :: c :: r) => if c == '-' && r.isEmpty then none else some (c :: r, index + 1, 1)
        | _ => none
    match start with
    | none =>
      let ended := params[index - 1]? == some ['-', '-']
      finish '?' (if ended then index + 1 else index, 0) 1
    | some ([], _, _) => finish '?' (index, 0) 1
    | some (c :: more, index, passed) =>
      let next : Nat × Nat := (index, if more.isEmpty then 0 else passed + 1)
      let after := letters.dropWhile (· != c)
      if c == ':' || after.isEmpty then
        if quiet then set (raw "OPTARG") [c]
        else
          let _ ← write 2 (raw "Illegal option -" ++ [c, '\n'])
          setShell fun s => { s with vars := s.vars.filter (·.1 != raw "OPTARG") }
        finish '?' next 0
      else if after.drop 1 |>.head? |> (· == some ':') then
        match more, params[index - 1]? with
        | [], none =>
          if quiet then
            set (raw "OPTARG") [c]
            finish ':' (index, 0) 0
          else
            let _ ← write 2 (raw "No arg for -" ++ c :: raw " option\n")
            setShell fun s => { s with vars := s.vars.filter (·.1 != raw "OPTARG") }
            finish '?' (index, 0) 0
        | [], some value =>
          set (raw "OPTARG") value
          finish c (index + 1, 0) 0
        | value, _ =>
          set (raw "OPTARG") value
          finish c (index, 0) 0
      else
        set (raw "OPTARG") []
        finish c next 0
  | _ => fault (raw "Usage: getopts optstring var [arg...]")

/-! ## Settings -/

/-- The names of settings with their letters, in the order in which they are listed. -/
def modeNames : List (String × String) :=
  [("errexit", "e"), ("noglob", "f"), ("ignoreeof", "I"), ("interactive", "i"), ("monitor", "m"),
    ("noexec", "n"), ("stdin", "s"), ("xtrace", "x"), ("verbose", "v"), ("vi", "V"), ("emacs", "E"),
    ("noclobber", "C"), ("allexport", "a"), ("notify", "b"), ("nounset", "u"), ("privileged", "p"),
    ("nolog", "nolog"), ("debug", "debug")]

/-- A setting is put on or off. Without a terminal, jobs cannot be controlled. -/
def setMode (mode : Raw) (on : Bool) : Act Unit := do
  if on && mode == ['m'] then warn (raw "can't access tty; job control turned off")
  else setShell fun s =>
    let others := s.modes.filter (· != mode)
    { s with modes := if on then mode :: others else others }

/-- The letters behind a sign, of which an `o` takes the name of a setting. -/
def setLetters (on : Bool) : Raw → List Raw → Act (List Raw)
  | [], rest => return rest
  | 'o' :: letters, rest => do
    match rest with
    | [] =>
      let modes := (← shell).modes
      if on then say (raw "Current option settings\n")
      say (modeNames.flatMap fun (name, letter) =>
        let isOn := modes.contains letter.toList
        if on then Raw.padRight 16 name.toList ++ raw (if isOn then "on\n" else "off\n")
        else raw (if isOn then "set -o " else "set +o ") ++ name.toList ++ ['\n'])
      setLetters on letters []
    | name :: rest =>
      match modeNames.find? fun (n, _) => n.toList == name with
      | some (_, letter) =>
        setMode letter.toList on
        setLetters on letters rest
      | none => fault (raw "Illegal option -o " ++ name)
  | c :: letters, rest => do
    if !modeLetters.contains c then fault (raw "Illegal option -" ++ [c])
    setMode [c] on
    setLetters on letters rest

/-- The options in front of parameters; nothing when no parameters are meant. The number bounds the
arguments. -/
def setOptions : Nat → List Raw → Act (Option (List Raw))
  | 0, _ => return none
  | n + 1, args => do
    match args with
    | [] => return none
    | ['-'] :: rest =>
      setMode ['x'] false
      setMode ['v'] false
      return if rest.isEmpty then none else some rest
    | ['-', '-'] :: rest => return some rest
    | ('-' :: letters) :: rest => setOptions n (← setLetters true letters rest)
    | ('+' :: letters) :: rest => setOptions n (← setLetters false letters rest)
    | params => return some params

/-- Sets modes and parameters. -/
def setModes : Tool := fun args => do
  if args.isEmpty then
    showVariables "" fun v => v.value.isSome
    return 0
  if let some params ← setOptions (args.length + 1) args then
    setShell fun s => { s with params, option := (1, 0) }
  return 0

/-- The names of signals, by their numbers. -/
def signalNames : List String :=
  ["EXIT", "HUP", "INT", "QUIT", "ILL", "TRAP", "ABRT", "BUS", "FPE", "KILL", "USR1", "SEGV", "USR2",
    "PIPE", "ALRM", "TERM", "STKFLT", "CHLD", "CONT", "STOP", "TSTP", "TTIN", "TTOU", "URG", "XCPU",
    "XFSZ", "VTALRM", "PROF", "WINCH", "IO", "PWR", "SYS"]

/-- The number of signals. -/
def signalCount : Nat := 65

/-- The signal that a text names or numbers. -/
def signal? (s : Raw) : Option Nat :=
  match Raw.nat? s with
  | some n => if n < signalCount then some n else none
  | none => signalNames.findIdx? fun name => name.toList == s.map Char.toUpper

/-- What a signal is called when a process was ended by it. -/
def signalText (n : Nat) : Raw :=
  match n with
  | 1 => raw "Hangup"
  | 2 => raw "Interrupt"
  | 3 => raw "Quit"
  | 4 => raw "Illegal instruction"
  | 5 => raw "Trace/breakpoint trap"
  | 6 => raw "Aborted"
  | 7 => raw "Bus error"
  | 8 => raw "Floating point exception"
  | 9 => raw "Killed"
  | 10 => raw "User defined signal 1"
  | 11 => raw "Segmentation fault"
  | 12 => raw "User defined signal 2"
  | 13 => raw "Broken pipe"
  | 14 => raw "Alarm clock"
  | 15 => raw "Terminated"
  | 16 => raw "Stack fault"
  | 24 => raw "CPU time limit exceeded"
  | 25 => raw "File size limit exceeded"
  | 26 => raw "Virtual timer expired"
  | 27 => raw "Profiling timer expired"
  | 29 => raw "I/O possible"
  | 30 => raw "Power failure"
  | 31 => raw "Bad system call"
  | n => if 34 ≤ n then raw "Real-time signal " ++ ofNat (n - 34) else raw "Unknown signal " ++ ofNat n

/-- Says what is to be done at signals and at the end. -/
def trap : Tool := fun args => do
  let (_, args) ← shellOptions "" args
  let s ← shell
  match args with
  | [] =>
    let shown := s.traps.mergeSort fun a b => a.1 ≤ b.1
    say (shown.flatMap fun (n, action) =>
      raw "trap -- " ++ quoteOnce action ++ ' ' :: ((signalNames[n]?).map String.toList).getD (ofNat n) ++
        ['\n'])
    return 0
  | first :: rest =>
    let (action, names) : Option Raw × List Raw :=
      if rest.isEmpty || (signal? first).isSome then (none, args)
      else (if first == ['-'] then none else some first, rest)
    for name in names do
      match signal? name with
      | none => return ← complain 1 (raw "trap: " ++ name ++ raw ": bad trap")
      | some n =>
        setShell fun s =>
          let others := s.traps.filter (·.1 != n)
          { s with traps := match action with
            | some a => (n, a) :: others
            | none => others }
    return 0

/-- The place of an alias in a list of all. -/
def aliasOrder (name : Raw) : Nat :=
  ((name.headD '\x00').toNat * 16 + totalOf (name.map Char.toNat)) % 39

/-- Sets and shows aliases. -/
def aliasWith : Tool := fun args => do
  let shown (name value : Raw) : Raw := name ++ '=' :: quoteOnce value ++ ['\n']
  if args.isEmpty then
    let all := (← shell).aliases.mergeSort fun a b => aliasOrder a.1 ≤ aliasOrder b.1
    say (all.flatMap fun (n, v) => shown n v)
    return 0
  let mut status := 0
  for arg in args do
    let split := match arg with
      | c :: rest => (cut '=' rest).map fun (name, value) => (c :: name, value)
      | [] => none
    match split with
    | some (name, value) =>
      setShell fun s =>
        if (s.aliases.lookup name).isSome then
          { s with aliases := s.aliases.map fun (n, v) => if n == name then (n, value) else (n, v) }
        else { s with aliases := s.aliases ++ [(name, value)] }
    | none =>
      match (← shell).aliases.lookup arg with
      | some value => say (shown arg value)
      | none => status ← complain 1 (raw "alias: " ++ arg ++ raw " not found")
  return status

/-- Takes aliases back. -/
def unaliasWith : Tool := fun args => do
  let (options, names) ← shellOptions "a" args
  if !options.isEmpty then
    setShell fun s => { s with aliases := [] }
    return 0
  let mut status := 0
  for name in names do
    if ((← shell).aliases.lookup name).isSome then
      setShell fun s => { s with aliases := s.aliases.filter (·.1 != name) }
    else status ← complain 1 (raw "unalias: " ++ name ++ raw " not found")
  return status

/-! ## Printing -/

/-- Prints its arguments. -/
def echo : Tool := fun args => do
  let (quiet, args) := match args with
    | ['-', 'n'] :: rest => (true, rest)
    | args => (false, args)
  let rec pieces : List Raw → Raw
    | [] => if quiet then [] else ['\n']
    | [a] =>
      let (s, ended) := withEscapes a
      if ended || quiet then s else s ++ ['\n']
    | a :: rest =>
      let (s, ended) := withEscapes a
      if ended then s else s ++ ' ' :: pieces rest
  say (pieces args)
  return 0

/-- The arguments that are left for a format, and the status. -/
structure Printing where
  args : List Raw
  status : Nat := 0
  /-- An escape has ended all output. -/
  ended : Bool := false

/-- Printing by a format. -/
abbrev Printer := StateT Printing Act

namespace Printer

/-- Some output. -/
def put (s : Raw) : Printer Unit := say s

/-- The next argument. -/
def next : Printer (Option Raw) := do
  let p ← get
  match p.args with
  | [] => return none
  | a :: rest =>
    set { p with args := rest }
    return some a

/-- A complaint about an argument. -/
def complain (s : Raw) : Printer Unit := do
  warn s
  modify fun p => { p with status := 1 }

/-- The complaint about what was left of a number, or about its size. -/
def check (arg rest : Raw) (tooGreat : Bool) : Printer Unit := do
  if !rest.isEmpty then
    complain (arg ++ raw (if rest == arg then ": expected numeric value" else ": not completely converted"))
  else if tooGreat then complain (arg ++ raw ": Numerical result out of range")

/-- The next argument as a whole number. -/
def number (signed : Bool) : Printer Int := do
  match ← next with
  | none => return 0
  | some ('\'' :: rest) => return ((rest.head?.map Char.toNat).getD 0 : Nat)
  | some ('"' :: rest) => return ((rest.head?.map Char.toNat).getD 0 : Nat)
  | some arg =>
    match Number.leading? 0 arg with
    | none =>
      check arg arg false
      return 0
    | some l =>
      if signed || !l.tooGreat then
        check arg l.rest l.tooGreat
        return l.value
      else
        let digits := (arg.dropWhile Raw.isSpace).filter fun c => c != '+'
        match Raw.nat? (digits.take (digits.length - l.rest.length)) with
        | some n =>
          let great := Nat.pow 2 64 ≤ n
          check arg l.rest great
          return if great then Nat.pow 2 64 - 1 else (n : Int)
        | none =>
          check arg l.rest true
          return Nat.pow 2 64 - 1

/-- The next argument as a number with a point. -/
def float : Printer Float := do
  match ← next with
  | none => return 0.0
  | some ('\'' :: rest) => return Float.ofNat ((rest.head?.map Char.toNat).getD 0)
  | some ('"' :: rest) => return Float.ofNat ((rest.head?.map Char.toNat).getD 0)
  | some arg =>
    match leadingFloat? arg with
    | none =>
      check arg arg false
      return 0.0
    | some (x, rest) =>
      check arg rest false
      return x

/-- A number in a format, or a star that takes the next argument; and the characters that were taken. -/
def size (v : Conversion) (isWidth : Bool) (s : Raw) : Printer (Conversion × Raw) := do
  match s with
  | '*' :: rest =>
    let n ← number true
    return (if isWidth then v.setWidth n else { v with precision := if n < 0 then none else some n.toNat },
      rest)
  | s =>
    let digits := s.takeWhile Char.isDigit
    let rest := s.dropWhile fun c => c.isDigit || c == '*'
    let n := (Raw.nat? digits).getD 0
    return (if isWidth then { v with width := n } else { v with precision := some n }, rest)

/-- One conversion, of which the percent sign has been read; what is left of the format. -/
def conversion (s : Raw) : Printer Raw := do
  let flags := s.takeWhile fun c => "#-+ 0".toList.contains c
  let v : Conversion := flags.foldl Conversion.flag {}
  let (v, rest) ← size v true (s.drop flags.length)
  let (v, rest) ← match rest with
    | '.' :: rest => size v false rest
    | rest => pure (v, rest)
  match rest with
  | [] => Act.fault (raw "missing format character")
  | c :: rest =>
    let v := { v with letter := c }
    if c == 'b' then
      let (text, ended) := withEscapes ((← next).getD [])
      put (v.text text)
      modify fun p => { p with ended }
    else if c == 's' then put (v.text ((← next).getD []))
    else if c == 'c' then put (v.fill [((← next).bind (·.head?)).getD '\x00'])
    else if c == 'd' || c == 'i' then put (v.signed (← number true))
    else if "ouxX".toList.contains c then put (v.unsigned (Number.bits (← number false)))
    else if "aAeEfFgG".toList.contains c then put (v.float (← float))
    else Act.fault ('%' :: s.take (s.length - rest.length) ++ raw ": invalid directive")
    return rest

/-- The format once. The number bounds its length. -/
def once : Nat → Raw → Printer Unit
  | 0, _ => return
  | n + 1, s => do
    if (← get).ended then return
    match s with
    | [] => return
    | '\\' :: rest =>
      let (c, rest) := escape rest
      put [c]
      once n rest
    | '%' :: '%' :: rest =>
      put ['%']
      once n rest
    | '%' :: rest => once n (← conversion rest)
    | s =>
      let plain := s.takeWhile fun c => c != '%' && c != '\\'
      put plain
      once n (s.drop plain.length)

/-- The format again and again as long as it takes arguments and some are left. The number bounds how
often. -/
def all (format : Raw) : Nat → Printer Unit
  | 0 => return
  | n + 1 => do
    let before := (← get).args.length
    once (format.length + 1) format
    let p ← get
    if !p.ended && !p.args.isEmpty && p.args.length < before then all format n

end Printer

/-- Prints its arguments by a format. -/
def printf : Tool := fun args => do
  let (_, args) ← shellOptions "" args
  match args with
  | [] => fault (raw "usage: printf format [arg ...]")
  | format :: args => return (← (Printer.all format (args.length + 1)).run { args }).2.status

end DocAudit.Shell
