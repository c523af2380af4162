import DocAudit.Shell.Tool.Permissions

/-!
# Making and removing things

## Contents

* `mkdir`, `touch`: new directories and files
* `rmdir`, `rm`: removal
* `chmod`: permissions
-/

namespace DocAudit.Shell.Tool

open Text Act

/-! ## Questions and faults -/

/-- A question to the one who gives the input, and whether the answer is yes. -/
def ask (question : Raw) : Act Bool := do
  let _ ← write 2 ((← shell).name ++ raw ": " ++ question)
  match ← readLine 0 with
  | .ok (c :: _, _) => return c == 'y' || c == 'Y'
  | _ => return false

/-- A complaint about something that cannot be done with a path. -/
def cannot (action : String) (path : Raw) (f : FileFault) : Act Unit :=
  grumble (raw action ++ raw " " ++ Quoted.always path ++ raw ": " ++ f.message)

/-- A path without the slashes at its end. -/
def withoutSlashes (path : Raw) : Raw :=
  let s := dropEnd (· == '/') path
  if s.isEmpty && !path.isEmpty then ['/'] else s

/-- The last name in a path. -/
def lastName (path : Raw) : Raw :=
  let s := withoutSlashes path
  if s == ['/'] then s else (splitAt '/' s).getLastD []

/-- A name below a directory. -/
def under (dir name : Raw) : Raw :=
  if dir.getLast? == some '/' then dir ++ name else dir ++ '/' :: name

/-- What the value of an option has to be. -/
def badArgument {α : Type} (value : Raw) (option : String) (valid : List String) : Act α := do
  grumble (raw "invalid argument " ++ Quoted.between value ++ raw " for " ++ Quoted.between (raw option))
  let _ ← complain 0 (raw "Valid arguments are:")
  for line in valid do
    let _ ← complain 0 (raw "  - " ++ joinWith ", ".toList ((splitAt ' ' (raw line)).map Quoted.between))
  hint 1

/-! ## New things -/

/-- A directory is made, with permissions. -/
def makeDir (names : List Text) (mode : Nat) : Act (Option FileFault) := do
  match ← change fun t => Disk.add t names .dir with
  | some f => return some f
  | none =>
    if mode == 0o755 then return none
    change fun t => .ok (Disk.setMode t names mode)

/-- The permissions of new directories. -/
def newDirMode : Act Nat := return 0o777 &&& (0o777 - (← shell).mask % 0o1000)

/-- A directory that cannot be made. -/
def cannotMake (path : Raw) (f : FileFault) : Act Unit :=
  grumble (raw "cannot create directory " ++ Quoted.between path ++ raw ": " ++ f.message)

/-- A directory and those on the way to it. -/
def makeDirs (verbose : Bool) (mode : Nat) (path : Raw) : (soFar : Raw) → List Raw → Act Bool
  | _, [] => return true
  | soFar, name :: rest => do
    let here := soFar ++ name
    let goOn (_ : Unit) : Act Bool := makeDirs verbose mode path (here ++ ['/']) rest
    match ← stat here with
    | .ok (_, .dir) => goOn ()
    | .ok _ =>
      cannotMake here (if rest.isEmpty then .exists else .notDir)
      return false
    | .error .noEntry =>
      match ← locate here with
      | .error f =>
        cannotMake here f
        return false
      | .ok names =>
        let usual ← newDirMode
        let f ← makeDir names (if rest.isEmpty then mode else usual)
        match f with
        | some f =>
          cannotMake here f
          return false
        | none =>
          if verbose then say ((← shell).name ++ raw ": created directory " ++ Quoted.always here ++ ['\n'])
          goOn ()
    | .error f =>
      cannotMake here f
      return false

/-- Makes directories. -/
def mkdir : Tool := fun args => do
  let ((parents, verbose, mode), paths) ← options "m/mode= p/parents v/verbose Z/context%" args
    (false, false, none) fun (parents, verbose, mode) key value => return match key with
      | "p" => (true, verbose, mode)
      | "v" => (parents, true, mode)
      | "m" => (parents, verbose, some value)
      | _ => (parents, verbose, mode)
  if paths.isEmpty then missingOperand
  let mask := (← shell).mask
  let mode ← match mode with
    | none => newDirMode
    | some s => match Mode.read? s with
      | some cs => pure (Mode.apply mask true cs 0o777)
      | none => giveUp 1 (raw "invalid mode " ++ Quoted.between s)
  let mut status := 0
  for path in paths do
    if parents && !path.isEmpty then
      let absolute := path.head? == some '/'
      let names := (splitAt '/' path).filter (!·.isEmpty)
      if !(← makeDirs verbose mode path (if absolute then ['/'] else []) names) then status := 1
    else
      let place ← locate (withoutSlashes path) false
      let fault? : Option FileFault ← match place with
        | .error f => pure (some f)
        | .ok names => makeDir names mode
      match fault? with
      | some f =>
        cannotMake path f
        status := 1
      | none => if verbose then say (raw "mkdir: created directory " ++ Quoted.always path ++ ['\n'])
  return status

/-- The text can be a date. -/
def looksLikeDate (s : Raw) : Bool :=
  s.isEmpty || s.any Char.isDigit ||
    ["now", "today", "yesterday", "tomorrow", "ago", "last", "next", "day", "week", "month", "year", "hour",
      "minute", "mon", "tue", "wed", "thu", "fri", "sat", "sun", "noon", "midnight"].any fun word =>
        raw word == s || (splitAt ' ' (s.map Char.toLower)).contains (raw word)

/-- Makes files that are not there. -/
def touch : Tool := fun args => do
  let ((create, links, model), paths) ← options
    "a c/no-create d/date= f h/no-dereference m r/reference= t= /time=" args (true, false, none)
    fun (create, links, model) key value => match key with
      | "c" => return (false, links, model)
      | "h" => return (false, true, model)
      | "r" => return (create, links, some value)
      | "d" => do
        if !looksLikeDate value then giveUp 1 (raw "invalid date format " ++ Quoted.between value)
        return (create, links, model)
      | "t" => do
        let digits := value.filter Char.isDigit
        if !value.all (fun c => c.isDigit || c == '.') || digits.length < 8 then
          giveUp 1 (raw "invalid date format " ++ Quoted.between value)
        return (create, links, model)
      | _ => return (create, links, model)
  if let some path := model then
    match ← stat path with
    | .ok _ => pure ()
    | .error f => giveUp 1 (raw "failed to get attributes of " ++ Quoted.always path ++ raw ": " ++ f.message)
  if paths.isEmpty then misuse 1 (raw "missing file operand")
  let mut status := 0
  for path in paths do
    match ← stat path with
    | .ok _ => pure ()
    | .error .noEntry =>
      if create then
        if path.getLast? == some '/' && path.length > 1 then
          cannot "setting times of" path .noEntry
          status := 1
        else match ← openPath path .both with
          | .ok _ => pure ()
          | .error f =>
            cannot "cannot touch" path f
            status := 1
      else if links then
        match ← stat path false with
        | .ok _ => pure ()
        | .error f =>
          cannot "setting times of" path f
          status := 1
    | .error f =>
      cannot "cannot touch" path f
      status := 1
  return status

/-! ## Removal -/

/-- Removes a directory with nothing in it. -/
def removeDir (path : Raw) : Act (Option FileFault) := do
  let name := lastName path
  if name == ['.'] then return some .invalid
  let place : Except FileFault (List Text) ← match ← stat (withoutSlashes path) false with
    | .error f => pure (.error f)
    | .ok (names, .dir) => pure (.ok names)
    | .ok _ => pure (.error .notDir)
  match place with
  | .error f => return some f
  | .ok names =>
    if name == ['.', '.'] then return some .notEmpty
    if !(Disk.list (← tree) names).isEmpty then return some .notEmpty
    if names.isEmpty || systemDirs.contains names then return some .busy
    change fun t => .ok (Disk.erase t names)

/-- The directories on the way to a path, the last one first. -/
def parentsOf : (fuel : Nat) → Raw → List Raw
  | 0, _ => []
  | n + 1, path =>
    let s := withoutSlashes path
    let name := (splitAt '/' s).getLastD []
    let parent := dropEnd (· == '/') (s.take (s.length - name.length))
    if parent.isEmpty then [] else parent :: parentsOf n parent

/-- Removes directories with nothing in them. -/
def rmdir : Tool := fun args => do
  let ((parents, verbose, ignoring), paths) ← options "/ignore-fail-on-non-empty p/parents v/verbose /path"
    args (false, false, false) fun (parents, verbose, ignoring) key _ => return match key with
      | "p" => (true, verbose, ignoring)
      | "path" => (true, verbose, ignoring)
      | "v" => (parents, true, ignoring)
      | _ => (parents, verbose, true)
  if paths.isEmpty then missingOperand
  let mut status := 0
  for path in paths do
    let mut going := true
    for (p, i) in (path :: if parents then parentsOf path.length path else []).zipIdx do
      if going then
        if verbose then say (raw "rmdir: removing directory, " ++ Quoted.always p ++ ['\n'])
        match ← removeDir p with
        | none => pure ()
        | some f =>
          going := false
          if !(ignoring && f == .notEmpty) then
            let isLink : Bool := match ← stat (withoutSlashes p) false with
              | .ok (_, .link _) => p.getLast? == some '/'
              | _ => false
            let action := if i == 0 then "failed to remove" else "failed to remove directory"
            if isLink then
              grumble (raw action ++ raw " " ++ Quoted.always p ++ raw ": Symbolic link not followed")
            else cannot action p f
            status := 1
  return status

/-- When removals are asked about. -/
inductive Asking
  | never
  | once
  | always
  deriving DecidableEq, Repr

/-- How things are removed. -/
structure Removal where
  force : Bool := false
  recursive : Bool := false
  emptyDirs : Bool := false
  verbose : Bool := false
  asking : Asking := .never
  guarded : Bool := true
  deriving Repr

/-- How a removal ended. -/
inductive Removed
  | done
  | refused
  | failed
  deriving DecidableEq, Repr

/-- What a thing is called in questions. -/
def kindOf (node : Node) : Raw :=
  raw (match node with
    | .dir => "directory"
    | .file [] => "regular empty file"
    | .file _ => "regular file"
    | .link _ => "symbolic link"
    | .device _ => "character special file"
    | .program => "regular file")

/-- Removes what is at a path, and before it what is below. The number bounds how deep it is. -/
def removeTree (r : Removal) : Nat → (path : Raw) → Act Removed
  | 0, _ => return .failed
  | n + 1, path => do
    let linkEnd := path.getLast? == some '/'
    match ← stat path false with
    | .error f =>
      if r.force && (f == .noEntry || f == .notDir) then return .done
      cannot "cannot remove" path f
      return .failed
    | .ok (names, .dir) =>
      let children := Disk.list (← tree) names
      if !r.recursive && !(r.emptyDirs && children.isEmpty) then
        cannot "cannot remove" path (if r.emptyDirs then .notEmpty else .isDir)
        return .failed
      if r.asking == .always && !children.isEmpty then
        if !(← ask (raw "descend into directory " ++ Quoted.always path ++ raw "? ")) then return .refused
      let mut all := Removed.done
      for child in children do
        let result ← removeTree r n (under path child)
        if result == .failed || (result == .refused && all == .done) then all := result
      if all != .done then return all
      if r.asking == .always then
        if !(← ask (raw "remove directory " ++ Quoted.always path ++ raw "? ")) then return .refused
      let isLink : Bool := match ← stat (withoutSlashes path) false with
        | .ok (_, .link _) => linkEnd
        | _ => false
      if isLink then
        cannot "cannot remove" path .notDir
        return .failed
      if names.isEmpty || systemDirs.contains names then
        cannot "cannot remove" path .busy
        return .failed
      let _ ← change fun t => .ok (Disk.erase t names)
      if r.verbose then say (raw "removed directory " ++ Quoted.always path ++ ['\n'])
      return .done
    | .ok (names, node) =>
      if r.asking == .always then
        if !(← ask (raw "remove " ++ kindOf node ++ raw " " ++ Quoted.always path ++ raw "? ")) then
          return .refused
      let _ ← change fun t => .ok (Disk.erase t names)
      if r.verbose then say (raw "removed " ++ Quoted.always path ++ ['\n'])
      return .done

/-- How deep files are at most. -/
def depthLimit : Nat := 1000

/-- Removes files, and directories with what is in them. -/
def rm : Tool := fun args => do
  let (r, paths) ← options ("f/force i I /interactive% /one-file-system /no-preserve-root /preserve-root% " ++
      "/-presume-input-tty r/recursive R d/dir v/verbose") args ({} : Removal) fun r key value => do
    match key with
    | "f" => return { r with force := true, asking := .never }
    | "i" => return { r with force := false, asking := .always }
    | "I" => return { r with force := false, asking := .once }
    | "interactive" =>
      match String.ofList value with
      | "" => return { r with force := false, asking := .always }
      | "always" => return { r with force := false, asking := .always }
      | "yes" => return { r with force := false, asking := .always }
      | "once" => return { r with force := false, asking := .once }
      | "never" => return { r with asking := .never }
      | "no" => return { r with asking := .never }
      | "none" => return { r with asking := .never }
      | _ => badArgument value "--interactive" ["never no none", "once", "always yes"]
    | "r" => return { r with recursive := true }
    | "R" => return { r with recursive := true }
    | "d" => return { r with emptyDirs := true }
    | "v" => return { r with verbose := true }
    | "no-preserve-root" => return { r with guarded := false }
    | _ => return r
  if paths.isEmpty then
    if r.force then return 0
    missingOperand
  if r.asking == .once && (r.recursive || 3 < paths.length) then
    let count := ofNat paths.length ++ raw (if paths.length == 1 then " argument" else " arguments")
    if !(← ask (raw "remove " ++ count ++ raw (if r.recursive then " recursively? " else "? "))) then return 0
  let mut status := 0
  for path in paths do
    let name := lastName path
    let place ← stat path false
    let isDir : Bool := match place with
      | .ok (_, .dir) => true
      | _ => false
    if isDir && r.recursive && (name == ['.'] || name == ['.', '.']) then
      grumble (raw "refusing to remove '.' or '..' directory: skipping " ++ Quoted.always path)
      status := 1
    else if isDir && r.recursive && r.guarded && name == ['/'] then
      grumble (raw "it is dangerous to operate recursively on " ++ Quoted.always path)
      grumble (raw "use --no-preserve-root to override this failsafe")
      status := 1
    else if (← removeTree r depthLimit path) == .failed then status := 1
  return status

/-! ## Permissions -/

/-- How permissions are changed. -/
structure ModeChange where
  recursive : Bool := false
  /-- Every file is reported, or those whose permissions were changed. -/
  reports : Option Bool := none
  quiet : Bool := false
  model : Option Raw := none
  deriving Repr

/-- An argument that looks like an option and is a part of permissions. -/
def isModeArgument (s : Raw) : Bool :=
  match s with
  | '-' :: c :: r => (c :: r).all (fun c => "rwxXstugoa,+-=01234567".toList.contains c) && c != '-'
  | _ => false

/-- Changes the permissions of what is at a path, and of what is below. The number bounds how deep it is. -/
def changeModes (v : ModeChange) (cs : Sum Nat (List ModeClause)) (surprising : Bool) :
    Nat → (path : Raw) → Act Bool
  | 0, _ => return false
  | n + 1, path => do
    let shown := Quoted.always path
    match ← stat path with
    | .error f =>
      if !v.quiet then
        match ← stat path false with
        | .ok _ => grumble (raw "cannot operate on dangling symlink " ++ shown)
        | .error _ => cannot "cannot access" path f
      if v.reports == some true then say (shown ++ raw " could not be accessed\n")
      return false
    | .ok (names, node) =>
      let isDir := node == .dir
      let old := Disk.mode (← tree) names
      let mask := (← shell).mask
      let (new, plain) : Nat × Nat := match cs with
        | .inl mode => (mode, mode)
        | .inr cs => (Mode.apply mask isDir cs old, Mode.apply 0 isDir cs old)
      let _ ← change fun t => .ok (Disk.setMode t names new)
      let describe (m : Nat) : Raw := Mode.fourDigits m ++ raw " (" ++ Mode.letters m ++ raw ")"
      match v.reports with
      | some every =>
        if new != old then
          say (raw "mode of " ++ shown ++ raw " changed from " ++ describe old ++ raw " to " ++
            describe new ++ ['\n'])
        else if every then say (raw "mode of " ++ shown ++ raw " retained as " ++ describe new ++ ['\n'])
      | none => pure ()
      let mut good := true
      if surprising && new != plain && (new &&& (0o7777 - plain % 0o10000)) != 0 then
        grumble (Quoted.ifNeeded path ++ raw ": new permissions are " ++ Mode.letters new ++ raw ", not " ++
          Mode.letters plain)
        good := false
      if v.recursive && isDir then
        for child in Disk.list (← tree) names do
          match ← stat (under path child) false with
          | .ok (_, .link _) => pure ()
          | _ => if !(← changeModes v cs surprising n (under path child)) then good := false
      return good

/-- Changes permissions. -/
def chmod : Tool := fun args => do
  let before := args.takeWhile (· != raw "--")
  let dashed := before.filter isModeArgument
  let args := before.filter (!isModeArgument ·) ++ args.drop before.length
  let (v, operands) ← options ("c/changes R/recursive /no-preserve-root /preserve-root f/quiet v/verbose " ++
      "/reference= f/silent") args ({} : ModeChange) fun v key value => return match key with
      | "c" => { v with reports := some false }
      | "R" => { v with recursive := true }
      | "f" => { v with quiet := true }
      | "v" => { v with reports := some true }
      | "reference" => { v with model := some value }
      | _ => v
  let (mode?, paths) : Option Raw × List Raw :=
    if v.model.isSome then (none, operands)
    else if !dashed.isEmpty then (some (joinWith [','] dashed), operands)
    else match operands with
      | m :: rest => (some m, rest)
      | [] => (none, [])
  if paths.isEmpty then
    match mode? with
    | some m => missingOperandAfter m
    | none => missingOperand
  let cs : Sum Nat (List ModeClause) ← match v.model, mode? with
    | some model, _ =>
      match ← stat model with
      | .ok (names, _) => pure (.inl (Disk.mode (← tree) names))
      | .error f => giveUp 1 (raw "failed to get attributes of " ++ Quoted.always model ++ raw ": " ++
        f.message)
    | none, some m => match Mode.read? m with
      | some cs => pure (.inr cs)
      | none => misuse 1 (raw "invalid mode: " ++ Quoted.between m)
    | none, none => pure (.inr [])
  let mut status := 0
  for path in paths do
    if !(← changeModes v cs (!dashed.isEmpty) depthLimit path) then status := 1
  return status

end DocAudit.Shell.Tool
