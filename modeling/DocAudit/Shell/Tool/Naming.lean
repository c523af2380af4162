import DocAudit.Shell.Builtins
import DocAudit.Shell.Tool.Removing

/-!
# Names of files

## Contents

* `basename`, `dirname`: the parts of a path
* `Certainty`, `canonical`: the place to which a path leads, found without help of the system
* `readlink`, `realpath`, `pwdTool`: that place as a path
* `mktemp`: names that nobody uses
-/

namespace DocAudit.Shell.Tool

open Text Act

/-! ## Parts of paths -/

/-- The last names of paths, without an ending. -/
def basename : Tool := fun args => do
  let ((several, suffix, ending), names) ← optionsOf "a/multiple s/suffix= z/zero" 1 true args
    (false, ([] : Raw), '\n') fun (several, suffix, ending) key value => return match key with
      | "a" => (true, suffix, ending)
      | "s" => (true, value, ending)
      | _ => (several, suffix, '\x00')
  let without (suffix name : Raw) : Raw :=
    let last := lastName name
    if suffix.length < last.length && suffix.isSuffixOf last then last.take (last.length - suffix.length)
    else last
  match names with
  | [] => missingOperand
  | name :: rest =>
    if several then
      say (names.flatMap fun n => without suffix n ++ [ending])
    else match rest with
      | _ :: third :: _ => extraOperand third
      | _ => say (without (rest.headD []) name ++ [ending])
    return 0

/-- The path without its last name. -/
def dirOf (path : Raw) : Raw :=
  let s := withoutSlashes path
  if s == ['/'] then s
  else if s.contains '/' then withoutSlashes (s.take (s.length - (lastName s).length))
  else ['.']

/-- The paths without their last names. -/
def dirname : Tool := fun args => do
  let (ending, names) ← optionsOf "z/zero" 1 true args '\n' fun _ _ _ => return '\x00'
  if names.isEmpty then missingOperand
  say (names.flatMap fun n => dirOf n ++ [ending])
  return 0

/-! ## Places -/

/-- How much of a path has to be there. -/
inductive Certainty
  | everything
  /-- All names but the last one. -/
  | allButLast
  | nothing
  deriving DecidableEq, Repr

/-- Follows the names from a place. `links` bounds how many links are followed. -/
def followNames (t : FileTree) (certainty : Certainty) (throughLinks : Bool) :
    (links : Nat) → (at_ : List Text) → (todo : List Raw) → Except FileFault (List Text)
  | _, at_, [] => .ok at_
  | links, at_, name :: rest =>
    if name == ['.'] then
      match rest, Disk.node? t at_ with
      | [], some (.file _) => if certainty == .nothing then .ok at_ else .error .notDir
      | rest, _ => followNames t certainty throughLinks links at_ rest
    else if name == ['.', '.'] then followNames t certainty throughLinks links at_.dropLast rest
    else
      let here := at_ ++ [Raw.text name]
      match Disk.node? t here with
      | none =>
        if certainty == .nothing || (certainty == .allButLast && rest.all (· == ['.'])) then
          followNames t .nothing throughLinks links here rest
        else if (Disk.node? t at_).any fun n => n matches .file _ then .error .notDir
        else .error .noEntry
      | some (.link target) =>
        if !throughLinks then followNames t certainty throughLinks links here rest
        else match links with
          | 0 => .error .tooManyLinks
          | links + 1 =>
            followNames t certainty throughLinks links (if target.head? == some '/' then [] else at_)
              ((splitAt '/' target).filter (!·.isEmpty) ++ rest)
      | some (.file _) =>
        if rest.isEmpty || certainty == .nothing then followNames t certainty throughLinks links here rest
        else .error .notDir
      | some _ => followNames t certainty throughLinks links here rest
termination_by links _ todo => (links, todo.length)

/-- The place to which a path leads. -/
def canonical (certainty : Certainty) (throughLinks : Bool) (path : Raw) :
    Act (Except FileFault (List Text)) := do
  if path.isEmpty then return .error .noEntry
  let here := (← shell).place
  let start := if path.head? == some '/' then [] else here
  return followNames (← tree) certainty throughLinks 40 start (Disk.pathNames path)

/-- Shows where links lead. -/
def readlink : Tool := fun args => do
  let ((certainty, ending, wordy), paths) ← options ("f/canonicalize e/canonicalize-existing " ++
      "m/canonicalize-missing n/no-newline q/quiet s/silent v/verbose z/zero") args
    ((none : Option Certainty), raw "\n", false) fun (certainty, ending, wordy) key _ => return match key with
      | "f" => (some .allButLast, ending, wordy)
      | "e" => (some .everything, ending, wordy)
      | "m" => (some .nothing, ending, wordy)
      | "n" => (certainty, [], wordy)
      | "z" => (certainty, ['\x00'], wordy)
      | "v" => (certainty, ending, true)
      | _ => (certainty, ending, false)
  if paths.isEmpty then missingOperand
  let several := 1 < paths.length
  if several && ending.isEmpty then grumble (raw "ignoring --no-newline with multiple arguments")
  let ending := if several && ending.isEmpty then ['\n'] else ending
  let mut status := 0
  for path in paths do
    let found : Except FileFault Raw ← match certainty with
      | some c => pure ((← canonical c true path).map pathOf)
      | none => match ← stat path false with
        | .ok (_, .link target) => pure (.ok target)
        | .ok _ => pure (.error .invalid)
        | .error f => pure (.error f)
    match found with
    | .ok s => say (s ++ ending)
    | .error f =>
      if wordy then fileTrouble path f
      status := 1
  return status

/-- The way from a directory to a place. -/
def pathBetween (dir place : List Text) : Raw :=
  let common := ((dir.zip place).takeWhile fun (a, b) => a == b).length
  let ups := List.replicate (dir.length - common) (raw "..")
  let names := ups ++ (place.drop common).map Raw.ofText
  if names.isEmpty then ['.'] else joinWith ['/'] names

/-- How `realpath` shows places. -/
structure PlaceStyle where
  certainty : Certainty := .allButLast
  throughLinks : Bool := true
  /-- The names that lead up are taken away before links are followed. -/
  logical : Bool := false
  quiet : Bool := false
  ending : Char := '\n'
  start : Option Raw := none
  base : Option Raw := none

/-- The place to which a path leads, as the style finds it. -/
def PlaceStyle.place (v : PlaceStyle) (path : Raw) : Act (Except FileFault (List Text)) := do
  if v.logical then
    match ← canonical v.certainty false path with
    | .ok names => canonical v.certainty true (pathOf names)
    | .error f => return .error f
  else canonical v.certainty v.throughLinks path

/-- Shows where paths lead. -/
def realpath : Tool := fun args => do
  let (v, paths) ← options ("e/canonicalize-existing m/canonicalize-missing L/logical P/physical q/quiet " ++
      "s/strip /no-symlinks z/zero /relative-to= /relative-base=") args ({} : PlaceStyle)
    fun v key value => return match key with
      | "e" => { v with certainty := .everything }
      | "m" => { v with certainty := .nothing }
      | "L" => { v with logical := true, throughLinks := true }
      | "P" => { v with logical := false, throughLinks := true }
      | "q" => { v with quiet := true }
      | "z" => { v with ending := '\x00' }
      | "relative-to" => { v with start := some value }
      | "relative-base" => { v with base := some value }
      | _ => { v with logical := false, throughLinks := false }
  if paths.isEmpty then missingOperand
  let anchor (path : Option Raw) : Act (Option (List Text)) := do
    match path with
    | none => return none
    | some path => match ← v.place path with
      | .ok names => return some names
      | .error f =>
        fileTrouble path f
        exit 1
  let start ← anchor v.start
  let base ← anchor v.base
  let start := start.or base
  let start := match start, base with
    | some s, some b => if b.isPrefixOf s then some s else none
    | s, _ => s
  let mut status := 0
  for path in paths do
    match ← v.place path with
    | .ok names =>
      let relative := match start, base with
        | some _, some b => b.isPrefixOf names
        | some _, none => true
        | none, _ => false
      say ((if relative then pathBetween (start.getD []) names else pathOf names) ++ [v.ending])
    | .error f =>
      if !v.quiet then fileTrouble path f
      status := 1
  return status

/-- Shows the current directory. -/
def pwdTool : Tool := fun args => do
  let (logical, operands) ← options "L/logical P/physical" args false fun _ key _ => return key == "L"
  if !operands.isEmpty then grumble (raw "ignoring non-option arguments")
  let s ← shell
  say ((if logical then s.cwd else pathOf s.place) ++ ['\n'])
  return 0

/-! ## New names -/

/-- The letters of names that nobody uses. -/
def nameLetters : Raw := "abcdefghijklmnopqrstuvwxyzABCDEFGHIJKLMNOPQRSTUVWXYZ0123456789".toList

/-- A word of a length made from a number. -/
def inventedName (seed : Nat) : Nat → Raw
  | 0 => []
  | n + 1 =>
    let next := (seed * 6364136223846793005 + 1442695040888963407) % 18446744073709551616
    nameLetters.getD (next / 4294967296 % 62) 'a' :: inventedName next n

/-- How a new file is made. -/
structure NewName where
  dir : Bool := false
  onlyName : Bool := false
  quiet : Bool := false
  /-- The directory in which the file is made, if it is not told by the template. -/
  parent : Option Raw := none
  inTemporary : Bool := false
  suffix : Option Raw := none

/-- A name that nobody uses, made from the text before it and the number of its letters. The first number
bounds how many names are tried. -/
def unusedName (front suffix : Raw) (letters : Nat) : Nat → Act Raw
  | 0 => return front
  | n + 1 => do
    let name := front ++ inventedName (← fresh) letters ++ suffix
    match ← stat name false with
    | .ok _ => unusedName front suffix letters n
    | .error _ => return name

/-- Makes a file of a name that nobody uses. -/
def mktemp : Tool := fun args => do
  let (v, templates) ← options "d/directory u/dry-run q/quiet /suffix= p= /tmpdir% t" args ({} : NewName)
    fun v key value => return match key with
      | "d" => { v with dir := true }
      | "u" => { v with onlyName := true }
      | "q" => { v with quiet := true }
      | "suffix" => { v with suffix := some value }
      | "t" => { v with inTemporary := true }
      | "p" => { v with parent := some value }
      | _ => { v with parent := some value }
  if 1 < templates.length then misuse 1 (raw "too many templates")
  let given := templates.head?
  let template := given.getD (raw "tmp.XXXXXXXXXX")
  let (stem, suffix) ← match v.suffix with
    | some s =>
      if template.getLast? != some 'X' then
        giveUp 1 (raw "with --suffix, template " ++ Quoted.between template ++ raw " must end in X")
      pure (template, s)
    | none =>
      let stem := dropEnd (· != 'X') template
      pure (stem, template.drop stem.length)
  if suffix.contains '/' then
    giveUp 1 (raw "invalid suffix " ++ Quoted.between suffix ++ raw ", contains directory separator")
  let letters := (stem.reverse.takeWhile (· == 'X')).length
  if letters < 3 then giveUp 1 (raw "too few X's in template " ++ Quoted.between template)
  let temporary := match ← value? (raw "TMPDIR") with
    | some s => if s.isEmpty then raw "/tmp" else s
    | none => raw "/tmp"
  let parent : Option Raw ← if v.inTemporary then
      if template.contains '/' then
        giveUp 1 (raw "invalid template, " ++ Quoted.between template ++ raw ", contains directory separator")
      else pure (some temporary)
    else match v.parent with
      | some p =>
        if template.head? == some '/' then
          giveUp 1 (raw "invalid template, " ++ Quoted.between template ++
            raw "; with --tmpdir, it may not be absolute")
        else pure (some (if p.isEmpty then temporary else p))
      | none => pure (if given.isNone then some temporary else none)
  let front := match parent with
    | some p => under p stem
    | none => stem
  let name ← unusedName (front.take (front.length - letters)) suffix letters 100
  if v.onlyName then
    say (name ++ ['\n'])
    return 0
  let made : Option FileFault ← match ← locate name with
    | .error f => pure (some f)
    | .ok names =>
      let entry : Entry := if v.dir then .dir else .file []
      let mode := if v.dir then 0o700 else 0o600
      change fun t => (Disk.add t names entry).map fun t => Disk.setMode t names mode
  match made with
  | none =>
    say (name ++ ['\n'])
    return 0
  | some f =>
    if !v.quiet then
      grumble (raw "failed to create " ++ raw (if v.dir then "directory" else "file") ++
        raw " via template " ++ Quoted.between (front ++ suffix) ++ raw ": " ++ f.message)
    return 1

end DocAudit.Shell.Tool
