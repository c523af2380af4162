import DocAudit.Shell.Options
import DocAudit.Shell.Tool.Criterion

/-!
# Finding files

## Contents

* `Finding.judge`, `Finding.visit`: what is done with files
* `find`: the tool
-/

namespace DocAudit.Shell.Tool

open Text Act

/-! ## Looking for files -/

/-- A file that was found: its path from an operand, and how deep it is. -/
structure Found where
  start : Raw
  path : Raw
  facts : FileFacts
  /-- What is there if links are followed. -/
  other : Option FileFacts
  depth : Nat

/-- What has happened so far. -/
structure Finds where
  status : Nat := 0
  pruned : Bool := false
  done : Bool := false
  /-- Paths for programs that are run for many files, with the directories in which they are run. -/
  gathered : List (Nat × Raw × Raw) := []

/-- Finding files. -/
abbrev Finding := StateT Finds Act

namespace Finding

/-- Something went wrong. -/
def trouble (s : Raw) : Finding Unit := do
  grumble s
  modify fun r => { r with status := 1 }

/-- The letter of the kind of a file. -/
def kindLetter (f : FileFacts) : Char := if f.letter == '-' then 'f' else f.letter

/-- The path of the directory of a file. -/
def dirPath (f : Found) : Raw :=
  let s := withoutSlashes f.path
  if s.contains '/' then
    let cut := s.take (s.length - (lastName s).length - 1)
    if cut.isEmpty then ['/'] else cut
  else ['.']

/-- Runs a program with words, in a directory. -/
def launch (launcher : Launcher) (dir : Option Raw) (words : List Raw) : Finding Bool := do
  let s ← Act.shell
  if let some dir := dir then
    if let .ok (place, .dir) ← Act.stat dir then
      Act.setShell fun s => { s with place, cwd := '/' :: joinWith ['/'] (place.map Raw.ofText) }
  let result ← launcher.spawn words
  Act.setShell fun _ => s
  match result with
  | .ok e => return e.status == 0
  | .error f =>
    grumble (Quoted.between (words.headD []) ++ raw ": " ++ f.message)
    return false

/-- A word with the place of the path filled. -/
def filled (path : Raw) : Nat → Raw → Raw
  | 0, s => s
  | n + 1, s => match s with
    | '\x7b' :: '\x7d' :: rest => path ++ filled path n rest
    | c :: rest => c :: filled path n rest
    | [] => []

/-- A fact about a file that a letter asks for. -/
def fact? (t : FileTree) (f : Found) (c : Char) : Option Raw :=
  let last := lastName f.path
  match c with
  | 'p' => some f.path
  | 'f' => some last
  | 'h' => some (if f.path.contains '/' then dirPath f else ['.'])
  | 'P' =>
    let rest := f.path.drop f.start.length
    some (if rest.head? == some '/' then rest.drop 1 else rest)
  | 'H' => some f.start
  | 'd' => some (ofNat f.depth)
  | 's' => some (ofNat f.facts.size)
  | 'b' => some (ofNat (2 * f.facts.blocks))
  | 'k' => some (ofNat f.facts.blocks)
  | 'y' => some [kindLetter f.facts]
  | 'Y' => some (match f.other with
    | some o => [kindLetter o]
    | none => ['N'])
  | 'm' => some (Mode.digits f.facts.mode)
  | 'M' => some f.facts.letters
  | 'n' => some (ofNat (f.facts.links t))
  | 'u' => some (raw "root")
  | 'g' => some (raw "root")
  | 'U' => some ['0']
  | 'G' => some ['0']
  | 'D' => some (raw "65024")
  | 'F' => some (raw "ext4")
  | 'S' => some ['1']
  | 'i' => some (ofNat f.facts.number)
  | 'l' => some (match f.facts.node with
    | .link target => target
    | _ => [])
  | _ => none

/-- A text with facts put in. The number bounds the steps. -/
def formatted (t : FileTree) (f : Found) (out : Raw → Act Unit) : Nat → Raw → Finding Bool
  | 0, _ => return false
  | n + 1, s => do
    match s with
    | [] => return false
    | '\\' :: c :: rest =>
      let special? : Option Char := match c with
        | 'a' => some '\x07'
        | 'b' => some '\x08'
        | 'f' => some '\x0c'
        | 'n' => some '\n'
        | 'r' => some '\r'
        | 't' => some '\t'
        | 'v' => some '\x0b'
        | '\\' => some '\\'
        | _ => none
      let digits := ((c :: rest).take 3).takeWhile fun d => '0' ≤ d && d ≤ '7'
      if !digits.isEmpty then
        out [Char.ofNat ((Mode.octal? digits).getD 0 % 256)]
        formatted t f out n ((c :: rest).drop digits.length)
      else if c == 'c' then return true
      else
        match special? with
        | some d => out [d]
        | none =>
          grumble (raw "warning: unrecognized escape \x60\\" ++ [c, '\''])
          out ['\\', c]
        formatted t f out n rest
    | '%' :: '%' :: rest =>
      out ['%']
      formatted t f out n rest
    | '%' :: rest =>
      let flags := rest.takeWhile fun c => "-+ #0".toList.contains c
      let r := rest.drop flags.length
      let width := r.takeWhile Char.isDigit
      let r := r.drop width.length
      let (precision, r) : Option Nat × Raw := match r with
        | '.' :: r => (some ((Raw.nat? (r.takeWhile Char.isDigit)).getD 0), r.dropWhile Char.isDigit)
        | r => (none, r)
      match r with
      | [] =>
        out ['%']
        return false
      | c :: rest' =>
        let times := ['t', 'a', 'c']
        match (if times.contains c then some (raw "Thu Jan  1 00:00:00.0000000000 1970")
          else fact? t f c) with
        | some text =>
          let text := match precision with
            | some p => text.take p
            | none => text
          let wide := (Raw.nat? width).getD 0
          out (if flags.contains '-' then Raw.padRight wide text
            else Raw.padLeft (if flags.contains '0' && text.all Char.isDigit then '0' else ' ') wide text)
          formatted t f out n rest'
        | none =>
          if "ACTB".toList.contains c then formatted t f out n (rest'.drop 1)
          else
            grumble (raw "warning: unrecognized format directive \x60%" ++ [c, '\''])
            out ['%', c]
            formatted t f out n rest'
    | s =>
      let plain := s.takeWhile fun c => c != '%' && c != '\\'
      if plain.isEmpty then
        out (s.take 1)
        formatted t f out n (s.drop 1)
      else
        out plain
        formatted t f out n (s.drop plain.length)

/-- Some output. -/
def put (output : Option Nat) (s : Raw) : Act Unit := do
  match output with
  | none => say s
  | some stream =>
    let _ ← write stream s

/-- The file is as the test asks, or the action is done. -/
def judgeTest (launcher : Launcher) (v : Walk) (f : Found) (t : FindTest) : Finding Bool := do
  let tree ← Act.tree
  let lower (fold : Bool) (s : Raw) : Raw := if fold then s.map Char.toLower else s
  match t with
  | .constant b => return b
  | .name fold pattern => return Pattern.accepts pattern (lower fold (lastName f.path))
  | .path fold pattern => return Pattern.accepts pattern (lower fold f.path)
  | .target fold pattern => return match f.facts.node with
    | .link target => Pattern.accepts pattern (lower fold target)
    | _ => false
  | .regex fold e =>
    let units := Raw.units f.path
    return (e.find? { fold } units 0 fun m => m.first == 0 && m.last == units.length).isSome
  | .kind letters other =>
    let facts := if other && !v.follow then f.other.getD f.facts
      else if other then
        FileFacts.at_ tree f.path f.facts.place ((Disk.node? tree f.facts.place).getD f.facts.node)
      else f.facts
    return letters.contains (kindLetter facts)
  | .empty => return match f.facts.node with
    | .file s => s.isEmpty
    | .dir => (Disk.list tree f.facts.place).isEmpty
    | _ => false
  | .size unit c => return c.holds ((f.facts.size + unit - 1) / unit)
  | .days c => return c.holds 0
  | .minutes c => return c.holds 1
  | .links c => return c.holds (f.facts.links tree)
  | .owner isRoot => return isRoot
  | .permissions how bits =>
    let mode := f.facts.mode
    return match how with
      | '-' => mode &&& bits == bits
      | '/' => bits == 0 || mode &&& bits != 0
      | _ => mode == bits
  | .runnable => return f.facts.node == .dir || f.facts.mode &&& 0o111 != 0
  | .same place => return f.facts.place == place
  | .print output ending =>
    put output (f.path ++ [ending])
    return true
  | .format output format =>
    let _ ← formatted tree f (put output) (2 * format.length + 2) format
    return true
  | .list output =>
    let line := Raw.padLeft ' ' 9 (ofNat f.facts.number) ++ [' '] ++
      Raw.padLeft ' ' 6 (ofNat f.facts.blocks) ++
      [' '] ++ f.facts.letters ++ raw "   " ++ ofNat (f.facts.links tree) ++ raw " root     root     " ++
      Raw.padLeft ' ' 8 (ofNat f.facts.size) ++ [' '] ++ ListStyle.dateText ++ [' '] ++ f.path
    put output (line ++ ['\n'])
    return true
  | .run r =>
    let path := if r.inDir then raw "./" ++ lastName f.path else f.path
    let words := r.words.map fun w => filled path (w.length + 1) w
    if r.asks then
      let _ ← write 2 (raw "< " ++ r.words.headD [] ++ raw " ... " ++ f.path ++ raw " > ? ")
      let answer ← readLine 0
      match answer with
      | .ok (c :: _, _) => if c != 'y' && c != 'Y' then return false
      | _ => return false
    let s ← Act.shell
    if r.asks then Act.install 0 { place := .null, readable := true }
    let good ← launch launcher (if r.inDir then some (dirPath f) else none) words
    Act.setShell fun sh => { sh with streams := s.streams }
    return good
  | .gather number r =>
    let path := if r.inDir then raw "./" ++ lastName f.path else f.path
    modify fun s => { s with gathered := s.gathered ++ [(number, if r.inDir then dirPath f else [], path)] }
    return true
  | .delete =>
    if f.path == ['.'] then return true
    let place := f.facts.place
    if f.facts.node == .dir && !(Disk.list tree place).isEmpty then
      trouble (raw "cannot delete " ++ Quoted.between f.path ++ raw ": " ++ FileFault.notEmpty.message)
      return false
    let _ ← Act.change fun t => .ok (Disk.erase t place)
    return true
  | .prune =>
    modify fun s => { s with pruned := true }
    return true
  | .quit =>
    modify fun s => { s with done := true }
    return true

/-- The file is as the expression asks, and its actions are done. -/
def judge (launcher : Launcher) (v : Walk) (f : Found) : Criterion → Finding Bool
  | .test t => judgeTest launcher v f t
  | .not c => do return !(← judge launcher v f c)
  | .and a b => do
    let first ← judge launcher v f a
    if !first || (← get).done then return false
    judge launcher v f b
  | .or a b => do
    let first ← judge launcher v f a
    if first || (← get).done then return first
    judge launcher v f b
  | .list a b => do
    let first ← judge launcher v f a
    if (← get).done then return first
    judge launcher v f b

/-- Judges a file and those below it. The number bounds how deep they are, and the places are the directories
on the way. -/
def visit (launcher : Launcher) (v : Walk) (c : Criterion) (start : Raw) :
    Nat → (depth : Nat) → (above : List (List Text)) → (path : Raw) → Finding Unit
  | 0, _, _, _ => return
  | n + 1, depth, above, path => do
    let through := v.follow || (v.followOperands && depth == 0)
    let itself ← Act.stat path false
    let led ← Act.stat path
    let chosen := if through then (match led with
      | .ok x => .ok x
      | .error _ => itself) else itself
    match chosen with
    | .error f => trouble (Quoted.between path ++ raw ": " ++ f.message)
    | .ok (place, node) =>
      let t ← Act.tree
      let other := match led with
        | .ok (p, o) => some (FileFacts.at_ t path p o)
        | .error _ => none
      let f : Found := { start, path, facts := FileFacts.at_ t path place node, other, depth }
      let looped := node == .dir && above.contains place
      if looped then
        trouble (raw "File system loop detected; " ++ Quoted.between path ++
          raw " is part of the same file system loop as " ++ Quoted.between start ++ ['.'])
      else
        let wanted := v.least ≤ depth
        modify fun s => { s with pruned := false }
        if wanted && !v.depthFirst then
          let _ ← judge launcher v f c
        let s ← get
        if s.done then return
        if node == .dir && (!s.pruned || v.depthFirst) && v.most.all (depth < ·) then
          for name in Disk.list (← Act.tree) place do
            if !(← get).done then visit launcher v c start n (depth + 1) (place :: above) (under path name)
        if (← get).done then return
        if wanted && v.depthFirst then
          let _ ← judge launcher v f c

/-- Runs the programs that are run for many files. -/
def finish (launcher : Launcher) (programs : List (Nat × Running)) : Finding Unit := do
  for (number, r) in programs do
    let mine := (← get).gathered.filter (·.1 == number)
    let dirs := (mine.map (·.2.1)).eraseDups
    for dir in dirs do
      let paths := (mine.filter (·.2.1 == dir)).map (·.2.2)
      if !(← launch launcher (if r.inDir then some dir else none) (r.words ++ paths)) then
        modify fun s => { s with status := 1 }

end Finding

/-- The programs in tokens that are run for many files. -/
def gatheringPrograms (ts : List FindToken) : List (Nat × Running) :=
  ts.filterMap fun
    | .test (.gather number r) => some (number, r)
    | _ => none

/-- Looks for files. -/
def find (launcher : Launcher) : Tool := fun args => do
  let isFlag (s : Raw) : Bool := ["-H", "-L", "-P"].any fun x => raw x == s
  let flags := args.takeWhile isFlag
  let args := args.drop flags.length
  let args := if args.head? == some (raw "--") then args.drop 1 else args
  if args.any fun a => a == raw "--help" || a == raw "-help" || a == raw "--version" ||
    a == raw "-version" then
    return 0
  let paths := args.takeWhile fun a => !FindReader.isPart true a
  let search : Walk := match flags.getLast? with
    | some ['-', 'L'] => { follow := true }
    | some ['-', 'H'] => { followOperands := true }
    | _ => {}
  let (_, r) ← (FindReader.all (args.length + 1) []).run { search, words := args.drop paths.length }
  let isAction (t : FindToken) : Bool := match t with
    | .test t => t.isAction
    | _ => false
  if (r.tokens.filter (· matches .closing)).length > (r.tokens.filter (· matches .opening)).length then
    giveUp 1 (raw "you have too many ')'")
  let tokens := withAnds r.tokens
  let criterion ← match tokens with
    | [] => pure (Criterion.test (.print none '\n'))
    | tokens =>
      match Criterion.ofTokens (4 * tokens.length + 8) 0 none tokens with
      | .ok (c, []) =>
        pure (if r.tokens.any isAction then c else .and c (.test (.print none '\n')))
      | .ok (_, _) => giveUp 1 (raw "invalid expression; you have too many ')'")
      | .error message => giveUp 1 message
  let body : Finding Unit := do
    for path in (if paths.isEmpty then [['.']] else paths) do
      if !(← get).done then Finding.visit launcher r.search criterion path depthLimit 0 [] path
    Finding.finish launcher (gatheringPrograms r.tokens)
  return (← body.run {}).2.status

end DocAudit.Shell.Tool
