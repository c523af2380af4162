import DocAudit.Shell.Edit.Reader
import DocAudit.Shell.Options

/-!
# Editing lines by a script

Lines are read one after the other; for each one the steps of a script are done, and what is left of the line
is shown.

## Contents

* `Editor`, `Editing`: the state of an edit
* `readPattern`, `hasMore`: lines from files
* `Editor.holds`: the condition of a step
* `substitute`, `perform`: what commands do
* `sed`: the tool

## Termination

A script can jump back, and a number bounds how many steps are done for one line.
-/

namespace DocAudit.Shell.Tool

open Text Act Edit

/-! ## The state of an edit -/

/-- How lines are edited. -/
structure EditorSettings where
  quiet : Bool := false
  separate : Bool := false
  /-- Files are changed; the text is made part of the names of copies. -/
  inPlace : Option Raw := none
  ending : Char := '\n'
  width : Nat := 70
  /-- Input is taken line by line. -/
  careful : Bool := false
  strict : Bool := false
  deriving Repr

/-- Where lines come from: what has been read, and the stream from which more comes. -/
structure EditorInput where
  buffer : Raw
  stream : Option Nat
  deriving Repr

/-- What is shown after a line. -/
inductive Queued
  | text (s : Raw)
  | file (path : Raw)
  | record (s : Raw) (complete : Bool)
  deriving Repr

/-- How far a range of lines is. -/
inductive RangeState
  | active (stop : Option Nat)
  | closed
  deriving DecidableEq, Repr

/-- A place to which lines are written. -/
inductive Sink
  /-- The output of the edit: the standard output, or the file that is changed. -/
  | main
  | stream (number : Nat)
  deriving DecidableEq, Repr

/-- The state of an edit. -/
structure Editor where
  settings : EditorSettings
  steps : Array Step
  /-- How faults are introduced. -/
  spot : Raw := []
  pattern : Raw := []
  stored : Raw := []
  /-- The line had its ending. -/
  complete : Bool := true
  /-- So had the one that was stored. -/
  storedComplete : Bool := true
  number : Nat := 0
  file : Raw := ['-']
  replaced : Bool := false
  queue : List Queued := []
  ranges : List (Nat × RangeState) := []
  last : Option Pattern := none
  files : List Raw := []
  input : Option EditorInput := none
  /-- Places where the last line has no ending yet. -/
  lacking : List Sink := []
  /-- The file that is changed, and its new content, the last piece first. -/
  edited : Option (Raw × List Raw) := none
  streams : List (Raw × Nat) := []
  /-- What has been written and has not gone out, with its streams, the last piece first. -/
  waiting : List (Nat × Raw) := []
  /-- What is left of files that are read line by line. -/
  readers : List (Raw × Raw) := []
  trouble : Bool := false
  begun : Bool := false

/-- An action of an edit. -/
abbrev Editing := StateT Editor Act

namespace Editing

/-- An action of the machine. -/
def act {α : Type} (a : Act α) : Editing α := StateT.lift a

/-! ## Output -/

/-- What has been written so far goes out. -/
def release : Editing Unit := do
  let e ← get
  set { e with waiting := [] }
  for (stream, s) in e.waiting.reverse do
    if stream == 1 then act (say s)
    else
      let _ ← act (write stream s)

/-- How much is written before it goes out. -/
def waitingLimit : Nat := 4096

/-- Bytes at a place. -/
def emit (sink : Sink) (s : Raw) : Editing Unit := do
  let e ← get
  match sink, e.edited with
  | .main, some (path, pieces) => set { e with edited := some (path, s :: pieces) }
  | .stream 2, _ =>
    let _ ← act (write 2 s)
  | _, _ =>
    let number : Nat := match sink with
      | .main => 1
      | .stream n => n
    set { e with waiting := (number, s) :: e.waiting }
    if e.settings.careful || waitingLimit < totalOf (e.waiting.map (·.2.length)) then release

/-- The end of the edit because of something that is wrong. -/
def halt {α : Type} (status : Nat) (message : Raw) : Editing α := do
  act (grumble message)
  release
  act (exit status)

/-- A fault at work. -/
def wrong {α : Type} (message : Raw) : Editing α := do
  halt 1 ((← get).spot ++ raw ": " ++ message)

/-- The ending of the last line, if it is lacking. -/
def mend (sink : Sink) : Editing Unit := do
  let e ← get
  if e.lacking.contains sink then
    set { e with lacking := e.lacking.filter (· != sink) }
    emit sink [e.settings.ending]

/-- A text that has its line feeds. -/
def show_ (sink : Sink) (s : Raw) : Editing Unit := do
  mend sink
  emit sink s

/-- A line. -/
def showLine (sink : Sink) (s : Raw) (complete : Bool) : Editing Unit := do
  let e ← get
  if complete then show_ sink (s ++ [e.settings.ending])
  else
    show_ sink s
    modify fun e => { e with lacking := sink :: e.lacking }

/-- The text as it is shown: its last line feed is an ending. -/
def withEnding (s : Raw) : Editing Raw := do
  let e ← get
  return if s.getLast? == some '\n' then s.dropLast ++ [e.settings.ending] else s

/-- The pattern. -/
def showPattern (sink : Sink) : Editing Unit := do
  let e ← get
  showLine sink e.pattern e.complete

/-- The place of an output. -/
def sinkOf (o : Output) : Editing Sink := do
  match o with
  | .standard => return .stream 1
  | .error => return .stream 2
  | .file path => return .stream (((← get).streams.lookup path).getD 2)

/-- The next line of a file that is read line by line. -/
def readFrom (path : Raw) : Editing (Option (Raw × Bool)) := do
  let e ← get
  let left ← match e.readers.lookup path with
    | some s => pure s
    | none => match ← act (content path false) with
      | .ok s => pure s
      | .error _ => pure []
  let line := left.takeWhile (· != e.settings.ending)
  let complete := line.length < left.length
  modify fun e => { e with
    readers := (path, left.drop (line.length + 1)) :: e.readers.filter (·.1 != path) }
  return if left.isEmpty then none else some (line, complete)

/-- What waits is shown. -/
def flushQueue : Editing Unit := do
  let e ← get
  set { e with queue := [] }
  for q in e.queue do
    match q with
    | .text s => show_ .main (← withEnding s)
    | .record s complete =>
      show_ .main (if complete then s ++ [e.settings.ending] else s)
    | .file path =>
      match ← act (content path false) with
      | .ok s => if !s.isEmpty then show_ .main s
      | .error .isDir => halt 4 (raw "read error on " ++ path ++ raw ": " ++ FileFault.isDir.message)
      | .error _ => pure ()

/-! ## Input -/

/-- A file is opened. -/
def openFile (path : Raw) : Editing Unit := do
  let e ← get
  if path == ['-'] && e.settings.inPlace.isNone then
    set { e with input := some { buffer := [], stream := some 0 }, file := path }
  else
    match ← act (openPath path .read) with
    | .error f =>
      act (grumble (raw "can't read " ++ path ++ raw ": " ++ f.message))
      modify fun e => { e with trouble := true, file := path }
    | .ok _ =>
      if e.settings.inPlace.isSome then
        match ← act (Act.stat path) with
        | .ok (_, .file _) => modify fun e => { e with edited := some (path, []) }
        | _ => halt 4 (raw "couldn't edit " ++ path ++ raw ": not a regular file")
      match ← act (content path false) with
      | .ok s => modify fun e => { e with input := some { buffer := s, stream := none }, file := path }
      | .error f => halt 4 (raw "read error on " ++ path ++ raw ": " ++ f.message)

/-- The name of a copy. -/
def copyName (suffix path : Raw) : Raw :=
  let base := ((splitAt '/' path).getLastD [])
  let dir := path.take (path.length - base.length)
  let suffix := if suffix.contains '*' then suffix else '*' :: suffix
  dir ++ suffix.flatMap fun c => if c == '*' then base else [c]

/-- A file is changed; a copy is made if that is asked for. -/
def changeFile (suffix path s : Raw) : Act Unit := do
  match ← locate path false, ← Act.stat path with
  | .ok names, .ok (real, _) =>
    let mode := Disk.mode (← tree) real
    if !suffix.isEmpty then
      match ← locate (copyName suffix path) false with
      | .ok copy =>
        let t ← tree
        if suffix.getLast? == some '/' then
          giveUp 4 (raw "cannot rename " ++ path ++ raw ": " ++ FileFault.notDir.message)
        if (Disk.node? t copy.dropLast) == some .dir then
          let _ ← change fun t => .ok (Disk.move (Disk.erase t copy) names copy)
        else giveUp 4 (raw "cannot rename " ++ path ++ raw ": " ++
          (if (Disk.node? t copy.dropLast).isNone then FileFault.noEntry else FileFault.notDir).message)
      | .error f => giveUp 4 (raw "cannot rename " ++ path ++ raw ": " ++ f.message)
    let _ ← change fun t => do
      let t ← Disk.add (Disk.erase t names) names (.file (Raw.bytes s))
      return if mode == 0o644 then t else Disk.setMode t names mode
  | _, _ => return

/-- The file that was read is at its end. -/
def closeFile : Editing Unit := do
  let e ← get
  match e.edited with
  | some (path, pieces) =>
    act (changeFile (e.settings.inPlace.getD []) path pieces.reverse.flatten)
    set { e with input := none, edited := none, lacking := e.lacking.filter (· != Sink.main) }
  | none => set { e with input := none }

/-- More of the input, if there is more. -/
def refill (input : EditorInput) : Editing (Option EditorInput) := do
  match input.stream with
  | none => return none
  | some n =>
    match ← act (readChunk n 4096) with
    | .ok [] => return none
    | .ok s => return some { input with buffer := input.buffer ++ s }
    | .error f => halt 4 (raw "read error on stdin: " ++ f.message)

/-- The next line of the input. The number bounds the pieces. -/
def nextRecord : Nat → EditorInput → Editing (Option (Raw × Bool))
  | 0, _ => return none
  | n + 1, input => do
    let e ← get
    let line := input.buffer.takeWhile (· != e.settings.ending)
    match input.buffer.drop line.length with
    | _ :: rest =>
      set { e with input := some { input with buffer := rest } }
      return some (line, true)
    | [] =>
      let more ← if e.settings.careful && e.settings.ending == '\n' && input.stream.isSome then
          match ← act (Act.readLine 0) with
          | .ok ([], false) => pure none
          | .ok (s, ended) =>
            pure (some { input with buffer := input.buffer ++ if ended then s ++ ['\n'] else s })
          | .error f => halt 4 (raw "read error on stdin: " ++ f.message)
        else refill input
      match more with
      | some input => nextRecord n input
      | none =>
        set { e with input := some { buffer := [], stream := none } }
        return if line.isEmpty then none else some (line, false)

/-- Another file begins whose lines are counted on their own. -/
def beginFile : Editing Unit := do
  let e ← get
  if e.settings.separate && e.begun then
    mend .main
    modify fun e => { e with number := 0, stored := [], storedComplete := true, ranges := [], readers := [] }
  modify fun e => { e with begun := true }

/-- The next line of the files. The number bounds how many files are opened. -/
def nextLine : Nat → Editing (Option (Raw × Bool))
  | 0 => return none
  | n + 1 => do
    match (← get).input with
    | none =>
      match (← get).files with
      | [] => return none
      | file :: files =>
        beginFile
        modify fun e => { e with files }
        openFile file
        nextLine n
    | some input =>
      match ← nextRecord 1000000 input with
      | some line => return some line
      | none =>
        closeFile
        nextLine n

/-- The next file with something in it becomes the input, if there is one. The number bounds how many files
are opened. -/
def advance : Nat → Editing Bool
  | 0 => return false
  | n + 1 => do
    match (← get).files with
    | [] => return false
    | file :: files =>
      modify fun e => { e with files }
      let found ← act (Act.stat file)
      if (found.toOption.map (·.2)) != some .dir then openFile file
      match (← get).input with
      | none => advance n
      | some input =>
        if !input.buffer.isEmpty then return true
        match ← refill input with
        | some input =>
          modify fun e => { e with input := some input }
          return true
        | none =>
          modify fun e => { e with input := none }
          advance n

/-- There are lines behind the last one. -/
def hasMore : Editing Bool := do
  let e ← get
  let further : Editing Bool := if e.settings.separate then return false else advance (e.files.length + 1)
  match e.input with
  | none => further
  | some input =>
    if !input.buffer.isEmpty then return true
    match ← refill input with
    | some input =>
      modify fun e => { e with input := some input }
      return true
    | none => further

/-- The next line becomes the pattern, or a part of it. -/
def readPattern (more : Bool) : Editing Bool := do
  flushQueue
  match ← nextLine (2 * (← get).files.length + 3) with
  | none => return false
  | some (line, complete) =>
    modify fun e => { e with
      pattern := if more then e.pattern ++ e.settings.ending :: line else line
      complete, number := e.number + 1, replaced := false }
    return true

/-! ## Conditions -/

/-- The first match of an expression from a place on. -/
def findIn (p : Pattern) (us : List Raw.Unit) (start : Nat) : Editing (Option Expression.Match) := do
  match p.expression with
  | some e =>
    modify fun s => { s with last := some p }
    return e.find? p.comparison us start
  | none => match (← get).last with
    | some { expression := some e, comparison, .. } => return e.find? comparison us start
    | _ => wrong (raw "no previous regular expression")

/-- The line is one of those that the address means. -/
def isAt (a : Address) : Editing Bool := do
  let e ← get
  match a with
  | .line n => return e.number == n
  | .every first step => return first ≤ e.number && (e.number - first) % step == 0
  | .last => return !(← hasMore)
  | .pattern p => return (← findIn p (Raw.units e.pattern) 0).isSome
  | .after _ => return false
  | .multiple _ => return false

/-- A range goes on as told. -/
def setRange (index : Nat) (s : RangeState) : Editing Unit :=
  modify fun e => { e with ranges := (index, s) :: e.ranges.filter (·.1 != index) }

/-- A range begins or not. -/
def beginRange (index : Nat) (state : Option RangeState) (a b : Address) : Editing Bool := do
  let number := (← get).number
  let begins ← match a with
    | .line n => pure (state != some .closed && n ≤ number)
    | a => isAt a
  if !begins then return false
  match b with
  | .line m =>
    if m ≤ number then
      setRange index .closed
      return (match a with | .line n => n == number || number ≤ m | _ => true)
    setRange index (.active (some m))
  | .after k => setRange index (if k == 0 then .closed else .active (some (number + k)))
  | .multiple k => setRange index (if k == 0 then .closed else .active (some ((number / k + 1) * k)))
  | _ => setRange index (.active none)
  return true

/-- The condition of a step, but for its negation. -/
def holds (index : Nat) (c : Condition) : Editing Bool := do
  match c.first, c.last with
  | none, _ => return true
  | some a, none => isAt a
  | some a, some b =>
    let e ← get
    let fromStart : Bool := match a with
      | .line 0 => true
      | _ => false
    let state := match e.ranges.lookup index with
      | some s => some s
      | none => if fromStart then some (.active none) else none
    match state with
    | some (.active stop) =>
      match b, stop with
      | .line _, some m =>
        if m ≤ e.number then setRange index .closed
        return e.number ≤ m
      | _, some m =>
        if m ≤ e.number then setRange index .closed
        return true
      | b, none =>
        if ← isAt b then setRange index .closed
        return true
    | state => beginRange index state a b

/-! ## Substitutions -/

/-- A character with its letters changed. -/
def cased (casing : Casing) (c : Char) : Char :=
  match casing with
  | .same => c
  | .upper => match upperChar c with
    | [d] => d
    | _ => c
  | .lower => lowerChar c

/-- Units with their letters changed. -/
def casedUnits (casing first : Casing) (us : List Raw.Unit) : Raw :=
  let change (casing : Casing) (u : Raw.Unit) : Raw := match u.char with
    | some c => if casing == .same then u.bytes else Raw.ofText [cased casing c]
    | none => u.bytes
  match us with
  | [] => []
  | u :: rest => change (if first == .same then casing else first) u ++ rest.flatMap (change casing)

/-- What stands for a match. `waiting` is a change for the next letter. -/
def expand (whole : List Raw.Unit) (m : Expression.Match) : (waiting : Casing) → List Chunk → Raw
  | _, [] => []
  | waiting, p :: rest =>
    let first := if p.first == .same then waiting else p.first
    let text := casedUnits p.casing first (Raw.units p.text)
    let first := if p.text.isEmpty then first else .same
    match p.group with
    | none => text ++ expand whole m .same rest
    | some g =>
      let us : List Raw.Unit := if g == 0 then Expression.between whole m.first m.last
        else match m.groups.lookup g with
          | some (a, b) => Expression.between whole a b
          | none => []
      if us.isEmpty then text ++ expand whole m (if p.first == .same then .same else first) rest
      else text ++ casedUnits p.casing first us ++ expand whole m .same rest

/-- The pattern with matches replaced, and whether one was. `count` is the number of matches so far, and
`ended` is where the last one ended. -/
def replaced (s : Substitution) (us : List Raw.Unit) :
    Nat → (place count : Nat) → (ended : Option Nat) → (soFar : List Raw) → (done : Bool) →
      Editing (Raw × Bool)
  | 0, _, _, _, soFar, done => return (soFar.reverse.flatten, done)
  | n + 1, place, count, ended, soFar, done => do
    let bytes (first last : Nat) : Raw := (Expression.between us first last).flatMap (·.bytes)
    let rest := bytes place us.length
    if us.length < place || (done && !s.every) then return ((rest :: soFar).reverse.flatten, done)
    match ← findIn s.pattern us place with
    | none => return ((rest :: soFar).reverse.flatten, done)
    | some m =>
      let soFar := bytes place m.first :: soFar
      if m.first == m.last then
        let next := bytes m.last (m.last + 1)
        if ended == some m.first then
          replaced s us n (m.last + 1) count none (next :: soFar) done
        else
          let now := s.number ≤ count + 1
          let piece := if now then expand us m .same s.pieces else []
          replaced s us n (m.last + 1) (count + 1) none (next :: piece :: soFar) (done || now)
      else
        let now := s.number ≤ count + 1
        let piece := if now then expand us m .same s.pieces else bytes m.first m.last
        replaced s us n m.last (count + 1) (some m.last) (piece :: soFar) (done || now)

/-! ## Commands -/

/-- What a script of the shell prints. -/
def outputOf (launcher : Launcher) (script : Raw) : Act Raw := do
  let p ← fresh
  setPipe p {}
  let s ← shell
  install 1 { place := .pipe p, writable := true }
  let _ ← launcher.spawn [raw "sh", raw "-c", script]
  setShell fun _ => s
  let m ← get
  let pipe := (m.pipes.lookup p).getD {}
  set { m with pipes := m.pipes.filter (·.1 != p) }
  return ((pipe.front ++ pipe.back.reverse).map (·.2)).flatten

/-- The text without its last ending. -/
def withoutEnding (s : Raw) : Editing Raw := do
  let e ← get
  return if s.getLast? == some e.settings.ending then s.dropLast else s

/-- A substitution. -/
def substitute (launcher : Launcher) (s : Substitution) : Editing Unit := do
  let e ← get
  match s.pattern.expression, e.last with
  | none, some { groups := some k, .. } =>
    if k < s.reach then wrong (raw "invalid reference \\" ++ ofNat s.reach ++ raw " on \x60s' command's RHS")
  | _, _ => pure ()
  let us := Raw.units e.pattern
  let (text, done) ← replaced s us (us.length + 3) 0 0 none [] false
  if done then
    modify fun e => { e with pattern := text, replaced := true }
    if s.runs then
      if s.showsBefore then showPattern .main
      let out ← act (outputOf launcher text)
      let out ← withoutEnding out
      modify fun e => { e with pattern := out }
    if s.shows_ then showPattern .main
    if let some o := s.output then showPattern (← sinkOf o)

/-- A byte as it is listed. -/
def listedByte (c : Char) : Raw :=
  match c with
  | '\\' => raw "\\\\"
  | '\x07' => raw "\\a"
  | '\x08' => raw "\\b"
  | '\x0c' => raw "\\f"
  | '\n' => raw "\\n"
  | '\r' => raw "\\r"
  | '\t' => raw "\\t"
  | '\x0b' => raw "\\v"
  | c =>
    let n := c.toNat
    if 32 ≤ n && n < 127 then [c]
    else '\\' :: [n / 64, n / 8 % 8, n % 8].map fun d => Char.ofNat (48 + d)

/-- A text as it is listed, in lines of a width. -/
def listed (width : Nat) : (column : Nat) → Raw → Raw
  | _, [] => ['$']
  | column, c :: r =>
    let s := listedByte c
    if 0 < width && width - 1 < column + s.length then '\\' :: '\n' :: s ++ listed width s.length r
    else s ++ listed width (column + s.length) r

/-- How the steps for a line end. -/
inductive Outcome
  | shown
  | hidden
  /-- The steps are done again for what is left. -/
  | again
  | quit (status : Nat)
  deriving DecidableEq, Repr

/-- What a command is followed by. -/
inductive Course
  | onward
  | jump (target : Nat)
  | ends (outcome : Outcome)
  deriving DecidableEq, Repr

/-- The line is shown unless that is not wanted. -/
def autoShow : Editing Unit := do
  if !(← get).settings.quiet then showPattern .main

/-- Does a command at a step, where its condition holds. -/
def perform (launcher : Launcher) (index : Nat) (c : Command) : Editing Course := do
  let e ← get
  let ending := e.settings.ending
  let line := e.pattern.takeWhile (· != ending)
  match c with
  | .block _ => return .onward
  | .blockEnd => return .onward
  | .label => return .onward
  | .jump .always _ target => return .jump target
  | .jump .replaced _ target =>
    if e.replaced then
      set { e with replaced := false }
      return .jump target
    return .onward
  | .jump .notReplaced _ target =>
    if e.replaced then
      set { e with replaced := false }
      return .onward
    return .jump target
  | .append s =>
    set { e with queue := e.queue ++ [Queued.text s] }
    return .onward
  | .insert_ s =>
    show_ .main (← withEnding s)
    return .onward
  | .change s =>
    let going : Bool := match e.ranges.lookup index with
      | some (.active _) => true
      | _ => false
    let negated := (e.steps[index]?.map (·.condition.negated)).getD false
    if !going || negated then show_ .main (← withEnding s)
    return .ends .hidden
  | .delete => return .ends .hidden
  | .deleteLine =>
    if line.length < e.pattern.length then
      set { e with pattern := e.pattern.drop (line.length + 1) }
      return .ends .again
    return .ends .hidden
  | .run none =>
    let out ← act (outputOf launcher e.pattern)
    let out ← withoutEnding out
    modify fun e => { e with pattern := out }
    return .onward
  | .run (some script) =>
    let out ← act (outputOf launcher (script.dropLast))
    show_ .main out
    return .onward
  | .fileName =>
    show_ .main (e.file ++ [ending])
    return .onward
  | .recall =>
    set { e with pattern := e.stored, complete := e.storedComplete }
    return .onward
  | .recallMore =>
    set { e with pattern := e.pattern ++ ending :: e.stored, complete := e.storedComplete }
    return .onward
  | .store =>
    set { e with stored := e.pattern, storedComplete := e.complete }
    return .onward
  | .storeMore =>
    set { e with
      stored := e.stored ++ ending :: e.pattern, storedComplete := e.complete }
    return .onward
  | .exchange =>
    set { e with
      pattern := e.stored, complete := e.storedComplete, stored := e.pattern, storedComplete := e.complete }
    return .onward
  | .list width =>
    show_ .main (listed (width.getD e.settings.width) 0 e.pattern ++ [ending])
    return .onward
  | .next =>
    if !(← hasMore) then
      return .ends (if e.settings.strict then .hidden else .shown)
    autoShow
    if ← readPattern false then return .onward
    return .ends .hidden
  | .nextMore =>
    if !(← hasMore) then
      return .ends (if e.settings.strict then .hidden else .shown)
    if ← readPattern true then return .onward
    return .ends .shown
  | .print =>
    showPattern .main
    return .onward
  | .printLine =>
    showLine .main line (e.complete || line.length < e.pattern.length)
    return .onward
  | .quit shows_ status =>
    if shows_ then
      autoShow
      flushQueue
    return .ends (.quit status)
  | .readFile path =>
    set { e with queue := e.queue ++ [Queued.file path] }
    return .onward
  | .readLine path =>
    match ← readFrom path with
    | some (s, complete) => modify fun e => { e with queue := e.queue ++ [Queued.record s complete] }
    | none => pure ()
    return .onward
  | .substitute s =>
    substitute launcher s
    return .onward
  | .transliterate table =>
    let text := (Raw.units e.pattern).flatMap fun u => ((table.lookup u).getD u).bytes
    set { e with pattern := text }
    return .onward
  | .writeFile o =>
    showPattern (← sinkOf o)
    return .onward
  | .writeLine o =>
    showLine (← sinkOf o) line (e.complete || line.length < e.pattern.length)
    return .onward
  | .clear =>
    set { e with pattern := [] }
    return .onward
  | .number =>
    show_ .main (ofNat e.number ++ [ending])
    return .onward
  | .broken name => halt 4 (raw "INTERNAL ERROR: Bad cmd " ++ name)

/-- Does the steps from a number on. The first number bounds how many of them. -/
def performFrom (launcher : Launcher) : Nat → (index : Nat) → Editing Outcome
  | 0, _ => do
    release
    act hang
    return .hidden
  | n + 1, index => do
    match (← get).steps[index]? with
    | none => return .shown
    | some step =>
      if (← holds index step.condition) != step.condition.negated then
        match ← perform launcher index step.command with
        | .onward => performFrom launcher n (index + 1)
        | .jump target => performFrom launcher n target
        | .ends outcome => return outcome
      else match step.command with
        | .block stop => performFrom launcher n stop
        | _ => performFrom launcher n (index + 1)

/-- How many steps are done for one line at most. -/
def stepLimit : Nat := 1000000

/-- Edits lines to the end. The first number bounds how many of them. `again` tells that the pattern is there
already. -/
def cycles (launcher : Launcher) : Nat → (again : Bool) → Editing (Option Nat)
  | 0, _ => do
    act hang
    return none
  | n + 1, again => do
    if again then flushQueue
    let ready ← if again then pure true else readPattern false
    if ready then
      match ← performFrom launcher stepLimit 0 with
      | .shown =>
        autoShow
        cycles launcher n false
      | .hidden => cycles launcher n false
      | .again => cycles launcher n true
      | .quit status => return some status
    else return none

/-- How many lines are edited at most. -/
def cycleLimit : Nat := 10000000

/-- The whole edit, and its status. -/
def run (launcher : Launcher) : Editing Nat := do
  let status ← cycles launcher cycleLimit false
  flushQueue
  let e ← get
  if status.isSome then
    if let some { buffer, stream := some n } := e.input then act (giveBack n buffer)
    if e.edited.isSome then closeFile
  release
  return if e.trouble then 2 else status.getD 0 % 256

end Editing

/-! ## The tool -/

/-- What the arguments ask for. -/
structure EditorCall where
  settings : EditorSettings := {}
  reading : Edit.Reading := {}
  hasScript : Bool := false

/-- The files that a script writes are opened, with their streams. -/
def openOutputs (paths : List Raw) : Act (List (Raw × Nat)) := do
  let mut streams : List (Raw × Nat) := []
  for (path, i) in paths.zipIdx do
    match ← openPath path .overwrite with
    | .ok f =>
      install (1000001 + i) f
      streams := (path, 1000001 + i) :: streams
    | .error f => giveUp 4 (raw "couldn't open file " ++ path ++ raw ": " ++ f.message)
  return streams

/-- A step of a reader, whose fault ends the tool. -/
def reading {α : Type} (r : Edit.Reading) (step : Reader α) : Act (α × Edit.Reading) := do
  let (result, after) := (step.run).run r
  match result with
  | .ok v => return (v, after)
  | .error f =>
    let _ ← openOutputs after.outputs.reverse
    giveUp f.status f.message

/-- Edits lines by a script. -/
def sed (launcher : Launcher) : Tool := fun args => do
  let addPart (c : EditorCall) (origin : Origin) (s : Raw) : Act EditorCall := do
    let (_, r) ← reading c.reading (Reader.part origin s)
    return { c with reading := r, hasScript := true }
  let addExpression (c : EditorCall) (s : Raw) : Act EditorCall := do
    let k := c.reading.expressions + 1
    addPart { c with reading := { c.reading with expressions := k } } (.expression k) s
  let (call, operands) ← options ("b/binary E r/regexp-extended /debug i/in-place% e/expression= f/file= " ++
      "l/line-length= z/null-data z/zero-terminated n/quiet /posix n/silent /sandbox s/separate " ++
      "u/unbuffered /follow-symlinks") args ({} : EditorCall) fun c key value => do
    let set_ (f : EditorSettings → EditorSettings) : EditorCall := { c with settings := f c.settings }
    match key with
    | "E" => return { c with reading := { c.reading with extended := true } }
    | "r" => return { c with reading := { c.reading with extended := true } }
    | "i" => return set_ fun v => { v with inPlace := some value, separate := true }
    | "s" => return set_ fun v => { v with separate := true }
    | "n" => return set_ fun v => { v with quiet := true }
    | "u" => return set_ fun v => { v with careful := true }
    | "posix" => return set_ fun v => { v with strict := true }
    | "l" => return set_ fun v => { v with width := (Raw.nat? (value.takeWhile Char.isDigit)).getD 0 }
    | "z" => return { set_ (fun v => { v with ending := '\x00' }) with
        reading := { c.reading with byLines := false } }
    | "sandbox" => return { c with reading := { c.reading with closed := true } }
    | "e" => addExpression c value
    | "f" =>
      match ← content value with
      | .ok s => addPart c (.file value) s
      | .error .isDir => addPart c (.file value) []
      | .error f => giveUp 4 (raw "couldn't open file " ++ value ++ raw ": " ++ f.message)
    | _ => return c
  let (call, files) ← if call.hasScript then pure (call, operands)
    else match operands with
      | script :: files => do pure (← addExpression call script, files)
      | [] => exit 1
  let (steps, r) ← reading call.reading Reader.close
  let streams ← openOutputs r.outputs.reverse
  let settings := { call.settings with quiet := call.settings.quiet || r.quiet }
  if settings.inPlace.isSome && files.isEmpty then giveUp 4 (raw "no input files")
  let (status, _) ← StateT.run (Editing.run launcher) {
    settings, steps := steps.toArray, streams, spot := r.spot
    files := if files.isEmpty then [['-']] else files }
  match (← shell).failed with
  | some f =>
    setShell fun s => { s with failed := none }
    giveUp 4 (raw "couldn't flush stdout: " ++ f.message)
  | none => return status

end DocAudit.Shell.Tool
