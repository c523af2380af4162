import DocAudit.Shell.Number
import DocAudit.Shell.Options

/-!
# Copies of files and parts of them

## Contents

* `cat`, `tee`: whole files
* `head`, `tail`: their beginnings and ends
* `tac`, `rev`: lines in another order, and characters
-/

namespace DocAudit.Shell.Tool

open Text Act

/-! ## Whole files -/

/-- How a file is shown. -/
structure Showing where
  /-- Lines are numbered. -/
  numbers : Bool := false
  /-- Only lines that are not empty are numbered. -/
  filledOnly : Bool := false
  ends : Bool := false
  tabs : Bool := false
  controls : Bool := false
  squeeze : Bool := false
  deriving DecidableEq, Repr

namespace Showing

/-- Files are copied as they are. -/
def isPlain (v : Showing) : Bool := v == {}

/-- A byte as it is shown inside a line. -/
def byte (v : Showing) (c : Char) : Raw :=
  let low (n : Nat) : Raw :=
    if n < 32 then ['^', Char.ofNat (n + 64)] else if n == 127 then ['^', '?'] else [Char.ofNat n]
  if c == '\t' then (if v.tabs then raw "^I" else [c])
  else if !v.controls then [c]
  else if c.toNat < 128 then low c.toNat
  else raw "M-" ++ low (c.toNat - 128)

/-- Where a copy is: the number of the last line, whether a line begins, how many empty lines there were,
and whether a carriage return waits for what follows. -/
structure Place where
  number : Nat := 0
  fresh : Bool := true
  empty : Nat := 0
  waiting : Bool := false
  deriving Repr

/-- The number in front of a line. -/
def numbered (p : Place) : Raw := Raw.padLeft ' ' 6 (ofNat (p.number + 1)) ++ ['\t']

/-- What is shown for one byte. -/
def step (v : Showing) (p : Place) (c : Char) : Place × Raw :=
  let (held, p) : Raw × Place :=
    if p.waiting then (if c == '\n' then raw "^M" else ['\r'], { p with waiting := false }) else ([], p)
  if c == '\n' then
    let empty := if p.fresh then p.empty + 1 else 0
    if p.fresh && v.squeeze && 2 ≤ empty then ({ p with empty }, held)
    else
      let counts := p.fresh && v.numbers && !v.filledOnly
      ({ p with number := if counts then p.number + 1 else p.number, fresh := true, empty },
        held ++ (if counts then numbered p else []) ++ (if v.ends then ['$'] else []) ++ ['\n'])
  else
    let counts := p.fresh && (v.numbers || v.filledOnly)
    let start := if counts then numbered p else []
    let p := { p with number := if counts then p.number + 1 else p.number, fresh := false, empty := 0 }
    if c == '\r' && v.ends && !v.controls then ({ p with waiting := true }, held ++ start)
    else (p, held ++ start ++ v.byte c)

/-- What is shown for bytes. -/
def bytes (v : Showing) (p : Place) (s : Raw) : Place × Raw :=
  let (p, out) := s.foldl (fun (p, out) c =>
    let (p, more) := v.step p c
    (p, more.reverse ++ out)) (p, [])
  (p, out.reverse)

end Showing

/-- The place of the file to which the standard output leads, and how far it has been written. -/
def outputFile? : Act (Option (List Text × Nat)) := do
  match ← opened? 1 with
  | some (_, f) =>
    match f.place with
    | .file names =>
      let size := match Disk.node? (← tree) names with
        | some (.file content) => content.length
        | _ => 0
      return some (names, if f.append then size else f.offset)
    | _ => return none
  | none => return none

/-- Copies a stream piece by piece. The number bounds the pieces. -/
def copyStream (v : Showing) (stream : Nat) : Nat → Showing.Place → Act (Except FileFault Showing.Place)
  | 0, p => return .ok p
  | n + 1, p => do
    match ← readChunk stream 131072 with
    | .error f => return .error f
    | .ok [] =>
      return .ok p
    | .ok s =>
      if v.isPlain then
        say s
        if (← shell).failed.isSome then return .ok p
        copyStream v stream n p
      else
        let (p, out) := v.bytes p s
        say out
        if (← shell).failed.isSome then return .ok p
        copyStream v stream n p

/-- Copies files to the output. -/
def cat : Tool := fun args => do
  let (v, files) ← options ("b/number-nonblank n/number s/squeeze-blank v/show-nonprinting E/show-ends " ++
    "T/show-tabs A/show-all e t u") args ({} : Showing) fun v key _ =>
    return match key with
      | "A" => { v with controls := true, ends := true, tabs := true }
      | "b" => { v with numbers := true, filledOnly := true }
      | "e" => { v with controls := true, ends := true }
      | "E" => { v with ends := true }
      | "n" => { v with numbers := true }
      | "s" => { v with squeeze := true }
      | "t" => { v with controls := true, tabs := true }
      | "T" => { v with tabs := true }
      | "v" => { v with controls := true }
      | _ => v
  if (← opened? 1).isNone then giveUp 1 (raw "standard output: Bad file descriptor")
  let mut status := 0
  let mut place : Showing.Place := {}
  let mut closed := false
  for file in (if files.isEmpty then [['-']] else files) do
    let source : Except FileFault OpenFile ← if file == ['-'] then
        match ← opened? 0 with
        | some (_, f) => pure (if f.readable then .ok f else .error .badDescriptor)
        | none => pure (.error .badDescriptor)
      else openPath file .read
    match source with
    | .error f =>
      fileTrouble file f
      closed := closed || (f == .badDescriptor && file == ['-'])
      status := 1
    | .ok f =>
      let out ← outputFile?
      let same := match f.place, out with
        | .file names, some (names', offset) => names == names' && f.offset < offset
        | _, _ => false
      if same then
        grumble (Quoted.ifNeeded file ++ raw ": input file is output file")
        status := 1
      else
        if file != ['-'] then install 1000000 f
        let result ← copyStream v (if file == ['-'] then 0 else 1000000) 100000 place
        if file != ['-'] then close 1000000
        match result with
        | .ok p => place := p
        | .error f =>
          fileTrouble file f
          status := 1
  if place.waiting then say ['\r']
  if closed then
    grumble (raw "closing standard input: Bad file descriptor")
  return status

/-- Copies the input to the output and to files, piece by piece. The number bounds the pieces. -/
def teeStream (streams : List (Nat × Raw)) : Nat → (status : Nat) → Act Nat
  | 0, status => return status
  | n + 1, status => do
    match ← readChunk 0 131072 with
    | .error f =>
      grumble (raw "read error: " ++ f.message)
      return 1
    | .ok [] => return status
    | .ok s =>
      let mut status := status
      let mut left : List (Nat × Raw) := []
      for (stream, name) in streams do
        match ← write stream s with
        | none => left := left ++ [(stream, name)]
        | some f =>
          fileTrouble name f
          status := 1
      teeStream left n status

/-- Copies the input to the output and to files. -/
def tee : Tool := fun args => do
  let (how, files) ← options "a/append i/ignore-interrupts p /output-error%" args Opening.overwrite
    fun how key _ => return if key == "a" then .append else how
  let mut status := 0
  let mut streams : List (Nat × Raw) := [(1, raw "'standard output'")]
  for (file, i) in files.zipIdx do
    match ← openPath file how with
    | .ok f =>
      install (1000000 + i) f
      streams := streams ++ [(1000000 + i, file)]
    | .error f =>
      fileTrouble file f
      status := 1
  teeStream streams 100000 status

/-! ## Beginnings and ends -/

/-- A part of a file that `head` or `tail` shows. -/
structure Excerpt where
  amount : Nat := 10
  bytes : Bool := false
  /-- The amount is that of the other part, which is not shown. -/
  others : Bool := false
  /-- Names of files are shown in any case, or in no case. -/
  names : Option Bool := none
  ending : Char := '\n'
  follow : Bool := false
  deriving Repr

namespace Excerpt

/-- The part with an amount. -/
def withAmount (p : Excerpt) (bytes others : Bool) (s : Raw) : Act Excerpt := do
  match Amount.read s with
  | .ok amount => return { p with amount, bytes, others }
  | .error f => giveUp 1 (raw "invalid number of " ++ raw (if bytes then "bytes" else "lines") ++ raw ": " ++
      Quoted.between s ++
      if f == .tooGreat then raw ": Value too large for defined data type" else [])

/-- So many lines from the start. -/
def firstLines (ending : Char) : Nat → Raw → Raw
  | 0, _ => []
  | _, [] => []
  | n + 1, c :: r => c :: firstLines ending (if c == ending then n else n + 1) r

/-- The number of lines; an end that is missing counts as one. -/
def lineCount (ending : Char) (s : Raw) : Nat :=
  let ends := s.countP (· == ending)
  if s.isEmpty || s.getLast? == some ending then ends else ends + 1

/-- The text behind so many lines. -/
def afterLines (ending : Char) : Nat → Raw → Raw
  | 0, s => s
  | _, [] => []
  | n + 1, c :: r => afterLines ending (if c == ending then n else n + 1) r

/-- The part at the start of a text. -/
def start (p : Excerpt) (s : Raw) : Raw :=
  if p.bytes then s.take (if p.others then s.length - p.amount else p.amount)
  else firstLines p.ending (if p.others then lineCount p.ending s - p.amount else p.amount) s

/-- The part at the end of a text. -/
def end_ (p : Excerpt) (s : Raw) : Raw :=
  if p.bytes then s.drop (if p.others then p.amount - 1 else s.length - p.amount)
  else afterLines p.ending (if p.others then p.amount - 1 else lineCount p.ending s - p.amount) s

/-- The name of a file in front of a part of it. -/
def header (first : Bool) (file : Raw) : Raw :=
  (if first then [] else ['\n']) ++ raw "==> " ++
    (if file == ['-'] then raw "standard input" else file) ++ raw " <==\n"

end Excerpt

/-- Reads a stream until the part at its start has been read. The number bounds the pieces. -/
def readStart (p : Excerpt) (stream : Nat) : Nat → (soFar : Raw) → Act (Except FileFault Raw)
  | 0, soFar => return .ok soFar
  | n + 1, soFar => do
    let enough := if p.bytes then p.amount ≤ soFar.length else p.amount ≤ soFar.countP (· == p.ending)
    if enough then return .ok soFar
    let count := if p.bytes then min 8192 (p.amount - soFar.length) else 8192
    match ← readChunk stream count with
    | .error f => return .error f
    | .ok [] => return .ok soFar
    | .ok s => readStart p stream n (soFar ++ s)

/-- Shows the beginnings of files. -/
def head : Tool := fun args => do
  let (start, args) : Excerpt × List Raw ← match args with
    | ('-' :: c :: cs) :: rest =>
      if c.isDigit then
        let digits := (c :: cs).takeWhile Char.isDigit
        let letters := (c :: cs).drop digits.length
        let mut p : Excerpt := {}
        let mut factor : Raw := []
        for l in letters do
          match l with
          | 'c' => p := { p with bytes := true }
          | 'b' => p := { p with bytes := true }; factor := ['b']
          | 'k' => p := { p with bytes := true }; factor := ['k']
          | 'm' => p := { p with bytes := true }; factor := ['m']
          | 'l' => p := { p with bytes := false }
          | 'q' => p := { p with names := some false }
          | 'v' => p := { p with names := some true }
          | 'z' => p := { p with ending := '\x00' }
          | l =>
            grumble (raw "invalid trailing option -- " ++ [l])
            hint 1
        pure (← p.withAmount p.bytes false (digits ++ factor), rest)
      else pure ({}, args)
    | args => pure ({}, args)
  let (p, files) ← options ("c/bytes= n/lines= q/quiet q/silent v/verbose z/zero-terminated " ++
      "/-presume-input-pipe 0 1 2 3 4 5 6 7 8 9") args start fun p key value => do
    match key, value with
    | "c", '-' :: s => p.withAmount true true s
    | "c", s => p.withAmount true false s
    | "n", '-' :: s => p.withAmount false true s
    | "n", s => p.withAmount false false s
    | "q", _ => return { p with names := some false }
    | "v", _ => return { p with names := some true }
    | "z", _ => return { p with ending := '\x00' }
    | d, _ =>
      grumble (raw "invalid trailing option -- " ++ d.toList)
      hint 1
  let named := p.names.getD (1 < files.length)
  let mut status := 0
  let mut first := true
  for file in (if files.isEmpty then [['-']] else files) do
    let source : Except FileFault Unit ← if file == ['-'] then pure (.ok ()) else
      match ← openPath file .read with
      | .ok f =>
        install 1000000 f
        pure (.ok ())
      | .error f => pure (.error f)
    match source with
    | .error f =>
      grumble (raw "cannot open " ++ Quoted.always file ++ raw " for reading: " ++ f.message)
      status := 1
    | .ok _ =>
      if named then say (Excerpt.header first file)
      first := false
      let stream := if file == ['-'] then 0 else 1000000
      match ← if p.others then readAll stream else readStart p stream 100000 [] with
      | .ok s =>
        let out := p.start s
        if !p.bytes && !p.others then giveBack stream (s.drop out.length)
        say out
      | .error f =>
        grumble (raw "error reading " ++ Quoted.always (if file == ['-'] then raw "standard input"
          else file) ++
          raw ": " ++ f.message)
        status := 1
  return status

/-- The part that an argument such as `-5` or `+3c` asks for. -/
def oldTail? (s : Raw) : Option Excerpt := do
  let (others, rest) ← match s with
    | '+' :: rest => some (true, rest)
    | '-' :: rest => some (false, rest)
    | _ => none
  let digits := rest.takeWhile Char.isDigit
  let letters := rest.drop digits.length
  let (unit, letters) := match letters with
    | 'b' :: r => ('b', r)
    | 'c' :: r => ('c', r)
    | 'l' :: r => ('l', r)
    | r => (' ', r)
  let follow ← match letters with
    | [] => some false
    | ['f'] => some true
    | _ => none
  if digits.isEmpty && !(others && unit == ' ' && false) && (rest.isEmpty || !others) then none
  let amount := if digits.isEmpty then 10 else (Raw.nat? digits).getD 0
  let amount := if unit == 'b' then 512 * amount else amount
  return { amount, bytes := unit == 'b' || unit == 'c', others, follow }

/-- Shows the ends of files. -/
def tail : Tool := fun args => do
  let old? := match args with
    | [a] => oldTail? a
    | [a, b] => if (b.head? == some '-' && b.length > 1) then none else oldTail? a
    | [a, b, _] => if b == raw "--" then oldTail? a else none
    | _ => none
  let (start, args) := match old? with
    | some p => (p, args.drop 1)
    | none => (({} : Excerpt), args)
  let (p, files) ← options ("c/bytes= f F n/lines= q/quiet q/silent v/verbose z/zero-terminated " ++
      "s/sleep-interval= /pid= /retry /follow% 0 1 2 3 4 5 6 7 8 9") args start fun p key value => do
    match key, value with
    | "c", '+' :: s => p.withAmount true true s
    | "c", '-' :: s => p.withAmount true false s
    | "c", s => p.withAmount true false s
    | "n", '+' :: s => p.withAmount false true s
    | "n", '-' :: s => p.withAmount false false s
    | "n", s => p.withAmount false false s
    | "q", _ => return { p with names := some false }
    | "v", _ => return { p with names := some true }
    | "z", _ => return { p with ending := '\x00' }
    | "f", _ => return { p with follow := true }
    | "F", _ => return { p with follow := true }
    | "follow", _ => return { p with follow := true }
    | "s", _ => return p
    | "pid", _ => return p
    | "retry", _ => return p
    | d, _ => giveUp 1 (raw "option used in invalid context -- " ++ d.toList)
  let named := p.names.getD (1 < files.length)
  let mut status := 0
  let mut first := true
  for file in (if files.isEmpty then [['-']] else files) do
    let result ← content file
    let opens : Bool := match result with
      | .ok _ => true
      | .error f => f == .isDir || f == .badDescriptor
    if opens then
      if named then say (Excerpt.header first file)
      first := false
    match result with
    | .ok s => say (p.end_ s)
    | .error f =>
      let verb := if opens then "error reading " else "cannot open "
      let name := Quoted.always (if file == ['-'] then raw "standard input" else file)
      grumble (raw verb ++ name ++ (if opens then [] else raw " for reading") ++ raw ": " ++ f.message)
      status := 1
  if p.follow then
    match ← opened? 0, files with
    | some (_, { place := .pipe _, .. }), [] => return status
    | _, _ => hang
  return status

/-! ## Another order -/

/-- The pieces of a text between separators; each piece but the first follows one. -/
def piecesBetween (separator : Raw) : (size : Nat) → (soFar : Raw) → Raw → List Raw
  | 0, soFar, s => [soFar.reverse ++ s]
  | _, soFar, [] => [soFar.reverse]
  | n + 1, soFar, c :: r =>
    if separator.isPrefixOf (c :: r) then
      soFar.reverse :: piecesBetween separator n [] ((c :: r).drop separator.length)
    else piecesBetween separator n (c :: soFar) r

/-- Records of a text in the other order. A separator belongs to what stands before or behind it. -/
def reversedRecords (separator : Raw) (before : Bool) (s : Raw) : Raw :=
  let pieces := piecesBetween separator (s.length + 1) [] s
  if before then
    let records := match pieces with
      | first :: rest => first :: rest.map (separator ++ ·)
      | [] => []
    records.reverse.flatten
  else
    let last := pieces.getLastD []
    let records := pieces.dropLast.map (· ++ separator)
    last ++ records.reverse.flatten

/-- Shows files with their last lines first. -/
def tac : Tool := fun args => do
  let ((before, separator), files) ← options "b/before r/regex s/separator=" args (false, ['\n'])
    fun (before, separator) key value => return match key with
      | "b" => (true, separator)
      | "s" => (before, if value.isEmpty then ['\x00'] else value)
      | _ => (before, separator)
  let mut status := 0
  for file in (if files.isEmpty then [['-']] else files) do
    match ← content file with
    | .ok s => say (reversedRecords separator before s)
    | .error f =>
      status := 1
      if f == .isDir then
        grumble (Quoted.ifNeeded file ++ raw ": read error: " ++ FileFault.invalid.message)
      else grumble (raw "failed to open " ++ Quoted.always file ++ raw " for reading: " ++ f.message)
  return status

/-- Shows lines with their last characters first. -/
def rev : Tool := fun args => do
  let (_, files) ← options "h V 0/zero" args () fun s _ _ => return s
  let mut status := 0
  for file in (if files.isEmpty then [none] else files.map some) do
    match ← match file with
      | some path => content path false
      | none => readAll 0 with
    | .ok s =>
      for (line, ended) in Raw.linesOf [] s do
        say (((Raw.units line).reverse.flatMap (·.bytes)) ++ if ended then ['\n'] else [])
    | .error f =>
      grumble (raw "cannot open " ++ file.getD (raw "stdin") ++ raw ": " ++ f.message)
      status := 1
  return status

end DocAudit.Shell.Tool
