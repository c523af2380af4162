import DocAudit.Shell.Options

/-!
# Arguments from the input

## Contents

* `Gathering`, `Items.read`: the arguments that the input writes
* `xargs`: programs that are run with them
-/

namespace DocAudit.Shell.Tool

open Text Act

/-- How arguments are gathered. -/
structure Gathering where
  /-- The character that ends arguments; otherwise blanks do, and there are quotes. -/
  delimiter : Option Char := none
  /-- The word for which whole lines are put in. -/
  place : Option Raw := none
  most : Option Nat := none
  lines : Option Nat := none
  size : Nat := 131072
  quietIfEmpty : Bool := false
  shows : Bool := false
  asks : Bool := false
  ending : Option Raw := none
  file : Option Raw := none

/-- The arguments of the input, line by line; and the quote that was open at the end. -/
structure Items where
  lines : List (List Raw) := []
  unclosed : Option Char := none

namespace Items

/-- How far a line has been read: the words so far, the last of them first, the word at work, the open quote,
and whether blanks come before words. -/
structure Progress where
  lines : List (List Raw) := []
  words : List Raw := []
  word : Option Raw := none
  quote : Option Char := none

/-- The end of a word. -/
def Progress.endWord (p : Progress) : Progress :=
  match p.word with
  | some w => { p with words := w.reverse :: p.words, word := none }
  | none => p

/-- The end of a line. -/
def Progress.endLine (p : Progress) : Progress :=
  let p := p.endWord
  if p.words.isEmpty then p else { p with lines := p.words.reverse :: p.lines, words := [] }

/-- One more character of a word. -/
def Progress.add (p : Progress) (c : Char) : Progress := { p with word := some (c :: p.word.getD []) }

/-- The end in the middle of a quote. -/
def Progress.cut (p : Progress) (quote : Char) : Items where
  lines := (if p.words.isEmpty then p.lines else p.words.reverse :: p.lines).reverse
  unclosed := some quote

/-- Reads text with quotes. `whole` tells that blanks do not end words. -/
def quoted (whole : Bool) : Progress → Raw → Items
  | p, [] =>
    match p.quote with
    | some q => p.cut q
    | none => { lines := p.endLine.lines.reverse }
  | p, c :: rest =>
    match p.quote with
    | some q =>
      if c == '\n' then p.cut q
      else if c == q then quoted whole { p with quote := none, word := some (p.word.getD []) } rest
      else quoted whole (p.add c) rest
    | none =>
      if p.word.isNone && Raw.isSpace c then quoted whole p rest
      else if c == '\n' then quoted whole p.endLine rest
      else if !whole && (c == ' ' || c == '\t') then quoted whole p.endWord rest
      else if c == '\'' || c == '"' then
        quoted whole { p with quote := some c, word := some (p.word.getD []) } rest
      else if c == '\\' then
        match rest with
        | d :: rest => quoted whole (p.add d) rest
        | [] => quoted whole p []
      else quoted whole (p.add c) rest

/-- The arguments before one that stands for the end. -/
def before (ending : Raw) : List (List Raw) → List (List Raw)
  | [] => []
  | line :: rest =>
    let kept := line.takeWhile (· != ending)
    if kept.length < line.length then (if kept.isEmpty then [] else [kept]) else line :: before ending rest

/-- The arguments that the input writes. -/
def read (v : Gathering) (s : Raw) : Items :=
  match v.delimiter with
  | some d =>
    let pieces := splitAt d s
    let pieces := if pieces.getLast? == some [] then pieces.dropLast else pieces
    { lines := pieces.map fun p => [p] }
  | none =>
    let items := quoted v.place.isSome {} s
    let zeroless (w : Raw) : Raw := w.takeWhile (· != '\x00')
    let lines := items.lines.map (·.map zeroless)
    { items with lines := match v.ending with
      | some e => before e lines
      | none => lines }

end Items

/-- The arguments that go to one program, and those that are left; so many at most, of a size. -/
def firstBatch (most : Option Nat) (size : Nat) : (count : Nat) → List Raw → List Raw × List Raw
  | _, [] => ([], [])
  | count, w :: rest =>
    if most.any (· ≤ count) || size < w.length + 1 then ([], w :: rest)
    else
      let (batch, left) := firstBatch most (size - (w.length + 1)) (count + 1) rest
      (w :: batch, left)

/-- Arguments in batches; nothing where one is too long. The number bounds the arguments. -/
def batches (most : Option Nat) (size : Nat) : Nat → List Raw → Option (List (List Raw))
  | 0, _ => some []
  | _ + 1, [] => some []
  | n + 1, words =>
    match firstBatch most size 0 words with
    | ([], _) => none
    | (batch, left) => (batches most size n left).map (batch :: ·)

/-- Lines in groups of so many. The number bounds the lines. -/
def groupsOf (count : Nat) : Nat → List (List Raw) → List (List Raw)
  | 0, _ => []
  | n + 1, lines =>
    if lines.isEmpty then [] else (lines.take count).flatten :: groupsOf count n (lines.drop count)

/-- A text with another one put in for each place. The number bounds the length. -/
def putIn (place value : Raw) : Nat → Raw → Raw
  | 0, s => s
  | n + 1, s =>
    if !place.isEmpty && place.isPrefixOf s then value ++ putIn place value n (s.drop place.length)
    else match s with
      | [] => []
      | c :: rest => c :: putIn place value n rest

/-- A number that an option has to be. -/
def gatheringNumber (letter : Char) (least : Nat) (s : Raw) : Act Nat := do
  match Raw.int? (s.dropWhile Raw.isSpace) with
  | some n =>
    if n < least then
      misuse 1 (raw "value " ++ s ++ raw " for -" ++ [letter] ++ raw " option should be >= " ++ ofNat least)
    return n.toNat
  | none => misuse 1 (raw "invalid number \"" ++ s ++ raw "\" for -" ++ [letter] ++ raw " option")

/-- The character that a delimiter writes. -/
def delimiterOf (s : Raw) : Act Char := do
  match s with
  | [c] => return c
  | '\\' :: rest =>
    let special? : Option Char := match rest with
      | 'a' :: _ => some '\x07'
      | 'b' :: _ => some '\x08'
      | 'f' :: _ => some '\x0c'
      | 'n' :: _ => some '\n'
      | 'r' :: _ => some '\r'
      | 't' :: _ => some '\t'
      | 'v' :: _ => some '\x0b'
      | '\\' :: _ => some '\\'
      | 'x' :: digits =>
        if !digits.isEmpty && digits.all fun c => c.isDigit || ('a' ≤ c.toLower && c.toLower ≤ 'f') then
          some (Char.ofNat (digits.foldl (fun n c =>
            16 * n + (if c.isDigit then c.toNat - 48 else c.toLower.toNat - 87)) 0 % 256))
        else none
      | digits =>
        if !digits.isEmpty && digits.all fun c => '0' ≤ c && c ≤ '7' then
          some (Char.ofNat (digits.foldl (fun n c => 8 * n + (c.toNat - 48)) 0 % 256))
        else none
    match special? with
    | some c => return c
    | none => giveUp 1 (raw "Invalid escape sequence " ++ s ++ raw " in input delimiter specification.")
  | s => giveUp 1 (raw "Invalid input delimiter specification " ++ s ++
      raw ": the delimiter must be either a single character or an escape sequence starting with \\.")

/-- A change of how arguments are gathered. -/
def Gathering.withOption (v : Gathering) (key : String) (value : Raw) : Act Gathering := do
  let exclusive (first second : String) (gone : String) : Act Unit :=
    grumble (raw "warning: options " ++ raw first ++ raw " and " ++ raw second ++
      raw " are mutually exclusive, ignoring previous " ++ raw gone ++ raw " value")
  match key with
  | "0" => return { v with delimiter := some '\x00' }
  | "d" => return { v with delimiter := some (← delimiterOf value) }
  | "a" => return { v with file := some value }
  | "E" => return { v with ending := if value.isEmpty then none else some value }
  | "e" => return { v with ending := if value.isEmpty then none else some value }
  | "I" =>
    if v.most.isSome then exclusive "--max-args" "--replace/-I/-i" "--max-args"
    if v.lines.isSome then exclusive "--max-lines" "--replace/-I/-i" "--max-lines"
    return { v with place := some value, most := none, lines := none }
  | "i" =>
    let place := if value.isEmpty then raw "\x7b\x7d" else value
    return { v with place := some place, most := none, lines := none }
  | "L" =>
    let n ← gatheringNumber 'L' 1 value
    if v.place.isSome then exclusive "--replace" "-L" "--replace"
    return { v with lines := some n, most := none, place := none }
  | "l" =>
    let n ← if value.isEmpty then pure 1 else gatheringNumber 'l' 1 value
    if v.place.isSome then exclusive "--replace" "-l" "--replace"
    return { v with lines := some n, most := none, place := none }
  | "n" =>
    let n ← gatheringNumber 'n' 1 value
    if v.place.isSome && n == 1 then return v
    if v.place.isSome then exclusive "--replace" "--max-args" "--replace"
    return { v with most := some n, lines := none, place := none }
  | "P" =>
    let _ ← gatheringNumber 'P' 0 value
    return v
  | "s" => return { v with size := ← gatheringNumber 's' 1 value }
  | "p" => return { v with shows := true, asks := true }
  | "r" => return { v with quietIfEmpty := true }
  | "t" => return { v with shows := true }
  | _ => return v

/-- Runs a program; the status that counts, and whether nothing more is run. -/
def runGathered (launcher : Launcher) (v : Gathering) (words : List Raw) : Act (Nat × Bool) := do
  let name := words.headD []
  if v.shows then
    let _ ← write 2 (joinWith [' '] (words.map fun w => Quoted.ifNeeded w false) ++
      (if v.asks then [] else ['\n']))
  if v.asks then
    grumble (raw "failed to open /dev/tty for reading: No such device or address")
    exit 1
  let s ← shell
  install 0 { place := .null, readable := true }
  let result ← launcher.spawn words
  setShell fun _ => s
  match result with
  | .error f =>
    grumble (name ++ raw ": " ++ f.message)
    return (launchStatus f, true)
  | .ok (.exited 0) => return (0, false)
  | .ok (.exited 255) =>
    grumble (name ++ raw ": exited with status 255; aborting")
    return (124, true)
  | .ok (.exited _) => return (123, false)
  | .ok (.killed signal) =>
    grumble (name ++ raw ": terminated by signal " ++ ofNat signal)
    return (125, true)

/-- Runs programs with arguments from the input. -/
def xargs (launcher : Launcher) : Tool := fun args => do
  let (v, command) ← optionsOf ("0/null a/arg-file= d/delimiter= E= e/eof% I= i/replace% L= l/max-lines% " ++
      "n/max-args= o/open-tty P/max-procs= p/interactive /process-slot-var= r/no-run-if-empty " ++
      "s/max-chars= /show-limits t/verbose x/exit")
      1 true args ({} : Gathering) fun v key value => v.withOption key value
  let input ← match v.file with
    | none => readAll 0
    | some path => match ← content path false with
      | .ok s => pure (.ok s)
      | .error f =>
        giveUp 1 (raw "Cannot open input file " ++ Quoted.between path ++ raw ": " ++ f.message)
  let text : Raw := match input with
    | .ok s => s
    | .error _ => []
  if v.delimiter.isNone && text.contains '\x00' then
    grumble (raw "WARNING: a NUL character occurred in the input.  " ++
      raw "It cannot be passed through in the argument list.  Did you mean to use the --null option?")
  let items := Items.read v text
  let command := if command.isEmpty then [raw "echo"] else command
  let base := totalOf (command.map fun w => w.length + 1)
  let count := items.lines.length + totalOf (items.lines.map List.length) + 1
  let plan? : Option (List (List Raw)) := match v.place with
    | some place =>
      if place.isEmpty then none
      else some (items.lines.map fun line =>
        let value := line.headD []
        command.take 1 ++ (command.drop 1).map fun w => putIn place value (w.length + 1) w)
    | none =>
      let groups := match v.lines with
        | some n => groupsOf n count items.lines
        | none => [items.lines.flatten]
      (groups.mapM fun g => batches v.most (v.size - base) count g).map fun bs =>
        bs.flatten.map (command ++ ·)
  match plan? with
  | none => giveUp 1 (raw (if v.place.isSome then "command too long" else "argument line too long"))
  | some plan =>
    let plan := if plan.isEmpty && !v.quietIfEmpty && v.place.isNone && items.unclosed.isNone then [command]
      else plan
    let mut status := 0
    let mut stopped := false
    for words in plan do
      if !stopped then
        let (s, stop) ← runGathered launcher v words
        if s != 0 then status := s
        stopped := stop
    if stopped then return status
    match items.unclosed with
    | some q =>
      giveUp 1 (raw "unmatched " ++ raw (if q == '"' then "double" else "single") ++
        raw " quote; by default quotes are special to xargs unless you use the -0 option")
    | none => return status

end DocAudit.Shell.Tool
