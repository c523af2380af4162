import DocAudit.Shell.Options
import DocAudit.Text.Columns

/-!
# Parts of lines, and counts

## Contents

* `wc`, `nl`: counts and numbers of lines
* `cut`, `paste`: columns of lines
* `fold`, `expand`, `unexpand`: lines of another width
-/

namespace DocAudit.Shell.Tool

open Text Act

/-- The content of an operand, or a complaint about it. -/
def contentOr (file : Raw) : Act (Option Raw) := do
  match ← content file with
  | .ok s => return some s
  | .error f =>
    fileTrouble file f
    return none

/-- What is done for each operand, or for the input when there is none, and whether every one could be
read. -/
def forContents (files : List Raw) (body : Raw → Act Unit) : Act Nat := do
  let mut status := 0
  for file in (if files.isEmpty then [['-']] else files) do
    match ← contentOr file with
    | some s => body s
    | none => status := 1
  return status

/-- Records with the mark of whether the ending follows them. -/
def recordsWith (ending : Char) (s : Raw) : List (Raw × Bool) :=
  let pieces := splitAt ending s
  let whole := pieces.dropLast.map fun p => (p, true)
  match pieces.getLast? with
  | some [] => whole
  | some last => whole ++ [(last, false)]
  | none => whole

/-- The records of a text. -/
def recordsOf (ending : Char) (s : Raw) : List Raw := (recordsWith ending s).map (·.1)

/-! ## Counts -/

/-- What can be counted in a file. -/
structure Counts where
  lines : Nat := 0
  words : Nat := 0
  chars : Nat := 0
  bytes : Nat := 0
  width : Nat := 0
  deriving DecidableEq, Repr

namespace Counts

/-- A character that separates words. -/
def isBreak (c : Char) : Bool :=
  let n := c.toNat
  (9 ≤ n && n ≤ 13) || n == 32 || n == 0x1680 || (0x2000 ≤ n && n ≤ 0x200a) || n == 0x2028 || n == 0x2029 ||
    n == 0x202f || n == 0x205f || n == 0x3000 || n == 0xa0 || n == 0x2060

/-- Where counting is: the columns of the line so far, and whether a word goes on. -/
structure Place where
  counts : Counts := {}
  column : Nat := 0
  inWord : Bool := false

/-- Counts a unit. -/
def step (p : Place) (u : Raw.Unit) : Place :=
  match u.char with
  | none => p
  | some c =>
    let counts := { p.counts with chars := p.counts.chars + 1 }
    let lineDone : Counts := { counts with width := max counts.width p.column }
    match c with
    | '\n' => { counts := { lineDone with lines := counts.lines + 1 }, column := 0, inWord := false }
    | '\r' => { counts := lineDone, column := 0, inWord := false }
    | '\x0c' => { counts := lineDone, column := 0, inWord := false }
    | '\t' => { counts, column := p.column + 8 - p.column % 8, inWord := false }
    | ' ' => { counts, column := p.column + 1, inWord := false }
    | '\x0b' => { counts, column := p.column, inWord := false }
    | c =>
      let column := p.column + columns c
      let n := c.toNat
      if n < 32 || (127 ≤ n && n < 160) then { p with counts }
      else if isBreak c then { counts, column, inWord := false }
      else
        { counts := if p.inWord then counts else { counts with words := counts.words + 1 }
          column
          inWord := true }

/-- The counts of a text. -/
def of (s : Raw) : Counts :=
  let p := (Raw.units s).foldl step {}
  { p.counts with bytes := s.length, width := max p.counts.width p.column }

/-- The counts of two texts together. -/
def add (a b : Counts) : Counts where
  lines := a.lines + b.lines
  words := a.words + b.words
  chars := a.chars + b.chars
  bytes := a.bytes + b.bytes
  width := max a.width b.width

/-- The counts that are asked for, in a row. -/
def shown (c : Counts) (keys : List String) (width : Nat) : Raw :=
  let columns := [("l", c.lines), ("w", c.words), ("m", c.chars), ("c", c.bytes), ("L", c.width)]
  joinWith [' '] ((columns.filter fun (k, _) => keys.contains k).map fun (_, n) =>
    Raw.padLeft ' ' width (ofNat n))

end Counts

/-- Counts lines, words and bytes. -/
def wc : Tool := fun args => do
  let ((keys, total), files) ← options
    "c/bytes m/chars l/lines w/words /files0-from= L/max-line-length /total= /debug" args
    (([] : List String), raw "auto") fun (keys, total) key value => do
      match key with
      | "files0-from" => return (keys, total)
      | "debug" => return (keys, total)
      | "total" =>
        let names := ["auto", "always", "only", "never"].map String.toList
        match names.filter fun n => value.isPrefixOf n with
        | [name] => return (keys, name)
        | _ => if value == raw "a" then return (keys, total) else
          misuse 1 (raw "invalid argument " ++ Quoted.between value ++ raw " for " ++
            Quoted.between (raw "--total") ++ raw "\nValid arguments are:\n" ++
            joinWith ['\n'] (names.map fun n => raw "  - " ++ Quoted.between n))
      | key => return (key :: keys, total)
  let keys := if keys.isEmpty then ["l", "w", "c"] else keys.eraseDups
  let operands : List (Option Raw) := if files.isEmpty then [none] else files.map some
  let mut sizes : List (Option (Option Nat)) := []
  for file in operands do
    match file with
    | some path =>
      if path == ['-'] then sizes := sizes ++ [some none]
      else match ← stat path with
        | .ok (_, .file s) => sizes := sizes ++ [some (some s.length)]
        | .ok _ => sizes := sizes ++ [some none]
        | .error _ => sizes := sizes ++ [none]
    | none =>
      match ← opened? 0 with
      | some (_, { place := .file names, .. }) =>
        match Disk.node? (← tree) names with
        | some (.file s) => sizes := sizes ++ [some (some s.length)]
        | _ => sizes := sizes ++ [some none]
      | _ => sizes := sizes ++ [some none]
  let alone := operands.length == 1 && keys.length == 1
  let width :=
    if alone then 1
    else
      let sum := totalOf ((sizes.filterMap id).filterMap id)
      max (ofNat sum).length (if sizes.any (· == some none) then 7 else 1)
  let width := if total == raw "only" then 1 else width
  let mut status := 0
  let mut sum : Counts := {}
  for file in operands do
    let name : Raw := match file with
      | some path => ' ' :: if path.contains '\n' then Quoted.ifNeeded path else path
      | none => []
    let (counts?, fault?) ← match ← content (file.getD ['-']) with
      | .ok s => pure (some (Counts.of s), none)
      | .error f => pure (if f == .isDir then some ({} : Counts) else none, some f)
    if let some f := fault? then
      match file with
      | some path => fileTrouble path f
      | none => grumble (raw "'standard input': " ++ f.message)
      status := 1
    if let some counts := counts? then
      sum := sum.add counts
      if total != raw "only" then say (counts.shown keys width ++ name ++ ['\n'])
  if total == raw "always" || total == raw "only" || (total == raw "auto" && 1 < operands.length) then
    say (sum.shown keys width ++ (if total == raw "only" then [] else raw " total") ++ ['\n'])
  return status

/-! ## Numbers of lines -/

/-- How lines are numbered. -/
structure Numbering where
  header : Raw := ['n']
  body : Raw := ['t']
  footer : Raw := ['n']
  delimiter : Raw := raw "\\:"
  step : Int := 1
  join : Nat := 1
  format : Raw := raw "rn"
  keep : Bool := false
  separator : Raw := ['\t']
  start : Int := 1
  width : Nat := 6

namespace Numbering

/-- A number as it stands in front of a line. -/
def shown (v : Numbering) (n : Int) : Raw :=
  let s := ofInt n
  if v.format == raw "ln" then Raw.padRight v.width s
  else if v.format == raw "rz" then
    if n < 0 then '-' :: Raw.padLeft '0' (v.width - 1) (s.drop 1) else Raw.padLeft '0' v.width s
  else Raw.padLeft ' ' v.width s

/-- Where numbering is: the next number, the style at work, and how many empty lines there were. -/
structure Place where
  next : Int
  style : Raw
  empty : Nat := 0

/-- A line with its number, if the style gives it one. -/
def line (v : Numbering) (p : Place) (s : Raw) : Place × Raw :=
  let section? : Option Raw :=
    if v.delimiter.isEmpty then none
    else if s == v.delimiter ++ v.delimiter ++ v.delimiter then some v.header
    else if s == v.delimiter ++ v.delimiter then some v.body
    else if s == v.delimiter then some v.footer
    else none
  match section? with
  | some style => ({ p with style, next := if v.keep then p.next else v.start, empty := 0 }, ['\n'])
  | none =>
    let empty := if s.isEmpty then p.empty + 1 else 0
    let counts := match p.style with
      | ['a'] => if 1 < v.join && s.isEmpty then empty == v.join else true
      | ['t'] => !s.isEmpty
      | _ => false
    let p := { p with empty := if counts || !s.isEmpty then 0 else empty }
    if counts then ({ p with next := p.next + v.step }, v.shown p.next ++ v.separator ++ s ++ ['\n'])
    else (p, List.replicate (v.width + v.separator.length) ' ' ++ s ++ ['\n'])

end Numbering

/-- Numbers lines. -/
def nl : Tool := fun args => do
  let style (value : Raw) (what : String) : Act Raw := do
    if [['a'], ['t'], ['n']].contains value || value.head? == some 'p' then return value
    else misuse 1 (raw "invalid " ++ raw what ++ raw " numbering style: " ++ Quoted.between value)
  let number (value : Raw) (least : Int) (what : String) : Act Int := do
    match Raw.int? value with
    | some n =>
      if n < least then
        giveUp 1 (raw what ++ raw ": " ++ Quoted.between value ++ raw ": Numerical result out of range")
      else return n
    | none => giveUp 1 (raw what ++ raw ": " ++ Quoted.between value)
  let (v, files) ← options ("h/header-numbering= b/body-numbering= f/footer-numbering= " ++
      "v/starting-line-number= i/line-increment= p/no-renumber l/join-blank-lines= s/number-separator= " ++
      "w/number-width= n/number-format= d/section-delimiter=") args ({} : Numbering) fun v key value => do
    match key with
    | "h" => return { v with header := ← style value "header" }
    | "b" => return { v with body := ← style value "body" }
    | "f" => return { v with footer := ← style value "footer" }
    | "v" => return { v with start := ← number value (-9223372036854775808) "invalid starting line number" }
    | "i" => return { v with step := ← number value (-9223372036854775808) "invalid line number increment" }
    | "p" => return { v with keep := true }
    | "l" => return { v with join := (← number value 1 "invalid line number of blank lines").toNat }
    | "s" => return { v with separator := value }
    | "w" => return { v with width := (← number value 1 "invalid line number field width").toNat }
    | "n" =>
      if [raw "ln", raw "rn", raw "rz"].contains value then return { v with format := value }
      else misuse 1 (raw "invalid line numbering format: " ++ Quoted.between value)
    | _ => return { v with delimiter := if value.length == 1 then value ++ [':'] else value }
  let mut status := 0
  let mut p : Numbering.Place := { next := v.start, style := v.body }
  for file in (if files.isEmpty then [['-']] else files) do
    match ← contentOr file with
    | some s =>
      for line in recordsOf '\n' s do
        let (next, out) := v.line p line
        p := next
        say out
    | none => status := 1
  return status

/-! ## Columns -/

/-- A range of positions; the end may be open. -/
structure Range where
  first : Nat
  last : Option Nat
  deriving DecidableEq, Repr

namespace Range

/-- What the reading of ranges knows of the one at work. -/
structure Draft where
  value : Nat := 0
  initial : Nat := 1
  dash : Bool := false
  left : Bool := false
  right : Bool := false
  /-- The digits of the number at work. -/
  digits : Raw := []
  found : List Range := []

/-- The range at work is over. -/
def finish (zero : Raw) (d : Draft) : Except Raw Draft := do
  let next : Draft := { found := d.found }
  if d.dash then
    if !d.left && !d.right then throw (raw "invalid range with no endpoint: -")
    else if !d.right then return { next with found := d.found ++ [{ first := d.initial, last := none }] }
    else if d.value < d.initial then throw (raw "invalid decreasing range")
    else return { next with found := d.found ++ [{ first := d.initial, last := some d.value }] }
  else if d.value == 0 then throw zero
  else return { next with found := d.found ++ [{ first := d.value, last := some d.value }] }

/-- The ranges that a text lists. -/
def readAll (fields : Bool) : Draft → Raw → Except Raw (List Range)
  | d, [] => do return (← finish zero d).found
  | d, c :: r => do
    if c == '-' then
      if d.dash then throw (raw (if fields then "invalid field range" else "invalid byte or character range"))
      else if d.left && d.value == 0 then throw zero
      else readAll fields { d with
        dash := true, initial := if d.left then d.value else 1, value := 0, digits := [] } r
    else if c == ',' || c == ' ' || c == '\t' then readAll fields (← finish zero d) r
    else if c.isDigit then
      let value := 10 * d.value + (c.toNat - 48)
      let digits := d.digits ++ [c]
      if 18446744073709551615 ≤ value then
        throw (raw (if fields then "field number " else "byte/character offset ") ++
          Quoted.between (digits ++ r.takeWhile Char.isDigit) ++ raw " is too large")
      else readAll fields { d with
        value, digits, left := d.left || !d.dash, right := d.right || d.dash } r
    else throw (raw (if fields then "invalid field value " else "invalid byte/character position ") ++
      Quoted.between (c :: r))
where
  /-- The complaint about a position that is zero. -/
  zero : Raw := raw (if fields then "fields are numbered from 1" else
    "byte/character positions are numbered from 1")

/-- Ranges in order, where those that overlap are one. -/
def merged (rs : List Range) : List Range :=
  (rs.mergeSort fun a b => a.first ≤ b.first).foldr (fun r rest =>
    match rest with
    | next :: others =>
      if r.last.all (next.first ≤ ·) then
        let last := match r.last, next.last with
          | some a, some b => some (max a b)
          | _, _ => none
        { first := r.first, last } :: others.dropWhile fun o => last.isNone && o.first ≥ r.first
      else r :: next :: others
    | [] => [r]) []

/-- The positions that are in none of the ranges. -/
def complement : (next : Nat) → List Range → List Range
  | next, [] => [{ first := next, last := none }]
  | next, r :: rest =>
    let before : List Range := if next < r.first then [{ first := next, last := some (r.first - 1) }] else []
    match r.last with
    | none => before
    | some last => before ++ complement (max next (last + 1)) rest

/-- The range has the position. -/
def has (r : Range) (n : Nat) : Bool := r.first ≤ n && r.last.all (n ≤ ·)

end Range

/-- How columns are cut out. -/
structure Cutting where
  list : Option (Bool × Raw) := none
  delimiter : Option Char := none
  only : Bool := false
  ending : Char := '\n'
  complement : Bool := false
  output : Option Raw := none

/-- The bytes of a line at positions; a separator may stand between ranges. -/
def cutBytes (ranges : List Range) (between : Option Raw) (line : Raw) : Raw :=
  let pieces := ranges.filterMap fun r =>
    let rest := line.drop (r.first - 1)
    if rest.isEmpty then none
    else some (match r.last with
      | some last => rest.take (last + 1 - r.first)
      | none => rest)
  joinWith (between.getD []) pieces

/-- Shows columns of lines. -/
def cut : Tool := fun args => do
  let (v, files) ← options ("b/bytes= c/characters= f/fields= d/delimiter= n s/only-delimited " ++
      "/output-delimiter= /complement z/zero-terminated") args ({} : Cutting) fun v key value => do
    let listed (fields : Bool) : Act Cutting :=
      if v.list.isSome then misuse 1 (raw "only one list may be specified")
      else return { v with list := some (fields, value) }
    match key with
    | "b" => listed false
    | "c" => listed false
    | "f" => listed true
    | "d" => match value with
      | [] => return { v with delimiter := some '\x00' }
      | [c] => return { v with delimiter := some c }
      | _ => misuse 1 (raw "the delimiter must be a single character")
    | "s" => return { v with only := true }
    | "z" => return { v with ending := '\x00' }
    | "complement" => return { v with complement := true }
    | "output-delimiter" => return { v with output := some (if value.isEmpty then ['\x00'] else value) }
    | _ => return v
  match v.list with
  | none => misuse 1 (raw "you must specify a list of bytes, characters, or fields")
  | some (fields, list) =>
    if !fields && v.delimiter.isSome then
      misuse 1 (raw "an input delimiter may be specified only when operating on fields")
    if !fields && v.only then
      misuse 1 (raw "suppressing non-delimited lines makes sense\n\tonly when operating on fields")
    match Range.readAll fields {} list with
    | .error message => misuse 1 message
    | .ok ranges =>
      let ranges := Range.merged ranges
      let ranges := if v.complement then Range.complement 1 ranges else ranges
      let delimiter := v.delimiter.getD '\t'
      forContents files fun s => do
        for line in recordsOf v.ending s do
          if fields then
            if line.contains delimiter then
              let kept := (splitAt delimiter line).zipIdx.filter fun (_, i) => ranges.any (·.has (i + 1))
              say (joinWith (v.output.getD [delimiter]) (kept.map (·.1)) ++ [v.ending])
            else if !v.only then say (line ++ [v.ending])
          else say (cutBytes ranges v.output line ++ [v.ending])

/-- The separators that a text lists; nothing where one is empty. -/
def separatorList : Raw → Except Unit (List Raw)
  | [] => .ok []
  | ['\\'] => .error ()
  | '\\' :: c :: r => do
    let separator : Raw := match c with
      | '0' => []
      | 'b' => ['\x08']
      | 'f' => ['\x0c']
      | 'n' => ['\n']
      | 'r' => ['\r']
      | 't' => ['\t']
      | 'v' => ['\x0b']
      | c => [c]
    return separator :: (← separatorList r)
  | c :: r => do return [c] :: (← separatorList r)

/-- Joins fields, with each separator of a list in its turn. -/
def joinedInTurn (separators : List Raw) : (turn : Nat) → List Raw → Raw
  | _, [] => []
  | _, [s] => s
  | turn, s :: rest =>
    let separator := if separators.isEmpty then [] else separators.getD (turn % separators.length) []
    s ++ separator ++ joinedInTurn separators (turn + 1) rest

/-- Rows of columns, where columns that are over go on with empty fields. The number bounds the rows. -/
def rowsOf : Nat → List (List Raw) → List (List Raw)
  | 0, _ => []
  | n + 1, columns =>
    if columns.all (·.isEmpty) then []
    else columns.map (·.headD []) :: rowsOf n (columns.map List.tail)

/-- Shows lines of files beside each other. -/
def paste : Tool := fun args => do
  let ((delimiters, serial, ending), files) ← options "s/serial d/delimiters= z/zero-terminated" args
    (['\t'], false, '\n') fun (delimiters, serial, ending) key value => return match key with
      | "d" => (if value.isEmpty then raw "\\0" else value, serial, ending)
      | "s" => (delimiters, true, ending)
      | _ => (delimiters, serial, '\x00')
  match separatorList delimiters with
  | .error _ => giveUp 1 (raw "delimiter list ends with an unescaped backslash: " ++ delimiters)
  | .ok separators =>
    let files := if files.isEmpty then [['-']] else files
    if serial then
      forContents files fun s => say (joinedInTurn separators 0 (recordsOf ending s) ++ [ending])
    else
      let mut columns : List (Raw × Option (List Raw)) := []
      for file in files do
        if file == ['-'] then columns := columns ++ [(file, none)]
        else match ← content file with
          | .ok s => columns := columns ++ [(file, some (recordsOf ending s))]
          | .error f =>
            fileTrouble file f
            exit 1
      let inputs := columns.countP (·.2.isNone)
      let input ← if inputs == 0 then pure [] else
        match ← content ['-'] with
        | .ok s => pure (recordsOf ending s)
        | .error f =>
          fileTrouble ['-'] f
          exit 1
      let mut used := 0
      let mut lists : List (List Raw) := []
      for (_, column?) in columns do
        match column? with
        | some column => lists := lists ++ [column]
        | none =>
          let turn := used
          lists := lists ++ [(input.zipIdx.filter fun (_, i) => i % inputs == turn).map (·.1)]
          used := used + 1
      let longest := (lists.map (·.length)).foldl max 0
      for row in rowsOf longest lists do
        say (joinedInTurn separators 0 row ++ [ending])
      return 0

/-! ## Widths -/

/-- How lines are folded. -/
structure Folding where
  bytes : Bool := false
  blanks : Bool := false
  width : Nat := 80

/-- The column after a byte. -/
def columnAfter (bytes : Bool) (column : Nat) (c : Char) : Nat :=
  if bytes then column + 1
  else match c with
    | '\x08' => column - 1
    | '\r' => 0
    | '\t' => column + 8 - column % 8
    | _ => column + 1

/-- Folds a line. The number bounds the steps; the rest of a line comes again after a break. -/
def foldLine (v : Folding) : Nat → (column : Nat) → (soFar : Raw) → Raw → Raw
  | 0, _, soFar, s => soFar.reverse ++ s
  | _, _, soFar, [] => soFar.reverse
  | n + 1, column, soFar, c :: r =>
    let after := columnAfter v.bytes column c
    if v.width < after then
      let kept := if v.blanks then soFar.dropWhile fun c => c != ' ' && c != '\t' else []
      if !kept.isEmpty then
        let moved := (soFar.take (soFar.length - kept.length)).reverse
        kept.reverse ++ ['\n'] ++ foldLine v n 0 [] (moved ++ c :: r)
      else if soFar.isEmpty then foldLine v n after [c] r
      else soFar.reverse ++ ['\n'] ++ foldLine v n 0 [] (c :: r)
    else foldLine v n after (c :: soFar) r

/-- Folds lines. -/
def fold : Tool := fun args => do
  let digits := args.map fun a => match a with
    | '-' :: c :: cs => if (c :: cs).all Char.isDigit then raw "-w" ++ c :: cs else a
    | a => a
  let (v, files) ← options "b/bytes s/spaces w/width=" digits ({} : Folding) fun v key value => do
    match key with
    | "b" => return { v with bytes := true }
    | "s" => return { v with blanks := true }
    | _ => match Raw.nat? value with
      | some n =>
        if n == 0 then giveUp 1 (raw "invalid number of columns: " ++ Quoted.between value ++
          raw ": Numerical result out of range")
        else return { v with width := n }
      | none => giveUp 1 (raw "invalid number of columns: " ++ Quoted.between value)
  forContents files fun s => do
    for (line, ended) in Raw.linesOf [] s do
      say (foldLine v (4 * line.length + 4) 0 [] line ++ if ended then ['\n'] else [])

/-- The places to which tabulators lead. -/
structure Stops where
  /-- The places in order, after which each tabulator counts as a blank; nothing when they are regular. -/
  places : List Nat := []
  every : Nat := 8

/-- The next place of a tabulator. -/
def Stops.after (v : Stops) (column : Nat) : Nat :=
  if v.places.isEmpty then column + v.every - column % v.every
  else (v.places.find? (column < ·)).getD (column + 1)

/-- The places that a text lists. -/
def Stops.read (s : Raw) : Except Raw Stops := do
  let words := (splitWhere (fun c => c == ',' || c == ' ' || c == '\t') s).filter (!·.isEmpty)
  let numbers ← words.mapM fun w => match Raw.nat? w with
    | some n => pure n
    | none => throw (raw "tab size contains invalid character(s): " ++
        Quoted.between (w.dropWhile Char.isDigit))
  if numbers.contains 0 then throw (raw "tab size cannot be 0")
  match numbers with
  | [] => return {}
  | [n] => return { every := n }
  | ns =>
    if (ns.zip (ns.drop 1)).all fun (a, b) => a < b then return { places := ns }
    else throw (raw "tab sizes must be ascending")
where
  /-- The pieces of a text between characters of a kind. -/
  splitWhere (p : Char → Bool) (s : Raw) : List Raw :=
    splitAt ',' (s.map fun c => if p c then ',' else c)

/-- Replaces tabulators of a line by blanks. `start` tells that only those at its start are replaced. -/
def expandLine (v : Stops) (start : Bool) : (column : Nat) → (filled : Bool) → Raw → Raw
  | _, _, [] => []
  | column, filled, c :: r =>
    if start && filled then c :: expandLine v start column true r
    else match c with
      | '\t' =>
        let next := v.after column
        List.replicate (next - column) ' ' ++ expandLine v start next filled r
      | '\x08' => c :: expandLine v start (column - 1) filled r
      | ' ' => c :: expandLine v start (column + 1) filled r
      | c => c :: expandLine v start (column + 1) true r

/-- The options of tools for tabulators. -/
def stopsOf (table : String) (args : List Raw) : Act ((Stops × List String) × List Raw) := do
  let args := args.map fun a => match a with
    | '-' :: c :: cs => if c.isDigit then raw "-t" ++ c :: cs else a
    | a => a
  options table args (({} : Stops), ([] : List String)) fun (v, keys) key value => do
    if key == "t" then
      match Stops.read value with
      | .ok v => return (v, key :: keys)
      | .error message => giveUp 1 message
    else return (v, key :: keys)

/-- Replaces tabulators by blanks. -/
def expand : Tool := fun args => do
  let ((v, keys), files) ← stopsOf "t/tabs= i/initial" args
  forContents files fun s => do
    for (line, ended) in Raw.linesOf [] s do
      say (expandLine v (keys.contains "i") 0 false line ++ if ended then ['\n'] else [])

/-- Replaces blanks of a line by tabulators where those lead to the same place. `blanks` are those that have
not been shown yet, with their first column. -/
def unexpandLine (v : Stops) (all : Bool) : (column : Nat) → (blanks : Nat) → (filled : Bool) → Raw → Raw
  | _, blanks, _, [] => List.replicate blanks ' '
  | column, blanks, filled, c :: r =>
    if filled && !all then List.replicate blanks ' ' ++ c :: r
    else match c with
      | ' ' =>
        let next := v.after column
        if column + 1 == next then
          (if blanks == 0 && !(r.head?.any fun c => c == ' ' || c == '\t') then [' '] else ['\t']) ++
            unexpandLine v all next 0 filled r
        else unexpandLine v all (column + 1) (blanks + 1) filled r
      | '\t' => '\t' :: unexpandLine v all (v.after column) 0 filled r
      | c => List.replicate blanks ' ' ++ c :: unexpandLine v all (column + 1) 0 true r

/-- Replaces blanks by tabulators. -/
def unexpand : Tool := fun args => do
  let ((v, keys), files) ← stopsOf "t/tabs= a/all /first-only" args
  let all := (keys.contains "a" || keys.contains "t") && !keys.contains "first-only"
  forContents files fun s => do
    for (line, ended) in Raw.linesOf [] s do
      say (unexpandLine v all 0 0 false line ++ if ended then ['\n'] else [])

end DocAudit.Shell.Tool
