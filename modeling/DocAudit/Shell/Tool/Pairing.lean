import DocAudit.Shell.Tool.Sorting

/-!
# Lines compared with each other

## Contents

* `Repeats`, `uniq`: lines that are equal to the one before
* `comm`, `join`: lines of two files in order
-/

namespace DocAudit.Shell.Tool

open Text Act

/-! ## Equal lines -/

/-- How equal lines are shown. -/
structure Repeats where
  count : Bool := false
  repeated : Bool := false
  unique : Bool := false
  /-- All lines of a group are shown, and where empty lines stand between groups. -/
  all : Option Raw := none
  group : Option Raw := none
  fold : Bool := false
  fields : Nat := 0
  chars : Nat := 0
  width : Option Nat := none
  ending : Char := '\n'

namespace Repeats

/-- The part of a line that is compared. -/
def part (v : Repeats) (line : Raw) : Raw :=
  let rest := (Key.skipFields none v.fields line).drop v.chars
  let rest := match v.width with
    | some n => rest.take n
    | none => rest
  if v.fold then rest.map Char.toLower else rest

/-- Groups of lines that follow each other and are equal. -/
def groups (v : Repeats) : List Raw → List (List Raw)
  | [] => []
  | line :: rest =>
    let same := rest.takeWhile fun l => v.part l == v.part line
    (line :: same) :: groups v (rest.drop same.length)
termination_by lines => lines.length

end Repeats

/-- Shows lines without those that are equal to the one before. -/
def uniq : Tool := fun args => do
  let number (value : Raw) (what : String) : Act Nat := do
    match Raw.nat? value with
    | some n => return n
    | none => giveUp 1 (Quoted.ifNeeded value ++ raw ": invalid number of " ++ raw what)
  let chosen (value : Raw) (what : String) (names : List String) : Act Raw := do
    match names.filter fun n => value.isPrefixOf n.toList with
    | [name] => return name.toList
    | _ => misuse 1 (raw (if value.isEmpty then "ambiguous argument " else "invalid argument ") ++
        Quoted.between value ++ raw " for " ++
        Quoted.between (raw "--" ++ raw what) ++ raw "\nValid arguments are:\n" ++
        joinWith ['\n'] (names.map fun n => raw "  - " ++ Quoted.between n.toList))
  let (v, files) ← options ("c/count d/repeated D /all-repeated% /group% f/skip-fields= i/ignore-case " ++
      "s/skip-chars= u/unique w/check-chars= z/zero-terminated") args ({} : Repeats) fun v key value => do
    match key with
    | "c" => return { v with count := true }
    | "d" => return { v with repeated := true }
    | "D" => return { v with repeated := true, all := some (raw "none") }
    | "all-repeated" =>
      return { v with
        repeated := true
        all := some (← if value.isEmpty then pure (raw "none") else
          chosen value "all-repeated" ["none", "prepend", "separate"]) }
    | "group" =>
      return { v with group := some (← if value.isEmpty then pure (raw "separate") else
        chosen value "group" ["prepend", "append", "separate", "both"]) }
    | "f" => return { v with fields := ← number value "fields to skip" }
    | "i" => return { v with fold := true }
    | "s" => return { v with chars := ← number value "bytes to skip" }
    | "u" => return { v with unique := true }
    | "w" => return { v with width := some (← number value "bytes to compare") }
    | _ => return { v with ending := '\x00' }
  if v.group.isSome && (v.count || v.repeated || v.unique) then
    misuse 1 (raw "--group is mutually exclusive with -c/-d/-D/-u")
  if v.all.isSome && v.count then
    misuse 1 (raw "printing all duplicated lines and repeat counts is meaningless")
  if let extra :: _ := files.drop 2 then extraOperand extra
  let input := files.headD ['-']
  match ← content input with
  | .error f =>
    if f == .isDir then giveUp 1 (raw "error reading " ++ Quoted.always input ++ raw ": " ++ f.message)
    else giveUp 1 (Quoted.ifNeeded input ++ raw ": " ++ f.message)
  | .ok s =>
    let groups := v.groups (recordsOf v.ending s)
    let line (l : Raw) : Raw := l ++ [v.ending]
    let kept := groups.filter fun g =>
      if 1 < g.length then !v.unique || v.all.isSome else !v.repeated
    let out : Raw := match v.group, v.all with
      | some how, _ =>
        let shown := groups.map fun g => g.flatMap line
        let whole := joinWith [v.ending] shown
        if groups.isEmpty then []
        else (if how == raw "prepend" || how == raw "both" then [v.ending] else []) ++ whole ++
          (if how == raw "append" || how == raw "both" then [v.ending] else [])
      | none, some how =>
        let shown := kept.map fun g => (if v.unique then g.dropLast else g).flatMap line
        if how == raw "prepend" then shown.flatMap (v.ending :: ·)
        else if how == raw "separate" then joinWith [v.ending] shown
        else shown.flatten
      | none, none => kept.flatMap fun g =>
        (if v.count then Raw.padLeft ' ' 7 (ofNat g.length) ++ [' '] else []) ++ line (g.headD [])
    writeTo (files[1]?.filter (· != ['-'])) out fun f =>
      giveUp 1 (Quoted.ifNeeded (files.getD 1 []) ++ raw ": " ++ f.message)
    return 0

/-! ## Two files -/

/-- Two operands, or a complaint. -/
def twoOperands (args : List Raw) : Act (Raw × Raw) := do
  match args with
  | [] => missingOperand
  | [a] => missingOperandAfter a
  | [a, b] => return (a, b)
  | _ :: _ :: c :: _ => extraOperand c

/-- Whether two files are watched for lines that are not in order, and in which of them one was found. -/
structure Watch where
  /-- Lines are compared in any case, or in no case; else as soon as one has no partner. -/
  check : Option Bool := none
  unpaired : Bool := false
  first : Bool := false
  second : Bool := false
  deriving Repr

namespace Watch

/-- The file is known to be not in order. -/
def isKnown (w : Watch) (file : Nat) : Bool := if file == 1 then w.first else w.second

/-- Some file is known to be not in order. -/
def failed (w : Watch) : Bool := w.first || w.second

/-- Compares two lines of a file that follow each other. -/
def see (w : Watch) (file : Nat) (inOrder : Bool) (message : Raw) : Act Watch := do
  if inOrder || w.isKnown file || !w.check.getD w.unpaired then return w
  grumble message
  if w.check == some true then exit 1
  return if file == 1 then { w with first := true } else { w with second := true }

end Watch

/-- The lines of a file, of which the first ones have been read. -/
structure Following where
  passed : List Raw := []
  left : List Raw

namespace Following

/-- The next line is read. At the end the last two are compared once more. -/
def advance (s : Following) (file : Nat) (w : Watch) : Act (Following × Watch) := do
  match s.left with
  | [] => return (s, w)
  | line :: rest =>
    let next : Following := { passed := line :: s.passed, left := rest }
    let pair : Option (Raw × Raw) := match rest with
      | after :: _ => some (line, after)
      | [] => s.passed.head?.map fun before => (before, line)
    match pair with
    | some (a, b) =>
      return (next, ← w.see file (compareBytes a b != .gt) (raw "file " ++ ofNat file ++
        raw " is not in sorted order"))
    | none => return (next, w)

end Following

/-- The columns of `comm`. -/
structure Columns where
  hidden : List Nat := []
  separator : Raw := ['\t']
  total : Bool := false
  check : Option Bool := none

/-- Shows which lines of two files in order are only in one of them. -/
def comm : Tool := fun args => do
  let (v, files) ← options
    "1 2 3 /check-order /nocheck-order /output-delimiter= /total z/zero-terminated" args
    ({} : Columns) fun v key value =>
      return match key with
      | "1" => { v with hidden := 1 :: v.hidden }
      | "2" => { v with hidden := 2 :: v.hidden }
      | "3" => { v with hidden := 3 :: v.hidden }
      | "output-delimiter" => { v with separator := if value.isEmpty then ['\x00'] else value }
      | "total" => { v with total := true }
      | "check-order" => { v with check := some true }
      | "nocheck-order" => { v with check := some false }
      | _ => v
  let (a, b) ← twoOperands files
  let read (file : Raw) : Act Following := do
    match ← content file with
    | .ok s => return { left := recordsOf '\n' s }
    | .error f => giveUp 1 (Quoted.ifNeeded file ++ raw ": " ++ f.message)
  let mut first ← read a
  let mut second ← read b
  let mut w : Watch := { check := v.check }
  let mut counts : List Nat := []
  for _ in List.range (first.left.length + second.left.length) do
    let column : Nat × Raw := match first.left, second.left with
      | [], [] => (0, [])
      | [], y :: _ => (2, y)
      | x :: _, [] => (1, x)
      | x :: _, y :: _ => match compareBytes x y with
        | .lt => (1, x)
        | .gt => (2, y)
        | .eq => (3, x)
    if column.1 != 0 then
      counts := column.1 :: counts
      if column.1 != 3 then w := { w with unpaired := true }
      if !v.hidden.contains column.1 then
        let before := ((List.range column.1).drop 1).flatMap fun i =>
          if v.hidden.contains i then [] else v.separator
        say (before ++ column.2 ++ ['\n'])
      if column.1 != 2 then
        let (s, watch) ← first.advance 1 w
        first := s
        w := watch
      if column.1 != 1 then
        let (s, watch) ← second.advance 2 w
        second := s
        w := watch
  if v.total then
    let all := counts
    let counted (n : Nat) : Raw := ofNat (all.countP (· == n))
    say (joinWith v.separator [counted 1, counted 2, counted 3, raw "total"] ++ ['\n'])
  if w.failed then
    giveUp 1 (raw "input is not in sorted order")
  return 0

/-- How lines of two files are joined. -/
structure Joining where
  fields : Nat × Nat := (1, 1)
  tab : Option Char := none
  fold : Bool := false
  empty : Raw := []
  /-- The files of which lines without a partner are shown. -/
  unpaired : List Nat := []
  onlyUnpaired : Bool := false
  output : List (Nat × Nat) := []
  automatic : Bool := false
  header : Bool := false
  check : Option Bool := none

namespace Joining

/-- The fields of a line. -/
def fieldsOf (v : Joining) (line : Raw) : List Raw :=
  match v.tab with
  | some t => splitAt t line
  | none => (splitAt ' ' (line.map fun c => if isLineBlank c then ' ' else c)).filter (!·.isEmpty)

/-- A line that was joined from two, of which one may be missing. -/
def shown (v : Joining) (widths : Nat × Nat) (a b : Option (List Raw)) : Raw :=
  let field (fs : Option (List Raw)) (n : Nat) : Raw :=
    let value := ((fs.getD []).getD (n - 1) [])
    if value.isEmpty then v.empty else value
  let key := if a.isSome then field a v.fields.1 else field b v.fields.2
  let others (fs : Option (List Raw)) (n count : Nat) : List Raw :=
    (List.range count).filterMap fun i => if i + 1 == n then none else some (field fs (i + 1))
  let row : List Raw :=
    if v.automatic then
      key :: others a v.fields.1 widths.1 ++ others b v.fields.2 widths.2
    else if v.output.isEmpty then
      key :: others a v.fields.1 ((a.getD []).length) ++ others b v.fields.2 ((b.getD []).length)
    else v.output.map fun (file, n) =>
      if file == 0 then key else field (if file == 1 then a else b) n
  joinWith [v.tab.getD ' '] row

/-- Which of two lines comes first. -/
def compareLines (v : Joining) (a b : List Raw) : Ordering :=
  let key (s : Raw) : Raw := if v.fold then s.map Char.toLower else s
  compareBytes (key (a.getD (v.fields.1 - 1) [])) (key (b.getD (v.fields.2 - 1) []))

/-- Which of two lines of one file comes first. -/
def compareOwn (v : Joining) (n : Nat) (a b : List Raw) : Ordering :=
  let key (s : Raw) : Raw := if v.fold then s.map Char.toLower else s
  compareBytes (key (a.getD (n - 1) [])) (key (b.getD (n - 1) []))

end Joining

/-- A file whose lines are joined: lines that have been read, the others, and the number of the last one that
has been read. -/
structure JoinInput where
  file : Nat
  name : Raw
  field : Nat
  /-- The lines at work. -/
  group : List (List Raw) := []
  left : List (List Raw × Raw)
  last : Option (List Raw) := none
  number : Nat := 0

/-- The next line of a file is read, if there is one. -/
def JoinInput.next (v : Joining) (s : JoinInput) (w : Watch) :
    Act (Option (List Raw) × JoinInput × Watch) := do
  match s.left with
  | [] => return (none, s, w)
  | (fields, line) :: rest =>
    let inOrder := s.last.all fun last => v.compareOwn s.field last fields != .gt
    let w ← w.see s.file inOrder (Quoted.ifNeeded s.name ++ [':'] ++ ofNat (s.number + 1) ++
      raw ": is not sorted: " ++ line)
    return (some fields, { s with left := rest, last := some fields, number := s.number + 1 }, w)

/-- Reads lines as long as they have the same field as the first one of the group, and one more. The number
bounds the lines. -/
def JoinInput.gather (v : Joining) (same : List Raw → Bool) : Nat → JoinInput → Watch →
    Act (JoinInput × Option (List Raw) × Watch)
  | 0, s, w => return (s, none, w)
  | n + 1, s, w => do
    match ← s.next v w with
    | (none, s, w) => return (s, none, w)
    | (some line, s, w) =>
      if same line then gather v same n { s with group := s.group ++ [line] } w
      else return (s, some line, w)

/-- The lines of a file that are left when the other one is over. The number bounds them. -/
def JoinInput.rest (v : Joining) (shown : Bool) (show_ : List Raw → Act Unit) : Nat → JoinInput → Watch →
    Act (JoinInput × Watch)
  | 0, s, w => return (s, w)
  | n + 1, s, w => do
    match ← s.next v w with
    | (none, s, w) => return (s, w)
    | (some line, s, w) =>
      if shown then show_ line
      if w.isKnown s.file && !shown then return (s, w)
      else rest v shown show_ n s w

/-- Joins lines of two files in order that have a field in common. -/
def join : Tool := fun args => do
  let field (value : Raw) : Act Nat := do
    match Raw.nat? value with
    | some 0 => giveUp 1 (raw "invalid field number: " ++ Quoted.between value)
    | some n => return n
    | none => giveUp 1 (raw "invalid field number: " ++ Quoted.between value)
  let column (s : Raw) : Act (Nat × Nat) := do
    match s with
    | ['0'] => return (0, 0)
    | '1' :: '.' :: n => return (1, ← field n)
    | '2' :: '.' :: n => return (2, ← field n)
    | c :: _ =>
      if c == '1' || c == '2' || c == '0' then giveUp 1 (raw "invalid field specifier: " ++ Quoted.between s)
      else giveUp 1 (raw "invalid file number in field spec: " ++ Quoted.between s)
    | [] => giveUp 1 (raw "invalid file number in field spec: " ++ Quoted.between s)
  let fileNumber (value : Raw) : Act Nat := do
    match value with
    | ['1'] => return 1
    | ['2'] => return 2
    | s => giveUp 1 (raw "invalid field number: " ++ Quoted.between s)
  let (v, files) ← options ("a= e= i/ignore-case j= o= t= v= 1= 2= z/zero-terminated /check-order " ++
      "/nocheck-order /header") args ({} : Joining) fun v key value => do
    match key with
    | "a" => return { v with unpaired := (← fileNumber value) :: v.unpaired }
    | "v" => return { v with unpaired := (← fileNumber value) :: v.unpaired, onlyUnpaired := true }
    | "e" => return { v with empty := value }
    | "i" => return { v with fold := true }
    | "j" =>
      let n ← field value
      return { v with fields := (n, n) }
    | "1" => return { v with fields := (← field value, v.fields.2) }
    | "2" => return { v with fields := (v.fields.1, ← field value) }
    | "o" =>
      if value == raw "auto" then return { v with automatic := true }
      else
        let words := (splitAt ',' (value.map fun c => if c == ' ' || c == '\t' then ',' else c)).filter
          (!·.isEmpty)
        return { v with output := v.output ++ (← words.mapM column) }
    | "t" => match value with
      | [c] => return { v with tab := some c }
      | [] => return { v with tab := some '\n' }
      | ['\\', '0'] => return { v with tab := some '\x00' }
      | s => giveUp 1 (raw "multi-character tab " ++ Quoted.between s)
    | "header" => return { v with header := true }
    | "check-order" => return { v with check := some true }
    | "nocheck-order" => return { v with check := some false }
    | _ => return v
  let (a, b) ← twoOperands files
  if a == ['-'] && b == ['-'] then giveUp 1 (raw "both files cannot be standard input")
  let read (file : Raw) : Act (List (List Raw × Raw)) := do
    match ← content file with
    | .ok s => return (recordsOf '\n' s).map fun l => (v.fieldsOf l, l)
    | .error f => giveUp 1 (Quoted.ifNeeded file ++ raw ": " ++ f.message)
  let as ← read a
  let bs ← read b
  let size := as.length + bs.length + 1
  let widths := (((as.head?.map (·.1.length)).getD 0), ((bs.head?.map (·.1.length)).getD 0))
  let row (x y : Option (List Raw)) : Act Unit := say (v.shown widths x y ++ ['\n'])
  let head : Bool := v.header && (!as.isEmpty || !bs.isEmpty)
  if head then row (as.head?.map (·.1)) (bs.head?.map (·.1))
  let skipped := if head then 1 else 0
  let mut w : Watch := { check := v.check }
  let mut first : JoinInput :=
    { file := 1, name := a, field := v.fields.1, left := as.drop skipped, number := skipped }
  let mut second : JoinInput :=
    { file := 2, name := b, field := v.fields.2, left := bs.drop skipped, number := skipped }
  match ← first.next v w with
  | (line, s, watch) =>
    first := { s with group := line.toList }
    w := watch
  match ← second.next v w with
  | (line, s, watch) =>
    second := { s with group := line.toList }
    w := watch
  for _ in List.range size do
    match first.group, second.group with
    | x :: _, y :: _ =>
      match v.compareLines x y with
      | .lt =>
        if v.unpaired.contains 1 then row (some x) none
        match ← first.next v w with
        | (line, s, watch) =>
          first := { s with group := line.toList }
          w := { watch with unpaired := true }
      | .gt =>
        if v.unpaired.contains 2 then row none (some y)
        match ← second.next v w with
        | (line, s, watch) =>
          second := { s with group := line.toList }
          w := { watch with unpaired := true }
      | .eq =>
        let (s, afterX, watch) ← first.gather v (fun l => v.compareLines l y == .eq) size w
        let (s', afterY, watch) ← second.gather v (fun l => v.compareLines x l == .eq) size watch
        if !v.onlyUnpaired then
          for l in s.group do
            for l' in s'.group do row (some l) (some l')
        first := { s with group := afterX.toList }
        second := { s' with group := afterY.toList }
        w := watch
    | _, _ => w := w
  let tail := v.check != some false && !(w.first && w.second)
  let showFirst := v.unpaired.contains 1
  let showSecond := v.unpaired.contains 2
  if let x :: _ := first.group then
    if showFirst || tail then
      if showFirst then row (some x) none
      if !second.group.isEmpty then w := { w with unpaired := true }
      let (_, watch) ← first.rest v showFirst (fun l => row (some l) none) size w
      w := watch
  if let y :: _ := second.group then
    if showSecond || tail then
      if showSecond then row none (some y)
      if !first.group.isEmpty then w := { w with unpaired := true }
      let (_, watch) ← second.rest v showSecond (fun l => row none (some l)) size w
      w := watch
  if w.failed then giveUp 1 (raw "input is not in sorted order")
  return 0

end DocAudit.Shell.Tool
