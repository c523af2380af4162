import DocAudit.Shell.Number
import DocAudit.Shell.Difference
import DocAudit.Shell.Expression.Reader
import DocAudit.Shell.Pattern
import DocAudit.Shell.Tool.Removing

/-!
# Comparing files

## Contents

* `Sameness`: what counts as a difference
* `Pair.normalText`, `unifiedText`, `contextText`, `scriptText`, `countedText`, `twoColumns`: differences in
  words
* `diff`: differences of files and directories
* `cmp`: the first byte that differs
-/

namespace DocAudit.Shell.Tool

open Text Act

/-! ## Lines -/

/-- What is passed over when lines are compared. -/
structure Sameness where
  fold : Bool := false
  allBlanks : Bool := false
  runsOfBlanks : Bool := false
  blanksAtEnd : Bool := false
  tabs : Bool := false
  carriageReturns : Bool := false
  /-- Changes of empty lines do not count. -/
  emptyLines : Bool := false
  /-- Changes of lines that all match one of these do not count. -/
  expressions : List Expression := []

/-- A character that looks like nothing. -/
def isBlankByte (c : Char) : Bool := Raw.isSpace c

/-- A text with one blank for each run of them. -/
def squeezed : Raw → Raw
  | [] => []
  | c :: rest =>
    if isBlankByte c then
      match rest with
      | d :: _ => if isBlankByte d then squeezed rest else ' ' :: squeezed rest
      | [] => []
    else c :: squeezed rest

/-- A text with blanks in the place of tabs. -/
def withoutTabs : (column : Nat) → Raw → Raw
  | _, [] => []
  | column, c :: rest =>
    if c == '\t' then List.replicate (8 - column % 8) ' ' ++ withoutTabs (column + 8 - column % 8) rest
    else c :: withoutTabs (column + 1) rest

/-- A line and whether it is complete. -/
abbrev DiffLine := Raw × Bool

/-- What lines are compared by. -/
def Sameness.key (v : Sameness) (line : DiffLine) : DiffLine :=
  let (s, complete) := line
  let s := if v.carriageReturns && complete && s.getLast? == some '\r' then s.dropLast else s
  let s := if v.fold then s.map Char.toLower else s
  let s := if v.tabs then withoutTabs 0 s else s
  let s := if v.allBlanks then s.filter (!isBlankByte ·)
    else if v.runsOfBlanks then squeezed s
    else if v.blanksAtEnd then dropEnd isBlankByte s
    else s
  (s, complete || v.allBlanks || v.runsOfBlanks || v.blanksAtEnd)

/-- The lines count as nothing. -/
def Sameness.passes (v : Sameness) (lines : List DiffLine) : Bool :=
  (v.emptyLines && lines.all (·.1.isEmpty)) ||
    (!v.expressions.isEmpty && lines.all fun line =>
      v.expressions.any fun e => (e.find? {} (Raw.units line.1)).isSome)

/-- Numbers for lines, the same for lines that are the same. -/
def lineNumbers (keys : List DiffLine) (lines : List DiffLine) : List Nat :=
  lines.map fun line => (keys.idxOf? line).getD keys.length

/-! ## Differences in words -/

/-- A line behind a mark; one that is incomplete is told. -/
def markedLine (mark : Raw) (line : DiffLine) : Raw :=
  mark ++ line.1 ++ ['\n'] ++ if line.2 then [] else raw "\\ No newline at end of file\n"

/-- The numbers of lines that follow so many, in words. -/
def lineRange (before count : Nat) : Raw :=
  if count ≤ 1 then ofNat (before + count) else ofNat (before + 1) ++ ',' :: ofNat (before + count)

/-- Two files that are compared line by line. -/
structure Pair where
  firstName : Raw
  secondName : Raw
  first : List DiffLine
  second : List DiffLine
  changes : List Change

namespace Pair

/-- The lines that a change takes away. -/
def gone (p : Pair) (c : Change) : List DiffLine := (p.first.drop c.first).take c.deleted

/-- The lines that a change brings. -/
def added (p : Pair) (c : Change) : List DiffLine := (p.second.drop c.second).take c.inserted

/-- Lines put into a text. -/
def written (mark : Raw) (lines : List DiffLine) : Raw := lines.flatMap (markedLine mark)

/-- The letter of a change. -/
def letter (c : Change) : Char := if c.deleted == 0 then 'a' else if c.inserted == 0 then 'd' else 'c'

/-- Changes with the lines that they replace and those that they bring. -/
def normalText (p : Pair) (tabbed : Bool) : Raw :=
  let space := if tabbed then ['\t'] else [' ']
  p.changes.flatMap fun c =>
    lineRange c.first c.deleted ++ letter c :: lineRange c.second c.inserted ++ ['\n'] ++
    written ('<' :: space) (p.gone c) ++
    (if c.deleted != 0 && c.inserted != 0 then raw "---\n" else []) ++
    written ('>' :: space) (p.added c)

/-- Changes as a script for an editor, from the last one to the first one. -/
def scriptText (p : Pair) : Raw :=
  p.changes.reverse.flatMap fun c =>
    lineRange c.first c.deleted ++ letter c :: ['\n'] ++
    (if c.inserted == 0 then []
    else (p.added c).flatMap (fun line => line.1 ++ ['\n']) ++ raw ".\n")

/-- Changes with the numbers of lines. -/
def countedText (p : Pair) : Raw :=
  p.changes.flatMap fun c =>
    (if c.deleted == 0 then [] else 'd' :: ofNat (c.first + 1) ++ ' ' :: ofNat c.deleted ++ ['\n']) ++
    (if c.inserted == 0 then []
    else 'a' :: ofNat (c.first + c.deleted) ++ ' ' :: ofNat c.inserted ++ ['\n'] ++
      (p.added c).flatMap fun line => line.1 ++ (if line.2 then ['\n'] else []))

/-- Changes that are shown together, because few lines are between them. -/
def groups (context : Nat) (passed : Change → Bool) : List Change → List (List Change)
  | [] => []
  | c :: rest =>
    match groups context passed rest, rest with
    | g :: gs, next :: _ =>
      let gap := next.first - (c.first + c.deleted)
      let limit := if passed c && passed next then context else 2 * context + 1
      if gap < limit then (c :: g) :: gs else [c] :: g :: gs
    | gs, _ => [c] :: gs

/-- The lines around a group of changes: from where to where, in each file. -/
def span (p : Pair) (context : Nat) (g : List Change) : Nat × Nat × Nat × Nat :=
  let c := g.headD { first := 0, second := 0, deleted := 0, inserted := 0 }
  let d := g.getLastD c
  let before := min context (min c.first c.second)
  let before := min context (max before (min c.first context))
  let after := min context
    (min (p.first.length - (d.first + d.deleted)) (p.second.length - (d.second + d.inserted)))
  (c.first - before, d.first + d.deleted + after, c.second - before, d.second + d.inserted + after)

/-- The numbers of lines of a group, from one place to another. -/
def unifiedRange (start stop : Nat) : Raw :=
  if stop == start then ofNat stop ++ raw ",0"
  else if stop == start + 1 then ofNat stop
  else ofNat (start + 1) ++ ',' :: ofNat (stop - start)

/-- Lines from a place to another one. -/
def slice (lines : List DiffLine) (start stop : Nat) : List DiffLine := (lines.drop start).take (stop - start)

/-- The lines of a group with their marks, from a place in the first file on. -/
def unifiedLines (p : Pair) (stop : Nat) : (place : Nat) → List Change → Raw
  | place, [] => written [' '] (slice p.first place stop)
  | place, c :: rest =>
    written [' '] (slice p.first place c.first) ++ written ['-'] (p.gone c) ++ written ['+'] (p.added c) ++
      unifiedLines p stop (c.first + c.deleted) rest

/-- Groups of changes with lines around them. -/
def unifiedText (p : Pair) (context : Nat) (passed : Change → Bool) : Raw :=
  (groups context passed p.changes).flatMap fun g =>
    if g.all passed then []
    else
      let (a, b, c, d) := p.span context g
      raw "@@ -" ++ unifiedRange a b ++ raw " +" ++ unifiedRange c d ++ raw " @@\n" ++ p.unifiedLines b a g

/-- The numbers of lines from one place to another, where none is the one before. -/
def contextRange (start stop : Nat) : Raw :=
  if stop ≤ start + 1 then ofNat stop else ofNat (start + 1) ++ ',' :: ofNat stop

/-- The lines of one of two files with their marks. -/
def contextLines (lines : List DiffLine) (stop : Nat) : (place : Nat) → List (Nat × Nat × Raw) → Raw
  | place, [] => written (raw "  ") (slice lines place stop)
  | place, (start, count, mark) :: rest =>
    written (raw "  ") (slice lines place start) ++ written mark (slice lines start (start + count)) ++
      contextLines lines stop (start + count) rest

/-- Groups of changes with lines around them, file by file. -/
def contextText (p : Pair) (context : Nat) (passed : Change → Bool) : Raw :=
  (groups context passed p.changes).flatMap fun g =>
    if g.all passed then []
    else
      let (a, b, c, d) := p.span context g
      let mark (x : Change) (alone : Raw) : Raw := if x.deleted != 0 && x.inserted != 0 then raw "! "
        else alone
      raw "***************\n*** " ++ contextRange a b ++ raw " ****\n" ++
      (if g.any (·.deleted != 0) then
        contextLines p.first b a (g.map fun x => (x.first, x.deleted, mark x (raw "- ")))
      else []) ++
      raw "--- " ++ contextRange c d ++ raw " ----\n" ++
      (if g.any (·.inserted != 0) then
        contextLines p.second d c (g.map fun x => (x.second, x.inserted, mark x (raw "+ ")))
      else [])

/-- Tabs and blanks from one column to another. The first number bounds them. -/
def tabbed : Nat → (column until_ : Nat) → Raw
  | 0, _, _ => []
  | n + 1, column, until_ =>
    let stop := column + 8 - column % 8
    if stop ≤ until_ then '\t' :: tabbed n stop until_
    else List.replicate (until_ - column) ' '

/-- The start of a line that fits into a number of columns, and the columns that it takes. -/
def halfLine (width : Nat) : (column : Nat) → Raw → Raw × Nat
  | column, [] => ([], column)
  | column, c :: rest =>
    let next := if c == '\t' then column + 8 - column % 8
      else if 0x80 ≤ c.toNat && c.toNat < 0xC0 then column else column + 1
    if width < next then ([], column)
    else
      let (s, stop) := halfLine width next rest
      (c :: s, stop)

/-- A line with two columns. -/
def sideBySide (half offset : Nat) (left : Option DiffLine) (sign : Char) (right : Option DiffLine) : Raw :=
  let (leftText, column) := match left with
    | some line => halfLine half 0 line.1
    | none => ([], 0)
  let complete (line : Option DiffLine) : Bool := line.any (·.2)
  let sign := if sign == '|' && complete left != complete right then (if complete left then '/' else '\\')
    else sign
  let (signText, column) := if sign == ' ' then ([], column)
    else
      let place := (half + offset - 1) / 2
      (tabbed 200 column place ++ [sign], max column place + 1)
  let rightText := match right with
    | some line => if line.1.isEmpty then [] else tabbed 200 column offset ++ (halfLine half 0 line.1).1
    | none => []
  leftText ++ signText ++ rightText ++ if complete left || complete right then ['\n'] else []

/-- How wide columns are, and where the second one begins. -/
def columnPlaces (width : Nat) : Nat × Nat :=
  let middle := (width + 8 + 3) / 16 * 8
  let half := min (middle - 3) (width - middle)
  (half, if half == 0 then width else middle)

/-- The files side by side. -/
def twoColumns (p : Pair) (width : Nat) (onlyChanges leftOnly : Bool) : Raw :=
  let rec go : (i j : Nat) → List Change → Raw
    | i, j, [] => same (p.first.drop i) (p.second.drop j)
    | i, j, c :: rest =>
      same (slice p.first i c.first) (slice p.second j c.second) ++ different (p.gone c) (p.added c) ++
        go (c.first + c.deleted) (c.second + c.inserted) rest
  go 0 0 p.changes
where
  /-- Lines that are the same. -/
  same (a b : List DiffLine) : Raw :=
    let (half, offset) := columnPlaces width
    if onlyChanges then []
    else (a.zip b).flatMap fun (x, y) =>
      if leftOnly then sideBySide half offset (some x) '(' none
        else sideBySide half offset (some x) ' ' (some y)
  /-- Lines that differ. -/
  different (a b : List DiffLine) : Raw :=
    let (half, offset) := columnPlaces width
    let both := min a.length b.length
    ((a.zip b).flatMap fun (x, y) => sideBySide half offset (some x) '|' (some y)) ++
      ((a.drop both).flatMap fun x => sideBySide half offset (some x) '<' none) ++
      ((b.drop both).flatMap fun y => sideBySide half offset none '>' (some y))

end Pair

/-! ## Files and directories -/

/-- How differences are shown. -/
inductive DiffStyle
  | normal
  | unified
  | context
  | script
  | counted
  | columns
  | brief
  deriving DecidableEq, Repr

/-- How files are compared. -/
structure Diffing where
  style : Option DiffStyle := none
  brief : Bool := false
  context : Option Nat := none
  sameness : Sameness := {}
  tellsSame : Bool := false
  recursive : Bool := false
  newFiles : Bool := false
  firstNew : Bool := false
  asText : Bool := false
  tabbed : Bool := false
  expands : Bool := false
  width : Nat := 130
  onlyChanges : Bool := false
  leftOnly : Bool := false
  labels : List Raw := []
  excluded : List Raw := []
  horizon : Nat := 0
  /-- The options as they were given. -/
  words : List Raw := []
  fromFile : Option Raw := none
  toFile : Option Raw := none

/-- A thing to be compared: what is there, if something is. -/
inductive DiffSide
  | absent
  | file (content : Raw)
  | dir (place : List Text)

/-- The end of `diff` because it was not used as it should be. -/
def diffMisuse {α : Type} (s : Raw) : Act α := do
  let name := (← shell).name
  grumble s
  let _ ← complain 0 (name ++ raw ": Try '" ++ name ++ raw " --help' for more information.")
  exit 2

/-- What is at a path. -/
def diffSide (path : Raw) : Act (Except FileFault DiffSide) := do
  if path == ['-'] then
    match ← readAll 0 with
    | .ok s => return .ok (.file s)
    | .error f => return .error f
  match ← stat path with
  | .error f => return .error f
  | .ok (place, .dir) => return .ok (.dir place)
  | .ok _ =>
    match ← content path with
    | .ok s => return .ok (.file s)
    | .error f => return .error f

/-- Shows the differences of two files; the status. -/
def diffFiles (v : Diffing) (inDir : Bool) (first second : Raw) (a b : Raw) : Act Nat := do
  let identical : Act Nat := do
    if v.tellsSame then
      say (raw "Files " ++ first ++ raw " and " ++ second ++ raw " are identical\n")
    return 0
  let briefly (what : String) : Act Nat := do
    say (raw what ++ raw " " ++ first ++ raw " and " ++ second ++ raw " differ\n")
    return 1
  if a == b && (v.style != some .columns) then return ← identical
  if !v.asText && ((a.take 4096).contains '\x00' || (b.take 4096).contains '\x00') then
    return ← if a == b then identical else briefly (if v.brief then "Files" else "Binary files")
  let asScript := v.style == some .script
  let linesOf (s : Raw) : List DiffLine := (Raw.linesOf [] s).map fun line => (line.1, line.2 || asScript)
  let incomplete (s : Raw) : Bool := asScript && !s.isEmpty && s.getLast? != some '\n'
  for (path, s) in [(first, a), (second, b)] do
    if incomplete s then grumble (path ++ raw ": No newline at end of file\n")
  let xs := linesOf a
  let ys := linesOf b
  let kx := xs.map v.sameness.key
  let ky := ys.map v.sameness.key
  let exact := (xs ++ ys).eraseDups
  let keys := (kx ++ ky).eraseDups
  let style := v.style.getD .normal
  let context := v.context.getD 3
  let horizon := if style == .unified || style == .context then max context v.horizon else v.horizon
  let changes := Difference.changes horizon (lineNumbers exact xs) (lineNumbers exact ys)
    (lineNumbers keys kx) (lineNumbers keys ky)
  let p : Pair := { firstName := first, secondName := second, first := xs, second := ys, changes }
  let passed (c : Change) : Bool := (v.sameness.emptyLines || !v.sameness.expressions.isEmpty) &&
    v.sameness.passes (p.gone c ++ p.added c)
  let counted := changes.filter fun c => !passed c
  if incomplete a || incomplete b then
    say { p with changes := counted }.scriptText
    return 2
  if counted.isEmpty && style != .columns then return ← identical
  if v.brief then return ← briefly "Files"
  if inDir then
    say (joinWith [' '] ((← shell).name :: v.words ++ [first, second]) ++ ['\n'])
  let expanded (s : Raw) : Raw := if v.expands then
      joinWith ['\n'] ((splitAt '\n' s).map fun line => line.take 2 ++ withoutTabs 0 (line.drop 2))
    else s
  let header (mark : String) (index : Nat) (path : Raw) : Raw :=
    raw mark ++ ' ' :: (v.labels[index]?).getD (path ++ raw "\t1970-01-01 00:00:00.000000000 +0000") ++ ['\n']
  match style with
  | .unified => say (header "---" 0 first ++ header "+++" 1 second ++ expanded (p.unifiedText context passed))
  | .context => say (header "***" 0 first ++ header "---" 1 second ++ expanded (p.contextText context passed))
  | .script => say ({ p with changes := counted }.scriptText)
  | .counted => say ({ p with changes := counted }.countedText)
  | .columns => say (p.twoColumns v.width v.onlyChanges v.leftOnly)
  | _ => say (expanded ({ p with changes := counted }.normalText v.tabbed))
  return if counted.isEmpty then 0 else 1

/-- Shows the differences of what is on two sides. The number bounds how deep directories are. -/
def diffSides (v : Diffing) : Nat → (inDir : Bool) → (first second : Raw) → DiffSide → DiffSide → Act Nat
  | 0, _, _, _, _, _ => return 2
  | n + 1, inDir, first, second, a, b => do
    match a, b with
    | .file x, .file y => diffFiles v inDir first second x y
    | .absent, .file y => diffFiles v inDir first second [] y
    | .file x, .absent => diffFiles v inDir first second x []
    | .absent, .absent => return 0
    | .file _, .dir _ =>
      say (raw "File " ++ first ++ raw " is a regular file while file " ++ second ++ raw " is a directory\n")
      return 1
    | .dir _, .file _ =>
      say (raw "File " ++ first ++ raw " is a directory while file " ++ second ++ raw " is a regular file\n")
      return 1
    | a, b =>
      let namesOf (s : DiffSide) : Act (List Raw) := do
        match s with
        | .dir place => return (Disk.list (← tree) place).filter fun name =>
            !v.excluded.any fun p => Pattern.accepts (Pattern.read p) name
        | _ => return []
      let samePlace : Bool := match a, b with
        | .dir p, .dir q => p == q
        | _, _ => false
      if samePlace && !v.tellsSame then return 0
      let left ← namesOf a
      let right ← namesOf b
      let mut status := 0
      for name in ((left ++ right).eraseDups).mergeSort le do
        let x := under first name
        let y := under second name
        let onLeft := left.contains name
        let onRight := right.contains name
        if onLeft && onRight then
          match ← diffSide x, ← diffSide y with
          | .ok sx, .ok sy =>
            let bothDirs := (sx matches .dir _) && (sy matches .dir _)
            if bothDirs && !v.recursive then
              say (raw "Common subdirectories: " ++ x ++ raw " and " ++ y ++ ['\n'])
            else status := max status (← diffSides v n true x y sx sy)
          | .error f, _ =>
            fileTrouble x f
            status := 2
          | _, .error f =>
            fileTrouble y f
            status := 2
        else if (v.newFiles || (v.firstNew && onRight)) then
          match ← diffSide (if onLeft then x else y) with
          | .ok s =>
            if (s matches .dir _) && !v.recursive then
              say (raw "Only in " ++ (if onLeft then first else second) ++ raw ": " ++ name ++ ['\n'])
              status := max status 1
            else
              let s' ← if onLeft then diffSides v n true x y s .absent else diffSides v n true x y .absent s
              status := max status s'
          | .error f =>
            fileTrouble name f
            status := 2
        else
          say (raw "Only in " ++ (if onLeft then first else second) ++ raw ": " ++ name ++ ['\n'])
          status := max status 1
      return status

/-- Shows the differences of two paths. -/
def diffPaths (v : Diffing) (first second : Raw) : Act Nat := do
  let faultOf (r : Except FileFault DiffSide) : Option FileFault := match r with
    | .error f => some f
    | .ok _ => none
  let isDirSide (r : Except FileFault DiffSide) : Bool := match r with
    | .ok (.dir _) => true
    | _ => false
  if first == ['-'] && second == ['-'] then
    return ← diffSides v depthLimit false first second (.file []) (.file [])
  let a ← diffSide first
  let b ← diffSide second
  let (first, a) ← if !isDirSide b && (faultOf b).isNone && isDirSide a then do
      let path := under first (lastName second)
      pure (path, ← diffSide path)
    else pure (first, a)
  let (second, b) ← if isDirSide b && !isDirSide a && (faultOf a).isNone then do
      let path := under second (lastName first)
      pure (path, ← diffSide path)
    else pure (second, b)
  let absent (isFirst : Bool) (r other : Except FileFault DiffSide) : Except FileFault DiffSide :=
    match r with
    | .error .noEntry =>
      if (v.newFiles || (v.firstNew && isFirst)) && (faultOf other).isNone then .ok .absent else r
    | r => r
  match absent true a b, absent false b a with
  | .ok sa, .ok sb => diffSides v depthLimit false first second sa sb
  | x, y =>
    for (path, side) in [(first, x), (second, y)] do
      match side with
      | .error f => fileTrouble path f
      | .ok _ => pure ()
    return 2

/-- A change of how files are compared. -/
def Diffing.withOption (v : Diffing) (key : String) (value : Raw) : Act Diffing := do
  let styled (s : DiffStyle) (context : Option Nat) : Act Diffing := do
    match v.style with
    | some old =>
      if old != s then diffMisuse (raw "conflicting output style options")
      else return { v with context := match context, v.context with
        | some a, some b => some (max a b)
        | a, b => a.or b }
    | none => return { v with style := some s, context := context.or v.context }
  let number (what : String) (s : Raw) : Act Nat := do
    match Raw.nat? s with
    | some n => return n
    | none => diffMisuse (raw "invalid " ++ raw what ++ raw " '" ++ s ++ ['\''])
  let sameness (f : Sameness → Sameness) : Act Diffing := return { v with sameness := f v.sameness }
  match key with
  | "a" => return { v with asText := true }
  | "b" => sameness fun s => { s with runsOfBlanks := true }
  | "B" => sameness fun s => { s with emptyLines := true }
  | "c" => styled .context none
  | "C" => styled .context (some (← number "context length" value))
  | "context" => styled .context (← if value.isEmpty then pure none
    else do pure (some (← number "context length" value)))
  | "e" => styled .script none
  | "E" => sameness fun s => { s with tabs := true }
  | "i" => sameness fun s => { s with fold := true }
  | "I" =>
    match Expression.read {} value with
    | .ok r => sameness fun s => { s with expressions := s.expressions ++ [r.expression] }
    | .error f => giveUp 2 (value ++ raw ": " ++ f.message)
  | "L" =>
    if 2 ≤ v.labels.length then giveUp 2 (raw "too many file label options")
    return { v with labels := v.labels ++ [value] }
  | "n" => styled .counted none
  | "N" => return { v with newFiles := true }
  | "P" => return { v with firstNew := true }
  | "normal" => styled .normal none
  | "q" => return { v with brief := true }
  | "r" => return { v with recursive := true }
  | "s" => return { v with tellsSame := true }
  | "t" => return { v with expands := true }
  | "T" => return { v with tabbed := true }
  | "u" => styled .unified none
  | "U" => styled .unified (some (← number "context length" value))
  | "unified" => styled .unified (← if value.isEmpty then pure none
    else do pure (some (← number "context length" value)))
  | "w" => sameness fun s => { s with allBlanks := true }
  | "W" => return { v with width := ← number "width" value }
  | "x" => return { v with excluded := v.excluded ++ [value] }
  | "y" => styled .columns none
  | "Z" => sameness fun s => { s with blanksAtEnd := true }
  | "strip-trailing-cr" => sameness fun s => { s with carriageReturns := true }
  | "suppress-common-lines" => return { v with onlyChanges := true }
  | "left-column" => return { v with leftOnly := true }
  | "horizon-lines" => return { v with horizon := ← number "horizon length" value }
  | "from-file" => return { v with fromFile := some value }
  | "to-file" => return { v with toFile := some value }
  | "color" =>
    if value.isEmpty || ["never", "auto", "always"].any (fun x => raw x == value) then return v
    diffMisuse (raw "invalid color '" ++ value ++ ['\''])
  | key =>
    match Raw.nat? key.toList with
    | some d => return { v with context := some (10 * v.context.getD 0 + d) }
    | none => return v

/-- The options of `diff`. -/
def diffOptions : String :=
  "0 1 2 3 4 5 6 7 8 9 a/text b/ignore-space-change B/ignore-blank-lines c C= /context% d/minimal " ++
  "D/ifdef= e/ed E/ignore-tab-expansion f/forward-ed F/show-function-line= h H/speed-large-files " ++
  "i/ignore-case I/ignore-matching-lines= l/paginate L/label= n/rcs N/new-file p/show-c-function " ++
  "P/unidirectional-new-file q/brief r/recursive s/report-identical-files S/starting-file= t/expand-tabs " ++
  "T/initial-tab u U= /unified% v/version w/ignore-all-space W/width= x/exclude= X/exclude-from= " ++
  "y/side-by-side Z/ignore-trailing-space /binary /color% /palette= /from-file= /to-file= " ++
  "/horizon-lines= /ignore-file-name-case /left-column /line-format= /no-dereference " ++
  "/no-ignore-file-name-case /normal /sdiff-merge-assist /strip-trailing-cr /suppress-blank-empty " ++
  "/suppress-common-lines /tabsize= /changed-group-format= /new-group-format= /new-line-format= " ++
  "/old-group-format= /old-line-format= /unchanged-group-format= /unchanged-line-format="

/-- Shows the differences of files. -/
def diff : Tool := fun args => do
  let (chosen, operands) := Flag.choose (Flag.table diffOptions) false args
  let mut v : Diffing := {}
  for c in chosen do
    match c with
    | .wrong message => diffMisuse message
    | .option key value =>
      if key == "help" || key == "version" || key == "v" then exit 0
      v ← v.withOption key value
  let isOption (s : Raw) : Bool := s.head? == some '-' && 1 < s.length
  v := { v with words := args.filter fun a => isOption a || !(operands.contains a) }
  if let some file := v.fromFile then
    let mut status := 0
    for other in operands do
      status := max status (← diffPaths v file other)
    return status
  if let some file := v.toFile then
    let mut status := 0
    for other in operands do
      status := max status (← diffPaths v other file)
    return status
  match operands with
  | [a, b] => diffPaths v a b
  | _ :: _ :: extra :: _ => diffMisuse (raw "extra operand '" ++ extra ++ ['\''])
  | words => diffMisuse (raw "missing operand after '" ++ words.headD (← shell).name ++ ['\''])

/-! ## Bytes -/

/-- How bytes are compared. -/
structure ByteComparing where
  all : Bool := false
  shows : Bool := false
  silent : Bool := false
  skips : Nat × Nat := (0, 0)
  most : Option Nat := none

/-- A byte as a character that can be seen. -/
def visibleByte (c : Char) : Raw :=
  let low (n : Nat) : Raw := if n < 32 then ['^', Char.ofNat (n + 64)] else if n == 127 then raw "^?"
    else [Char.ofNat n]
  if 128 ≤ c.toNat then raw "M-" ++ low (c.toNat - 128) else low c.toNat

/-- A byte to the base eight, in three columns. -/
def octalByte (c : Char) : Raw := Raw.padLeft ' ' 3 (Nat.toDigits 8 c.toNat)

/-- All bytes that differ, with their places. -/
def byteDifferences (place : Nat) : Raw → Raw → List (Nat × Char × Char)
  | a :: as, b :: bs =>
    if a == b then byteDifferences (place + 1) as bs else (place, a, b) :: byteDifferences (place + 1) as bs
  | _, _ => []

/-- Compares files byte by byte. -/
def cmp : Tool := fun args => do
  let (chosen, operands) := Flag.choose (Flag.table
    "b/print-bytes c/print-chars i/ignore-initial= l/verbose n/bytes= s/silent /quiet v/version") false args
  let amount (option : String) (s : Raw) : Act Nat := do
    match Amount.read s with
    | .ok n => return n
    | .error _ => diffMisuse (raw "invalid --" ++ raw option ++ raw " value '" ++ s ++ ['\''])
  let mut v : ByteComparing := {}
  for c in chosen do
    match c with
    | .wrong message => diffMisuse message
    | .option key value =>
      match key with
      | "b" => v := { v with shows := true }
      | "c" => v := { v with shows := true }
      | "l" => v := { v with all := true }
      | "s" => v := { v with silent := true }
      | "quiet" => v := { v with silent := true }
      | "i" =>
        let first := value.takeWhile (· != ':')
        let a ← amount "ignore-initial" first
        let b ← if first.length < value.length then amount "ignore-initial" (value.drop (first.length + 1))
          else pure a
        v := { v with skips := (a, b) }
      | "n" =>
        let n ← amount "bytes" value
        v := { v with most := some (min n (v.most.getD n)) }
      | _ => exit 0
  if v.all && v.silent then diffMisuse (raw "options -l and -s are incompatible")
  if operands.isEmpty then diffMisuse (raw "missing operand after '" ++ (← shell).name ++ ['\''])
  let first := operands.headD []
  let second := (operands[1]?).getD ['-']
  let skipFirst ← match operands[2]? with
    | some s => amount "ignore-initial" s
    | none => pure v.skips.1
  let skipSecond ← match operands[3]? with
    | some s => amount "ignore-initial" s
    | none => pure v.skips.2
  if let some extra := operands[4]? then diffMisuse (raw "extra operand '" ++ extra ++ ['\''])
  if first == second then return 0
  let trouble (path : Raw) (f : FileFault) : Act Nat := do
    if !v.silent then fileTrouble path f
    return 2
  match ← stat first, ← stat second with
  | .ok (p, .dir), .ok (q, _) => if p == q then return 0
  | _, _ => pure ()
  let a ← match ← content first with
    | .ok s => pure s
    | .error f => return ← trouble first f
  let b ← match ← content second with
    | .ok s => pure s
    | .error f => return ← trouble second f
  let cut (n : Nat) (s : Raw) : Raw := match v.most with
    | some m => (s.drop n).take m
    | none => s.drop n
  let a := cut skipFirst a
  let b := cut skipSecond b
  let differences := byteDifferences 1 a b
  let shorter? : Option (Raw × Raw) := if a.length < b.length then some (first, a)
    else if b.length < a.length then some (second, b) else none
  let ended (path content : Raw) (withLine : Bool) : Act Unit := do
    if content.isEmpty then grumble (raw "EOF on " ++ path ++ raw " which is empty")
    else
      let lines := content.count '\n'
      let line := if !withLine then []
        else if content.getLast? == some '\n' then raw ", line " ++ ofNat lines
        else raw ", in line " ++ ofNat (lines + 1)
      grumble (raw "EOF on " ++ path ++ raw " after byte " ++ ofNat content.length ++ line)
  if v.all then
    let width := (ofNat (min a.length b.length)).length
    say (differences.flatMap fun (place, x, y) =>
      Raw.padLeft ' ' width (ofNat place) ++ ' ' :: octalByte x ++
      (if v.shows then ' ' :: Raw.padRight 4 (visibleByte x) else []) ++ ' ' :: octalByte y ++
      (if v.shows then ' ' :: visibleByte y else []) ++ ['\n'])
    match shorter? with
    | some (path, content) => ended path content false
    | none => pure ()
    return if differences.isEmpty && shorter?.isNone then 0 else 1
  match differences with
  | (place, x, y) :: _ =>
    if !v.silent then
      let line := (a.take (place - 1)).count '\n' + 1
      say (first ++ ' ' :: second ++ raw " differ: " ++ raw (if v.shows then "byte " else "char ") ++
        ofNat place ++
        raw ", line " ++ ofNat line ++
        (if v.shows then raw " is " ++ octalByte x ++ ' ' :: visibleByte x ++ ' ' :: octalByte y ++
        ' ' :: visibleByte y
        else []) ++ ['\n'])
    return 1
  | [] =>
    match shorter? with
    | some (path, content) =>
      if !v.silent then ended path content true
      return 1
    | none => return 0

end DocAudit.Shell.Tool
