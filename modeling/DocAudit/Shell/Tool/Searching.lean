import DocAudit.Regex.Match
import DocAudit.Regex.Reader
import DocAudit.Shell.Expression.Reader
import DocAudit.Shell.Pattern
import DocAudit.Shell.Tool.Selecting

/-!
# Searching lines

## Contents

* `Finder`: what is looked for in a line
* `Search`: what is shown of the lines that are found
* `grep`
-/

namespace DocAudit.Shell.Tool

open Text Act

/-! ## What is looked for -/

/-- The ways in which patterns are written. -/
inductive Writing
  | basic
  | extended
  | fixed
  | perl
  deriving DecidableEq, Repr

/-- Something that is looked for in a line: the match from so many units on that is good. -/
abbrev Finder := List Raw.Unit → (start : Nat) → (Expression.Match → Bool) → Option Expression.Match

/-- Of two matches the one that comes first, and of those that begin at the same place the longer one. -/
def betterMatch (a b : Option Expression.Match) : Option Expression.Match :=
  match a, b with
  | none, b => b
  | a, none => a
  | some a, some b =>
    some (if b.first < a.first || (b.first == a.first && a.last < b.last) then b else a)

/-- Looks for an expression. -/
def Finder.ofExpression (v : Expression.Comparison) (e : Expression) : Finder := fun line start good =>
  e.find? v line start good

/-- Looks for a regular expression from a place on. -/
def perlMatch (m : Modes) (r : Regex) (good : Expression.Match → Bool) :
    (place : Nat) → (before after : Text) → Option Expression.Match
  | place, before, after =>
    let here : Option Expression.Match :=
      (Regex.run m r { before, after } some).map fun s =>
        { first := place, last := place + (after.length - s.after.length), groups := [] }
    match here.filter good with
    | some found => some found
    | none => match after with
      | [] => none
      | c :: rest => perlMatch m r good (place + 1) (c :: before) rest
termination_by _ _ after => after.length

/-- Looks for a regular expression. -/
def Finder.ofRegex (m : Modes) (r : Regex) : Finder := fun line start good =>
  let chars := line.map fun u => u.char.getD '\ufffd'
  perlMatch m r good start (chars.take start).reverse (chars.drop start)

/-- Looks for several things. -/
def Finder.any (fs : List Finder) : Finder := fun line start good =>
  fs.foldl (fun best f => betterMatch best (f line start good)) none

/-- The line has a letter, a digit or a low line at a place. -/
def wordAt (units : List Raw.Unit) (place : Nat) : Bool := Expression.Spot.isWordUnit units[place]?

/-- The match stands for itself: no other part of a word is beside it. -/
def isWholeWord (line : List Raw.Unit) (m : Expression.Match) : Bool :=
  (m.first == 0 || !wordAt line (m.first - 1)) && !wordAt line m.last

/-! ## Lines that are found -/

/-- What is shown of the lines that are found. -/
structure Search where
  style : Option Writing := none
  patterns : Option (List Raw) := none
  fold : Bool := false
  invert : Bool := false
  words : Bool := false
  wholeLines : Bool := false
  count : Bool := false
  /-- Names of files are shown in the place of lines: of those with lines that are found, or without. -/
  list : Option Bool := none
  most : Option Nat := none
  only : Bool := false
  quiet : Bool := false
  silent : Bool := false
  offsets : Bool := false
  names : Option Bool := none
  label : Raw := raw "(standard input)"
  numbers : Bool := false
  align : Bool := false
  /-- The width of numbers where they are aligned. -/
  width : Nat := 0
  ending : Char := '\n'
  zeroNames : Bool := false
  before : Option Nat := none
  after : Option Nat := none
  both : Option Nat := none
  separator : Option Raw := some (raw "--")
  text : Bool := false
  skipBinary : Bool := false
  recursive : Bool := false
  skipDirs : Bool := false
  included : List Raw := []
  excluded : List Raw := []
  excludedDirs : List Raw := []
  color : Bool := false

namespace Search

/-- The end of the tool because of how it was used. -/
def usage {α : Type} : Act α := do
  let name := (← shell).name
  let _ ← complain 2 (raw "Usage: " ++ name ++ raw " [OPTION]... PATTERNS [FILE]...\nTry '" ++ name ++
    raw " --help' for more information.")
  exit 2

/-- The patterns of a text, one on each line. -/
def patternsOf (s : Raw) : List Raw := splitAt '\n' s

/-- A pattern in which every sign stands for itself, unless a backslash gives it a meaning. -/
def plainPattern? (extended : Bool) : Raw → Option Raw
  | [] => some []
  | '\\' :: c :: r =>
    if "BSWbswdD'<>123456789\n".toList.contains c && c != 'd' && c != 'D' then none
    else if c == '\x60' then none
    else if "()+?\x7b|".toList.contains c && !extended then none
    else (plainPattern? extended r).map (c :: ·)
  | ['\\'] => none
  | c :: r =>
    if "$*.[^".toList.contains c then none
    else if extended && "(+?\x7b|".toList.contains c then none
    else (plainPattern? extended r).map (c :: ·)

/-- What is looked for, for a pattern. -/
def finder (v : Search) (pattern : Raw) : Act Finder := do
  let comparison : Expression.Comparison := { fold := v.fold }
  match v.style.getD .basic with
  | .fixed => return Finder.ofExpression comparison (Expression.literal pattern)
  | .perl =>
    match Regex.ofText { ignoreCase := v.fold } (Raw.text pattern) with
    | .ok (m, r) => return Finder.ofRegex m r
    | .error _ => giveUp 2 (raw "invalid pattern")
  | style =>
    let extended := style == .extended
    match plainPattern? extended pattern with
    | some plain => return Finder.ofExpression comparison (Expression.literal plain)
    | none =>
      match Expression.read { extended } pattern with
      | .error f => giveUp 2 f.message
      | .ok read =>
        for sign in read.idle do grumble (raw "warning: " ++ sign ++ raw " at start of expression")
        return Finder.ofExpression comparison read.expression

/-- A match that counts where words or whole lines are asked for. -/
def isGood (v : Search) (line : List Raw.Unit) (m : Expression.Match) : Bool :=
  if v.wholeLines then m.first == 0 && m.last == line.length
  else if v.words then isWholeWord line m
  else true

/-- The matches of a line that are not empty. The number bounds them. -/
def allMatches (find : Finder) (good : Expression.Match → Bool) (line : List Raw.Unit) :
    Nat → (start : Nat) → List Expression.Match
  | 0, _ => []
  | n + 1, start =>
    if line.length < start then []
    else match find line start good with
      | none => []
      | some m =>
        if m.first == m.last then allMatches find good line n (m.first + 1)
        else m :: allMatches find good line n m.last

/-- A line of a file: its number, the number of bytes before it, and whether it is one of those that are
looked for. -/
structure Line where
  number : Nat
  offset : Nat
  units : List Raw.Unit
  bytes : Raw
  selected : Bool
  deriving Inhabited

/-- The lines of a file as far as they are needed. -/
def linesOf (v : Search) (find : Finder) : (left : Option Nat) → (number offset : Nat) → List Raw → List Line
  | _, _, _, [] => []
  | left, number, offset, bytes :: rest =>
    let units := Raw.units bytes
    let selected := (find units 0 (v.isGood units)).isSome != v.invert
    let line : Line := { number, offset, units, bytes, selected }
    if left == some 0 then
      if selected then [] else line :: linesOf v find left (number + 1) (offset + bytes.length + 1) rest
    else line :: linesOf v find (if selected then left.map (· - 1) else left) (number + 1)
      (offset + bytes.length + 1) rest

/-- A colored part of the output. -/
def colored (v : Search) (code : String) (s : Raw) : Raw :=
  if v.color then '\x1b' :: '[' :: code.toList ++ raw "m\x1b[K" ++ s ++ raw "\x1b[m\x1b[K" else s

/-- What stands in front of a line. -/
def head (v : Search) (name : Option Raw) (sign : Char) (line : Line) (offset : Nat) : Raw :=
  let mark := v.colored "36" [sign]
  let parts : List Raw :=
    (match name with
      | some n => [v.colored "35" n ++ if v.zeroNames then ['\x00'] else mark]
      | none => []) ++
    (if v.numbers then
      [v.colored "32" (Raw.padLeft ' ' v.width (ofNat line.number)) ++ mark] else []) ++
    (if v.offsets then [v.colored "32" (Raw.padLeft ' ' v.width (ofNat offset)) ++ mark] else [])
  let all := parts.flatten
  if v.align && !parts.isEmpty then
    (parts.dropLast).flatten ++ (parts.getLastD []) ++ ['\t']
  else all

/-- The bytes of units. -/
def bytesOf (us : List Raw.Unit) : Raw := us.flatMap (·.bytes)

/-- A line with its matches in color. -/
def painted (v : Search) (find : Finder) (line : Line) : Raw :=
  if !v.color || v.invert then line.bytes
  else
    let ms := allMatches find (v.isGood line.units) line.units (line.units.length + 1) 0
    let (out, last) := ms.foldl (fun (out, last) m =>
      (out ++ bytesOf (Expression.between line.units last m.first) ++
        v.colored "01;31" (bytesOf (Expression.between line.units m.first m.last)), m.last)) (([] : Raw), 0)
    out ++ bytesOf (line.units.drop last)

/-- A line that is no text. -/
def Line.isBinary (l : Line) : Bool := l.units.any (·.char.isNone)

/-- Shows the lines that are found with their neighbours. -/
def showLines (v : Search) (find : Finder) (name : Option Raw) (lines : List Line) : Act Bool := do
  let before := v.before.getD (v.both.getD 0)
  let after := v.after.getD (v.both.getD 0)
  let grouped := v.before.isSome || v.after.isSome || v.both.isSome
  let mut binary := false
  let mut shownTo := 0
  let mut any := false
  let mut trailing := 0
  let mut earlier : List Line := []
  for line in lines do
    if line.selected then
      let context := (earlier.take before).reverse.filter fun l => shownTo < l.number
      let firstNumber := (context.head?.getD line).number
      if grouped && any && !v.only && shownTo + 1 < firstNumber then
        match v.separator with
        | some s => say (v.colored "36" s ++ ['\n'])
        | none => shownTo := shownTo
      if !v.only then
        for l in context do
          if l.isBinary && !v.text then binary := true
          else say (v.head name '-' l l.offset ++ l.bytes ++ [v.ending])
        if line.isBinary && !v.text then binary := true
        else say (v.head name ':' line line.offset ++ v.painted find line ++ [v.ending])
      else if !v.invert then
        for m in allMatches find (v.isGood line.units) line.units (line.units.length + 1) 0 do
          let us := Expression.between line.units m.first m.last
          if us.any (·.char.isNone) && !v.text then binary := true
          else
            let offset := line.offset + (bytesOf (line.units.take m.first)).length
            say (v.head name ':' line offset ++ v.colored "01;31" (bytesOf us) ++ [v.ending])
      any := true
      shownTo := line.number
      trailing := after
    else if 0 < trailing then
      trailing := trailing - 1
      if !v.only then
        if line.isBinary && !v.text then binary := true
        else say (v.head name '-' line line.offset ++ line.bytes ++ [v.ending])
      shownTo := line.number
    earlier := line :: earlier.take before
  return binary

/-- Searches a text. Whether lines were found. -/
def searchText (v : Search) (find : Finder) (named : Bool) (file : Option Raw) (content : Raw) :
    Act Bool := do
  let shownName := file.getD v.label
  let name : Option Raw := if v.names.getD named then some shownName else none
  let onDisk ← if file.isSome then pure true else do
    match ← opened? 0 with
    | some (_, { place := .file _, .. }) => pure true
    | _ => pure false
  let width := if !v.align then 0
    else if onDisk then (ofNat (content.length + if v.numbers then 1 else 0)).length else 19
  let v : Search := { v with width }
  let hasZero := content.contains '\x00' && !v.text && v.ending == '\n'
  if hasZero && v.skipBinary then return false
  let most := if v.quiet || v.list.isSome then some 1 else v.most
  let records := recordsOf v.ending content
  let lines := v.linesOf find most 1 0 records
  let count := lines.countP (·.selected)
  if v.most == some 0 then return false
  if v.quiet then return 0 < count
  if file.isNone && v.most.isSome then
    match lines.reverse.find? (·.selected) with
    | some last =>
      if v.most == some count then
        giveBack 0 (content.drop (last.offset + last.bytes.length + 1))
    | none => giveBack 0 []
  if let some found := v.list then
    if (0 < count) == found then say (v.colored "35" shownName ++ if v.zeroNames then ['\x00'] else ['\n'])
    return 0 < count
  if v.count then
    let start : Raw := match name with
      | some n => v.colored "35" n ++ if v.zeroNames then ['\x00'] else v.colored "36" [':']
      | none => []
    say (start ++ ofNat count ++ ['\n'])
    return 0 < count
  if hasZero then
    if 0 < count then grumble (shownName ++ raw ": binary file matches")
    return 0 < count
  if ← v.showLines find name lines then grumble (shownName ++ raw ": binary file matches")
  return 0 < count

/-- A name matches one of the patterns. -/
def matchesName (patterns : List Raw) (path : Raw) : Bool :=
  let base := (path.reverse.takeWhile (· != '/')).reverse
  patterns.any fun p =>
    let signs := Pattern.read p
    Pattern.accepts signs base || Pattern.accepts signs path

/-- The files below a directory, each with the path under which it is shown. The number bounds how deep
directories are nested. -/
def filesBelow (v : Search) (t : FileTree) : Nat → (path : Raw) → (names : List Text) → List Raw
  | 0, _, _ => []
  | n + 1, path, names =>
    (Disk.list t names).flatMap fun name =>
      let below := if path.isEmpty then name else if path.getLast? == some '/' then path ++ name
        else path ++ '/' :: name
      let here := names ++ [Raw.text name]
      match Disk.node? t here with
      | some .dir => if matchesName v.excludedDirs name then [] else filesBelow v t n below here
      | some (.file _) =>
        if (v.included.isEmpty || matchesName v.included name) && !matchesName v.excluded name then [below]
          else []
      | _ => []

/-- The amount of an option. -/
def amount (value : Raw) (what : Raw) : Act Nat := do
  match Raw.nat? value with
  | some n => return n
  | none => giveUp 2 what

/-- The kind of notation, which may be chosen only once. -/
def withStyle (v : Search) (style : Writing) : Act Search := do
  if v.style.any (· != style) then giveUp 2 (raw "conflicting matchers specified")
  return { v with style := some style }

/-- More patterns. -/
def withPatterns (v : Search) (ps : List Raw) : Search := { v with patterns := some (v.patterns.getD [] ++
    ps) }

/-- The search that an option asks for. -/
def choose (v : Search) (key : String) (value : Raw) : Act Search := do
  let context (value : Raw) : Act Nat := amount value (value ++ raw ": invalid context length argument")
  match key with
  | "E" => v.withStyle .extended
  | "F" => v.withStyle .fixed
  | "G" => v.withStyle .basic
  | "P" => v.withStyle .perl
  | "e" => return v.withPatterns (patternsOf value)
  | "f" =>
    match ← content value with
    | .ok s => return v.withPatterns (recordsOf '\n' s)
    | .error f => giveUp 2 (value ++ raw ": " ++ f.message)
  | "i" => return { v with fold := true }
  | "y" => return { v with fold := true }
  | "no-ignore-case" => return { v with fold := false }
  | "v" => return { v with invert := true }
  | "w" => return { v with words := true }
  | "x" => return { v with wholeLines := true }
  | "c" => return { v with count := true }
  | "L" => return { v with list := some false }
  | "l" => return { v with list := some true }
  | "m" =>
    match Raw.int? value with
    | some n => return { v with most := if n < 0 then none else some n.toNat }
    | none => giveUp 2 (raw "invalid max count")
  | "o" => return { v with only := true }
  | "q" => return { v with quiet := true }
  | "s" => return { v with silent := true }
  | "b" => return { v with offsets := true }
  | "H" => return { v with names := some true }
  | "h" => return { v with names := some false }
  | "label" => return { v with label := value }
  | "n" => return { v with numbers := true }
  | "T" => return { v with align := true }
  | "z" => return { v with ending := '\x00' }
  | "Z" => return { v with zeroNames := true }
  | "A" => return { v with after := some (← context value) }
  | "B" => return { v with before := some (← context value) }
  | "C" => return { v with both := some (← context value) }
  | "group-separator" => return { v with separator := some value }
  | "no-group-separator" => return { v with separator := none }
  | "a" => return { v with text := true }
  | "I" => return { v with skipBinary := true }
  | "binary-files" =>
    return { v with text := value == raw "text", skipBinary := value == raw "without-match" }
  | "d" =>
    if value == raw "recurse" then return { v with recursive := true }
    else if value == raw "skip" then return { v with skipDirs := true }
    else return v
  | "r" => return { v with recursive := true }
  | "R" => return { v with recursive := true }
  | "include" => return { v with included := v.included ++ [value] }
  | "exclude" => return { v with excluded := v.excluded ++ [value] }
  | "exclude-dir" => return { v with excludedDirs := v.excludedDirs ++ [dropEnd (· == '/') value] }
  | "color" => return { v with color := value == raw "always" }
  | "colour" => return { v with color := value == raw "always" }
  | _ => return v

/-- The options of the tool. -/
def table : String :=
  "E/extended-regexp F/fixed-strings G/basic-regexp P/perl-regexp e/regexp= f/file= i/ignore-case y " ++
  "/no-ignore-case v/invert-match w/word-regexp x/line-regexp c/count /color% /colour% " ++
  "L/files-without-match l/files-with-matches m/max-count= o/only-matching q/quiet q/silent s/no-messages " ++
  "b/byte-offset H/with-filename h/no-filename /label= n/line-number T/initial-tab U/binary u z/null-data " ++
  "Z/null A/after-context= B/before-context= C/context= /group-separator= /no-group-separator a/text I " ++
  "/binary-files= D/devices= d/directories= /exclude= /exclude-from= /exclude-dir= /include= r/recursive " ++
  "R/dereference-recursive /line-buffered"

/-- The arguments with `-5` as a context of five lines. -/
def withContext (args : List Raw) : List Raw :=
  args.map fun a => match a with
    | '-' :: c :: cs => if (c :: cs).all Char.isDigit then raw "-C" ++ c :: cs else a
    | a => a

/-- Searches the operands. -/
def run (v : Search) (operands : List Raw) : Act Nat := do
  let (patterns, files) ← match v.patterns with
    | some ps => pure (ps, operands)
    | none => match operands with
      | p :: files => pure (patternsOf p, files)
      | [] => usage
  let find := Finder.any (← patterns.mapM v.finder)
  let out ← outputNames?
  let mut found := false
  let mut failed := false
  let files := if files.isEmpty then [if v.recursive then [] else ['-']] else files
  let named := 1 < files.length || v.recursive
  for file in files do
    if file == ['-'] then
      match ← readAll 0 with
      | .ok s => if ← v.searchText find named none s then found := true
      | .error f =>
        if !v.silent then grumble (v.label ++ raw ": " ++ f.message)
        failed := true
    else
      match ← stat (if file.isEmpty && v.recursive then ['.'] else file) with
      | .ok (names, .dir) =>
        if v.recursive then
          for path in v.filesBelow (← tree) 50 file names do
            match ← content path false with
            | .ok s => if ← v.searchText find named (some path) s then found := true
            | .error _ => failed := failed
        else if !v.skipDirs then
          if !v.silent then grumble (file ++ raw ": Is a directory")
          failed := true
      | .ok (names, _) =>
        if v.recursive && ((!v.included.isEmpty && !matchesName v.included file) ||
            matchesName v.excluded file) then found := found
        else if out == some names && !v.quiet && v.list.isNone && v.most != some 1 then
          grumble (file ++ raw ": input file is also the output")
          failed := true
        else match ← content file false with
          | .ok s => if ← v.searchText find named (some file) s then found := true
          | .error f =>
            if !v.silent then grumble (file ++ raw ": " ++ f.message)
            failed := true
      | .error f =>
        if !v.silent then grumble (file ++ raw ": " ++ f.message)
        failed := true
    if v.quiet && found then exit 0
  return if failed then 2 else if found then 0 else 1
where
  /-- The place of the file to which the output leads. -/
  outputNames? : Act (Option (List Text)) := do
    match ← opened? 1 with
    | some (_, { place := .file names, .. }) => return some names
    | _ => return none

end Search

/-- Searches lines. -/
def grepWith (start : Search) : Tool := fun args => do
  let (chosen, operands) := Flag.choose (Flag.table Search.table) false (Search.withContext args)
  let v ← chosen.foldlM (fun v c => match c with
    | .wrong message => do
      grumble message
      Search.usage
    | .option key value => if key == "help" || key == "version" then exit 0 else v.choose key value) start
  v.run operands

/-- Searches lines. -/
def grep : Tool := grepWith {}

/-- Searches lines by extended expressions. -/
def egrep : Tool := grepWith { style := some .extended }

/-- Searches lines for texts. -/
def fgrep : Tool := grepWith { style := some .fixed }

end DocAudit.Shell.Tool
