import DocAudit.Shell.Number
import DocAudit.Shell.Pattern
import DocAudit.Shell.Tool.Removing
import DocAudit.Shell.Tool.Sorting
import DocAudit.Text.Columns

/-!
# Lists of files

## Contents

* `FileFacts`: what is known of a file
* `ListStyle`, `arranged`: how names are put on lines
* `ls`: lists of files and directories
* `statTool`: single facts about files
-/

namespace DocAudit.Shell.Tool

open Text Act

/-! ## Facts -/

/-- What is known of a file: how it was named, where it is, what it is, and its permissions. -/
structure FileFacts where
  name : Raw
  place : List Text
  node : Node
  mode : Nat
  deriving Repr

namespace FileFacts

/-- The facts about what is at a place. -/
def at_ (t : FileTree) (name : Raw) (place : List Text) (node : Node) : FileFacts :=
  { name, place, node, mode := Disk.mode t place }

/-- The number of bytes. -/
def size (f : FileFacts) : Nat :=
  match f.node with
  | .file s => s.length
  | .dir => 4096
  | .link t => t.length
  | .device _ => 0
  | .program => 48144

/-- The number of blocks of 1024 bytes on the disk. -/
def blocks (f : FileFacts) : Nat :=
  match f.node with
  | .link _ => 0
  | .device _ => 0
  | _ => (f.size + 4095) / 4096 * 4

/-- The number of the file on its disk. -/
def number (f : FileFacts) : Nat := 1000 + totalOf (f.place.flatten.map Char.toNat)

/-- The number of names. -/
def links (t : FileTree) (f : FileFacts) : Nat :=
  if f.node == .dir then
    2 + (Disk.list t f.place).countP fun n => Disk.node? t (f.place ++ [Raw.text n]) == some .dir
  else 1

/-- The letter of the kind. -/
def letter (f : FileFacts) : Char :=
  match f.node with
  | .dir => 'd'
  | .link _ => 'l'
  | .device _ => 'c'
  | _ => '-'

/-- The kind and the permissions in letters. -/
def letters (f : FileFacts) : Raw := f.letter :: Mode.letters f.mode

/-- The number of the kind. -/
def kindBits (f : FileFacts) : Nat :=
  match f.node with
  | .dir => 0o040000
  | .link _ => 0o120000
  | .device _ => 0o020000
  | _ => 0o100000

end FileFacts

/-! ## Lines of names -/

/-- How names are put on lines. -/
inductive Layout
  | single
  | long
  | across
  | columns
  | commas
  deriving DecidableEq, Repr

/-- How names are written. -/
inductive NameStyle
  | literal
  | shell (always : Bool)
  | double
  | escaped
  | curved
  deriving DecidableEq, Repr

/-- The marks behind names. -/
inductive Marks
  | none
  | slash
  | kinds
  | all
  deriving DecidableEq, Repr

/-- The order of names. -/
inductive ListOrder
  | name
  | none
  | size
  | extension
  | version
  deriving DecidableEq, Repr

/-- How lists are made. -/
structure ListStyle where
  layout : Layout := .single
  /-- Names that begin with a dot are listed; the value tells whether the two special ones are, too. -/
  hidden : Option Bool := Option.none
  names : NameStyle := .literal
  marks : Marks := .none
  order : ListOrder := .name
  reversed : Bool := false
  recursive : Bool := false
  /-- Directories themselves are listed. -/
  plainDirs : Bool := false
  dirsFirst : Bool := false
  follow : Bool := false
  followOperands : Bool := false
  blocks : Bool := false
  inodes : Bool := false
  owner : Bool := true
  group : Bool := true
  numeric : Bool := false
  author : Bool := false
  human : Bool := false
  unprintable : Bool := false
  width : Option Nat := Option.none
  /-- The columns from one tab stop to the next one. -/
  tabs : Nat := 8
  ending : Char := '\n'
  /-- Patterns for names that are left out, and whether only names without a dot are. -/
  ignored : List (Raw × Bool) := []
  deriving Repr

/-- A character inside of double quotes. -/
def doubleQuotedUnit (escapeBlank : Bool) (u : Raw.Unit) : Raw :=
  if Quoted.isHidden u then Quoted.escape u
  else if u.char == some '\\' then raw "\\\\"
  else if u.char == some '"' && !escapeBlank then raw "\\\""
  else if u.char == some ' ' && escapeBlank then raw "\\ "
  else u.bytes

namespace ListStyle

/-- A name as it is written. -/
def written (v : ListStyle) (name : Raw) : Raw :=
  match v.names with
  | .literal =>
    if v.unprintable then
      (Raw.units name).flatMap fun u => if Quoted.isHidden u then ['?'] else u.bytes
    else name
  | .shell true => Quoted.always name
  | .shell false => Quoted.ifNeeded name false
  | .double => '"' :: (Raw.units name).flatMap (doubleQuotedUnit false) ++ ['"']
  | .escaped => (Raw.units name).flatMap (doubleQuotedUnit true)
  | .curved => Quoted.between name

/-- The mark behind a name. -/
def mark (v : ListStyle) (node : Node) (mode : Nat) : Raw :=
  match v.marks, node with
  | .none, _ => []
  | _, .dir => ['/']
  | .slash, _ => []
  | _, .link _ => ['@']
  | .all, .file _ => if mode &&& 0o111 != 0 then ['*'] else []
  | .all, .program => ['*']
  | _, _ => []

/-- The part of a name behind its last dot. -/
def extension (name : Raw) : Raw :=
  if name.contains '.' then '.' :: (splitAt '.' name).getLastD [] else []

/-- The first file comes before the second one. -/
def before (v : ListStyle) (a b : FileFacts) : Bool :=
  let byName := compareBytes a.name b.name
  let order := match v.order with
    | .size => (compare b.size a.size).then byName
    | .extension => (compareBytes (extension a.name) (extension b.name)).then byName
    | .version => (compareVersions a.name b.name).then byName
    | _ => byName
  let order := if v.reversed then order.swap else order
  let dir (f : FileFacts) : Bool := f.node == .dir
  if v.dirsFirst && dir a != dir b then dir a else order != .gt

/-- Files in the order in which they are listed. -/
def sorted (v : ListStyle) (fs : List FileFacts) : List FileFacts :=
  match v.order with
  | .none => fs
  | _ => fs.mergeSort v.before

end ListStyle

/-- The number of columns that a text takes. -/
def shownWidth (s : Raw) : Nat := totalOf ((Raw.units s).map fun u => match u.char with
  | some c => Text.columns c
  | Option.none => 0)

/-- Blanks from one column to another; tabs are used where they fit. The number bounds them. -/
def indent (tabs : Nat) : Nat → (column until_ : Nat) → Raw
  | 0, _, _ => []
  | n + 1, column, until_ =>
    if until_ ≤ column then []
    else if tabs != 0 && (column + 1) / tabs < until_ / tabs then
      '\t' :: indent tabs n (column + tabs - column % tabs) until_
    else ' ' :: indent tabs n (column + 1) until_

/-- The widths of so many columns for names, and whether a line holds them. -/
def columnWidths (width count : Nat) (down : Bool) (lengths : List Nat) : List Nat × Bool :=
  let n := lengths.length
  let rows := (n + count - 1) / count
  let column (i : Nat) : Nat := if down then i / rows else i % count
  let widths := (List.range count).map fun c =>
    (lengths.zipIdx.filterMap fun (len, i) =>
      if column i == c then some (len + if c + 1 == count then 0 else 2) else Option.none).foldl max 3
  (widths, totalOf widths < width)

/-- Lines of names in as many columns as fit. -/
def columnLines (width tabs : Nat) (down : Bool) (names : List Raw) : List Raw :=
  let lengths := names.map shownWidth
  let n := names.length
  let most := max 1 (min n (max 1 (width / 3)))
  let fitting := ((List.range most).map (· + 1)).reverse.find? fun count =>
    (columnWidths width count down lengths).2
  let count := fitting.getD 1
  let widths := (columnWidths width count down lengths).1
  let rows := (n + count - 1) / count
  let line (row : Nat) : Raw :=
    let indices := (List.range count).filterMap fun c =>
      let i := if down then row + c * rows else row * count + c
      if i < n && (!down || c * rows + row < n) then some (c, i) else Option.none
    let (text, _, _) := indices.foldl (fun (state : Raw × Nat × Nat) (c, i) =>
      let (soFar, start, ended) := state
      let name := names.getD i []
      let gap := if c == 0 then [] else indent tabs 1000 ended start
      (soFar ++ gap ++ name, start + widths.getD c 0, start + lengths.getD i 0)) ([], 0, 0)
    text
  (List.range rows).map line

/-- Names with commas between them. -/
def commaText (width : Nat) : (column : Nat) → (first : Bool) → List Raw → Raw
  | _, _, [] => []
  | column, first, name :: rest =>
    let len := shownWidth name
    if first then name ++ commaText width len false rest
    else if width == 0 || column + len + 2 < width then raw ", " ++ name ++
      commaText width (column + len + 2) false rest
    else raw ",\n" ++ name ++ commaText width len false rest

/-- A size with a letter for its unit, rounded up. -/
def humanSize (n : Nat) : Raw :=
  if n < 1024 then ofNat n
  else
    let rec scale (fuel : Nat) (unit : List Char) (factor : Nat) : Raw :=
      match fuel, unit with
      | 0, _ => ofNat n
      | _, [] => ofNat n
      | fuel + 1, c :: rest =>
        let tenths := (n * 10 + factor - 1) / factor
        if tenths < 100 then ofNat (tenths / 10) ++ ['.'] ++ ofNat (tenths % 10) ++ [c]
        else
          let whole := (n + factor - 1) / factor
          if whole < 1024 then ofNat whole ++ [c] else scale fuel rest (factor * 1024)
    scale 8 "KMGTPEZY".toList 1024

namespace ListStyle

/-- The name of a file with its mark. -/
def marked (v : ListStyle) (f : FileFacts) : Raw := v.written f.name ++ v.mark f.node f.mode

/-- The number of a file, if it is listed. -/
def inode (v : ListStyle) (f : FileFacts) : Raw := if v.inodes then ofNat f.number ++ [' '] else []

/-- The date of a file. -/
def dateText : Raw := raw "Jan  1 00:00"

/-- Where a link leads, as long lists show it. -/
def arrow (v : ListStyle) (t : FileTree) (f : FileFacts) : Raw :=
  match f.node with
  | .link target =>
    let led := Disk.stat t f.place.dropLast target
    let mark := match led with
      | .ok (place, node) => v.mark node (Disk.mode t place)
      | .error _ => []
    raw " -> " ++ v.written target ++ mark
  | _ => []

/-- The lines of files in long lists. -/
def longLines (v : ListStyle) (t : FileTree) (fs : List FileFacts) : List Raw :=
  let sizeOf (f : FileFacts) : Raw := match f.node with
    | .device .null => raw "1, 3"
    | .device .zero => raw "1, 5"
    | .device .full => raw "1, 7"
    | .device .terminal => raw "5, 0"
    | _ => if v.human then humanSize f.size else ofNat f.size
  let wide (f : FileFacts → Raw) : Nat := (fs.map fun x => (f x).length).foldl max 0
  let linksOf (f : FileFacts) : Raw := ofNat (f.links t)
  let who := raw (if v.numeric then "0" else "root")
  let blocksOf (f : FileFacts) : Raw := if v.human then humanSize (f.blocks * 1024) else ofNat f.blocks
  fs.map fun f =>
    v.inode f ++ (if v.blocks then Raw.padLeft ' ' (wide blocksOf) (blocksOf f) ++ [' '] else []) ++
    f.letters ++ [' '] ++ Raw.padLeft ' ' (wide linksOf) (linksOf f) ++ [' '] ++
    (if v.owner then who ++ [' '] else []) ++ (if v.group then who ++ [' '] else []) ++
    (if v.author then who ++ [' '] else []) ++
    Raw.padLeft ' ' (wide sizeOf) (sizeOf f) ++ [' '] ++ dateText ++ [' '] ++
    v.written f.name ++ (match f.node with | .link _ => v.arrow t f | _ => v.mark f.node f.mode)

/-- Files as they are listed. -/
def arranged (v : ListStyle) (t : FileTree) (width : Nat) (fs : List FileFacts) : Raw :=
  let blocksOf (f : FileFacts) : Raw := if v.human then humanSize (f.blocks * 1024) else ofNat f.blocks
  let wide := (fs.map fun f => (blocksOf f).length).foldl max 0
  let tabs := if v.width == some 0 then 0 else v.tabs
  let names := fs.map fun f =>
    v.inode f ++ (if v.blocks then
      (if v.layout == .commas then blocksOf f else Raw.padLeft ' ' wide (blocksOf f)) ++ [' ']
    else []) ++ v.marked f
  if fs.isEmpty then []
  else match v.layout with
    | .single => names.flatMap fun n => n ++ [v.ending]
    | .long => (v.longLines t fs).flatMap fun n => n ++ [v.ending]
    | .across => (columnLines width tabs false names).flatMap fun n => n ++ [v.ending]
    | .columns => (columnLines width tabs true names).flatMap fun n => n ++ [v.ending]
    | .commas => commaText width 0 true names ++ [v.ending]

/-- The name is listed. -/
def lists (v : ListStyle) (name : Raw) : Bool :=
  let dotted := name.head? == some '.'
  let special := name == ['.'] || name == ['.', '.']
  let shown := match v.hidden with
    | Option.none => !dotted
    | some true => true
    | some false => !special
  shown && !v.ignored.any fun (pattern, mild) =>
    !(mild && v.hidden.isSome) && (!dotted || pattern.head? == some '.') &&
      Pattern.accepts (Pattern.read pattern) name

end ListStyle

/-! ## The tool -/

/-- The width of lines. -/
def lineWidth (v : ListStyle) : Act Nat := do
  match v.width with
  | some w => return if w == 0 then 1000000 else w
  | Option.none =>
    match ← value? (raw "COLUMNS") with
    | some s => return match Raw.nat? s with
      | some w => if w == 0 then 1000000 else w
      | Option.none => 80
    | Option.none => return 80

/-- The facts about the things in a directory, and whether all of them are known. -/
def filesIn (v : ListStyle) (path : Raw) (place : List Text) : Act (List FileFacts × Bool) := do
  let t ← tree
  let special := if v.hidden == some true then [['.'], ['.', '.']] else []
  let mut good := true
  let mut found : List FileFacts := []
  for name in special ++ Disk.list t place do
    if v.lists name then
      let names := if name == ['.'] then place else if name == ['.', '.'] then place.dropLast
        else place ++ [Raw.text name]
      match Disk.node? t names with
      | some (.link target) =>
        if v.follow then
          match Disk.stat t place target with
          | .ok (led, node) => found := FileFacts.at_ t name led node :: found
          | .error f =>
            cannot "cannot access" (under path name) f
            good := false
            found := FileFacts.at_ t name names (.link target) :: found
        else found := FileFacts.at_ t name names (.link target) :: found
      | some node => found := FileFacts.at_ t name names node :: found
      | Option.none => pure ()
  return (v.sorted found.reverse, good)

/-- Lists directories with those below them if that is asked for. The number bounds how deep they are. The
result tells whether something was listed, and the status. -/
def listDirs (v : ListStyle) (titled : Bool) : Nat → (first : Bool) → List FileFacts → Act (Bool × Nat)
  | 0, first, _ => return (first, 1)
  | n + 1, first, dirs => do
    let mut first := first
    let mut status := 0
    for d in dirs do
      if titled || v.recursive then
        say ((if first then [] else ['\n']) ++ v.written d.name ++ raw ":\n")
      first := false
      let (found, good) ← filesIn v d.name d.place
      if !good then status := max status 1
      let t ← tree
      if v.layout == .long || v.blocks then
        let total := totalOf (found.map (·.blocks))
        say (raw "total " ++ (if v.human then humanSize (total * 1024) else ofNat total) ++ [v.ending])
      say (v.arranged t (← lineWidth v) found)
      if v.recursive then
        let below := found.filter fun f => f.node == .dir && f.name != ['.'] && f.name != ['.', '.'] &&
          f.place.length == d.place.length + 1
        let (f, s) ← listDirs v titled n first (below.map fun f => { f with name := under d.name f.name })
        first := f
        status := max status s
    return (first, status)

/-- A style that an option asks for. -/
def ListStyle.with_ (v : ListStyle) (key : String) (value : Raw) : Act ListStyle := do
  match key with
  | "a" => return { v with hidden := some true }
  | "A" => return { v with hidden := some false }
  | "author" => return { v with author := true }
  | "b" => return { v with names := .escaped }
  | "B" => return { v with ignored := v.ignored ++ [(raw "*~", false), (raw ".*~", false)] }
  | "C" => return { v with layout := .columns }
  | "d" => return { v with plainDirs := true }
  | "f" => return { v with hidden := some true, order := .none }
  | "F" =>
    match String.ofList value with
    | "never" => return { v with marks := .none }
    | "none" => return { v with marks := .none }
    | _ => return { v with marks := .all }
  | "file-type" => return { v with marks := .kinds }
  | "p" => return { v with marks := .slash }
  | "indicator-style" =>
    match String.ofList value with
    | "none" => return { v with marks := .none }
    | "slash" => return { v with marks := .slash }
    | "file-type" => return { v with marks := .kinds }
    | "classify" => return { v with marks := .all }
    | _ => badArgument value "--indicator-style" ["none", "slash", "file-type", "classify"]
  | "full-time" => return { v with layout := .long }
  | "g" => return { v with layout := .long, owner := false }
  | "G" => return { v with group := false }
  | "h" => return { v with human := true }
  | "H" => return { v with followOperands := true }
  | "dereference-command-line-symlink-to-dir" => return { v with followOperands := true }
  | "hide" => return { v with ignored := v.ignored ++ [(value, true)] }
  | "I" => return { v with ignored := v.ignored ++ [(value, false)] }
  | "i" => return { v with inodes := true }
  | "l" => return { v with layout := .long }
  | "L" => return { v with follow := true }
  | "m" => return { v with layout := .commas }
  | "n" => return { v with layout := .long, numeric := true }
  | "N" => return { v with names := .literal }
  | "o" => return { v with layout := .long, group := false }
  | "q" => return { v with unprintable := true }
  | "Q" => return { v with names := .double }
  | "quoting-style" =>
    match String.ofList value with
    | "literal" => return { v with names := .literal }
    | "shell" => return { v with names := .shell false }
    | "shell-always" => return { v with names := .shell true }
    | "shell-escape" => return { v with names := .shell false }
    | "shell-escape-always" => return { v with names := .shell true }
    | "c" => return { v with names := .double }
    | "c-maybe" => return { v with names := .literal }
    | "escape" => return { v with names := .escaped }
    | "locale" => return { v with names := .curved }
    | "clocale" => return { v with names := .curved }
    | _ => badArgument value "--quoting-style" ["literal", "shell", "shell-always", "shell-escape",
        "shell-escape-always", "c", "c-maybe", "escape", "locale", "clocale"]
  | "r" => return { v with reversed := true }
  | "R" => return { v with recursive := true }
  | "s" => return { v with blocks := true }
  | "S" => return { v with order := .size }
  | "t" => return { v with order := .name }
  | "U" => return { v with order := .none }
  | "v" => return { v with order := .version }
  | "X" => return { v with order := .extension }
  | "sort" =>
    match String.ofList value with
    | "none" => return { v with order := .none }
    | "time" => return { v with order := .name }
    | "size" => return { v with order := .size }
    | "extension" => return { v with order := .extension }
    | "version" => return { v with order := .version }
    | "width" => return { v with order := .name }
    | "name" => return { v with order := .name }
    | _ => badArgument value "--sort" ["none", "time", "size", "extension", "version", "width"]
  | "format" =>
    match String.ofList value with
    | "verbose" => return { v with layout := .long }
    | "long" => return { v with layout := .long }
    | "commas" => return { v with layout := .commas }
    | "horizontal" => return { v with layout := .across }
    | "across" => return { v with layout := .across }
    | "vertical" => return { v with layout := .columns }
    | "single-column" => return { v with layout := .single }
    | _ => badArgument value "--format" ["verbose long", "commas", "horizontal across", "vertical",
        "single-column"]
  | "group-directories-first" => return { v with dirsFirst := true }
  | "color" =>
    if value.isEmpty || ((["always", "yes", "force", "never", "no", "none", "auto", "tty", "if-tty"].map
      String.toList).contains value) then return v
    badArgument value "--color" ["always yes force", "never no none", "auto tty if-tty"]
  | "time" =>
    if (["atime", "access", "use", "ctime", "status", "mtime", "modification", "birth", "creation"].map
      String.toList).contains value then return v
    badArgument value "--time" ["atime access use", "ctime status", "mtime modification", "birth creation"]
  | "block-size" =>
    match Amount.read value with
    | .ok _ => return v
    | .error _ => giveUp 2 (raw "invalid --block-size argument " ++ Quoted.always value)
  | "T" =>
    match Raw.nat? value with
    | some n => return { v with tabs := n }
    | Option.none => giveUp 2 (raw "invalid tab size: " ++ Quoted.between value)
  | "w" =>
    match Raw.nat? value with
    | some w => return { v with width := some w }
    | Option.none => giveUp 2 (raw "invalid line width: " ++ Quoted.between value)
  | "x" => return { v with layout := .across }
  | "1" => return { v with layout := if v.layout == .long then .long else .single }
  | "zero" => return { v with ending := '\x00', layout := if v.layout == .long then .long else .single }
  | _ => return v

/-- Lists files and what is in directories. -/
def ls : Tool := fun args => do
  let (v, operands) ← options ("a/all b/escape d/directory D/dired /full-time /group-directories-first " ++
      "h/human-readable i/inode k/kibibytes n/numeric-uid-gid G/no-group q/hide-control-chars r/reverse " ++
      "s/size w/width= A/almost-all B/ignore-backups F /classify% /file-type /si " ++
      "H/dereference-command-line /dereference-command-line-symlink-to-dir /hide= I/ignore= " ++
      "/indicator-style= L/dereference N/literal Q/quote-name /quoting-style= R/recursive /format= " ++
      "/show-control-chars /sort= T/tabsize= /time= /time-style= /zero /color% /hyperlink% /block-size= " ++
      "Z/context /author c f g l m o p t u v x C S U X 1")
    args ({} : ListStyle) (fun v key value => v.with_ (if key == "classify" then "F" else key) value) 2
  let linksLong := v.layout == .long || v.plainDirs || v.marks == .all
  let mut status := 0
  let mut files : List FileFacts := []
  let mut dirs : List FileFacts := []
  for path in (if operands.isEmpty then [['.']] else operands) do
    let itself ← stat path false
    let led ← stat path
    let chosen := if v.follow || v.followOperands then led
      else if linksLong then itself
      else match led with
        | .ok (_, .dir) => led
        | _ => itself
    match chosen with
    | .error f =>
      cannot "cannot access" path f
      status := 2
    | .ok (place, node) =>
      let facts := FileFacts.at_ (← tree) path place node
      if node == .dir && !v.plainDirs then dirs := facts :: dirs else files := facts :: files
  let single := v.sorted files.reverse
  say (v.arranged (← tree) (← lineWidth v) single)
  let titled := 1 < operands.length || !single.isEmpty
  let (_, s) ← listDirs v titled depthLimit single.isEmpty (v.sorted dirs.reverse)
  return max status s

/-! ## Single facts -/

/-- A fact about a file that a letter asks for. -/
def factText (t : FileTree) (f : FileFacts) (c : Char) : Raw :=
  match c with
  | 'n' => f.name
  | 'N' => match f.node with
    | .link target => Quoted.always f.name ++ raw " -> " ++ Quoted.always target
    | _ => Quoted.always f.name
  | 's' => ofNat f.size
  | 'b' => ofNat (f.blocks * 2)
  | 'B' => raw "512"
  | 'a' => Mode.digits f.mode
  | 'A' => f.letters
  | 'f' => (Nat.toDigits 16 (f.kindBits + f.mode))
  | 'F' => kindOf f.node
  | 'h' => ofNat (f.links t)
  | 'u' => ['0']
  | 'g' => ['0']
  | 'U' => raw "root"
  | 'G' => raw "root"
  | 'o' => raw "4096"
  | 'm' => ['/']
  | 'w' => ['-']
  | 'W' => ['0']
  | 't' => ['0']
  | 'T' => ['0']
  | 'C' => ['?']
  | '%' => ['%']
  | 'd' => raw "65024"
  | 'D' => raw "fe00"
  | 'i' => ofNat f.number
  | 'x' => raw "1970-01-01 00:00:00.000000000 +0000"
  | 'y' => raw "1970-01-01 00:00:00.000000000 +0000"
  | 'z' => raw "1970-01-01 00:00:00.000000000 +0000"
  | 'X' => ['0']
  | 'Y' => ['0']
  | 'Z' => ['0']
  | _ => ['?']

/-- A text with facts put in. `escapes` tells that backslashes have a meaning. The number bounds the steps. -/
def factsText (t : FileTree) (f : FileFacts) (escapes : Bool) : Nat → Raw → Raw
  | 0, _ => []
  | n + 1, s => match s with
    | [] => []
    | '%' :: r =>
      let flags := r.takeWhile fun c => "#0-+ '".toList.contains c
      let r := r.drop flags.length
      let width := r.takeWhile Char.isDigit
      let r := r.drop width.length
      let (precision, r) : Option Raw × Raw := match r with
        | '.' :: r => (some (r.takeWhile Char.isDigit), r.dropWhile Char.isDigit)
        | r => (Option.none, r)
      match r with
      | [] => raw "%"
      | c :: rest =>
        let text := factText t f c
        let text := match precision with
          | some p => text.take ((Raw.nat? p).getD 0)
          | Option.none => text
        let text := if flags.contains '#' && c == 'a' then '0' :: text else text
        let wide := (Raw.nat? width).getD 0
        let zero := flags.contains '0' && "sbBahugoXYZWid".toList.contains c
        let padded := if flags.contains '-' then Raw.padRight wide text
          else Raw.padLeft (if zero then '0' else ' ') wide text
        padded ++ factsText t f escapes n rest
    | '\\' :: c :: rest =>
      if escapes then
        let special : Raw := match c with
          | 'n' => ['\n']
          | 't' => ['\t']
          | 'a' => ['\x07']
          | 'b' => ['\x08']
          | 'e' => ['\x1b']
          | 'f' => ['\x0c']
          | 'r' => ['\r']
          | 'v' => ['\x0b']
          | '"' => ['"']
          | '\\' => ['\\']
          | c => ['\\', c]
        let digits := (c :: rest).take 3 |>.takeWhile fun c => '0' ≤ c && c ≤ '7'
        if digits.isEmpty then special ++ factsText t f escapes n rest
        else Char.ofNat (((Mode.octal? digits).getD 0) % 256) ::
          factsText t f escapes n ((c :: rest).drop digits.length)
      else '\\' :: c :: factsText t f escapes n rest
    | c :: rest => c :: factsText t f escapes n rest

/-- Shows facts about files. -/
def statTool : Tool := fun args => do
  let ((format, follow), paths) ← options ("L/dereference f/file-system c/format= /printf= t/terse /cached=")
    args (Option.none, false) fun (format, follow) key value => return match key with
      | "c" => (some (value ++ ['\n'], false), follow)
      | "printf" => (some (value, true), follow)
      | "t" => (some (raw "%n %s %b %f %u %g %D %i %h %t %T %X %Y %Z %W %o\n", false), follow)
      | "L" => (format, true)
      | _ => (format, follow)
  if paths.isEmpty then missingOperand
  let mut status := 0
  for path in paths do
    match ← stat path follow with
    | .error f =>
      cannot "cannot statx" path f
      status := 1
    | .ok (place, node) =>
      let t ← tree
      let facts := FileFacts.at_ t path place node
      let (text, escapes) := format.getD (raw ("  File: %n\n" ++
        "  Size: %-10s\tBlocks: %-10b IO Block: %-6o %F\n" ++
        "Device: 254,0\tInode: %-10i  Links: %h\nAccess: (%04a/%10.10A)  Uid: (%5u/%8U)   Gid: (%5g/%8G)\n" ++
        "Access: %x\nModify: %y\nChange: %z\n Birth: %w\n"), false)
      say (factsText t facts escapes (text.length + 1) text)
  return status

end DocAudit.Shell.Tool
