import DocAudit.Shell.Tool.Copying
import DocAudit.Shell.Tool.Removing
import DocAudit.Shell.Tool.Selecting

/-!
# Parts and lengths of files

## Contents

* `Division`, `split`: a file cut into several
* `truncate`: files of other lengths
* `Transfer`, `dd`: blocks that are copied
-/

namespace DocAudit.Shell.Tool

open Text Act

/-- A file with a content, or why it could not be made. -/
def putContent (path content : Raw) : Act (Option FileFault) := do
  match ← openPath path .overwrite with
  | .error f => return some f
  | .ok f =>
    let saved ← shell
    install 1000000 f
    let trouble ← write 1000000 content
    setShell fun s => { s with streams := saved.streams }
    return trouble

/-! ## Cutting -/

/-- Where a file is cut. -/
inductive Cuts
  /-- After so many lines. -/
  | lines (n : Nat)
  /-- After so many bytes. -/
  | bytes (n : Nat)
  /-- After as many lines as have so many bytes. -/
  | lineBytes (n : Nat)
  /-- Into so many parts of the same length, of which one may be asked for. -/
  | parts (n : Nat) (only : Option Nat)
  /-- The same with whole lines. -/
  | lineParts (n : Nat) (only : Option Nat)
  /-- The lines go to so many parts in turn. -/
  | turns (n : Nat) (only : Option Nat)
  deriving DecidableEq, Repr

/-- How a file is cut, and how its parts are called. -/
structure Division where
  cuts : Option Cuts := none
  /-- The digits of a line number that is an option of its own. -/
  digits : Raw := []
  letters : Raw := "abcdefghijklmnopqrstuvwxyz".toList
  first : Option Nat := none
  /-- The length of the part of the name that changes; otherwise it grows. -/
  length : Option Nat := none
  suffix : Raw := []
  ending : Char := '\n'
  verbose : Bool := false
  skipEmpty : Bool := false
  deriving Repr

namespace Division

/-- Parts of so many members. The number bounds them. -/
def groups {α : Type} (size : Nat) : Nat → List α → List (List α)
  | 0, _ => []
  | n + 1, xs => if xs.isEmpty then [] else xs.take size :: groups size n (xs.drop size)

/-- The lines with their ends. -/
def linesOf (ending : Char) (s : Raw) : List Raw :=
  (recordsWith ending s).map fun (line, ended) => line ++ if ended then [ending] else []

/-- Lines gathered as long as they have no more than so many bytes; longer ones are cut. The first number
bounds the lines and cuts. -/
def gathered (size : Nat) : Nat → (soFar : Raw) → List Raw → List Raw
  | 0, _, _ => []
  | _ + 1, soFar, [] => if soFar.isEmpty then [] else [soFar]
  | n + 1, soFar, line :: rest =>
    if soFar.length + line.length ≤ size then gathered size n (soFar ++ line) rest
    else if !soFar.isEmpty then soFar :: gathered size n [] (line :: rest)
    else line.take size :: gathered size n [] (line.drop size :: rest)

/-- The lengths of so many parts of a whole; the first ones have what is left over. -/
def shares (whole count : Nat) : List Nat :=
  (List.range count).map fun i => whole / count + if i < whole % count then 1 else 0

/-- A text cut into pieces of these lengths. -/
def cutAt : List Nat → Raw → List Raw
  | [], _ => []
  | n :: rest, s => s.take n :: cutAt rest (s.drop n)

/-- Lines cut into pieces: a line belongs to the piece in which it starts. -/
def linesAt : (start : Nat) → (ends : List Nat) → List Raw → List Raw
  | _, [], _ => []
  | start, end_ :: ends, lines =>
    let starts := lines.zipIdx.map fun (_, i) => start + totalOf ((lines.take i).map List.length)
    let count := (starts.takeWhile (· < end_)).length
    let here := (lines.take count).flatten
    here :: linesAt (start + here.length) ends (lines.drop count)

/-- The pieces of a text, with their numbers. -/
def pieces (v : Division) (s : Raw) : List Raw :=
  match v.cuts.getD (.lines 1000) with
  | .lines n => (groups n (s.length + 1) (linesOf v.ending s)).map List.flatten
  | .bytes n => groups n (s.length + 1) s
  | .lineBytes n => gathered n (2 * s.length + 2) [] (linesOf v.ending s)
  | .parts n _ => cutAt (shares s.length n) s
  | .lineParts n _ =>
    let ends := (List.range n).map fun i => totalOf ((shares s.length n).take (i + 1))
    linesAt 0 ends (linesOf v.ending s)
  | .turns n _ =>
    let lines := (linesOf v.ending s).zipIdx
    (List.range n).map fun i => (lines.filter fun (_, k) => k % n == i).flatMap (·.1)

/-- The piece that is asked for, which is not put into a file. -/
def only? (v : Division) : Option Nat :=
  match v.cuts with
  | some (.parts _ k) => k
  | some (.lineParts _ k) => k
  | some (.turns _ k) => k
  | _ => none

/-- The number of files, where it is known before. -/
def count? (v : Division) : Option Nat :=
  match v.cuts with
  | some (.parts n _) => some n
  | some (.lineParts n _) => some n
  | some (.turns n _) => some n
  | _ => none

/-- A number with letters for digits, so many of them; nothing if they are too few. -/
def written (letters : Raw) : (length : Nat) → Nat → Option Raw
  | 0, n => if n == 0 then some [] else none
  | length + 1, n =>
    (written letters length (n / letters.length)).map (· ++ (letters[n % letters.length]?).toList)

/-- The part of a name that changes, where it may grow: the last letter in front tells that it did. The number
bounds how often. -/
def growing (letters : Raw) : Nat → (length : Nat) → Nat → Raw
  | 0, _, _ => []
  | fuel + 1, length, n =>
    let room := (letters.length - 1) * Nat.pow letters.length (length - 1)
    if n < room then (written letters length n).getD []
    else letters.getLast?.toList ++ growing letters fuel (length + 1) (n - room)

/-- The length that so many names need. -/
def lengthFor (v : Division) (count : Nat) : Nat :=
  ((List.range 20).find? fun k => count ≤ Nat.pow v.letters.length k).getD 2

/-- The part of the name of a piece that changes; nothing when there are no more names. -/
def label (v : Division) (n : Nat) : Option Raw :=
  match v.length, v.first, v.count? with
  | some k, first, _ => written v.letters k (first.getD 0 + n)
  | none, some first, _ => written v.letters 2 (first + n)
  | none, none, some count =>
    written v.letters (max 2 (v.lengthFor count)) n
  | none, none, none => some (growing v.letters 20 2 n)

end Division

/-- The kind of parts that an option asks for. -/
def partsOf (s : Raw) : Act Cuts := do
  let (kind, rest) : Raw × Raw := match s with
    | 'l' :: '/' :: rest => (['l'], rest)
    | 'r' :: '/' :: rest => (['r'], rest)
    | rest => ([], rest)
  let number (what : String) (s : Raw) : Act Nat := do
    match Amount.read s with
    | .ok n =>
      if n == 0 then giveUp 1 (raw "invalid " ++ raw what ++ raw ": " ++ Quoted.between s)
      return n
    | .error _ => giveUp 1 (raw "invalid " ++ raw what ++ raw ": " ++ Quoted.between s)
  let (only, count) : Option Nat × Nat ← match splitAt '/' rest with
    | [k, n] =>
      let count ← number "number of chunks" n
      let only ← number "chunk number" k
      if count < only then giveUp 1 (raw "invalid chunk number: " ++ Quoted.between k)
      pure (some only, count)
    | _ =>
      let count ← number "number of chunks" rest
      pure (none, count)
  return if kind == ['l'] then .lineParts count only else if kind == ['r'] then .turns count only
    else .parts count only

/-- Cuts a file into several. -/
def split : Tool := fun args => do
  let amount (what : String) (s : Raw) : Act Nat := do
    match Amount.read s with
    | .ok n =>
      if n == 0 then giveUp 1 (raw "invalid number of " ++ raw what ++ raw ": " ++ Quoted.between s)
      return n
    | .error .tooGreat => return Amount.greatest
    | .error .malformed => giveUp 1 (raw "invalid number of " ++ raw what ++ raw ": " ++ Quoted.between s)
  let choose (v : Division) (c : Cuts) : Act Division := do
    if v.cuts.isSome || !v.digits.isEmpty then misuse 1 (raw "cannot split in more than one way")
    return { v with cuts := some c }
  let (v, operands) ← options
    ("a/suffix-length= /additional-suffix= b/bytes= C/line-bytes= d /numeric-suffixes% x /hex-suffixes% " ++
      "e/elide-empty-files l/lines= n/number= t/separator= u/unbuffered /verbose 0 1 2 3 4 5 6 7 8 9")
    args ({} : Division) fun v key value => do
      match key with
      | "a" =>
        match Raw.nat? value with
        | some 0 => return { v with length := none }
        | some n => return { v with length := some n }
        | none => giveUp 1 (raw "invalid suffix length: " ++ Quoted.between value)
      | "additional-suffix" =>
        if value.contains '/' then
          misuse 1 (raw "invalid suffix " ++ Quoted.between value ++ raw ", contains directory separator")
        return { v with suffix := value }
      | "b" => choose v (.bytes (← amount "bytes" value))
      | "C" => choose v (.lineBytes (← amount "lines" value))
      | "l" => choose v (.lines (← amount "lines" value))
      | "n" => choose v (← partsOf value)
      | "d" => return { v with letters := "0123456789".toList }
      | "x" => return { v with letters := "0123456789abcdef".toList }
      | "numeric-suffixes" =>
        return { v with letters := "0123456789".toList, first := Raw.nat? value }
      | "hex-suffixes" =>
        return { v with letters := "0123456789abcdef".toList, first := Raw.nat? value }
      | "e" => return { v with skipEmpty := true }
      | "t" =>
        match value with
        | [] => giveUp 1 (raw "empty record separator")
        | [c] => return { v with ending := c }
        | ['\\', '0'] => return { v with ending := '\x00' }
        | s => giveUp 1 (raw "multi-character separator " ++ Quoted.between s)
      | "u" => return v
      | "verbose" => return { v with verbose := true }
      | digit =>
        if v.cuts.isSome then misuse 1 (raw "cannot split in more than one way")
        return { v with digits := v.digits ++ raw digit }
  let v := if v.digits.isEmpty then v
    else { v with cuts := some (.lines ((Raw.nat? v.digits).getD 0)) }
  if v.cuts == some (.lines 0) then giveUp 1 (raw "invalid number of lines: " ++ Quoted.between v.digits)
  if let some extra := operands[2]? then extraOperand extra
  if let some count := v.count? then
    if v.length.any (· < v.lengthFor count) then
      giveUp 1 (raw "the suffix length needs to be at least " ++ ofNat (v.lengthFor count))
  let file := operands.head?.getD ['-']
  let stem := (operands[1]?).getD ['x']
  match ← content file with
  | .error .isDir =>
    fileTrouble file .isDir
    return 1
  | .error f =>
    grumble (raw "cannot open " ++ Quoted.always file ++ raw " for reading: " ++ f.message)
    return 1
  | .ok s =>
    let pieces := v.pieces s
    if let some k := v.only? then
      say ((pieces[k - 1]?).getD [])
      return 0
    let pieces := if v.skipEmpty then pieces.filter (!·.isEmpty) else pieces
    for (piece, i) in pieces.zipIdx do
      match v.label i with
      | none => giveUp 1 (raw "output file suffixes exhausted")
      | some label =>
        let name := stem ++ label ++ v.suffix
        if v.verbose then say (raw "creating file " ++ Quoted.always name ++ ['\n'])
        if let some f ← putContent name piece then
          fileTrouble name f
          exit 1
    return 0

/-! ## Lengths -/

/-- How a length is found. -/
inductive Sizing
  | exact
  | more
  | less
  | atMost
  | atLeast
  | roundDown
  | roundUp
  deriving DecidableEq, Repr

/-- A length found from another one. -/
def Sizing.apply (z : Sizing) (n old : Nat) : Nat :=
  match z with
  | .exact => n
  | .more => old + n
  | .less => old - n
  | .atMost => min old n
  | .atLeast => max old n
  | .roundDown => old / n * n
  | .roundUp => (old + n - 1) / n * n

/-- A length as an option writes it. -/
def sizingOf (s : Raw) : Act (Sizing × Nat) := do
  let (z, rest) : Sizing × Raw := match s.dropWhile Raw.isSpace with
    | '<' :: rest => (.atMost, rest)
    | '>' :: rest => (.atLeast, rest)
    | '/' :: rest => (.roundDown, rest)
    | '%' :: rest => (.roundUp, rest)
    | '+' :: rest => (.more, rest)
    | '-' :: rest => (.less, rest)
    | rest => (.exact, rest)
  match Amount.read rest with
  | .ok n =>
    if n == 0 && (z == .roundDown || z == .roundUp) then giveUp 1 (raw "division by zero")
    return (z, n)
  | .error _ => giveUp 1 (raw "Invalid number: " ++ Quoted.between rest)

/-- Gives files another length. -/
def truncate : Tool := fun args => do
  let ((create, size, reference, blocks), files) ← options
    "c/no-create o/io-blocks r/reference= s/size=" args
    (true, (none : Option (Sizing × Nat)), (none : Option Raw), false)
    fun (create, size, reference, blocks) key value => do
      match key with
      | "c" => return (false, size, reference, blocks)
      | "o" => return (create, size, reference, true)
      | "r" => return (create, size, some value, blocks)
      | _ =>
        let z ← sizingOf value
        return (create, some z, reference, blocks)
  if reference.isNone && size.isNone then
    misuse 1 (raw "you must specify either " ++ Quoted.between (raw "--size") ++ raw " or " ++
      Quoted.between (raw "--reference"))
  if reference.isSome && size.any (·.1 == .exact) then
    misuse 1 (raw "you must specify a relative " ++ Quoted.between (raw "--size") ++ raw " with " ++
      Quoted.between (raw "--reference"))
  if blocks && size.isNone then
    misuse 1 (Quoted.between (raw "--io-blocks") ++ raw " was specified but " ++
      Quoted.between (raw "--size") ++
      raw " was not")
  if files.isEmpty then misuse 1 (raw "missing file operand")
  let base : Option Nat ← match reference with
    | none => pure none
    | some path =>
      match ← stat path with
      | .ok (_, .file s) => pure (some s.length)
      | .ok _ => pure (some 4096)
      | .error f =>
        cannot "cannot stat" path f
        exit 1
  let (z, n) := size.getD (.more, 0)
  let n := if blocks then 4096 * n else n
  let mut status := 0
  for file in files do
    match ← stat file with
    | .ok (names, .file s) =>
      let length := z.apply n (base.getD s.length)
      let _ ← change fun t => Disk.setContent t names (s.take length ++
        List.replicate (length - s.length) '\x00')
    | .ok (_, .dir) =>
      grumble (raw "cannot open " ++ Quoted.always file ++ raw " for writing: " ++ FileFault.isDir.message)
      status := 1
    | .ok _ =>
      grumble (raw "failed to truncate " ++ Quoted.always file ++ raw " at " ++
        ofNat (z.apply n (base.getD 0)) ++
        raw " bytes: Invalid argument")
      status := 1
    | .error .noEntry =>
      if create then
        if let some f ← putContent file (List.replicate (z.apply n (base.getD 0)) '\x00') then
          grumble (raw "cannot open " ++ Quoted.always file ++ raw " for writing: " ++ f.message)
          status := 1
    | .error f =>
      grumble (raw "cannot open " ++ Quoted.always file ++ raw " for writing: " ++ f.message)
      status := 1
  return status

/-! ## Blocks -/

/-- How blocks are copied. -/
structure Transfer where
  source : Option Raw := none
  target : Option Raw := none
  /-- The bytes of a block that is read, and of one that is written. -/
  sizes : Nat × Nat := (512, 512)
  /-- Blocks are written as they were read. -/
  same : Bool := false
  /-- Amounts of blocks or, with a mark, of bytes. -/
  count : Option (Nat × Bool) := none
  skip : Nat × Bool := (0, false)
  seek : Nat × Bool := (0, false)
  conversions : List Raw := []
  status : Raw := []
  flags : List Raw := []
  deriving Repr

namespace Transfer

/-- The number that a text with factors writes. -/
def number? (s : Raw) : Option Nat :=
  (splitAt 'x' s).foldl (fun n part =>
    let digits := part.takeWhile Char.isDigit
    let suffix := part.drop digits.length
    let factor := if suffix == ['c'] then some 1 else if suffix == ['w'] then some 2
      else Amount.factor? suffix
    n.bind fun n => (Raw.nat? digits).bind fun d => factor.map fun f => n * d * f) (some 1)

/-- The words that tell how bytes are changed. -/
def conversionWords : List Raw :=
  ["lcase", "ucase", "swab", "noerror", "notrunc", "sync", "fsync", "fdatasync", "excl", "nocreat",
    "sparse"].map raw

/-- Bytes in pairs whose order is changed. -/
def swapped : Raw → Raw
  | a :: b :: rest => b :: a :: swapped rest
  | rest => rest

/-- The bytes of a block after all changes. -/
def converted (v : Transfer) (s : Raw) : Raw :=
  let has (word : String) : Bool := v.conversions.contains (raw word)
  let s := if has "sync" then s ++ List.replicate (v.sizes.1 - s.length) '\x00' else s
  let s := if has "swab" then swapped s else s
  if has "lcase" then s.map Char.toLower else if has "ucase" then s.map Char.toUpper else s

/-- The numbers of whole blocks and of others. -/
def tally (size : Nat) (lengths : List Nat) : Raw :=
  let whole := (lengths.filter (· == size)).length
  ofNat whole ++ ['+'] ++ ofNat (lengths.length - whole)

end Transfer

/-- What an operand changes. -/
def transferOperand (v : Transfer) (operand : Raw) : Act Transfer := do
  let name := operand.takeWhile (· != '=')
  let value := operand.drop (name.length + 1)
  let unknown {α : Type} : Act α := misuse 1 (raw "unrecognized operand " ++ Quoted.always operand)
  if name.length == operand.length then unknown
  let number (least : Nat) : Act Nat := do
    match Transfer.number? value with
    | some n =>
      if n < least then giveUp 1 (raw "invalid number: " ++ Quoted.always value)
      return n
    | none => giveUp 1 (raw "invalid number: " ++ Quoted.always value)
  let amount : Act (Nat × Bool) := do
    match if value.getLast? == some 'B' then Transfer.number? value.dropLast else none with
    | some n => return (n, true)
    | none =>
      let n ← number 0
      return (n, false)
  match String.ofList name with
  | "if" => return { v with source := some value }
  | "of" => return { v with target := some value }
  | "bs" =>
    let n ← number 1
    return { v with sizes := (n, n), same := true }
  | "ibs" =>
    let n ← number 1
    return { v with sizes := (n, v.sizes.2) }
  | "obs" =>
    let n ← number 1
    return { v with sizes := (v.sizes.1, n) }
  | "count" =>
    let n ← amount
    return { v with count := some n }
  | "skip" =>
    let n ← amount
    return { v with skip := n }
  | "iseek" =>
    let n ← amount
    return { v with skip := n }
  | "seek" =>
    let n ← amount
    return { v with seek := n }
  | "oseek" =>
    let n ← amount
    return { v with seek := n }
  | "conv" =>
    let words := splitAt ',' value
    match words.find? fun w => !Transfer.conversionWords.contains w with
    | some w => misuse 1 (raw "invalid conversion: " ++ Quoted.between w)
    | none => return { v with conversions := v.conversions ++ words }
  | "status" =>
    if ["none", "noxfer", "progress"].any (raw · == value) then return { v with status := value }
    misuse 1 (raw "invalid status level: " ++ Quoted.between value)
  | "iflag" => return { v with flags := v.flags ++ splitAt ',' value }
  | "oflag" => return { v with flags := v.flags ++ splitAt ',' value }
  | _ => unknown

/-- Copies blocks. -/
def dd : Tool := fun args => do
  let (_, operands) ← options "" args () fun _ _ _ => return ()
  let v ← operands.foldlM transferOperand ({} : Transfer)
  let has (word : String) : Bool := v.conversions.contains (raw word)
  let (inSize, outSize) := v.sizes
  let bytesOf (size : Nat) (flag : String) (n : Nat × Bool) : Nat :=
    if n.2 || v.flags.contains (raw flag) then n.1 else size * n.1
  if let some path := v.source then
    match ← openPath path .read with
    | .ok f => install 0 f
    | .error f =>
      cannot "failed to open" path f
      exit 1
  let start := bytesOf outSize "seek_bytes" v.seek
  if let some path := v.target then
    let there := (← stat path).toOption
    if has "excl" && there.isSome then
      cannot "failed to open" path .exists
      exit 1
    if has "nocreat" && there.isNone then
      cannot "failed to open" path .noEntry
      exit 1
    match ← openPath path .both with
    | .ok f =>
      if !has "notrunc" then
        if let .file names := f.place then
          let old : Raw := match Disk.node? (← tree) names with
            | some (.file s) => s
            | _ => []
          let _ ← change fun t => Disk.setContent t names (overlay (old.take start) start [])
      install 1 { f with offset := start, append := v.flags.contains (raw "append") }
    | .error f =>
      cannot "failed to open" path f
      exit 1
  let skipped := bytesOf inSize "skip_bytes" v.skip
  let name := v.source.getD (raw "standard input")
  let mut bytes : Raw := []
  let mut status := 0
  let wanted := v.count.map (bytesOf inSize "count_bytes")
  match ← match wanted with
    | some n => readStart { amount := skipped + n, bytes := true } 0 100000 []
    | none => readAll 0 with
  | .ok s =>
    if s.length < skipped || (s.length == skipped && 0 < skipped && wanted != some 0 && s.isEmpty) then
      grumble (Quoted.ifNeeded name ++ raw ": cannot skip to specified offset")
    bytes := s.drop skipped
  | .error f =>
    cannot "error reading" name f
    status := 1
  let blocks := Division.groups inSize (bytes.length + 1) bytes
  let written := blocks.map v.converted
  let out := if v.same then written else Division.groups outSize (bytes.length + inSize + 1) written.flatten
  for block in out do
    say block
  if v.status != raw "none" then
    let _ ← complain 0 (Transfer.tally inSize (blocks.map List.length) ++ raw " records in")
    let _ ← complain 0 (Transfer.tally outSize (out.map List.length) ++ raw " records out")
    if v.status != raw "noxfer" then
      let size := totalOf (out.map List.length)
      let _ ← complain 0 (ofNat size ++ raw (if size == 1 then " byte" else " bytes") ++
        raw " copied, 0 s, Infinity B/s")
  return status

end DocAudit.Shell.Tool
