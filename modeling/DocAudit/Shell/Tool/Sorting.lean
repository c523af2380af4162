import DocAudit.Shell.Format
import DocAudit.Shell.Tool.Selecting

/-!
# Order of lines

## Contents

* `Key`: the part of a line by which it is sorted, and how parts are compared
* `Sorting`, `sort`: lines in order
-/

namespace DocAudit.Shell.Tool

open Text Act

/-! ## Comparisons -/

/-- Which of two texts comes first by their bytes. -/
def compareBytes : Raw → Raw → Ordering
  | [], [] => .eq
  | [], _ => .lt
  | _, [] => .gt
  | a :: as, b :: bs => (compare a.toNat b.toNat).then (compareBytes as bs)

/-- A blank inside a line. -/
def isLineBlank (c : Char) : Bool := c == ' ' || c == '\t' || c == '\n'

/-- A number at the start of a text: its sign, the digits in front of its point without zeros that do not
count, those behind it, and what follows. -/
def plainNumber (s : Raw) : Bool × Raw × Raw × Raw :=
  let s := s.dropWhile isLineBlank
  let (negative, s) := match s with
    | '-' :: r => (true, r)
    | r => (false, r)
  let whole := s.takeWhile Char.isDigit
  let rest := s.drop whole.length
  let (places, rest) := match rest with
    | '.' :: r => (r.takeWhile Char.isDigit, r.dropWhile Char.isDigit)
    | r => ([], r)
  (negative, whole.dropWhile (· == '0'), dropEnd (· == '0') places, rest)

/-- Which of two numbers without signs is less. -/
def compareDigits (a b : Raw × Raw) : Ordering :=
  (compare a.1.length b.1.length).then ((compareBytes a.1 b.1).then (compareBytes a.2 b.2))

/-- Which of two numbers at the start of texts is less. -/
def compareNumbers (a b : Raw) : Ordering :=
  let (na, wa, pa, _) := plainNumber a
  let (nb, wb, pb, _) := plainNumber b
  let zeroA := wa.isEmpty && pa.isEmpty
  let zeroB := wb.isEmpty && pb.isEmpty
  match na && !zeroA, nb && !zeroB with
  | false, false => compareDigits (wa, pa) (wb, pb)
  | true, true => compareDigits (wb, pb) (wa, pa)
  | true, false => .lt
  | false, true => .gt

/-- The rank of the unit behind a number, below zero for a negative one. -/
def unitRank (s : Raw) : Int :=
  let (negative, whole, places, rest) := plainNumber s
  if whole.isEmpty && places.isEmpty then 0
  else
    let rank : Nat := match rest.head? with
      | some 'k' => 1
      | some c => ("KMGTPEZYRQ".toList.idxOf? c).elim 0 (· + 1)
      | none => 0
    if negative then -(rank : Int) else rank

/-- Which of two numbers with units is less. -/
def compareUnits (a b : Raw) : Ordering := (compare (unitRank a) (unitRank b)).then (compareNumbers a b)

/-- The rank of the month that a text begins with. -/
def monthRank (s : Raw) : Nat :=
  let name := ((s.dropWhile isLineBlank).take 3).map Char.toUpper
  ((["JAN", "FEB", "MAR", "APR", "MAY", "JUN", "JUL", "AUG", "SEP", "OCT", "NOV", "DEC"].map
    String.toList).idxOf? name).elim 0 (· + 1)

/-- Which of two numbers of any form is less; what is no number comes first. -/
def compareFloats (a b : Raw) : Ordering :=
  match leadingFloat? (a.dropWhile isLineBlank), leadingFloat? (b.dropWhile isLineBlank) with
  | none, none => .eq
  | none, some _ => .lt
  | some _, none => .gt
  | some (x, _), some (y, _) =>
    if x < y then .lt else if y < x then .gt else if x == y then .eq
    else compare (if x.isNaN then 0 else 1) (if y.isNaN then 0 else 1)

/-- The rank of a character between parts of a version. -/
def versionRank (c : Char) : Int :=
  if c == '~' then -2 else if c.isDigit then 0 else if c.isAlpha then c.toNat else c.toNat + 256

/-- Which of two versions is less, part by part: what is no number, and then numbers. -/
def compareVersionParts (a b : Raw) : Ordering :=
  match a, b with
  | [], [] => .eq
  | a, b =>
    let wordA := a.takeWhile (!·.isDigit)
    let wordB := b.takeWhile (!·.isDigit)
    let ranks (w rest : Raw) : List Int := w.map versionRank ++ [if rest.length == w.length then -1 else 0]
    match compareRanks (ranks wordA a) (ranks wordB b) with
    | .lt => .lt
    | .gt => .gt
    | .eq =>
      let a' := a.drop wordA.length
      let b' := b.drop wordB.length
      let numberA := (a'.takeWhile Char.isDigit).dropWhile (· == '0')
      let numberB := (b'.takeWhile Char.isDigit).dropWhile (· == '0')
      match compareDigits (numberA, []) (numberB, []) with
      | .lt => .lt
      | .gt => .gt
      | .eq =>
        let restA := a'.dropWhile Char.isDigit
        let restB := b'.dropWhile Char.isDigit
        if restA.length + restB.length < a.length + b.length then compareVersionParts restA restB else .eq
termination_by a.length + b.length
where
  /-- Which of two lists of ranks is less. -/
  compareRanks : List Int → List Int → Ordering
    | [], [] => .eq
    | [], _ => .lt
    | _, [] => .gt
    | x :: xs, y :: ys => (compare x y).then (compareRanks xs ys)

/-- A version without its ending, which is made of points and words. -/
def versionStem (s : Raw) : Raw :=
  let rec go : Nat → Raw → Raw
    | 0, r => r
    | n + 1, r =>
      let word := r.takeWhile fun c => c.isAlphanum || c == '~'
      match r.drop word.length with
      | '.' :: rest =>
        match word.getLast? with
        | some first => if first.isAlpha || first == '~' then go n rest else r
        | none => r
      | _ => r
  (go s.length s.reverse).reverse

/-- Which of two versions is less. -/
def compareVersions (a b : Raw) : Ordering :=
  if a == b then .eq
  else match a, b with
    | [], _ => .lt
    | _, [] => .gt
    | a, b =>
      let stemA := versionStem a
      let stemB := versionStem b
      if stemA == stemB || stemA.isEmpty || stemB.isEmpty then compareVersionParts a b
      else (compareVersionParts stemA stemB).then (compareVersionParts a b)

/-! ## Keys -/

/-- How parts of lines are compared. -/
structure Manner where
  blanksStart : Bool := false
  blanksEnd : Bool := false
  dictionary : Bool := false
  fold : Bool := false
  printable : Bool := false
  /-- The letters of the kinds of values, of which there should be one. -/
  kinds : List Char := []
  reverse : Bool := false
  deriving DecidableEq, Repr

/-- The part of a line by which it is sorted. -/
structure Key where
  /-- Fields and characters in front of the part. -/
  start : Nat × Nat := (0, 0)
  /-- The last field of the part and the character in it, which is its end when it is zero; nothing where the
  part goes to the end of the line. -/
  stop : Option (Nat × Nat) := none
  manner : Manner := {}
  deriving Repr

namespace Key

/-- A line behind so many fields. -/
def skipFields (tab : Option Char) : Nat → Raw → Raw
  | 0, s => s
  | n + 1, s => match tab with
    | some t => skipFields tab n ((s.dropWhile (· != t)).drop 1)
    | none => skipFields tab n ((s.dropWhile isLineBlank).dropWhile (!isLineBlank ·))

/-- A line behind its last field that counts, of so many. -/
def skipLast (tab : Option Char) (more : Bool) : Nat → Raw → Raw
  | 0, s => s
  | n + 1, s => match tab with
    | some t =>
      let rest := s.dropWhile (· != t)
      skipLast tab more n (if n != 0 || more then rest.drop 1 else rest)
    | none => skipLast tab more n ((s.dropWhile isLineBlank).dropWhile (!isLineBlank ·))

/-- The part of a line. -/
def part (k : Key) (tab : Option Char) (line : Raw) : Raw :=
  let begin_ := skipFields tab k.start.1 line
  let begin_ := if k.manner.blanksStart then begin_.dropWhile isLineBlank else begin_
  let begin_ := begin_.drop k.start.2
  match k.stop with
  | none => begin_
  | some (fields, chars) =>
    let rest := skipLast tab (chars != 0) (if chars == 0 then fields + 1 else fields) line
    let rest := if chars != 0 && k.manner.blanksEnd then rest.dropWhile isLineBlank else rest
    let rest := rest.drop chars
    begin_.take (begin_.length - rest.length)

/-- Which of two parts comes first. -/
def compareParts (v : Manner) (a b : Raw) : Ordering :=
  let result : Ordering := match v.kinds.head? with
    | some 'n' => compareNumbers a b
    | some 'g' => compareFloats a b
    | some 'h' => compareUnits a b
    | some 'M' => compare (monthRank a) (monthRank b)
    | some 'V' => compareVersions a b
    | _ =>
      let clean (s : Raw) : Raw :=
        let s := if v.dictionary then s.filter fun c => c.isAlphanum || isLineBlank c
          else if v.printable then s.filter fun c => 32 ≤ c.toNat && c.toNat < 127 else s
        if v.fold then s.map Char.toUpper else s
      compareBytes (clean a) (clean b)
  if v.reverse then result.swap else result

end Key

/-- How lines are sorted. -/
structure Sorting where
  manner : Manner := {}
  keys : List Key := []
  tab : Option Char := none
  unique : Bool := false
  stable : Bool := false
  check : Option Bool := none
  merge : Bool := false
  output : Option Raw := none
  ending : Char := '\n'

namespace Sorting

/-- The letters that tell how parts are compared, at the start of a text, and what follows them. -/
def letters (atStart atEnd : Bool) : Manner → Raw → Manner × Raw
  | v, c :: r => match c with
    | 'b' => letters atStart atEnd { v with
        blanksStart := v.blanksStart || atStart, blanksEnd := v.blanksEnd || atEnd } r
    | 'd' => letters atStart atEnd { v with dictionary := true } r
    | 'f' => letters atStart atEnd { v with fold := true } r
    | 'i' => letters atStart atEnd { v with printable := true } r
    | 'r' => letters atStart atEnd { v with reverse := true } r
    | c =>
      if "gnhMRV".toList.contains c then letters atStart atEnd { v with kinds := (c :: v.kinds).eraseDups } r
      else (v, c :: r)
  | v, [] => (v, [])

/-- The end of the tool because of a part that cannot be understood. -/
def badKey {α : Type} (spec : Raw) (why : String) : Act α :=
  giveUp 2 (raw why ++ raw ": invalid field specification " ++ Quoted.between spec)

/-- A number at the start of a text. -/
def count (s : Raw) (why : String) : Act (Nat × Raw) := do
  let digits := (if s.head? == some '+' then s.drop 1 else s).takeWhile Char.isDigit
  match Raw.nat? digits with
  | some n => return (n, (if s.head? == some '+' then s.drop 1 else s).drop digits.length)
  | none => giveUp 2 (raw why ++ raw ": invalid count at start of " ++ Quoted.between s)

/-- The part of lines that a text tells. -/
def readKey (spec : Raw) : Act Key := do
  let (field, rest) ← count spec "invalid number at field start"
  if field == 0 then badKey spec "field number is zero"
  let (char, rest) ← match rest with
    | '.' :: r => do
      let (n, r) ← count r "invalid number after '.'"
      if n == 0 then badKey spec "character offset is zero"
      pure (n - 1, r)
    | r => pure (0, r)
  let (v, rest) := letters true false {} rest
  match rest with
  | [] => return { start := (field - 1, char), manner := v }
  | ',' :: r =>
    let (last, r) ← count r "invalid number after ','"
    if last == 0 then badKey spec "field number is zero"
    let (lastChar, r) ← match r with
      | '.' :: r => count r "invalid number after '.'"
      | r => pure (0, r)
    let (v, r) := letters false true v r
    if !r.isEmpty then badKey spec "stray character in field spec"
    return { start := (field - 1, char), stop := some (last - 1, lastChar), manner := v }
  | _ => badKey spec "stray character in field spec"

/-- The parts by which lines are compared, where those that say nothing of their own are compared like whole
lines would be. -/
def allKeys (v : Sorting) : List Key :=
  if v.keys.isEmpty then (if { v.manner with reverse := false } == ({} : Manner) then [] else [{ manner :=
  v.manner }]) else v.keys.map fun k => if k.manner == ({} : Manner) then { k with manner := v.manner } else k

/-- Which of two lines comes first by their parts. -/
def compareKeys (tab : Option Char) : List Key → Raw → Raw → Ordering
  | [], _, _ => .eq
  | k :: rest, a, b =>
    match Key.compareParts k.manner (k.part tab a) (k.part tab b) with
    | .eq => compareKeys tab rest a b
    | o => o

/-- Which of two lines comes first. -/
def compareLines (v : Sorting) (keys : List Key) (a b : Raw) : Ordering :=
  match compareKeys v.tab keys a b with
  | .eq =>
    if !keys.isEmpty && (v.unique || v.stable) then .eq
    else
      let result := compareBytes a b
      if v.manner.reverse then result.swap else result
  | o => o

/-- Lines without those that are equal to the one before. -/
def withoutEqual (v : Sorting) (keys : List Key) : List Raw → List Raw
  | a :: b :: rest =>
    if v.compareLines keys a b == .eq then withoutEqual v keys (a :: rest)
    else a :: withoutEqual v keys (b :: rest)
  | lines => lines
termination_by lines => lines.length

/-- Lists that are merged: the first of the least heads comes first. The number bounds the lines. -/
def mergeLists (v : Sorting) (keys : List Key) : Nat → List (List Raw) → List Raw
  | 0, lists => lists.flatten
  | n + 1, lists =>
    let best := lists.foldl (fun best list => match best, list.head? with
      | none, head => head
      | some b, some l => if v.compareLines keys l b == .lt then some l else some b
      | some b, none => some b) none
    match best with
    | none => []
    | some line =>
      let before := lists.takeWhile (·.head? != some line)
      match lists.drop before.length with
      | list :: after => line :: mergeLists v keys n (before ++ list.drop 1 :: after)
      | [] => []

/-- The first line that comes too early, with its number. -/
def disorder? (v : Sorting) (keys : List Key) : (number : Nat) → List Raw → Option (Nat × Raw)
  | n, a :: b :: rest =>
    match v.compareLines keys a b with
    | .gt => some (n + 1, b)
    | .eq => if v.unique then some (n + 1, b) else disorder? v keys (n + 1) (b :: rest)
    | .lt => disorder? v keys (n + 1) (b :: rest)
  | _, _ => none
termination_by _ lines => lines.length

end Sorting

/-- Writes a whole file, or the output. -/
def writeTo (output : Option Raw) (s : Raw) (failed : FileFault → Act Unit) : Act Unit := do
  match output with
  | none => say s
  | some path =>
    match ← openPath path .overwrite with
    | .ok f =>
      install 1000000 f
      let fault ← write 1000000 s
      close 1000000
      match fault with
      | some f => failed f
      | none => return
    | .error f => failed f

/-- Sorts lines. -/
def sort : Tool := fun args => do
  let (v, files) ← options ("b/ignore-leading-blanks d/dictionary-order f/ignore-case " ++
      "g/general-numeric-sort i/ignore-nonprinting k/key= h/human-numeric-sort m/merge M/month-sort " ++
      "n/numeric-sort R/random-sort V/version-sort r/reverse s/stable o/output= S/buffer-size= " ++
      "t/field-separator= T/temporary-directory= u/unique z/zero-terminated c C /check% /sort= " ++
      "/parallel= /batch-size= /debug /compress-program= /random-source= /files0-from= y%")
      args ({} : Sorting) (fun v key value => do
    let ordered (s : Raw) : Sorting := { v with manner := (Sorting.letters true true v.manner s).1 }
    match key with
    | "k" => return { v with keys := v.keys ++ [← Sorting.readKey value] }
    | "m" => return { v with merge := true }
    | "s" => return { v with stable := true }
    | "u" => return { v with unique := true }
    | "z" => return { v with ending := '\x00' }
    | "c" => return { v with check := some true }
    | "C" => return { v with check := some false }
    | "check" =>
      return { v with check := some !([raw "quiet", raw "silent"].contains value) }
    | "o" =>
      if v.output.isSome && v.output != some value then giveUp 2 (raw "multiple output files specified")
      else return { v with output := some value }
    | "t" =>
      let tab : Char ← match value with
        | [] => giveUp 2 (raw "empty tab")
        | [c] => pure c
        | ['\\', '0'] => pure '\x00'
        | s => giveUp 2 (raw "multi-character tab " ++ Quoted.between s)
      if v.tab.any (· != tab) then giveUp 2 (raw "incompatible tabs")
      else return { v with tab := some tab }
    | "sort" =>
      let names := [("general-numeric", 'g'), ("human-numeric", 'h'), ("month", 'M'), ("numeric", 'n'),
        ("random", 'R'), ("version", 'V')]
      match names.find? fun (n, _) => value.isPrefixOf n.toList with
      | some (_, c) => return ordered [c]
      | none =>
        misuse 1 (raw "invalid argument " ++ Quoted.between value ++ raw " for " ++
          Quoted.between (raw "--sort") ++ raw "\nValid arguments are:\n" ++
          joinWith ['\n'] (names.map fun (n, _) => raw "  - " ++ Quoted.between n.toList))
    | key =>
      if key.length == 1 then return ordered key.toList else return v) 2
  let keys := v.allKeys
  for k in keys do
    let m := k.manner
    let plain := m.dictionary || m.printable
    let versions := m.kinds.contains 'V' || m.kinds.contains 'R' || plain
    let numbers := m.kinds.countP fun c => "gnhM".toList.contains c
    if 1 < numbers + (if versions then 1 else 0) then
      let chosen (c : Char) : Bool :=
        m.kinds.contains c || (c == 'd' && m.dictionary) || (c == 'i' && m.printable && !m.dictionary)
      giveUp 2 (raw "options '-" ++ "dghiMnRV".toList.filter chosen ++ raw "' are incompatible")
  if v.check.isSome then
    if let extra :: _ := files.drop 1 then
      giveUp 2 (raw "extra operand " ++ Quoted.always extra ++ raw " not allowed with -" ++
        (if v.check == some true then ['c'] else ['C']))
  let mut contents : List (List Raw) := []
  let operands := if files.isEmpty then [['-']] else files
  for file in operands do
    match ← content file with
    | .ok s => contents := contents ++ [recordsOf v.ending s]
    | .error f =>
      let what := if f == .isDir then "read failed" else "cannot read"
      giveUp 2 (raw what ++ raw ": " ++ Quoted.ifNeeded file ++ raw ": " ++ f.message)
  match v.check with
  | some loud =>
    match v.disorder? keys 1 contents.flatten with
    | none => return 0
    | some (n, line) =>
      if loud then
        grumble (Quoted.ifNeeded (operands.headD ['-']) ++ [':'] ++ ofNat n ++ raw ": disorder: " ++ line)
      return 1
  | none =>
    let lines := contents.flatten
    let sorted :=
      if v.merge then v.mergeLists keys lines.length contents
      else lines.mergeSort fun a b => v.compareLines keys a b != .gt
    let sorted := if v.unique then v.withoutEqual keys sorted else sorted
    writeTo v.output (sorted.flatMap (· ++ [v.ending])) fun f =>
      giveUp 2 (raw "open failed: " ++ Quoted.ifNeeded (v.output.getD []) ++ raw ": " ++ f.message)
    return 0

end DocAudit.Shell.Tool
