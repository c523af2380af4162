import DocAudit.Shell.Number
import DocAudit.Shell.Tool.Selecting

/-!
# Bytes written out

## Contents

* `Form`, `Dump`, `od`: bytes as numbers and letters
* `Alphabet`, `base64`, `base32`: bytes in an alphabet of few characters
-/

namespace DocAudit.Shell.Tool

open Text Act

/-! ## Forms -/

/-- What a field shows. -/
inductive Form
  /-- Names of control characters; the highest bit is left out. -/
  | named
  /-- Characters and escapes. -/
  | escaped
  /-- Numbers of so many bytes. -/
  | number (base : Nat) (signed : Bool) (size : Nat)
  deriving DecidableEq, Repr

namespace Form

/-- The names of control characters. -/
def names : List Raw :=
  (splitAt ' ' ("nul soh stx etx eot enq ack bel bs ht nl vt ff cr so si dle dc1 dc2 dc3 dc4 nak syn etb " ++
    "can em sub esc fs gs rs us sp").toList)

/-- The bytes of a field. -/
def size : Form → Nat
  | .number _ _ n => n
  | _ => 1

/-- The number of characters that the longest field needs. -/
def width : Form → Nat
  | .number base signed n =>
    (Nat.toDigits base (Nat.pow 256 n / (if signed then 2 else 1) - 1)).length + (if signed then 1 else 0)
  | _ => 3

/-- The number of bytes. -/
def numberOf (greatFirst : Bool) (bytes : Raw) : Nat :=
  (if greatFirst then bytes else bytes.reverse).foldl (fun n c => 256 * n + c.toNat) 0

/-- The text of a field. -/
def field (greatFirst : Bool) (bytes : Raw) : Form → Raw
  | .named =>
    match bytes.head? with
    | none => []
    | some c =>
      let n := c.toNat % 128
      if n == 127 then raw "del" else (names[n]?).getD [Char.ofNat n]
  | .escaped =>
    match bytes.head? with
    | none => []
    | some c =>
      let n := c.toNat
      if n == 0 then raw "\\0"
      else match Quoted.letter? c with
        | some l => ['\\', l]
        | none => if 32 ≤ n && n < 127 then [c] else (Quoted.octal c).drop 1
  | .number base signed size =>
    let n := numberOf greatFirst bytes
    let limit := Nat.pow 256 size
    if signed then
      if limit ≤ 2 * n then '-' :: ofNat (limit - n) else ofNat n
    else
      let digits := Nat.toDigits base n
      if base == 10 then digits else Raw.padLeft '0' ((Nat.toDigits base (limit - 1)).length) digits

end Form

/-- A row of fields, and whether the characters stand behind it. -/
structure Row where
  form : Form
  shown : Bool := false
  deriving DecidableEq, Repr

namespace Row

/-- The size that follows a letter: a letter of its own or digits, and what is left. -/
def sizeOf (s : Raw) : Except Nat (Nat × Raw) :=
  match s with
  | 'C' :: rest => .ok (1, rest)
  | 'S' :: rest => .ok (2, rest)
  | 'I' :: rest => .ok (4, rest)
  | 'L' :: rest => .ok (8, rest)
  | s =>
    let digits := s.takeWhile Char.isDigit
    if digits.isEmpty then .ok (4, s)
    else
      let n := (Raw.nat? digits).getD 0
      if [1, 2, 4, 8].contains n then .ok (n, s.drop digits.length) else .error n

/-- The rows that a text of letters and sizes asks for. The number bounds the text. -/
def readAll (whole : Raw) : Nat → Raw → Except Raw (List Row)
  | 0, _ => .ok []
  | _ + 1, [] => .ok []
  | fuel + 1, c :: rest => do
    let number (base : Nat) (signed : Bool) : Except Raw (Form × Raw) :=
      match sizeOf rest with
      | .ok (size, rest) => .ok (.number base signed size, rest)
      | .error n => .error (raw "invalid type string " ++ Quoted.between whole ++
          raw ";\nthis system doesn't provide a " ++ ofNat n ++ raw "-byte integral type")
    let (form, rest) ← match c with
      | 'a' => .ok (Form.named, rest)
      | 'c' => .ok (Form.escaped, rest)
      | 'd' => number 10 true
      | 'u' => number 10 false
      | 'o' => number 8 false
      | 'x' => number 16 false
      | c => .error (raw "invalid character '" ++ [c] ++ raw "' in type string " ++ Quoted.between whole)
    let (shown, rest) := match rest with
      | 'z' :: rest => (true, rest)
      | rest => (false, rest)
    return { form, shown } :: (← readAll whole fuel rest)

end Row

/-! ## Dumps -/

/-- How bytes are written out. -/
structure Dump where
  rows : List Row := []
  /-- The base of the addresses; without one there are none. -/
  radix : Option Nat := some 8
  skipped : Nat := 0
  limit : Option Nat := none
  width : Option Nat := none
  verbose : Bool := false
  greatFirst : Bool := false
  deriving Repr

namespace Dump

/-- The address of a byte. -/
def address (v : Dump) (n : Nat) : Raw :=
  match v.radix with
  | some base => Raw.padLeft '0' (if base == 16 then 6 else 7) (Nat.toDigits base n)
  | none => []

/-- The fields of a row, each of which is put to the right in its part of the width. -/
def fields (v : Dump) (form : Form) (block pad : Nat) (bytes : Raw) : Raw :=
  let count := block / form.size
  let filled := (bytes.length + form.size - 1) / form.size
  let bytes := bytes ++ List.replicate (filled * form.size - bytes.length) '\x00'
  (List.range filled).flatMap fun i =>
    let room := form.width + 1 + pad * (count - i) / count - pad * (count - i - 1) / count
    Raw.padLeft ' ' room (form.field v.greatFirst ((bytes.drop (i * form.size)).take form.size))

/-- The rows of a block of bytes. -/
def block (v : Dump) (size position : Nat) (bytes : Raw) : Raw :=
  let widthOf (r : Row) : Nat := (r.form.width + 1) * (size / r.form.size)
  let most := (v.rows.map widthOf).foldl max 0
  let label := v.address position
  (v.rows.zipIdx.flatMap fun (r, i) =>
    let shown := v.fields r.form size (most - widthOf r) bytes
    let tail := if r.shown then List.replicate (most - shown.length) ' ' ++ raw "  >" ++
        bytes.map (fun c => if 32 ≤ c.toNat && c.toNat < 127 then c else '.') ++ ['<']
      else []
    (if i == 0 then label else List.replicate label.length ' ') ++ shown ++ tail ++ ['\n'])

/-- All blocks; a mark stands for those that are equal to the one before. The number bounds the bytes. -/
def blocks (v : Dump) (size : Nat) :
    Nat → (position : Nat) → (before : Option Raw) → (marked : Bool) → Raw → Raw
  | 0, _, _, _, _ => []
  | fuel + 1, position, before, marked, bytes =>
    if bytes.isEmpty then (if v.radix.isSome then v.address position ++ ['\n'] else [])
    else
      let now := bytes.take size
      let rest := bytes.drop size
      if !v.verbose && before == some now && now.length == size then
        (if marked then [] else raw "*\n") ++ blocks v size fuel (position + size) before true rest
      else v.block size position now ++ blocks v size fuel (position + now.length) (some now) false rest

end Dump

/-- An amount in any base, as a constant of a program writes it. -/
def positionOf (letter : Char) (s : Raw) : Act Nat := do
  let bad {α : Type} : Act α := giveUp 1 (raw "invalid -" ++ [letter] ++ raw " argument '" ++ s ++ raw "'")
  match s with
  | '0' :: x :: digits =>
    let base := if x == 'x' || x == 'X' then 16 else 8
    let digits := if base == 16 then digits else x :: digits
    let value (c : Char) : Nat := if c.isDigit then c.toNat - 48 else c.toLower.toNat - 87
    let isDigitOf (c : Char) : Bool := (c.isDigit || (c.isAlpha && c.toLower ≤ 'f')) && value c < base
    if digits.isEmpty || !digits.all isDigitOf then bad
    return digits.foldl (fun n c => base * n + value c) 0
  | s =>
    match Amount.read s with
    | .ok n => return n
    | .error _ => bad

/-- The rows of an option's letter. -/
def rowOfLetter? (key : String) : Option Row :=
  let number (base size : Nat) (signed : Bool := false) : Option Row :=
    some { form := .number base signed size }
  match key with
  | "a" => some { form := .named }
  | "b" => number 8 1
  | "c" => some { form := .escaped }
  | "d" => number 10 2
  | "h" => number 16 2
  | "x" => number 16 2
  | "i" => number 10 4 true
  | "l" => number 10 8 true
  | "o" => number 8 2
  | "B" => number 8 2
  | "s" => number 10 2 true
  | "H" => number 16 4
  | "X" => number 16 4
  | "D" => number 10 4
  | "I" => number 10 8 true
  | "L" => number 10 8 true
  | "O" => number 8 4
  | _ => none

/-- Writes out bytes. -/
def od : Tool := fun args => do
  let (v, files) ← options
    ("A/address-radix= /endian= N/read-bytes= j/skip-bytes= v/output-duplicates w/width% t/format= a b c " ++
      "d h x i l o B s H X D I L O") args ({} : Dump) fun v key value => do
      match key with
      | "A" =>
        match value.head? with
        | some 'd' => return { v with radix := some 10 }
        | some 'o' => return { v with radix := some 8 }
        | some 'x' => return { v with radix := some 16 }
        | some 'n' => return { v with radix := none }
        | c => giveUp 1 (raw "invalid output address radix '" ++ c.toList ++
            raw "'; it must be one character from [doxn]")
      | "endian" => return { v with greatFirst := value.head? == some 'b' }
      | "N" =>
        let n ← positionOf 'N' value
        return { v with limit := some n }
      | "j" =>
        let n ← positionOf 'j' value
        return { v with skipped := n }
      | "v" => return { v with verbose := true }
      | "w" =>
        if value.isEmpty then return { v with width := some 32 }
        let n ← positionOf 'w' value
        return { v with width := some n }
      | "t" =>
        match Row.readAll value (value.length + 1) value with
        | .ok rows => return { v with rows := v.rows ++ rows }
        | .error s => giveUp 1 s
      | key => return { v with rows := v.rows ++ (rowOfLetter? key).toList }
  let v := if v.rows.isEmpty then { v with rows := [{ form := .number 8 false 2 }] } else v
  let least := (v.rows.map (·.form.size)).foldl max 1
  let mut status := 0
  let mut found := false
  let mut bytes : Raw := []
  for file in (if files.isEmpty then [['-']] else files) do
    if found && v.limit.any fun n => v.skipped + n ≤ bytes.length then continue
    match ← content file with
    | .ok s =>
      found := true
      bytes := bytes ++ s
    | .error f =>
      fileTrouble file f
      status := 1
      if f == .isDir then found := true
  if !found then return status
  if bytes.length < v.skipped then giveUp 1 (raw "cannot skip past end of combined input")
  bytes := bytes.drop v.skipped
  if let some n := v.limit then bytes := bytes.take n
  let size ← match v.width with
    | some n =>
      if n == 0 then
        receive 6
        pure least
      else if n % least == 0 then pure n
      else
        grumble (raw "warning: invalid width " ++ ofNat n ++ raw "; using " ++ ofNat least ++ raw " instead")
        pure least
    | none => pure 16
  say (v.blocks size (bytes.length + 2) v.skipped none false bytes)
  return status

/-! ## Alphabets -/

/-- How bytes are written with few characters. -/
structure Alphabet where
  chars : Raw
  /-- The bits of a character. -/
  bits : Nat
  /-- The characters that stand for a whole number of bytes. -/
  group : Nat

namespace Alphabet

/-- Capital letters, small letters, digits and two more characters. -/
def ofSixtyFour : Alphabet :=
  ⟨"ABCDEFGHIJKLMNOPQRSTUVWXYZabcdefghijklmnopqrstuvwxyz0123456789+/".toList, 6, 4⟩

/-- Capital letters and a few digits. -/
def ofThirtyTwo : Alphabet := ⟨"ABCDEFGHIJKLMNOPQRSTUVWXYZ234567".toList, 5, 8⟩

/-- The bytes of a whole group. -/
def groupBytes (a : Alphabet) : Nat := a.group * a.bits / 8

/-- The bits of a number, the first one of which counts most. -/
def bitsOf (count n : Nat) : List Bool := (List.range count).reverse.map fun i => n.testBit i

/-- The number of bits. -/
def ofBits (bs : List Bool) : Nat := bs.foldl (fun n b => 2 * n + (if b then 1 else 0)) 0

/-- Lists of so many members, the last of which may be shorter. The number bounds the list. -/
def groups {α : Type} (size : Nat) : Nat → List α → List (List α)
  | 0, _ => []
  | n + 1, xs => if xs.isEmpty then [] else xs.take size :: groups size n (xs.drop size)

/-- A group of bytes as characters. -/
def encodeGroup (a : Alphabet) (bytes : Raw) : Raw :=
  let bits := bytes.flatMap fun c => bitsOf 8 c.toNat
  let count := (bits.length + a.bits - 1) / a.bits
  let bits := bits ++ List.replicate (count * a.bits - bits.length) false
  let chars := (groups a.bits (count + 1) bits).map fun b => (a.chars[ofBits b]?).getD '='
  chars ++ List.replicate (a.group - count) '='

/-- Bytes as characters. -/
def encode (a : Alphabet) (bytes : Raw) : Raw :=
  (groups a.groupBytes (bytes.length + 1) bytes).flatMap a.encodeGroup

/-- The number of characters before the marks that fill a group. Other numbers are not possible. -/
def counts (a : Alphabet) : List Nat :=
  (List.range a.groupBytes).map fun n => (8 * (n + 1) + a.bits - 1) / a.bits

/-- The bytes of a group of characters, and whether the group is sound. -/
def decodeGroup (a : Alphabet) (s : Raw) : Raw × Bool :=
  let digits := (s.takeWhile (a.chars.contains ·)).filterMap (a.chars.idxOf? ·)
  let filling := s.drop digits.length
  let sound := s.length == a.group && a.counts.contains digits.length && filling.all (· == '=')
  let bits := digits.flatMap (bitsOf a.bits)
  let known := (a.counts.filter (· ≤ digits.length)).length
  let bytes := (groups 8 known bits).map fun b => Char.ofNat (ofBits b)
  if a.group == 8 && s.length < 8 then ([], false) else (bytes, sound)

/-- The bytes of groups up to the first one that is not sound, and whether all are. -/
def decodeGroups (a : Alphabet) : List Raw → Raw × Bool
  | [] => ([], true)
  | g :: rest =>
    match a.decodeGroup g with
    | (bytes, true) =>
      let (more, sound) := decodeGroups a rest
      (bytes ++ more, sound)
    | (bytes, false) => (bytes, false)

/-- The bytes that characters stand for, and whether all of them could be read. -/
def decode (a : Alphabet) (lenient : Bool) (s : Raw) : Raw × Bool :=
  let s := s.filter fun c => c != '\n' && (!lenient || c == '=' || a.chars.contains c)
  a.decodeGroups (groups a.group (s.length + 1) s)

end Alphabet

/-- Lines of so many characters. The number bounds them. -/
def wrapped (width : Nat) : Nat → Raw → Raw
  | 0, _ => []
  | n + 1, s => if s.isEmpty then [] else s.take width ++ ['\n'] ++ wrapped width n (s.drop width)

/-- Writes bytes with an alphabet, or reads them again. -/
def spelling (a : Alphabet) : Tool := fun args => do
  let ((decodes, lenient, width), files) ← options "d/decode i/ignore-garbage w/wrap=" args (false, false, 76)
    fun (decodes, lenient, width) key value => do
      match key with
      | "d" => return (true, lenient, width)
      | "i" => return (decodes, true, width)
      | _ =>
        match Raw.nat? value with
        | some n => return (decodes, lenient, n)
        | none => giveUp 1 (raw "invalid wrap size: " ++ Quoted.between value)
  if let some extra := files[1]? then extraOperand extra
  let file := files.head?.getD ['-']
  match ← content file with
  | .error .isDir => giveUp 1 (raw "read error: " ++ FileFault.isDir.message)
  | .error f =>
    fileTrouble file f
    return 1
  | .ok s =>
    if decodes then
      let (bytes, sound) := a.decode lenient s
      say bytes
      if !sound then giveUp 1 (raw "invalid input")
    else
      let chars := a.encode s
      say (if width == 0 then chars else wrapped width (chars.length + 1) chars)
    return 0

/-- Bytes in sixty-four characters. -/
def base64 : Tool := spelling .ofSixtyFour

/-- Bytes in thirty-two characters. -/
def base32 : Tool := spelling .ofThirtyTwo

end DocAudit.Shell.Tool
