import DocAudit.Shell.Raw

/-!
# Digests

Short numbers that stand for long texts. Words are natural numbers below a power of two.

## Contents

* `Digest.md5`, `Digest.sha1`, `Digest.sha2`: digests of blocks
* `Digest.crc`, `Digest.rotatingSum`, `Digest.plainSum`: sums
-/

namespace DocAudit.Shell.Digest

open Text

/-! ## Words -/

/-- A word of so many bits turned to the left. -/
def rotateLeft (width x n : Nat) : Nat :=
  ((x <<< n) % Nat.pow 2 width) ||| (x >>> (width - n))

/-- A word of so many bits turned to the right. -/
def rotateRight (width x n : Nat) : Nat := rotateLeft width x (width - n)

/-- A word with all bits changed. -/
def complement (width x : Nat) : Nat := Nat.pow 2 width - 1 - x

/-- The bytes of a number, the greatest one first. -/
def bytesOf (count x : Nat) : List Nat := (List.range count).reverse.map fun i => (x >>> (8 * i)) % 256

/-- The number of bytes, of which the greatest one comes first. -/
def ofBytes (bs : List Nat) : Nat := bs.foldl (fun n b => 256 * n + b) 0

/-- Parts of a list, each with so many members. The first number bounds them. -/
def blocks (size : Nat) : Nat → List Nat → List (List Nat)
  | 0, _ => []
  | n + 1, xs => if xs.isEmpty then [] else xs.take size :: blocks size n (xs.drop size)

/-- A message with a bit behind it, zeros and its length, so that it is made of whole blocks. -/
def padded (block lengthBytes : Nat) (lowFirst : Bool) (s : List Nat) : List Nat :=
  let zeros := (2 * block - 1 - lengthBytes - s.length % block) % block
  let length := bytesOf lengthBytes (8 * s.length)
  s ++ 128 :: List.replicate zeros 0 ++ (if lowFirst then length.reverse else length)

/-- The blocks of a padded message as words. -/
def words (block word lengthBytes : Nat) (lowFirst : Bool) (s : List Nat) : List (Array Nat) :=
  let all := padded block lengthBytes lowFirst s
  (blocks block (all.length + 1) all).map fun b =>
    ((blocks word (block + 1) b).map fun w => ofBytes (if lowFirst then w.reverse else w)).toArray

/-- A word of a block. -/
def at_ (ws : Array Nat) (i : Nat) : Nat := (ws[i]?).getD 0

/-- Bytes in hexadecimal digits. -/
def hexadecimal (bs : List Nat) : Raw := bs.flatMap fun b => Raw.padLeft '0' 2 (Nat.toDigits 16 b)

/-! ## Roots -/

/-- The greatest number between two others of which a power is not above a bound. The first number bounds the
search. -/
def rootBetween (power bound : Nat) : Nat → (low high : Nat) → Nat
  | 0, low, _ => low
  | n + 1, low, high =>
    if high ≤ low + 1 then low
    else
      let mid := (low + high) / 2
      if Nat.pow mid power ≤ bound then rootBetween power bound n mid high
      else rootBetween power bound n low mid

/-- The first bits behind the point of a root of a number below 512. -/
def rootBits (power bits x : Nat) : Nat :=
  rootBetween power (x <<< (power * bits)) (bits + 16) 0 (512 <<< bits) % Nat.pow 2 bits

/-- The first primes, so many of them. -/
def primes (count : Nat) : List Nat :=
  ((List.range 500).filter fun n => 2 ≤ n && ((List.range n).drop 2).all fun d => n % d != 0).take count

/-! ## Digests of blocks -/

/-- The turns of the four rounds. -/
def md5Turns : List (List Nat) := [[7, 12, 17, 22], [5, 9, 14, 20], [4, 11, 16, 23], [6, 10, 15, 21]]

/-- The number that is added in a step: a part of the sine. -/
def md5Constant (i : Nat) : Nat := ((Float.sin (Float.ofNat (i + 1))).abs * 4294967296.0).floor.toUInt64.toNat

/-- The digest of bytes by steps that mix four words. -/
def md5 (s : List Nat) : List Nat :=
  let limit := 4294967296
  let start := (0x67452301, 0xefcdab89, 0x98badcfe, 0x10325476)
  let constants := ((List.range 64).map md5Constant).toArray
  let step (ws : Array Nat) (state : Nat × Nat × Nat × Nat) (i : Nat) : Nat × Nat × Nat × Nat :=
    let (a, b, c, d) := state
    let (f, k) : Nat × Nat :=
      if i < 16 then ((b &&& c) ||| (complement 32 b &&& d), i)
      else if i < 32 then ((d &&& b) ||| (complement 32 d &&& c), (5 * i + 1) % 16)
      else if i < 48 then ((b ^^^ c) ^^^ d, (3 * i + 5) % 16)
      else (c ^^^ (b ||| complement 32 d), (7 * i) % 16)
    let turn := ((md5Turns[i / 16]?).bind (·[i % 4]?)).getD 0
    let mixed := (a + f + at_ constants i + at_ ws k) % limit
    (d, (b + rotateLeft 32 mixed turn) % limit, b, c)
  let (a, b, c, d) := (words 64 4 8 true s).foldl (fun (a, b, c, d) ws =>
    let (a', b', c', d') := (List.range 64).foldl (step ws) (a, b, c, d)
    ((a + a') % limit, (b + b') % limit, (c + c') % limit, (d + d') % limit)) start
  [a, b, c, d].flatMap fun w => (bytesOf 4 w).reverse

/-- The digest of bytes by steps that mix five words. -/
def sha1 (s : List Nat) : List Nat :=
  let limit := 4294967296
  let extend (ws : Array Nat) : Array Nat := (List.range 64).foldl (fun ws i =>
    let t := i + 16
    let mixed := ((at_ ws (t - 3) ^^^ at_ ws (t - 8)) ^^^ at_ ws (t - 14)) ^^^ at_ ws (t - 16)
    ws.push (rotateLeft 32 mixed 1)) ws
  let step (ws : Array Nat) (state : List Nat) (i : Nat) : List Nat :=
    match state with
    | [a, b, c, d, e] =>
      let (f, k) : Nat × Nat :=
        if i < 20 then ((b &&& c) ||| (complement 32 b &&& d), 0x5a827999)
        else if i < 40 then ((b ^^^ c) ^^^ d, 0x6ed9eba1)
        else if i < 60 then (((b &&& c) ||| (b &&& d)) ||| (c &&& d), 0x8f1bbcdc)
        else ((b ^^^ c) ^^^ d, 0xca62c1d6)
      [(rotateLeft 32 a 5 + f + e + k + at_ ws i) % limit, a, rotateLeft 32 b 30, c, d]
    | state => state
  let final := (words 64 4 8 false s).foldl (fun state ws =>
    let ws := extend ws
    (state.zip ((List.range 80).foldl (step ws) state)).map fun (x, y) => (x + y) % limit)
    [0x67452301, 0xefcdab89, 0x98badcfe, 0x10325476, 0xc3d2e1f0]
  final.flatMap (bytesOf 4)

/-- A way of mixing eight words. -/
structure Sha2 where
  /-- The bits of a word. -/
  width : Nat
  rounds : Nat
  /-- How words are turned before they are joined: two of the state, two of the message, where the last one of
  each is moved. -/
  turns : List (List Nat)
  start : List Nat
  /-- The bytes of the digest. -/
  size : Nat

/-- The turns of words with 32 bits. -/
def turns32 : List (List Nat) := [[2, 13, 22], [6, 11, 25], [7, 18, 3], [17, 19, 10]]

/-- The turns of words with 64 bits. -/
def turns64 : List (List Nat) := [[28, 34, 39], [14, 18, 41], [1, 8, 7], [19, 61, 6]]

/-- A digest of 32 bytes. -/
def sha256 : Sha2 := ⟨32, 64, turns32, (primes 8).map (rootBits 2 32), 32⟩

/-- A digest of 28 bytes. -/
def sha224 : Sha2 := ⟨32, 64, turns32, ((primes 16).drop 8).map fun p => rootBits 2 64 p % 4294967296, 28⟩

/-- A digest of 64 bytes. -/
def sha512 : Sha2 := ⟨64, 80, turns64, (primes 8).map (rootBits 2 64), 64⟩

/-- A digest of 48 bytes. -/
def sha384 : Sha2 := ⟨64, 80, turns64, ((primes 16).drop 8).map (rootBits 2 64), 48⟩

/-- The digest of bytes by steps that mix eight words. -/
def sha2 (v : Sha2) (s : List Nat) : List Nat :=
  let limit := Nat.pow 2 v.width
  let turn (k i x : Nat) : Nat := rotateRight v.width x (((v.turns[k]?).bind (·[i]?)).getD 0)
  let move (k x : Nat) : Nat := x >>> (((v.turns[k]?).bind (·[2]?)).getD 0)
  let constants := ((primes v.rounds).map (rootBits 3 v.width)).toArray
  let extend (ws : Array Nat) : Array Nat := (List.range (v.rounds - 16)).foldl (fun ws i =>
    let t := i + 16
    let x := at_ ws (t - 15)
    let y := at_ ws (t - 2)
    let low := (turn 2 0 x ^^^ turn 2 1 x) ^^^ move 2 x
    let high := (turn 3 0 y ^^^ turn 3 1 y) ^^^ move 3 y
    ws.push ((at_ ws (t - 16) + low + at_ ws (t - 7) + high) % limit)) ws
  let step (ws : Array Nat) (state : List Nat) (i : Nat) : List Nat :=
    match state with
    | [a, b, c, d, e, f, g, h] =>
      let high := (turn 1 0 e ^^^ turn 1 1 e) ^^^ turn 1 2 e
      let choice := (e &&& f) ^^^ (complement v.width e &&& g)
      let first := h + high + choice + at_ constants i + at_ ws i
      let low := (turn 0 0 a ^^^ turn 0 1 a) ^^^ turn 0 2 a
      let majority := ((a &&& b) ^^^ (a &&& c)) ^^^ (b &&& c)
      [(first + low + majority) % limit, a, b, c, (d + first) % limit, e, f, g]
    | state => state
  let final := (words (2 * v.width) (v.width / 8) (v.width / 4) false s).foldl (fun state ws =>
    let ws := extend ws
    (state.zip ((List.range v.rounds).foldl (step ws) state)).map fun (x, y) => (x + y) % limit) v.start
  (final.flatMap (bytesOf (v.width / 8))).take v.size

/-! ## Sums -/

/-- One bit of a division of polynomials. -/
def crcBit (x : Nat) : Nat :=
  if x ≥ 2147483648 then ((2 * x) % 4294967296) ^^^ 0x04c11db7 else 2 * x

/-- One byte of it. -/
def crcByte (x b : Nat) : Nat := Nat.repeat crcBit 8 (x ^^^ (b <<< 24))

/-- The bytes of a length, the least one first, without zeros at the end. The first number bounds them. -/
def lengthBytes : Nat → Nat → List Nat
  | 0, _ => []
  | n + 1, x => if x == 0 then [] else x % 256 :: lengthBytes n (x / 256)

/-- What is left when bytes and their number are divided as a polynomial. -/
def crc (s : List Nat) : Nat := complement 32 ((s ++ lengthBytes 16 s.length).foldl crcByte 0)

/-- A sum that is turned before each byte. -/
def rotatingSum (s : List Nat) : Nat :=
  s.foldl (fun sum b => ((sum / 2 + (sum % 2) * 32768) + b) % 65536) 0

/-- The sum of bytes, whose halves are added. -/
def plainSum (s : List Nat) : Nat :=
  let sum := totalOf s % 4294967296
  let half := sum % 65536 + sum / 65536
  half % 65536 + half / 65536

end DocAudit.Shell.Digest
