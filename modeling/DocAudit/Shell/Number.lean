import DocAudit.Shell.Raw

/-!
# Numbers in raw text

Whole numbers at the start of a text: blanks, a sign, and digits, of which the base may be told by a mark in
front of them. Numbers have 64 bits. Tools also take amounts such as `10`, `4k` or `2MB` as arguments.

## Contents

* `digit?`, `Leading`, `leading?`: the number at the start of a text
* `wrap`: a number within 64 bits
* `number?`: a whole text as a number
* `Amount.read`: an amount with a letter that multiplies it
-/

namespace DocAudit.Shell.Number

open Text

/-- The value of a digit in the greatest base. -/
def digit? (c : Char) : Option Nat :=
  if c.isDigit then some (c.toNat - 48)
  else if c.isAlpha then some (c.toLower.toNat - 87)
  else none

/-- A number at the start of a text. -/
structure Leading where
  value : Int
  /-- The number has too many bits, and the value is the nearest one that has not. -/
  tooGreat : Bool
  rest : Raw
  deriving DecidableEq, Repr

/-- The digits at the start of a text. -/
def digits (base : Nat) (s : Raw) : List Nat × Raw :=
  let good (c : Char) : Bool := (digit? c).any (· < base)
  ((s.takeWhile good).filterMap digit?, s.dropWhile good)

/-- The greatest number. -/
def greatest : Int := 9223372036854775807

/-- The least number. -/
def least : Int := -9223372036854775808

/-- The number at the start of a text; nothing where there are no digits. Base 0 stands for the one that
the digits tell: 16 after `0x`, 8 after `0`. -/
def leading? (base : Nat) (s : Raw) : Option Leading :=
  let s := s.dropWhile Raw.isSpace
  let (negative, s) := match s with
    | '-' :: r => (true, r)
    | '+' :: r => (false, r)
    | r => (false, r)
  let isHex (r : Raw) : Bool := r.head?.any fun c => (digit? c).any (· < 16)
  let (base, s) := match base, s with
    | 0, '0' :: 'x' :: r => if isHex r then (16, r) else (8, s)
    | 0, '0' :: 'X' :: r => if isHex r then (16, r) else (8, s)
    | 16, '0' :: 'x' :: r => if isHex r then (16, r) else (16, s)
    | 16, '0' :: 'X' :: r => if isHex r then (16, r) else (16, s)
    | 0, '0' :: _ => (8, s)
    | 0, _ => (10, s)
    | b, _ => (b, s)
  match digits base s with
  | ([], _) => none
  | (ds, rest) =>
    let n : Int := (ds.foldl (fun n d => base * n + d) 0 : Nat)
    let n := if negative then -n else n
    if n < least then some { value := least, tooGreat := true, rest }
    else if greatest < n then some { value := greatest, tooGreat := true, rest }
    else some { value := n, tooGreat := false, rest }

/-- A whole text as a number; blanks may stand around it. -/
def number? (base : Nat) (s : Raw) : Option Int := do
  let l ← leading? base s
  if l.tooGreat || !(l.rest.dropWhile Raw.isSpace).isEmpty then none else return l.value

/-- A number within 64 bits. -/
def wrap (n : Int) : Int := Int.bmod n (Nat.pow 2 64)

/-- A number as 64 bits. -/
def bits (n : Int) : Nat := (n % Nat.pow 2 64).toNat

end DocAudit.Shell.Number

/-! ## Amounts -/

namespace DocAudit.Shell.Amount

open Text

/-- Why a text is no amount. -/
inductive Fault
  | malformed
  | tooGreat
  deriving DecidableEq, Repr

/-- The greatest amount. -/
def greatest : Nat := 18446744073709551615

/-- The letters of powers of 1000 or 1024. -/
def letters : Raw := "KMGTPEZYRQ".toList

/-- What a letter at the end of an amount multiplies it with. -/
def factor? (suffix : Raw) : Option Nat :=
  let power (base : Nat) (c : Char) : Option Nat :=
    (letters.idxOf? (if c == 'k' then 'K' else if c == 'm' then 'M' else c)).map fun i => Nat.pow base (i + 1)
  match suffix with
  | [] => some 1
  | ['b'] => some 512
  | [c] => power 1024 c
  | [c, 'B'] => power 1000 c
  | [c, 'i', 'B'] => power 1024 c
  | _ => none

/-- An amount; without digits a letter stands for one of its own. -/
def read (s : Raw) : Except Fault Nat :=
  let s := s.dropWhile Raw.isSpace
  let s := if s.head? == some '+' then s.drop 1 else s
  let digits := s.takeWhile Char.isDigit
  let suffix := s.drop digits.length
  if s.isEmpty then .error .malformed
  else match factor? suffix with
    | some factor =>
      let n := if digits.isEmpty then 1 else (Raw.nat? digits).getD 0
      if greatest < n * factor then .error .tooGreat else .ok (n * factor)
    | none => .error .malformed

end DocAudit.Shell.Amount
