import DocAudit.Text.Blank
import DocAudit.Text.Classes

/-!
# Reading numbers

Whole numbers and floating point numbers as people write them: with a sign, with low lines between
digits, with digits of any script, and with white space around them.

## Contents

* `digits?`: digits with single low lines between them
* `int?`: a whole number in a base up to sixteen, perhaps with the mark of the base
* `float?`: a floating point number, `inf`, `infinity` and `nan` included
-/

namespace DocAudit.Decimal

open Text

/-- The value of a digit in bases up to sixteen; letters are digits from ten on. -/
def baseDigit (c : Char) : Option Nat :=
  if 'a' ≤ c && c ≤ 'f' then some (c.toNat - 'a'.toNat + 10)
  else if 'A' ≤ c && c ≤ 'F' then some (c.toNat - 'A'.toNat + 10)
  else digitValue c

/-- The values of digits in a base. A low line may stand between two digits. -/
def digits? (base : Nat) : Text → Option (List Nat)
  | [] => none
  | [c] => do
    let d ← baseDigit c
    if d < base then some [d] else none
  | c :: '_' :: r => do
    let d ← baseDigit c
    if d < base then return d :: (← digits? base r) else none
  | c :: r => do
    let d ← baseDigit c
    if d < base then return d :: (← digits? base r) else none

/-- The number that digits stand for. -/
def ofDigits (base : Nat) (ds : List Nat) : Nat := ds.foldl (fun acc d => acc * base + d) 0

/-- A sign and what follows it. -/
def signed : Text → Bool × Text
  | '-' :: r => (true, r)
  | '+' :: r => (false, r)
  | s => (false, s)

/-- The text after the mark of a base, `0b`, `0o` or `0x`, and after one low line behind it. -/
def afterMark (base : Nat) (s : Text) : Text :=
  let marks : List Char := if base == 2 then ['b', 'B'] else if base == 8 then ['o', 'O']
    else if base == 16 then ['x', 'X'] else []
  match s with
  | '0' :: m :: r => if marks.contains m then (match r with | '_' :: r => r | _ => r) else s
  | _ => s

/-- The greatest number of decimal digits of a whole number that is read or written. -/
def digitLimit : Nat := 4300

/-- The whole number has more digits than are written. -/
def isOverlong (n : Int) : Bool := Nat.pow 10 digitLimit ≤ n.natAbs

/-- A whole number in the given base. Too many decimal digits are not read. -/
def int? (base : Nat) (s : Text) : Option Int := do
  let (negative, unsigned) := signed (strip s)
  let ds ← digits? base (afterMark base unsigned)
  if base == 10 && digitLimit < ds.length then none
  let n := ofDigits base ds
  return if negative then -(n : Int) else n

/-- The number `digits * 10 ^ e`, rounded to the nearest floating point number. -/
def toFloat (digits : Nat) (e : Int) : Float :=
  let size := ((Nat.toDigits 10 digits).length : Int) + e
  if digits == 0 || size < -400 then 0.0
  else if size > 400 then 1.0 / 0.0
  else Float.ofScientific digits (e < 0) e.natAbs

/-- An exponent after the digits of a number; zero where there is none. -/
def exponent? : Text → Option Int
  | [] => some 0
  | e :: r =>
    if e == 'e' || e == 'E' then do
      let (negative, unsigned) := signed r
      let n := ofDigits 10 (← digits? 10 unsigned)
      return if negative then -(n : Int) else n
    else none

/-- Digits, or nothing at all. -/
def digitsOrNone? (s : Text) : Option (List Nat) := if s.isEmpty then some [] else digits? 10 s

/-- A floating point number without a sign. -/
def unsignedFloat? (s : Text) : Option Float := do
  let inMantissa (c : Char) : Bool := isDigit c || c == '_'
  let whole ← digitsOrNone? (s.takeWhile inMantissa)
  let (fraction, tail) ← match s.dropWhile inMantissa with
    | '.' :: r =>
      (digitsOrNone? (r.takeWhile inMantissa)).map fun ds => (ds, r.dropWhile inMantissa)
    | r => some ([], r)
  if whole.isEmpty && fraction.isEmpty then none
  let e ← exponent? tail
  return toFloat (ofDigits 10 (whole ++ fraction)) (e - fraction.length)

/-- A floating point number. -/
def float? (s : Text) : Option Float := do
  let (negative, unsigned) := signed (strip s)
  let word := String.ofList (unsigned.map Char.toLower)
  let x ←
    if word == "inf" || word == "infinity" then some (1.0 / 0.0)
    else if word == "nan" then some (0.0 / 0.0)
    else unsignedFloat? unsigned
  return if negative then -x else x

end DocAudit.Decimal
