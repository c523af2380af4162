import DocAudit.Calendar.Date
import DocAudit.Decimal.Reading
import DocAudit.Decimal.Shortest
import DocAudit.Text.Case
import DocAudit.Text.Quoted
import DocAudit.Yaml.Lexeme
import DocAudit.Yaml.Tag

/-!
# Leaves

The value of a scalar: what its tag makes of its text, and how it is shown.

## Contents

* `Leaf`, `Leaf.ofScalar`
* `Leaf.same`: equality of keys; numbers are compared by value, truth values as zero and one
* `Leaf.text`, `Leaf.display`: a value alone, and inside a collection
-/

namespace DocAudit.Yaml

open Text

/-- The value of a scalar. -/
inductive Leaf
  | null
  | bool (b : Bool)
  | int (n : Int)
  | float (x : Float)
  | str (s : Text)
  | bytes (b : List UInt8)
  | date (d : Date)
  | moment (m : Moment)
  deriving Repr

namespace Leaf

/-- A text without its low lines. -/
def withoutLows (s : Text) : Text := s.filter (· != '_')

/-- The value of parts with sixty as the base. -/
def sixties {α : Type} [Add α] [Mul α] (zero sixty : α) (parts : List α) : α :=
  parts.foldl (fun acc part => acc * sixty + part) zero

/-- A whole number in one of the notations for it. -/
def readInt (s : Text) : Outcome Int := do
  let s := withoutLows s
  if s.isEmpty then throw .emptyNumber
  let (negative, unsigned) := Decimal.signed s
  let known (n : Option Int) : Outcome Int := match n with
    | some n => return if negative then -n else n
    | none => throw .noSuchValue
  match unsigned with
  | [] => throw .emptyNumber
  | ['0'] => return 0
  | '0' :: 'b' :: r => known (Decimal.int? 2 r)
  | '0' :: 'x' :: r => known (Decimal.int? 16 r)
  | '0' :: _ => known (Decimal.int? 8 unsigned)
  | _ =>
    if unsigned.contains ':' then
      known ((splitAt ':' unsigned).mapM (Decimal.int? 10) |>.map (sixties 0 60))
    else known (Decimal.int? 10 unsigned)

/-- The sum of parts with sixty as the base, the last one first. `base` is what the next part counts. -/
def sumSixties (sum : Float) (base : Nat) : List Float → Outcome Float
  | [] => .ok sum
  | part :: rest =>
    if (Float.ofNat base).isFinite then sumSixties (sum + part * Float.ofNat base) (base * 60) rest
    else .error .outOfRange

/-- A floating point number in one of the notations for it. Sixties are added up from the last. -/
def readFloat (s : Text) : Outcome Float := do
  let s := lower (withoutLows s)
  if s.isEmpty then throw .emptyNumber
  let (negative, unsigned) := Decimal.signed s
  let x ←
    if unsigned == ".inf".toList then pure (1.0 / 0.0)
    else if unsigned == ".nan".toList then pure (0.0 / 0.0)
    else if unsigned.contains ':' then
      match (splitAt ':' unsigned).mapM Decimal.float? with
      | some parts => sumSixties 0.0 1 parts.reverse
      | none => throw .noSuchValue
    else match Decimal.float? unsigned with
      | some x => pure x
      | none => throw .noSuchValue
  return if negative then -x else x

/-- The truth value of a word. -/
def readBool (s : Text) : Outcome Bool :=
  let word := String.ofList (lower s)
  if ["yes", "true", "on"].contains word then .ok true
  else if ["no", "false", "off"].contains word then .ok false
  else .error .noSuchTruth

/-- A number in decimal digits. -/
def decimal (ds : Text) : Nat := ds.foldl (fun acc d => acc * 10 + (d.toNat - '0'.toNat)) 0

/-- A date, or a date with a time. -/
def readTimestamp (s : Text) : Outcome Leaf := do
  let some stamp := Tag.stamp? s | throw .notADate
  let exists? {α : Type} (x : Option α) : Outcome α := match x with
    | some a => pure a
    | none => throw .noSuchValue
  let date := Date.of? (decimal stamp.year) (decimal stamp.month) (decimal stamp.day)
  match stamp.time with
  | none => return .date (← exists? date)
  | some (hour, minute, second, fraction) =>
    let micro := decimal ((fraction ++ List.replicate 6 '0').take 6)
    let offset ← match stamp.zone with
      | none => pure none
      | some none => pure (some 0)
      | some (some (sign, hours, minutes)) =>
        let distance := decimal hours * 60 + decimal minutes
        if 1440 ≤ distance then throw .noSuchValue
        else pure (some (if sign == '-' then -(distance : Int) else distance))
    let date ← exists? date
    let time ← exists? (Time.of? (decimal hour) (decimal minute) (decimal second) micro)
    return .moment { date, time, offset }

/-- The value of a letter of the base of sixty-four. -/
def base64Digit (c : Char) : Option Nat :=
  if 'A' ≤ c && c ≤ 'Z' then some (c.toNat - 'A'.toNat)
  else if 'a' ≤ c && c ≤ 'z' then some (c.toNat - 'a'.toNat + 26)
  else if '0' ≤ c && c ≤ '9' then some (c.toNat - '0'.toNat + 52)
  else if c = '+' then some 62
  else if c = '/' then some 63
  else none

/-- Bytes from groups of four letters: `place` letters of the group were read, which leave the bits
`acc`, and `pads` signs for missing letters follow them. Other characters are passed over. -/
def base64 (place acc pads : Nat) : Text → Option (List UInt8)
  | [] => if place == 0 then some [] else none
  | c :: r =>
    if c = '=' then
      if 2 ≤ place && 4 ≤ place + (pads + 1) then some []
      else base64 place acc (if 2 ≤ place then pads + 1 else pads) r
    else match base64Digit c with
      | none => base64 place acc pads r
      | some d =>
        let byte (n : Nat) : UInt8 := n.toUInt8
        if place == 0 then base64 1 d 0 r
        else if place == 1 then (base64 2 (d % 16) 0 r).map (byte (acc * 4 + d / 16) :: ·)
        else if place == 2 then (base64 3 (d % 4) 0 r).map (byte (acc * 16 + d / 4) :: ·)
        else (base64 0 0 0 r).map (byte (acc * 64 + d) :: ·)

/-- The value of a scalar with the given tag, when the tag is one of a single value. -/
def ofScalar (tag : Tag) (s : Text) : Outcome Leaf :=
  match tag with
  | .null => .ok .null
  | .bool => .bool <$> readBool s
  | .int => .int <$> readInt s
  | .float => .float <$> readFloat s
  | .timestamp => readTimestamp s
  | .str => .ok (.str s)
  | .binary =>
    match if s.all (·.toNat < 0x80) then base64 0 0 0 s else none with
    | some b => .ok (.bytes b)
    | none => .error .malformed
  | _ => .error .malformed

/-! ## Equality and display -/

/-- A number as a fraction: a numerator and a power of two below it. -/
def rational? : Leaf → Option (Int × Nat)
  | .bool b => some (if b then 1 else 0, 0)
  | .int n => some (n, 0)
  | .float x =>
    match Decimal.Binary.ofFloat x with
    | .finite negative m q =>
      let n : Int := (if negative then -(m : Int) else m) * Nat.pow 2 q.toNat
      some (n, (-q).toNat)
    | _ => none
  | _ => none

/-- Two keys are the same. -/
def same (a b : Leaf) : Bool :=
  match rational? a, rational? b with
  | some (m, j), some (n, k) => m * Nat.pow 2 k == n * Nat.pow 2 j
  | _, _ => match a, b with
    | .null, .null => true
    | .str s, .str t => s == t
    | .bytes s, .bytes t => s == t
    | .date c, .date d => c == d
    | .moment c, .moment d => c.same d
    | .float x, .float y => x == y
    | _, _ => false

/-- A whole number that has too many digits to be written. -/
def isOverlong : Leaf → Bool
  | .int n => Decimal.isOverlong n
  | _ => false

/-- A value inside a collection. -/
def display : Leaf → Text
  | .null => "None".toList
  | .bool true => "True".toList
  | .bool false => "False".toList
  | .int n => ofInt n
  | .float x => Decimal.plain x
  | .str s => quoted s
  | .bytes b => quotedBytes b
  | .date d => d.display
  | .moment m => m.display

/-- A value alone. -/
def text : Leaf → Text
  | .str s => s
  | .date d => d.text
  | .moment m => m.text ' '
  | leaf => leaf.display

end Leaf

end DocAudit.Yaml
