import DocAudit.Decimal.Reading
import DocAudit.Decimal.Shortest
import DocAudit.Shell.Number

/-!
# Formatted values

A conversion such as `%-5.2f` writes a value with a width, a precision and flags. Numbers with a point are
rounded from their exact values, a half to the even neighbour.

## Contents

* `Conversion`: what stands in a format
* `Conversion.text`, `signed`, `unsigned`, `float`: values written as told
* `leadingFloat?`: the number with a point at the start of a text
* `escape`: what a backslash announces
-/

namespace DocAudit.Shell

open Text Decimal

/-- How a value is written. -/
structure Conversion where
  left : Bool := false
  plus : Bool := false
  blank : Bool := false
  marked : Bool := false
  zeros : Bool := false
  width : Nat := 0
  precision : Option Nat := none
  letter : Char := 's'
  deriving DecidableEq, Repr

namespace Conversion

/-- The conversion with a flag. -/
def flag (v : Conversion) (c : Char) : Conversion :=
  match c with
  | '-' => { v with left := true }
  | '+' => { v with plus := true }
  | ' ' => { v with blank := true }
  | '#' => { v with marked := true }
  | '0' => { v with zeros := true }
  | _ => v

/-- The conversion with a width; a negative one has a flag. -/
def setWidth (v : Conversion) (n : Int) : Conversion :=
  if n < 0 then { v with left := true, width := n.natAbs } else { v with width := n.toNat }

/-- The text filled up to the width. -/
def fill (v : Conversion) (s : Raw) : Raw :=
  if v.left then Raw.padRight v.width s else Raw.padLeft ' ' v.width s

/-- A sign and digits filled up to the width, perhaps with zeros between them. -/
def fillNumber (v : Conversion) (zeros : Bool) (sign digits : Raw) : Raw :=
  if zeros && !v.left then sign ++ Raw.padLeft '0' (v.width - sign.length) digits
  else v.fill (sign ++ digits)

/-- A text. -/
def text (v : Conversion) (s : Raw) : Raw :=
  v.fill (match v.precision with
    | some n => s.take n
    | none => s)

/-- The sign of a number. -/
def sign (v : Conversion) (negative : Bool) : Raw :=
  if negative then ['-'] else if v.plus then ['+'] else if v.blank then [' '] else []

/-- Digits with at least the precision, where a zero without any is nothing. -/
def precise (v : Conversion) (digits : Raw) : Raw :=
  match v.precision with
  | none => digits
  | some 0 => if digits == ['0'] then [] else digits
  | some n => Raw.padLeft '0' n digits

/-- A whole number. -/
def signed (v : Conversion) (n : Int) : Raw :=
  v.fillNumber (v.zeros && v.precision.isNone) (v.sign (n < 0)) (v.precise (ofNat n.natAbs))

/-- A number without a sign in the base that the letter says. -/
def unsigned (v : Conversion) (n : Nat) : Raw :=
  let (base, mark) : Nat × Raw := match v.letter with
    | 'o' => (8, [])
    | 'x' => (16, raw "0x")
    | 'X' => (16, raw "0X")
    | _ => (10, [])
  let digits := Nat.toDigits base n
  let digits := v.precise (if v.letter == 'X' then digits.map Char.toUpper else digits)
  let digits := if v.marked && v.letter == 'o' && digits.head? != some '0' then '0' :: digits else digits
  v.fillNumber (v.zeros && v.precision.isNone) (if v.marked && n != 0 then mark else []) digits

/-- Digits with a point in front of the last ones; one without any behind it only where it is asked for. -/
def withPoint (marked : Bool) (places : Nat) (units : Nat) : Raw :=
  let ds := Raw.padLeft '0' (places + 1) (ofNat units)
  let whole := ds.take (ds.length - places)
  if places == 0 then if marked then whole ++ ['.'] else whole else whole ++ '.' :: ds.drop whole.length

/-- The number `m * 2 ^ q` as digits, of which so many stand behind the first one, and the exponent of the
first one. -/
def scientific (places m : Nat) (q : Int) : Nat × Int :=
  if m == 0 then (0, 0)
  else
    let (two, half) := Binary.power 2 q
    let first := Binary.decade (m * two) half
    let (ten, tenth) := Binary.power 10 ((places : Int) - first)
    let units := roundDiv (m * two * ten) (half * tenth)
    if units == Nat.pow 10 (places + 1) then (units / 10, first + 1) else (units, first)

/-- An exponent with its sign and two digits at least. -/
def exponent (letter : Char) (e : Int) : Raw :=
  letter :: (if e < 0 then '-' else '+') :: Raw.padLeft '0' 2 (ofNat e.natAbs)

/-- A number without the zeros at its end, nor a point there. -/
def withoutZeros (s : Raw) : Raw :=
  if s.contains '.' then
    let s := dropEnd (· == '0') s
    if s.getLast? == some '.' then s.dropLast else s
  else s

/-- The hexadecimal digits of a fraction of 52 bits, and the exponent, of a number that is not zero. -/
def hexadecimal (precision : Option Nat) (m : Nat) (q : Int) : Nat × Raw × Int :=
  let (lead, fraction, e) :=
    if m < Binary.hiddenBit then (0, m, q + 52) else (1, m - Binary.hiddenBit, q + 52)
  match precision with
  | some n =>
    if n < 13 then
      let unit := Nat.pow 16 (13 - n)
      let all := roundDiv (lead * Binary.hiddenBit + fraction) unit
      let one := Nat.pow 16 n
      (all / one, if n == 0 then [] else Raw.padLeft '0' n (Nat.toDigits 16 (all % one)), e)
    else (lead, Raw.padLeft '0' 13 (Nat.toDigits 16 fraction) ++ List.replicate (n - 13) '0', e)
  | none => (lead, dropEnd (· == '0') (Raw.padLeft '0' 13 (Nat.toDigits 16 fraction)), e)

/-- A number with a point, without its sign, where letters are small. -/
def digitsOf (v : Conversion) (m : Nat) (q : Int) : Raw :=
  match v.letter.toLower with
  | 'a' =>
    let (lead, fraction, e) := if m == 0 then (0, [], 0) else hexadecimal v.precision m q
    let fraction := if m == 0 then List.replicate (v.precision.getD 0) '0' else fraction
    raw "0x" ++ ofNat lead ++ (if fraction.isEmpty && !v.marked then [] else '.' :: fraction) ++
      'p' :: (if e < 0 then '-' else '+') :: ofNat e.natAbs
  | 'e' =>
    let places := v.precision.getD 6
    let (units, e) := scientific places m q
    withPoint v.marked places units ++ exponent 'e' e
  | 'g' =>
    let digits := max 1 (v.precision.getD 6)
    let (units, e) := scientific (digits - 1) m q
    let trim (s : Raw) : Raw := if v.marked then s else withoutZeros s
    if e < -4 || (digits : Int) ≤ e then
      trim (withPoint v.marked (digits - 1) units) ++ exponent 'e' e
    else
      let places := ((digits : Int) - 1 - e).toNat
      trim (withPoint v.marked places (Binary.atPlaces places m q))
  | _ =>
    let places := v.precision.getD 6
    withPoint v.marked places (Binary.atPlaces places m q)

/-- A number with a point. -/
def float (v : Conversion) (x : Float) : Raw :=
  let shown (s : Raw) : Raw := if v.letter.isUpper then s.map Char.toUpper else s
  match Binary.ofFloat x with
  | .nan => v.fill (shown (v.sign (x.toBits.toNat / Nat.pow 2 63 == 1) ++ raw "nan"))
  | .inf negative => v.fill (shown (v.sign negative ++ raw "inf"))
  | .finite negative m q =>
    let digits := v.digitsOf m q
    if v.letter.toLower == 'a' then
      shown (v.fillNumber v.zeros (v.sign negative ++ digits.take 2) (digits.drop 2))
    else shown (v.fillNumber v.zeros (v.sign negative) digits)

end Conversion

/-- The number with a point at the start of a text, and what is left of it. -/
def leadingFloat? (s : Raw) : Option (Float × Raw) :=
  let s := s.dropWhile Raw.isSpace
  let (negative, s) := match s with
    | '-' :: r => (true, r)
    | '+' :: r => (false, r)
    | r => (false, r)
  let signedBy (x : Float) (rest : Raw) : Option (Float × Raw) := some (if negative then -x else x, rest)
  let lower := s.map Char.toLower
  let startsWith (p : String) : Bool := p.toList.isPrefixOf lower
  if startsWith "infinity" then signedBy (1.0 / 0.0) (s.drop 8)
  else if startsWith "inf" then signedBy (1.0 / 0.0) (s.drop 3)
  else if startsWith "nan" then signedBy (0.0 / 0.0) (s.drop 3)
  else
    let isHex := startsWith "0x" && (lower.drop 2).head?.any fun c =>
      (Number.digit? c).any (· < 16) || c == '.'
    let base := if isHex then 16 else 10
    let s := if isHex then s.drop 2 else s
    let (whole, rest) := Number.digits base s
    let (fraction, rest) := match rest with
      | '.' :: r => Number.digits base r
      | r => ([], r)
    if whole.isEmpty && fraction.isEmpty then none
    else
      let units := (whole ++ fraction).foldl (fun n d => base * n + d) 0
      let mark := if isHex then 'p' else 'e'
      let (e, rest) : Int × Raw := match rest with
        | c :: r =>
          if c.toLower == mark then
            let (minus, digits) := match r with
              | '-' :: d => (true, d)
              | '+' :: d => (false, d)
              | d => (false, d)
            match Number.digits 10 digits with
            | ([], _) => (0, rest)
            | (ds, after) =>
              let n : Int := (ds.foldl (fun n d => 10 * n + d) 0 : Nat)
              (if minus then -n else n, after)
          else (0, rest)
        | [] => (0, rest)
      let x : Float :=
        if isHex then
          let e := e - 4 * fraction.length
          Float.ofNat units * Float.ofScientific 1 false 0 *
            (if e < 0 then 1.0 / Float.ofNat (Nat.pow 2 (min e.natAbs 1023))
              else Float.ofNat (Nat.pow 2 (min e.natAbs 1023)))
        else toFloat units (e - fraction.length)
      signedBy x rest

/-- What a backslash announces, by what stands behind it: a character, and what is left. -/
def escape (s : Raw) : Char × Raw :=
  let isOctal (c : Char) : Bool := '0' ≤ c && c ≤ '7'
  match s with
  | [] => ('\\', [])
  | c :: r =>
    match c with
    | '\\' => ('\\', r)
    | 'a' => ('\x07', r)
    | 'b' => ('\x08', r)
    | 'e' => ('\x1b', r)
    | 'f' => ('\x0c', r)
    | 'n' => ('\n', r)
    | 'r' => ('\r', r)
    | 't' => ('\t', r)
    | 'v' => ('\x0b', r)
    | c =>
      if isOctal c then
        let ds := (s.take 3).takeWhile isOctal
        let n := ds.foldl (fun n d => 8 * n + (d.toNat - 48)) 0
        (Char.ofNat (n % 256), s.drop ds.length)
      else ('\\', s)

/-- A text with its escapes replaced, up to one that ends all output, and whether there was such a one. The
number bounds the length. -/
def escaped : Nat → Raw → Raw × Bool
  | 0, _ => ([], false)
  | _ + 1, [] => ([], false)
  | n + 1, '\\' :: r =>
    match r with
    | 'c' :: _ => ([], true)
    | _ =>
      let digits := match r with
        | '0' :: d :: r => if '0' ≤ d && d ≤ '7' then d :: r else '0' :: d :: r
        | r => r
      let (c, rest) := escape digits
      let (more, ended) := escaped n rest
      (c :: more, ended)
  | n + 1, c :: r =>
    let (more, ended) := escaped n r
    (c :: more, ended)

/-- A text with its escapes replaced. -/
def withEscapes (s : Raw) : Raw × Bool := escaped (s.length + 1) s

end DocAudit.Shell
