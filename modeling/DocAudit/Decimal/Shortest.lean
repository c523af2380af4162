import DocAudit.Text.Basic

/-!
# Shortest decimals and their notation

A binary floating point number is `m * 2 ^ q`. All reals nearer to it than to its neighbours read
back as it, and the ends of that interval do when `m` is even. Its shortest decimal is the one with
the fewest digits in the interval, and of those the nearest; of two equally near the even one.

## Contents

* `roundDiv`: a quotient, rounded to the nearest whole number; a half goes to the even neighbour
* `Binary`, `Binary.ofFloat`: a number taken apart
* `Binary.shortest`: digits and exponent of the shortest decimal
* `Binary.atPlaces`: the number in units of a power of ten, rounded
* `plain`: the shortest digits; positional from `0.0001` up to sixteen digits before the point
* `fixed`: a fixed number of places
* `round`: the nearest number with the given places

All arithmetic is on natural numbers: a power with a negative exponent goes to the other side of a
comparison.
-/

namespace DocAudit.Decimal

/-! ## Rounding of quotients -/

/-- The whole number nearest to `num / den`; of two, the even one. -/
def roundDiv (num den : Nat) : Nat :=
  let low := num / den
  let twice := 2 * (num % den)
  if twice < den then low
  else if den < twice then low + 1
  else if low % 2 = 0 then low else low + 1

/-- A whole quotient is not changed. -/
theorem roundDiv_mul (n : Nat) {den : Nat} (h : 0 < den) : roundDiv (n * den) den = n := by
  simp [roundDiv, Nat.mul_mod_left, Nat.mul_div_cancel n h, h]

/-- **The result is at most half a unit away.** -/
theorem roundDiv_near (num : Nat) {den : Nat} (h : 0 < den) :
    2 * num ≤ (2 * roundDiv num den + 1) * den ∧ 2 * roundDiv num den * den ≤ 2 * num + den := by
  have hd := Nat.div_add_mod num den
  have hm := Nat.mod_lt num h
  have e1 : ∀ x : Nat, (2 * x + 1) * den = 2 * (den * x) + den := fun x => by
    rw [Nat.add_mul, Nat.mul_assoc, Nat.mul_comm x den, Nat.one_mul]
  have e2 : ∀ x : Nat, 2 * x * den = 2 * (den * x) := fun x => by
    rw [Nat.mul_assoc, Nat.mul_comm x den]
  rw [e1, e2]
  unfold roundDiv
  simp only
  generalize num % den = r at *
  generalize num / den = d at *
  have e3 : den * (d + 1) = den * d + den := by rw [Nat.mul_add, Nat.mul_one]
  split
  · omega
  · split
    · rw [e3]; omega
    · split
      · omega
      · rw [e3]; omega

/-! ## Binary numbers -/

/-- A floating point number taken apart. -/
inductive Binary
  | nan
  | inf (negative : Bool)
  /-- The number `± m * 2 ^ q`. -/
  | finite (negative : Bool) (m : Nat) (q : Int)
  deriving DecidableEq, Repr

namespace Binary

/-- The bit above the fraction of a number, which its written bits leave out. -/
def hiddenBit : Nat := Nat.pow 2 52

/-- The parts of a number, from its bits. -/
def ofFloat (x : Float) : Binary :=
  let bits : Nat := x.toBits.toNat
  let negative := bits / Nat.pow 2 63 == 1
  let exponent : Nat := bits / hiddenBit % 2048
  let fraction : Nat := bits % hiddenBit
  if exponent == 2047 then (if fraction == 0 then .inf negative else .nan)
  else if exponent == 0 then .finite negative fraction (-1074)
  else .finite negative (hiddenBit + fraction) ((exponent : Int) - 1075)

/-- A power whose exponent may be negative, as a quotient. -/
def power (base : Nat) (e : Int) : Nat × Nat := (Nat.pow base e.toNat, Nat.pow base (-e).toNat)

/-- The exponent of the first digit of the positive number `num / den`. -/
def decade (num den : Nat) : Int :=
  if den ≤ num then ((Nat.toDigits 10 (num / den)).length : Int) - 1
  else -(((List.range 400).find? fun j => den ≤ num * Nat.pow 10 (j + 1)).getD 0 + 1 : Nat)

/-- The decimal with `n` digits for the number `4 m * 2 ^ (q - 2)` if one lies between `low` and
`high`, which are in the same units: its digits as a number, and the exponent of the last digit. -/
def hit? (first : Int) (low mid high : Nat) (q : Int) (closed : Bool) (n : Nat) :
    Option (Nat × Int) :=
  let e := first - n + 1
  let (two, half) := power 2 (q - 2)
  let (ten, tenth) := power 10 e
  let a := two * tenth
  let b := ten * half
  let below := mid * a / b
  let inside (c : Nat) : Bool :=
    if closed then low * a ≤ c * b && c * b ≤ high * a else low * a < c * b && c * b < high * a
  if inside below && inside (below + 1) then some (roundDiv (mid * a) b, e)
  else if inside below then some (below, e)
  else if inside (below + 1) then some (below + 1, e)
  else none

/-- The shortest decimal of the positive number `m * 2 ^ q`: its digits as a number and the exponent
of the last of them. -/
def shortest (m : Nat) (q : Int) : Nat × Int :=
  let mid := 4 * m
  let low := if m == hiddenBit && q > -1074 then mid - 1 else mid - 2
  let (two, half) := power 2 q
  let first := decade (m * two) half
  ((List.range 17).findSome? fun n => hit? first low mid (mid + 2) q (m % 2 == 0) (n + 1)).getD (m, q)

/-- The number `m * 2 ^ q` in units of `10 ^ -places`, rounded; a half goes to the even neighbour. -/
def atPlaces (places m : Nat) (q : Int) : Nat :=
  let (two, half) := power 2 q
  roundDiv (m * two * Nat.pow 10 places) half

end Binary

/-! ## Notation -/

open Text

/-- The digits of a number, without the zeros at the end, and their count. -/
def significant (digits : Nat) : Text :=
  let ds := dropEnd (· == '0') (ofNat digits)
  if ds.isEmpty then ['0'] else ds

/-- An exponent with a sign and at least two digits. -/
def exponent (e : Int) : Text :=
  let ds := ofNat e.natAbs
  (if e < 0 then '-' else '+') :: (if ds.length < 2 then '0' :: ds else ds)

/-- Digits with the point after the first `point` of them; zeros fill the gaps. -/
def positional (digits : Text) (point : Int) : Text :=
  if point ≤ 0 then ['0', '.'] ++ List.replicate (-point).toNat '0' ++ digits
  else
    let whole := digits.take point.toNat
    let fraction := digits.drop point.toNat
    whole ++ List.replicate (point.toNat - whole.length) '0' ++ ['.'] ++
      (if fraction.isEmpty then ['0'] else fraction)

/-- A floating point number with the fewest digits that read back. -/
def plain (x : Float) : Text :=
  match Binary.ofFloat x with
  | .nan => "nan".toList
  | .inf negative => if negative then "-inf".toList else "inf".toList
  | .finite negative m q =>
    let sign : Text := if negative then ['-'] else []
    if m == 0 then sign ++ "0.0".toList
    else
      let (digits, e) := Binary.shortest m q
      let point := ((ofNat digits).length : Int) + e
      let ds := significant digits
      if point ≤ -4 || 16 < point then
        let mantissa := match ds with
          | [d] => [d]
          | d :: r => d :: '.' :: r
          | [] => []
        sign ++ mantissa ++ 'e' :: exponent (point - 1)
      else sign ++ positional ds point

/-- A whole number of units of `10 ^ -places` with a point. -/
def withPoint (places units : Nat) : Text :=
  let ds := ofNat units
  let ds := List.replicate (places + 1 - ds.length) '0' ++ ds
  if places == 0 then ds
  else ds.take (ds.length - places) ++ '.' :: ds.drop (ds.length - places)

/-- A floating point number with a fixed number of places. -/
def fixed (places : Nat) (x : Float) : Text :=
  match Binary.ofFloat x with
  | .nan => "nan".toList
  | .inf negative => if negative then "-inf".toList else "inf".toList
  | .finite negative m q =>
    (if negative then ['-'] else []) ++ withPoint places (Binary.atPlaces places m q)

/-- The floating point number nearest to the value with the given places that is nearest to `x`. -/
def round (places : Nat) (x : Float) : Float :=
  match Binary.ofFloat x with
  | .finite negative m q =>
    let y := Float.ofScientific (Binary.atPlaces places m q) true places
    if negative then -y else y
  | _ => x

end DocAudit.Decimal
