import DocAudit.Text.Basic
import DocAudit.Text.Classes.Table

/-!
# Character classes

Digits of every script, word characters and printable characters.

## Contents

* `digitValue`, `isDigit`: decimal digits
* `isWord`: letters, numbers and the low line
* `isPrintable`: characters that quotes show as they are
-/

namespace DocAudit.Text

/-- The value of a decimal digit of any script. -/
def digitValue (c : Char) : Option Nat :=
  (digitZeros.find? fun first => first ≤ c.toNat && c.toNat < first + 10).map (c.toNat - ·)

/-- A decimal digit of any script. -/
def isDigit (c : Char) : Bool := (digitValue c).isSome

/-- A decimal digit of the first script, `0` to `9`. -/
def isAsciiDigit (c : Char) : Bool := '0' ≤ c && c ≤ '9'

/-- A letter or number of any script, or the low line. -/
def isWord (c : Char) : Bool := inBounds wordBounds c.toNat

/-- Neither a separator other than the space nor a control, format or unassigned code point. -/
def isPrintable (c : Char) : Bool := inBounds printableBounds c.toNat

/-- The value of a digit has one place. -/
theorem digitValue_lt {c : Char} {d : Nat} (h : digitValue c = some d) : d < 10 := by
  obtain ⟨first, hz, rfl⟩ := Option.map_eq_some_iff.1 h
  have := List.find?_some hz
  simp only [Bool.and_eq_true, decide_eq_true_eq] at this
  omega

end DocAudit.Text
