import DocAudit.Text.Basic
import DocAudit.Text.Classes

/-!
# Quoted texts

A text between quotes, in which every character can be told apart. Single quotes are used unless the
text holds a single quote and no double one. The backslash, the quote itself and characters that are
not printable are written with a backslash.
-/

namespace DocAudit.Text

/-- A number in hexadecimal digits, padded with zeros to the width. -/
def hexPadded (width n : Nat) : Text :=
  let ds := Nat.toDigits 16 n
  List.replicate (width - ds.length) '0' ++ ds

/-- The quote for a text with the given characters. -/
def quoteFor (s : Text) : Char := if s.contains '\'' && !s.contains '"' then '"' else '\''

/-- The short escapes. -/
def shortEscape? (quote c : Char) : Option Text :=
  if c = '\\' || c = quote then some ['\\', c]
  else if c = '\n' then some ['\\', 'n']
  else if c = '\r' then some ['\\', 'r']
  else if c = '\t' then some ['\\', 't']
  else none

/-- One character of a quoted text. -/
def quoteChar (quote c : Char) : Text :=
  match shortEscape? quote c with
  | some s => s
  | none =>
    let n := c.toNat
    if isPrintable c then [c]
    else if n < 0x100 then ['\\', 'x'] ++ hexPadded 2 n
    else if n < 0x10000 then ['\\', 'u'] ++ hexPadded 4 n
    else ['\\', 'U'] ++ hexPadded 8 n

/-- A text between quotes. -/
def quoted (s : Text) : Text :=
  let quote := quoteFor s
  quote :: s.flatMap (quoteChar quote) ++ [quote]

/-- One byte between quotes. -/
def quoteByte (quote : Char) (b : UInt8) : Text :=
  let c := Char.ofNat b.toNat
  match shortEscape? quote c with
  | some s => s
  | none =>
    if 0x20 ≤ b.toNat && b.toNat < 0x7F then [c] else ['\\', 'x'] ++ hexPadded 2 b.toNat

/-- Bytes between quotes, marked by a letter before them. -/
def quotedBytes (bytes : List UInt8) : Text :=
  let quote := quoteFor (bytes.map fun b => Char.ofNat b.toNat)
  'b' :: quote :: bytes.flatMap (quoteByte quote) ++ [quote]

end DocAudit.Text
