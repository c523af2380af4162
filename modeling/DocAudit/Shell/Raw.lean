import DocAudit.Text.Utf8

/-!
# Raw text

A shell and its tools work on bytes. A raw text holds them as characters: each character stands for the
byte of its number, so that raw text is compared, cut and written down like any other text.

## Contents

* `Raw`: from and to bytes and text
* `Raw.units`: the characters of a raw text, where its bytes form some
* numbers in raw text
-/

namespace DocAudit.Shell

open Text

/-- Bytes as characters of the same numbers. -/
abbrev Raw := Text

namespace Raw

/-- Bytes. -/
def ofBytes (bytes : List UInt8) : Raw := bytes.map fun b => Char.ofNat b.toNat

/-- The bytes of a raw text. -/
def bytes (s : Raw) : List UInt8 := s.map fun c => c.toNat.toUInt8

/-- The bytes of a text. -/
def ofText (s : Text) : Raw := ofBytes (Utf8.encode s)

/-- The text that the bytes stand for. -/
def text (s : Raw) : Text := Utf8.decodeLossy s.bytes

/-- A unit of a raw text: a character with its bytes, or a byte that belongs to no character. -/
structure Unit where
  char : Option Char
  bytes : Raw
  deriving DecidableEq, Repr, Inhabited

/-- The characters of a raw text, and the bytes between them that form none. -/
def unitsOf (bytes : List UInt8) : List Unit :=
  match bytes with
  | [] => []
  | b :: rest =>
    match _h : Utf8.takeChar b rest with
    | .error _ => { char := none, bytes := [Char.ofNat b.toNat] } :: unitsOf rest
    | .ok (c, after) => { char := some c, bytes := ofText [c] } :: unitsOf after
termination_by bytes.length
decreasing_by
  · rw [List.length_cons]
    omega
  · have := Utf8.length_takeChar (by assumption)
    rw [List.length_cons]
    omega

/-- The units of a raw text. -/
def units (s : Raw) : List Unit := unitsOf s.bytes

/-- Lines with the mark of whether a line feed ends them. -/
def linesOf : (soFar : Raw) → Raw → List (Raw × Bool)
  | [], [] => []
  | soFar, [] => [(soFar.reverse, false)]
  | soFar, c :: r => if c = '\n' then (soFar.reverse, true) :: linesOf [] r else linesOf (c :: soFar) r

/-- The lines of a raw text without their line feeds. -/
def lines (s : Raw) : List Raw := (linesOf [] s).map (·.1)

/-- The line feeds of a raw text end its lines. -/
def unlines (ls : List Raw) : Raw := ls.flatMap fun line => line ++ ['\n']

/-- Blanks as a program sees them that knows bytes only. -/
def isSpace (c : Char) : Bool :=
  c == ' ' || c == '\t' || c == '\n' || c == '\x0b' || c == '\x0c' || c == '\r'

/-- The number that a word of decimal digits writes. -/
def nat? (s : Raw) : Option Nat :=
  if s.isEmpty || !s.all Char.isDigit then none
  else some (s.foldl (fun n c => 10 * n + (c.toNat - 48)) 0)

/-- The number that an optional sign and decimal digits write. -/
def int? (s : Raw) : Option Int :=
  match s with
  | '-' :: r => (nat? r).map fun n => -(n : Int)
  | '+' :: r => (nat? r).map fun n => (n : Int)
  | r => (nat? r).map fun n => (n : Int)

/-- A text with another one put in front of it until it has a width. -/
def padLeft (pad : Char) (width : Nat) (s : Raw) : Raw := List.replicate (width - s.length) pad ++ s

/-- A text with blanks behind it until it has a width. -/
def padRight (width : Nat) (s : Raw) : Raw := s ++ List.replicate (width - s.length) ' '

end Raw

/-- The sum of numbers. -/
def totalOf (ns : List Nat) : Nat := ns.foldl (· + ·) 0

/-- The raw text of a literal. -/
def raw (s : String) : Raw := Raw.ofText s.toList

end DocAudit.Shell
