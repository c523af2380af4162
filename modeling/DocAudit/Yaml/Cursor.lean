import DocAudit.Text.Basic

/-!
# Cursor

A place in a YAML text: the characters that follow, with their line and column. The end of the text
reads as the character zero, which no accepted text holds.

## Contents

* `Cursor.peek`, `Cursor.advance`
* `Cursor.lineBreak?`: one line break, however it is written
-/

namespace DocAudit.Yaml

/-- The characters that follow a place in the text, and the place. -/
structure Cursor where
  rest : Text
  index : Nat := 0
  line : Nat := 0
  column : Nat := 0
  deriving Repr

/-- The characters that break a line. -/
def isLineBreak (c : Char) : Bool :=
  c == '\n' || c == '\r' || c == '\u0085' || c == '\u2028' || c == '\u2029'

/-- A line break or the end of the text. -/
def isLineEnd (c : Char) : Bool := c == '\x00' || isLineBreak c

/-- A space, a line break or the end of the text. -/
def isGapChar (c : Char) : Bool := c == ' ' || isLineEnd c

/-- A space, a tab, a line break or the end of the text. -/
def isGapOrTab (c : Char) : Bool := c == '\t' || isGapChar c

namespace Cursor

/-- The `k`-th of the characters that follow. -/
def peek (c : Cursor) (k : Nat := 0) : Char := c.rest.getD k '\x00'

/-- The place after one character. -/
def next (c : Cursor) : Cursor :=
  match c.rest with
  | [] => c
  | ch :: r =>
    if isLineBreak ch && !(ch == '\r' && r.head? == some '\n') then
      { rest := r, index := c.index + 1, line := c.line + 1, column := 0 }
    else
      { rest := r, index := c.index + 1, line := c.line,
        column := if ch == '\uFEFF' then c.column else c.column + 1 }

/-- The place after `n` characters. -/
def advance (c : Cursor) : Nat → Cursor
  | 0 => c
  | n + 1 => c.next.advance n

@[simp] theorem rest_next (c : Cursor) : c.next.rest = c.rest.drop 1 := by
  unfold next
  split
  · next h => simp [h]
  · next h => split <;> simp [h]

@[simp] theorem rest_advance (c : Cursor) (n : Nat) : (c.advance n).rest = c.rest.drop n := by
  induction n generalizing c with
  | zero => rfl
  | succ n ih => rw [advance, ih, rest_next, List.drop_drop, Nat.add_comm]

/-- The length of the run of characters of the class `p`. -/
def span (c : Cursor) (p : Char → Bool) : Nat := (c.rest.takeWhile p).length

/-- The first `n` of the characters that follow. -/
def take (c : Cursor) (n : Nat) : Text := c.rest.take n

/-- The place after the run of characters of the class `p`. -/
def skip (c : Cursor) (p : Char → Bool) : Cursor := c.advance (c.span p)

/-- The place after the spaces. -/
def skipSpaces (c : Cursor) : Cursor := c.skip (· == ' ')

/-- The place after the comment that starts here, if one does. -/
def skipComment (c : Cursor) : Cursor :=
  if c.peek == '#' then c.skip (!isLineEnd ·) else c

/-- A line break: what it stands for in a scalar, and the place after it. -/
def lineBreak? (c : Cursor) : Option (Char × Cursor) :=
  if c.peek == '\r' && c.peek 1 == '\n' then some ('\n', c.advance 2)
  else if c.peek == '\n' || c.peek == '\r' || c.peek == '\u0085' then some ('\n', c.advance 1)
  else if c.peek == '\u2028' || c.peek == '\u2029' then some (c.peek, c.advance 1)
  else none

/-- There is nothing left to break at the end of the text. -/
theorem lineBreak?_nil {c : Cursor} (h : c.rest = []) : c.lineBreak? = none := by
  simp [lineBreak?, peek, h]

/-- A line break takes at least one character. -/
theorem length_lineBreak? {c c' : Cursor} {ch : Char} (h : c.lineBreak? = some (ch, c')) :
    c'.rest.length < c.rest.length := by
  have hne : c.rest ≠ [] := fun h' => by rw [lineBreak?_nil h'] at h; cases h
  have := List.length_pos_iff.mpr hne
  unfold lineBreak? at h
  split at h
  · cases h; simp; omega
  · split at h
    · cases h; simp; omega
    · split at h
      · cases h; simp; omega
      · cases h

/-- A document marker stands here: three equal characters and a gap. -/
def atMarker (c : Cursor) (mark : Char) : Bool :=
  c.peek == mark && c.peek 1 == mark && c.peek 2 == mark && isGapOrTab (c.peek 3)

/-- One of the two document markers stands here. -/
def atAnyMarker (c : Cursor) : Bool := c.atMarker '-' || c.atMarker '.'

end Cursor

end DocAudit.Yaml
