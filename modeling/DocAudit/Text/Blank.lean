import DocAudit.Text.Basic

/-!
# Blank characters

White space: the characters that trimming removes and that separate words. The class holds the
horizontal and vertical spaces of Unicode and the four separators below the space, 29 characters.

## Contents

* `isBlank`, and the empty look of a line, `isBlankText`
* `strip`, `stripStart`, `stripEnd`
* `words`: each step leaves a shorter rest
-/

namespace DocAudit.Text

/-- The white space characters. -/
def isBlank (c : Char) : Bool :=
  let n := c.toNat
  (0x09 ≤ n && n ≤ 0x0D) || (0x1C ≤ n && n ≤ 0x20) || n == 0x85 || n == 0xA0 || n == 0x1680 ||
    (0x2000 ≤ n && n ≤ 0x200A) || n == 0x2028 || n == 0x2029 || n == 0x202F || n == 0x205F ||
    n == 0x3000

/-- The text without the white space before it. -/
def stripStart (s : Text) : Text := s.dropWhile isBlank

/-- The text without the white space after it. -/
def stripEnd (s : Text) : Text := dropEnd isBlank s

/-- The text without the white space around it. -/
def strip (s : Text) : Text := trim isBlank s

/-- Nothing but white space. -/
def isBlankText (s : Text) : Bool := s.all isBlank

/-- The longest pieces without white space, in order. -/
def words : Text → List Text
  | [] => []
  | c :: r =>
    if isBlank c then words r
    else (c :: r.takeWhile (!isBlank ·)) :: words (r.dropWhile (!isBlank ·))
termination_by s => s.length
decreasing_by
  · simp
  · have := (List.dropWhile_sublist (l := r) (!isBlank ·)).length_le
    simp; omega

/-- What core calls white space is blank. -/
theorem isBlank_of_isWhitespace {c : Char} (h : c.isWhitespace = true) : isBlank c = true := by
  simp only [Char.isWhitespace, Bool.or_eq_true, decide_eq_true_eq] at h
  rcases h with ((rfl | rfl) | rfl) | rfl <;> decide

end DocAudit.Text
