import DocAudit.Text.Case
import DocAudit.Text.Classes
import DocAudit.Text.Blank

/-!
# Headings in prose

Headings that are marked by signs in front of them or by a line under them, and the anchors that
headings have.

## Contents

* `Heading`, `Heading.ofLine?`
* `signCount?`, `isSpaced`, `isUnderline`, `isListItem`
* `headingAnchor`, `normalizeAnchor`
-/

namespace DocAudit.Lint

open Text

/-- A heading: its level and its text. -/
structure Heading where
  level : Nat
  text : Text
  deriving DecidableEq, Repr

/-- The number of signs at the start of a line, when there are one to six. -/
def signCount? (line : Text) : Option Nat :=
  let n := (line.takeWhile (· == '#')).length
  if 1 ≤ n && n ≤ 6 then some n else none

/-- A text without the blanks, the signs and again the blanks at its end. -/
def dropClosing (s : Text) : Text := stripEnd (dropEnd (· == '#') (stripEnd s))

/-- The text of a heading, in what follows its signs. At least one character belongs to it, which may be
the last blank, and no line feed does. -/
def headingText? (s : Text) : Option Text :=
  let blanks := s.takeWhile isBlank
  match blanks, s.drop blanks.length with
  | [], _ => none
  | _ :: more, [] => (more.reverse.find? (· != '\n')).map ([·])
  | _ :: _, c :: r =>
    let text := dropClosing (c :: r)
    if text.contains '\n' then none else some (if text.isEmpty then [c] else text)

/-- The heading in a line. -/
def Heading.ofLine? (line : Text) : Option Heading :=
  match signCount? line with
  | none => none
  | some level => (headingText? (line.drop level)).map fun text => { level, text }

/-- The signs of a heading are followed by a blank, or there is nothing else in the line. -/
def isSpaced (line : Text) : Bool :=
  match line.dropWhile (· == '#') with
  | [] => true
  | c :: _ => isBlank c

/-- A line of one sign only that can stand under a heading. -/
def isUnderline (line : Text) : Bool :=
  let signs := stripEnd line
  !signs.isEmpty && (signs.all (· == '=') || signs.all (· == '-'))

/-- A trimmed line that starts a list item. -/
def isListItem (trimmed : Text) : Bool :=
  match trimmed with
  | [] => false
  | c :: r =>
    if c == '-' || c == '*' || c == '+' then r.head?.any isBlank
    else
      match trimmed.dropWhile isDigit with
      | mark :: blank :: _ =>
        isDigit c && (mark == '.' || mark == ')') && isBlank blank
      | _ => false

/-- Characters of anchors. -/
def isAnchorChar (c : Char) : Bool := ('a' ≤ c && c ≤ 'z') || isAsciiDigit c || c == '-'

/-- An anchor without regard to case and to characters that anchors do not have. -/
def normalizeAnchor (s : Text) : Text := (lower s).filter isAnchorChar

/-- The anchor of a heading. -/
def headingAnchor (s : Text) : Text :=
  ((lower (strip s)).map fun c => if c = ' ' then '-' else c).filter isAnchorChar

end DocAudit.Lint
