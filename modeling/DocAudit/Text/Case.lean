import DocAudit.Text.Basic
import DocAudit.Text.Case.Table

/-!
# Upper and lower case

Lower case, upper case and case folding of texts, by the tables of Unicode. All of them may lengthen a
text.

## Contents

* `lowerChar`: one code point, without regard to its neighbours
* `lower`: a text; a capital sigma at the end of a word becomes the final form
* `upper`: a text in upper case
* `fold`: a text, for comparison without regard to case
* `lowerMates`: the groups of lower case letters that have an upper case in common
* `sameLetter`, `spellings`, `startsWithWord`: letters without regard to case
-/

namespace DocAudit.Text

/-- The target of `n` in a list of runs. -/
def mapRuns : List (Nat × Nat × Nat × Nat) → Nat → Option Nat
  | [], _ => none
  | (first, last, step, target) :: rest, n =>
    if first ≤ n && n ≤ last && (n - first) % step == 0 then some (target + (n - first))
    else mapRuns rest n

/-- The lower case of one character. -/
def lowerChar (c : Char) : Char :=
  let n := c.toNat
  if n < 0x80 then (if 0x41 ≤ n && n ≤ 0x5A then Char.ofNat (n + 0x20) else c)
  else ((mapRuns lowerRuns n).map Char.ofNat).getD c

/-- Cased characters, case-ignorable ones left out. -/
def isCased (c : Char) : Bool := inBounds casedBounds c.toNat

/-- Characters that are passed over when the neighbourhood of a sigma is examined. -/
def isCaseIgnorable (c : Char) : Bool := inBounds ignorableBounds c.toNat

/-- The first character that is not case-ignorable is cased. -/
def meetsCased (s : Text) : Bool :=
  match s.dropWhile isCaseIgnorable with
  | [] => false
  | c :: _ => isCased c

/-- The lower case of one character between the reversed text before it and the text after it. -/
def lowerIn (before after : Text) (c : Char) : Text :=
  if c = 'Σ' then [if meetsCased before && !meetsCased after then 'ς' else 'σ']
  else if c = 'İ' then ['i', '\u0307']
  else [lowerChar c]

/-- Lower case, with the text before the remaining one reversed in the first argument. -/
def lowerFrom (before : Text) : Text → Text
  | [] => []
  | c :: r => lowerIn before r c ++ lowerFrom (c :: before) r

/-- The lower case of a text. -/
def lower (s : Text) : Text := lowerFrom [] s

/-- The upper case of one character. -/
def upperChar (c : Char) : Text :=
  let n := c.toNat
  if n < 0x80 then [c.toUpper]
  else match upperExpansions.lookup n with
    | some target => target.map Char.ofNat
    | none => [((mapRuns upperRuns n).map Char.ofNat).getD c]

/-- The upper case of a text. -/
def upper (s : Text) : Text := s.flatMap upperChar

/-- The case folding of one character. -/
def foldChar (c : Char) : Text :=
  let n := c.toNat
  if n < 0x80 then [lowerChar c]
  else match foldExpansions.lookup n with
    | some target => target.map Char.ofNat
    | none =>
      if inBounds foldFixedBounds n then [c]
      else [((mapRuns foldRuns n).map Char.ofNat).getD (lowerChar c)]

/-- The case folding of a text: texts that differ in case only have the same folding. -/
def fold (s : Text) : Text := s.flatMap foldChar

/-! ## Letters without regard to case

Two code points are the same letter when their lower cases agree, or belong to one of the groups of
lower case letters that have an upper case in common. -/

/-- Lower case letters that share an upper case. -/
def lowerMates : List (List Nat) := [
  [0x69, 0x131], [0x73, 0x17F], [0xB5, 0x3BC], [0x345, 0x3B9, 0x1FBE], [0x390, 0x1FD3],
  [0x3B0, 0x1FE3], [0x3B2, 0x3D0], [0x3B5, 0x3F5], [0x3B8, 0x3D1], [0x3BA, 0x3F0], [0x3C0, 0x3D6],
  [0x3C1, 0x3F1], [0x3C2, 0x3C3], [0x3C6, 0x3D5], [0x432, 0x1C80], [0x434, 0x1C81], [0x43E, 0x1C82],
  [0x441, 0x1C83], [0x442, 0x1C84, 0x1C85], [0x44A, 0x1C86], [0x463, 0x1C87], [0x1C88, 0xA64B],
  [0x1E61, 0x1E9B], [0xFB05, 0xFB06]]

/-- The lower case of one code point. -/
def lowerNat (n : Nat) : Nat :=
  if n < 0x80 then (if 0x41 ≤ n && n ≤ 0x5A then n + 0x20 else n) else (mapRuns lowerRuns n).getD n

/-- The lower case letters that are the same letter as a lower case one. -/
def mates (n : Nat) : List Nat := (lowerMates.find? (·.contains n)).getD [n]

/-- Two code points that are the same letter. -/
def sameLetter (m n : Nat) : Bool := (mates (lowerNat m)).contains (lowerNat n)

/-- The code points with the lower case `n`. -/
def raised (n : Nat) : List Nat :=
  n :: lowerRuns.filterMap fun (first, last, step, target) =>
    if target ≤ n && first + (n - target) ≤ last && (n - target) % step == 0 then
      some (first + (n - target))
    else none

/-- The code points that are the same letter as `n`. -/
def spellings (n : Nat) : List Nat := (mates (lowerNat n)).flatMap raised

/-- The text starts with the word, without regard to case. -/
def startsWithWord : (word s : Text) → Bool
  | [], _ => true
  | _ :: _, [] => false
  | c :: word, d :: s => sameLetter c.toNat d.toNat && startsWithWord word s

end DocAudit.Text
