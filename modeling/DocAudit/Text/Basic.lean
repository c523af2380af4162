/-!
# Text

A text is the list of its characters. Every definition of the library works on such lists, so a law
about a text is a law about a list.

## Contents

* searching: `hasInfix`
* cutting and joining at one character: `splitAt`, `joinWith`, `cut`
* taking characters off the ends: `dropEnd`, `trim`
* writing numbers: `ofNat`, `ofInt`
* sets of code points: `inBounds`

All recursions are on the list itself.
-/

namespace DocAudit

/-- A text: the characters in order. -/
abbrev Text := List Char

namespace Text

/-! ## Searching -/

/-- `needle` stands somewhere in the text, its characters next to each other. -/
def hasInfix (needle : Text) : Text → Bool
  | [] => needle.isEmpty
  | c :: r => needle.isPrefixOf (c :: r) || hasInfix needle r

/-- **`hasInfix` decides the relation "is a contiguous piece of".** -/
theorem hasInfix_iff {needle s : Text} : hasInfix needle s = true ↔ needle <:+: s := by
  induction s with
  | nil => simp [hasInfix]
  | cons c r ih =>
    rw [hasInfix, Bool.or_eq_true, ih, List.isPrefixOf_iff_prefix]
    exact List.infix_cons_iff.symm

/-! ## Cutting and joining -/

/-- The pieces between the occurrences of `sep`: one piece more than there are occurrences. -/
def splitAt (sep : Char) : Text → List Text
  | [] => [[]]
  | c :: r =>
    if c = sep then [] :: splitAt sep r
    else match splitAt sep r with
      | [] => [[c]]
      | first :: rest => (c :: first) :: rest

/-- There is always a first piece. -/
theorem splitAt_ne_nil (sep : Char) (s : Text) : splitAt sep s ≠ [] := by
  cases s with
  | nil => simp [splitAt]
  | cons c r =>
    rw [splitAt]
    split
    · simp
    · split <;> simp

/-- The pieces one after the other, with `sep` between any two. -/
def joinWith (sep : Text) : List Text → Text
  | [] => []
  | [piece] => piece
  | piece :: next :: rest => piece ++ sep ++ joinWith sep (next :: rest)

/-- The part before the first `sep` and the part after it, when there is one. -/
def cut (sep : Char) : Text → Option (Text × Text)
  | [] => none
  | c :: r =>
    if c = sep then some ([], r)
    else (cut sep r).map fun (before, after) => (c :: before, after)

/-- **Joining the pieces with the separator gives the text back.** -/
theorem joinWith_splitAt (sep : Char) (s : Text) : joinWith [sep] (splitAt sep s) = s := by
  induction s with
  | nil => rfl
  | cons c r ih =>
    rw [splitAt]
    split
    · next h =>
      cases hs : splitAt sep r with
      | nil => exact absurd hs (splitAt_ne_nil sep r)
      | cons first rest => rw [hs] at ih; simp [joinWith, ih, h]
    · cases hs : splitAt sep r with
      | nil => exact absurd hs (splitAt_ne_nil sep r)
      | cons first rest =>
        rw [hs] at ih
        cases rest with
        | nil => simpa [joinWith] using ih
        | cons second rest => simpa [joinWith] using ih

/-- Every occurrence of `old` replaced by the text `new`. -/
def replace (old : Char) (new : Text) (s : Text) : Text :=
  s.flatMap fun c => if c = old then new else [c]

/-! ## The ends of a text -/

/-- The text without the characters of the class `p` at its end. -/
def dropEnd (p : Char → Bool) (s : Text) : Text :=
  (s.reverse.dropWhile p).reverse

/-- The text without the characters of the class `p` at either end. -/
def trim (p : Char → Bool) (s : Text) : Text :=
  dropEnd p (s.dropWhile p)

/-- The text starts with one of the given texts. -/
def startsWithAny (starts : List Text) (s : Text) : Bool :=
  starts.any fun start => start.isPrefixOf s

/-! ## Numbers -/

/-- A natural number in decimal digits. -/
def ofNat (n : Nat) : Text := Nat.toDigits 10 n

/-- A whole number in decimal digits, with a sign only when it is negative. -/
def ofInt : Int → Text
  | .ofNat n => ofNat n
  | .negSucc n => '-' :: ofNat (n + 1)

/-! ## Order -/

/-- Texts in the order of their code points, a proper beginning first. -/
def le : Text → Text → Bool
  | [], _ => true
  | _ :: _, [] => false
  | a :: s, b :: t => if a = b then le s t else a.val < b.val

/-! ## Sets of numbers by their boundaries

A set of natural numbers is written as the ascending list of the numbers at which membership
changes. A number is a member when the last boundary at or below it opens a run. -/

/-- Membership in the set with the given boundaries. -/
def inBounds : List Nat → Nat → Bool
  | [], _ => false
  | [first], n => first ≤ n
  | first :: stop :: rest, n =>
    if n < first then false else if n < stop then true else inBounds rest n

/-- Below the first boundary nothing is a member. -/
theorem inBounds_eq_false_of_lt {first n : Nat} {rest : List Nat} (h : n < first) :
    inBounds (first :: rest) n = false := by
  cases rest with
  | nil => simp [inBounds]; omega
  | cons stop rest => simp [inBounds, h]

end Text

end DocAudit
