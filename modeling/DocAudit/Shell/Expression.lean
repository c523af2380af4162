import DocAudit.Shell.Raw
import DocAudit.Text.Case
import DocAudit.Text.Classes

/-!
# Expressions for lines

The expressions by which tools search lines. Of all matches the first one counts, of those the longest one,
and inside of it the parts in front are as long as they can be.

## Contents

* `Kind`, `Item`: classes and sets of characters
* `Expression`: expressions
* `Spot`: a place in a line, with what the groups have matched
* `Expression.run`: the places to which an expression leads
* `Expression.find?`: the match that counts

## Termination

`Expression.run` follows the expression. A repetition goes from place to place; a number bounds how many of
them are looked at, and a place that has been reached before is left out.
-/

namespace DocAudit.Shell

open Text

namespace Expression

/-- A class of characters. -/
inductive Kind
  | alpha
  | digit
  | alnum
  | upper
  | lower
  | space
  | blank
  | punct
  | print
  | graph
  | cntrl
  | xdigit
  deriving DecidableEq, Repr

namespace Kind

/-- The class of a name. -/
def ofName? (s : Raw) : Option Kind :=
  match String.ofList s with
  | "alpha" => some .alpha
  | "digit" => some .digit
  | "alnum" => some .alnum
  | "upper" => some .upper
  | "lower" => some .lower
  | "space" => some .space
  | "blank" => some .blank
  | "punct" => some .punct
  | "print" => some .print
  | "graph" => some .graph
  | "cntrl" => some .cntrl
  | "xdigit" => some .xdigit
  | _ => none

/-- The character is a control character. -/
def isControl (c : Char) : Bool := c.toNat < 32 || (127 ≤ c.toNat && c.toNat < 160)

/-- The character is a blank of some script, where a line may be broken. -/
def isSpace (c : Char) : Bool :=
  let n := c.toNat
  n == 32 || (9 ≤ n && n ≤ 13) || n == 0x1680 || (0x2000 ≤ n && n ≤ 0x200a && n != 0x2007) || n == 0x2028 ||
    n == 0x2029 || n == 0x205f || n == 0x3000

/-- The character is a letter or a digit. -/
def isAlnum (c : Char) : Bool := if c.toNat < 128 then c.isAlphanum else isWord c

/-- The class has the character. -/
def has (k : Kind) (c : Char) : Bool :=
  match k with
  | .alpha => isAlnum c && !isAsciiDigit c
  | .digit => isAsciiDigit c
  | .alnum => isAlnum c
  | .upper => if c.toNat < 128 then c.isUpper else lowerChar c != c
  | .lower => if c.toNat < 128 then c.isLower else upperChar c != [c]
  | .space => isSpace c
  | .blank => c == ' ' || c == '\t' || (128 ≤ c.toNat && isSpace c && c.toNat != 0x2028 && c.toNat != 0x2029)
  | .punct => !isControl c && !isSpace c && !isAlnum c && (c.toNat < 128 || isPrintable c)
  | .print => if c.toNat < 128 then !isControl c else isPrintable c
  | .graph => (if c.toNat < 128 then !isControl c else isPrintable c) && !isSpace c
  | .cntrl => isControl c
  | .xdigit => isAsciiDigit c || ('a' ≤ c && c ≤ 'f') || ('A' ≤ c && c ≤ 'F')

end Kind

/-- What a set of characters lists. -/
inductive Item
  | unit (u : Raw.Unit)
  | range (first last : Char)
  | kind (k : Kind)
  deriving DecidableEq, Repr

/-- The item has the unit. -/
def Item.has : Item → Raw.Unit → Bool
  | .unit u, v => u == v
  | .range first last, v => v.char.any fun c => first ≤ c && c ≤ last
  | .kind k, v => v.char.any k.has

/-- A place between characters that an expression can ask for. -/
inductive Assertion
  | lineStart
  | lineEnd
  | textStart
  | textEnd
  | wordStart
  | wordEnd
  | wordEdge
  | wordInside
  deriving DecidableEq, Repr

end Expression

open Expression in
/-- An expression. -/
inductive Expression
  | empty
  | unit (u : Raw.Unit)
  /-- Any character. -/
  | any
  | set (negated : Bool) (items : List Item)
  | wordChar (negated : Bool)
  | spaceChar (negated : Bool)
  | assertion (a : Assertion)
  | group (number : Nat) (body : Expression)
  /-- What a group has matched. -/
  | back (number : Nat)
  | seq (first second : Expression)
  | alt (first second : Expression)
  | repeated (body : Expression) (least : Nat) (most : Option Nat)
  deriving DecidableEq, Repr, Inhabited

namespace Expression

/-- A place in a line: the number of units before it, the last of them, those that follow, and what the
groups have matched, each with the numbers of units before it begins and ends. -/
structure Spot where
  place : Nat
  before : Option Raw.Unit
  rest : List Raw.Unit
  groups : List (Nat × Nat × Nat) := []
  deriving Repr

/-- How an expression is compared with a text. -/
structure Comparison where
  /-- Upper and lower case are the same. -/
  fold : Bool := false
  /-- Line feeds inside of the text end lines. -/
  lines : Bool := false
  deriving DecidableEq, Repr

namespace Spot

/-- The unit is part of a word. -/
def isWordUnit (u : Option Raw.Unit) : Bool :=
  u.any fun u => u.char.any fun c => Kind.isAlnum c || c == '_'

/-- The place behind one more unit. -/
def next (s : Spot) (u : Raw.Unit) (rest : List Raw.Unit) : Spot :=
  { s with place := s.place + 1, before := some u, rest }

/-- The place behind one more unit of a kind. -/
def step? (s : Spot) (p : Raw.Unit → Bool) : Option Spot :=
  match s.rest with
  | [] => none
  | u :: rest => if p u then some (s.next u rest) else none

/-- The assertion holds at the place. -/
def satisfies (lines : Bool) (s : Spot) (a : Assertion) : Bool :=
  let left := isWordUnit s.before
  let right := isWordUnit s.rest.head?
  match a with
  | .textStart => s.before.isNone
  | .textEnd => s.rest.isEmpty
  | .lineStart => s.before.isNone || (lines && s.before.any (·.char == some '\n'))
  | .lineEnd => s.rest.isEmpty || (lines && s.rest.head?.any (·.char == some '\n'))
  | .wordStart => !left && right
  | .wordEnd => left && !right
  | .wordEdge => left != right
  | .wordInside => left == right

/-- The places are the same. `exact` tells that the groups count. -/
def isSame (exact : Bool) (s t : Spot) : Bool := s.place == t.place && (!exact || s.groups == t.groups)

/-- The places in order, where of those that are the same only the first one is kept. -/
def distinct (exact : Bool) (spots : List Spot) : List Spot :=
  (spots.foldl (fun kept s => if kept.any (isSame exact s) then kept else s :: kept) []).reverse

/-- The same where places that are the same follow each other. -/
def withoutRepeats : List Spot → List Spot
  | s :: t :: rest => if s.place == t.place then withoutRepeats (s :: rest)
    else s :: withoutRepeats (t :: rest)
  | spots => spots
termination_by spots => spots.length

/-- The places with the last one first. -/
def furthestFirst (exact : Bool) (spots : List Spot) : List Spot :=
  match spots with
  | [] => []
  | [s] => [s]
  | spots =>
    let sorted := spots.mergeSort fun a b => b.place ≤ a.place
    if exact then distinct true sorted else withoutRepeats sorted

end Spot

/-- The unit is matched by a test on units, where case may not count. -/
def accepts (fold : Bool) (p : Raw.Unit → Bool) (u : Raw.Unit) : Bool :=
  p u || (fold && u.char.any fun c =>
    let of (d : Char) : Raw.Unit := { char := some d, bytes := Raw.ofText [d] }
    p (of (lowerChar c)) || (upperChar c).length == 1 && (upperChar c).any fun d => p (of d))

/-- The unit is a line feed that ends a line inside of the text. -/
def endsLine (v : Comparison) (u : Raw.Unit) : Bool := v.lines && u.char == some '\n'

/-- The test of an expression that matches single units. -/
def single? (v : Comparison) : Expression → Option (Raw.Unit → Bool)
  | .unit u => some (accepts v.fold (· == u))
  | .any => some fun u => u.char.isSome && !endsLine v u
  | .set negated items => some fun u => u.char.isSome &&
      (accepts v.fold (fun u => items.any (·.has u)) u != negated) && !(negated && endsLine v u)
  | .wordChar negated => some fun u => u.char.isSome && (Spot.isWordUnit (some u) != negated)
  | .spaceChar negated => some fun u => u.char.isSome && (u.char.any Kind.isSpace != negated)
  | _ => none

/-- The place behind a unit that the expression matches. -/
def stepBy (v : Comparison) (e : Expression) (s : Spot) : List Spot :=
  match e.single? v with
  | some p => (s.step? p).toList
  | none => []

/-- The expression refers to what a group has matched. -/
def looksBack : Expression → Bool
  | .back _ => true
  | .group _ body => body.looksBack
  | .seq a b => a.looksBack || b.looksBack
  | .alt a b => a.looksBack || b.looksBack
  | .repeated body _ _ => body.looksBack
  | _ => false

/-- The places behind units of a kind that follow each other, the furthest one first. -/
def runOf (p : Raw.Unit → Bool) : (most : Option Nat) → (soFar : List Spot) → Spot → List Raw.Unit → List Spot
  | _, soFar, s, [] => s :: soFar
  | some 0, soFar, s, _ => s :: soFar
  | most, soFar, s, u :: rest =>
    if p u then runOf p (most.map (· - 1)) (s :: soFar) (s.next u rest) rest else s :: soFar

/-- The places that are reached from some places by steps, in the order in which they are found. The first
number bounds how many are looked at, the second one how many steps lead to one. -/
def closure (exact : Bool) (step : Spot → List Spot) :
    Nat → (seen : List Spot) → List (Spot × Option Nat) → List Spot
  | 0, _, _ => []
  | _, _, [] => []
  | n + 1, seen, (s, left) :: rest =>
    if left.isNone && seen.any fun t => t.place == s.place && (!exact || t.groups == s.groups) then
      closure exact step n seen rest
    else
      let more : List Spot := if left == some 0 then [] else (step s).filter fun t => t.place != s.place
      s :: closure exact step n (s :: seen) (more.map (fun t => (t, left.map (· - 1))) ++ rest)

/-- So many steps from places. -/
def stepsFrom (exact : Bool) (step : Spot → List Spot) : Nat → List Spot → List Spot
  | 0, spots => spots
  | n + 1, spots => stepsFrom exact step n (Spot.distinct exact (spots.flatMap step))

/-- The units of a text from one place to another. -/
def between (whole : List Raw.Unit) (first last : Nat) : List Raw.Unit :=
  (whole.drop first).take (last - first)

/-- The place behind a text. -/
def follow (fold : Bool) : List Raw.Unit → Spot → Option Spot
  | [], s => some s
  | u :: us, s => (s.step? (accepts fold (· == u))).bind (follow fold us)

/-- The places to which the expression leads from a place, the furthest one first. -/
def run (v : Comparison) (exact : Bool) (whole : List Raw.Unit) : Expression → Spot → List Spot
  | .empty, s => [s]
  | .unit u, s => stepBy v (.unit u) s
  | .any, s => stepBy v .any s
  | .set negated items, s => stepBy v (.set negated items) s
  | .wordChar negated, s => stepBy v (.wordChar negated) s
  | .spaceChar negated, s => stepBy v (.spaceChar negated) s
  | .assertion a, s => if s.satisfies v.lines a then [s] else []
  | .group n body, s =>
    (run v exact whole body s).map fun t =>
      { t with groups := (n, s.place, t.place) :: t.groups.filter (·.1 != n) }
  | .back n, s => match s.groups.lookup n with
    | some (first, last) => (follow v.fold (between whole first last) s).toList
    | none => []
  | .seq a b, s => Spot.furthestFirst exact ((run v exact whole a s).flatMap (run v exact whole b))
  | .alt a b, s => Spot.furthestFirst exact (run v exact whole a s ++ run v exact whole b s)
  | .repeated body least most, s =>
    match if least == 0 then body.single? v else none with
    | some p => runOf p most [] s s.rest
    | none =>
      let starts := stepsFrom exact (run v exact whole body) least [s]
      let left := most.map (· - least)
      let size := s.rest.length + 2
      Spot.furthestFirst exact
        (closure exact (run v exact whole body) (4 * size * size) [] (starts.map fun t => (t, left)))

/-- A match: the numbers of units before it begins and ends, and the same for its groups. -/
structure Match where
  first : Nat
  last : Nat
  groups : List (Nat × Nat × Nat)
  deriving DecidableEq, Repr

/-- The matches at a place, the longest one first. -/
def matchesAt (e : Expression) (v : Comparison) (whole : List Raw.Unit) (s : Spot) : List Match :=
  (Spot.furthestFirst e.looksBack (run v e.looksBack whole e s)).map fun t =>
    { first := s.place, last := t.place, groups := t.groups }

/-- The first match from a place on that is good, and the longest of those. -/
def findFrom (e : Expression) (v : Comparison) (good : Match → Bool) (whole : List Raw.Unit) :
    (place : Nat) → (before : Option Raw.Unit) → List Raw.Unit → Option Match
  | place, before, [] =>
    (e.matchesAt v whole { place, before, rest := [] }).find? good
  | place, before, u :: rest =>
    match (e.matchesAt v whole { place, before, rest := u :: rest }).find? good with
    | some m => some m
    | none => findFrom e v good whole (place + 1) (some u) rest

/-- The match in a text that counts, from so many units on. -/
def find? (e : Expression) (v : Comparison) (whole : List Raw.Unit) (start : Nat := 0)
    (good : Match → Bool := fun _ => true) : Option Match :=
  let before := if start == 0 then none else whole[start - 1]?
  findFrom e v good whole start before (whole.drop start)

end Expression

end DocAudit.Shell
