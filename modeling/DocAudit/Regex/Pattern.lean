import DocAudit.Text.Case
import DocAudit.Text.Blank
import DocAudit.Text.Classes

/-!
# Regular expressions

The tree of an expression. What a letter or an anchor means depends on modes, which a part of the tree
can turn on and off for itself.

## Contents

* `Modes`, `Category`, `SetItem`, `Anchor`: what single positions can match
* `Regex`
* `Regex.width`: the least and the greatest number of characters that it matches
* `Regex.hasRepetition`, `Regex.depth`
-/

namespace DocAudit

open Text

/-- The modes of matching. -/
structure Modes where
  ignoreCase : Bool := false
  ascii : Bool := false
  multiLine : Bool := false
  dotAll : Bool := false
  verbose : Bool := false
  /-- Nothing may be repeated. -/
  rigid : Bool := false
  deriving DecidableEq, Repr, Inhabited

namespace Modes

/-- The modes of both. -/
def union (a b : Modes) : Modes where
  ignoreCase := a.ignoreCase || b.ignoreCase
  ascii := a.ascii || b.ascii
  multiLine := a.multiLine || b.multiLine
  dotAll := a.dotAll || b.dotAll
  verbose := a.verbose || b.verbose
  rigid := a.rigid || b.rigid

/-- The modes of `a` that are not modes of `b`. -/
def without (a b : Modes) : Modes where
  ignoreCase := a.ignoreCase && !b.ignoreCase
  ascii := a.ascii && !b.ascii
  multiLine := a.multiLine && !b.multiLine
  dotAll := a.dotAll && !b.dotAll
  verbose := a.verbose && !b.verbose
  rigid := a.rigid && !b.rigid

/-- No mode at all. -/
def isNone (a : Modes) : Bool := a == {}

end Modes

/-- Classes of characters that have a name. -/
inductive Category
  | digit
  | space
  | word
  deriving DecidableEq, Repr

/-- Membership in a class; in ASCII mode only its ASCII members count. -/
def Category.holds (k : Category) (ascii : Bool) (c : Char) : Bool :=
  if ascii then
    c.toNat < 0x80 && match k with
      | .digit => c.isDigit
      | .space => (0x09 ≤ c.toNat && c.toNat ≤ 0x0D) || c == ' '
      | .word => c.isAlphanum || c == '_'
  else match k with
    | .digit => isDigit c
    | .space => isBlank c
    | .word => isWord c

/-- A part of a set of characters. -/
inductive SetItem
  | range (low high : Nat)
  | category (negated : Bool) (k : Category)
  deriving DecidableEq, Repr

/-- The spellings of a letter that count as one in the given modes. -/
def Modes.spellings (m : Modes) (n : Nat) : List Nat :=
  if !m.ignoreCase then [n]
  else if m.ascii then
    (if 0x41 ≤ n && n ≤ 0x5A then [n, n + 0x20] else if 0x61 ≤ n && n ≤ 0x7A then [n, n - 0x20] else [n])
  else Text.spellings n

/-- Membership in a part of a set. -/
def SetItem.holds (m : Modes) (c : Char) : SetItem → Bool
  | .range low high => (m.spellings c.toNat).any fun n => low ≤ n && n ≤ high
  | .category negated k => k.holds m.ascii c != negated

/-- Positions between characters. -/
inductive Anchor
  | lineStart
  | lineEnd
  | textStart
  | textEnd
  | wordEdge
  | noWordEdge
  deriving DecidableEq, Repr

/-- How a repetition takes its turns: as many as possible, as few as possible, or as many as possible
without ever giving one back. -/
inductive Appetite
  | greedy
  | lazy
  | possessive
  deriving DecidableEq, Repr

/-- A regular expression. -/
inductive Regex
  | empty
  | set (negated : Bool) (items : List SetItem)
  | any
  | anchor (a : Anchor)
  | seq (first second : Regex)
  | alt (first second : Regex)
  | repeated (appetite : Appetite) (least : Nat) (most : Option Nat) (body : Regex)
  | capture (group : Nat) (body : Regex)
  | scoped (on off : Modes) (body : Regex)
  | atomic (body : Regex)
  | same (group : Nat)
  | ahead (negated : Bool) (body : Regex)
  | behind (negated : Bool) (width : Nat) (body : Regex)
  | whether (group : Nat) (yes no : Regex)
  deriving Repr, Inhabited

namespace Regex

/-- One character. -/
def char (n : Nat) : Regex := .set false [.range n n]

/-- Parts one after the other. -/
def ofList : List Regex → Regex
  | [] => .empty
  | [r] => r
  | r :: rest => .seq r (ofList rest)

/-- One of several branches, the earlier ones first. -/
def ofBranches : List Regex → Regex
  | [] => .empty
  | [r] => r
  | r :: rest => .alt r (ofBranches rest)

/-- A product in which nothing bounds the second factor. -/
def times (n : Nat) : Option Nat → Option Nat
  | none => if n = 0 then some 0 else none
  | some k => some (n * k)

/-- The least and the greatest number of characters that an expression matches, given those of the
groups. -/
def width (groups : Nat → Nat × Option Nat) : Regex → Nat × Option Nat
  | .empty => (0, some 0)
  | .set _ _ => (1, some 1)
  | .any => (1, some 1)
  | .anchor _ => (0, some 0)
  | .seq r s =>
    let (a, b) := width groups r
    let (c, d) := width groups s
    (a + c, b.bind fun b => d.map (b + ·))
  | .alt r s =>
    let (a, b) := width groups r
    let (c, d) := width groups s
    (min a c, b.bind fun b => d.map (max b ·))
  | .repeated _ least most body =>
    let (a, b) := width groups body
    (a * least, match b with
      | some b => times b most
      | none => if most = some 0 then some 0 else none)
  | .capture _ body => width groups body
  | .scoped _ _ body => width groups body
  | .atomic body => width groups body
  | .same group => groups group
  | .ahead _ _ => (0, some 0)
  | .behind _ _ _ => (0, some 0)
  | .whether _ yes no =>
    let (a, b) := width groups yes
    let (c, d) := width groups no
    (min a c, b.bind fun b => d.map (max b ·))

/-- Something is repeated in the expression. -/
def hasRepetition : Regex → Bool
  | .repeated _ _ _ _ => true
  | .seq r s => hasRepetition r || hasRepetition s
  | .alt r s => hasRepetition r || hasRepetition s
  | .capture _ body => hasRepetition body
  | .scoped _ _ body => hasRepetition body
  | .atomic body => hasRepetition body
  | .ahead _ body => hasRepetition body
  | .behind _ _ body => hasRepetition body
  | .whether _ yes no => hasRepetition yes || hasRepetition no
  | _ => false

/-- There are alternatives at the top of the expression. -/
def isAlt : Regex → Bool
  | .alt _ _ => true
  | _ => false

/-- How deep parts stand in parts. Further alternatives stand beside the first one, and a group that
changes nothing does not count. -/
def depth : Regex → Nat
  | .seq r s => max (depth r) (depth s)
  | .alt r s => max (depth r + 1) (depth s + if s.isAlt then 0 else 1)
  | .repeated _ _ _ body => depth body + 1
  | .capture _ body => depth body + 1
  | .scoped on off body => depth body + (if on.isNone && off.isNone then 0 else 1)
  | .atomic body => depth body + 1
  | .ahead _ body => depth body + 1
  | .behind _ _ body => depth body + 1
  | .whether _ yes no => max (depth yes) (depth no) + 1
  | _ => 0

end Regex

end DocAudit
