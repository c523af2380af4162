import DocAudit.Shell.Awk.Token
import DocAudit.Shell.Expression

/-!
# Patterns of awk programs

Patterns see bytes. They are written as extended expressions in which a backslash announces the same
characters as in texts, also inside of sets.

## Contents

* `Awk.units`: bytes as units
* `Awk.readPattern`: the expression of a text, or why there is none

## Termination

The functions call each other with a number that becomes smaller and bounds how deep the pattern can be.
-/

namespace DocAudit.Shell.Awk

open Text

/-- A byte as a unit. -/
def unitOf (c : Char) : Raw.Unit := { char := some c, bytes := [c] }

/-- Bytes as units. -/
def units (s : Raw) : List Raw.Unit := s.map unitOf

namespace Pattern

/-- Why a text is no pattern. -/
def missingOperand : Raw := raw "missing operand"

/-- A reading of a pattern: what is left, and the number of parentheses that are open. -/
abbrev Reader := StateT Raw (Except Raw)

/-- What a backslash announces inside of a pattern, and what follows. -/
def escape (s : Raw) : Char × Raw :=
  let one := fun (k : Nat) => unescaped 2 ('\\' :: s.take k)
  match s with
  | [] => ('\\', [])
  | c :: rest =>
    let isOctal (c : Char) : Bool := '0' ≤ c && c ≤ '7'
    let isHex (c : Char) : Bool := (Number.digit? c).any (· < 16)
    if isOctal c then
      let ds := (s.take 3).takeWhile isOctal
      ((one ds.length).headD '\\', s.drop ds.length)
    else if c == 'x' && rest.head?.any isHex then
      let ds := (rest.take 2).takeWhile isHex
      ((one (ds.length + 1)).headD '\\', rest.drop ds.length)
    else if "abfnrtv".toList.contains c then ((one 1).headD '\\', rest)
    else (c, rest)

/-- The name of a class between colons, and what follows its bracket. -/
def className? (s : Raw) : Option (Expression.Kind × Raw) := do
  let name := s.takeWhile Char.isAlpha
  let kind ← Expression.Kind.ofName? name
  match s.drop name.length with
  | ':' :: ']' :: rest => return (kind, rest)
  | _ => none

/-- The items of a set up to its closing bracket, and what follows. The number bounds the length. -/
def items : Nat → (first : Bool) → (soFar : List Expression.Item) → Raw →
    Except Raw (List Expression.Item × Raw)
  | 0, _, _, _ => bad
  | n + 1, first, soFar, s =>
    match s with
    | [] => bad
    | ']' :: rest => if first then element n soFar ']' rest else .ok (soFar.reverse, rest)
    | '[' :: ':' :: rest =>
      match className? rest with
      | some (kind, rest) => items n false (.kind kind :: soFar) rest
      | none => element n soFar '[' (':' :: rest)
    | '\\' :: rest =>
      if rest.isEmpty then bad
      else
        let (c, rest) := escape rest
        element n soFar c rest
    | c :: rest => element n soFar c rest
where
  /-- The set does not end. -/
  bad : Except Raw (List Expression.Item × Raw) := .error (raw "bad class -- [], [^] or [")
  /-- A character, which may begin a range. -/
  element (n : Nat) (soFar : List Expression.Item) (c : Char) (rest : Raw) :
      Except Raw (List Expression.Item × Raw) :=
    match rest with
    | '-' :: ']' :: _ => items n false (.unit (unitOf c) :: soFar) rest
    | '-' :: '\\' :: after =>
      let (d, after) := escape after
      items n false (.range c d :: soFar) after
    | '-' :: d :: after => items n false (.range c d :: soFar) after
    | _ => items n false (.unit (unitOf c) :: soFar) rest

/-- Numbers in braces, and what follows. -/
def bounds? (s : Raw) : Option (Nat × Option Nat × Raw) :=
  let low := s.takeWhile Char.isDigit
  match s.drop low.length with
  | '\x7d' :: rest => (Raw.nat? low).map fun n => (n, some n, rest)
  | ',' :: rest =>
    let high := rest.takeWhile Char.isDigit
    match rest.drop high.length with
    | '\x7d' :: rest =>
      if low.isEmpty && high.isEmpty then none else some ((Raw.nat? low).getD 0, Raw.nat? high, rest)
    | _ => none
  | _ => none

/-- An expression with the signs behind it that repeat it. The number bounds them. -/
def repeats : Nat → Expression → Reader Expression
  | 0, e => return e
  | n + 1, e => do
    match ← get with
    | '*' :: rest =>
      set rest
      repeats n (.repeated e 0 none)
    | '+' :: rest =>
      set rest
      repeats n (.repeated e 1 none)
    | '?' :: rest =>
      set rest
      repeats n (.repeated e 0 (some 1))
    | '\x7b' :: rest =>
      match bounds? rest with
      | some (least, most, rest) =>
        set rest
        repeats n (.repeated e least most)
      | none => return e
    | _ => return e

/-- The end of expressions one after the other. -/
def ended (soFar : Option Expression) : Reader Expression :=
  match soFar with
  | some e => return e
  | none => throw missingOperand

mutual

/-- Expressions of which one matches. -/
def alternatives : Nat → (depth : Nat) → Reader Expression
  | 0, _ => throw (raw "too deep")
  | n + 1, depth => do
    let first ← branch n depth none
    match ← get with
    | '|' :: rest =>
      set rest
      if depth > 0 && rest.head? == some ')' then return .alt first .empty
      return .alt first (← alternatives n depth)
    | _ => return first

/-- Expressions one after the other. -/
def branch : Nat → (depth : Nat) → Option Expression → Reader Expression
  | 0, _, _ => throw (raw "too deep")
  | n + 1, depth, soFar => do
    match ← get with
    | [] =>
      if soFar.isNone && depth > 0 then throw (raw "missing ')'")
      ended soFar
    | '|' :: _ => ended soFar
    | c :: _ =>
      if c == ')' && depth > 0 then ended soFar
      else
        let e ← atom n depth
        let repeatable := match e with
          | .assertion _ => false
          | _ => true
        if !repeatable && ((← get).head?.any fun c => c == '*' || c == '+') && c == '^' then
          throw (raw "syntax error ^* or ^+")
        let e ← repeats n e
        branch n depth (some (match soFar with
          | some before => .seq before e
          | none => e))

/-- A single expression. -/
def atom : Nat → (depth : Nat) → Reader Expression
  | 0, _ => throw (raw "too deep")
  | n + 1, depth => do
    match ← get with
    | [] => throw missingOperand
    | c :: rest =>
      set rest
      match c with
      | '.' => return .any
      | '^' => return .assertion .textStart
      | '$' => return .assertion .textEnd
      | '[' =>
        let (negated, rest) := match rest with
          | '^' :: rest => (true, rest)
          | rest => (false, rest)
        let (items, rest) ← (items (rest.length + 1) true [] rest : Except Raw _)
        set rest
        return .set negated items
      | '(' =>
        let e ← alternatives n (depth + 1)
        match ← get with
        | ')' :: rest =>
          set rest
          return .group 0 e
        | _ => throw (raw "missing ')'")
      | '\\' =>
        let (c, rest) := escape rest
        set rest
        return .unit (unitOf c)
      | c =>
        if c == '*' || c == '+' || c == '?' then throw missingOperand
        return .unit (unitOf c)

end

end Pattern

/-- The expression of a text. -/
def readPattern (s : Raw) : Except Raw Expression :=
  if s.isEmpty then .ok .empty
  else ((Pattern.alternatives (4 * s.length + 10) 0).run s).map (·.1)

end DocAudit.Shell.Awk
