import DocAudit.Shell.Machine
import DocAudit.Shell.Number

/-!
# Shell arithmetic

Whole numbers, names of variables and signs between them. Stronger signs bind first, and signs of the same
strength from left to right; an assignment binds last. Numbers wrap around at 64 bits. What a condition
does not choose is read but has no effect.

## Contents

* `Arithmetic.Symbol`, `Arithmetic.symbols`
* `Arithmetic.value`: the value of an expression

## Termination

The readers of operands call each other; a number bounds the calls, of which each symbol allows a few.
-/

namespace DocAudit.Shell.Arithmetic

open Text

/-- A symbol of an expression. -/
inductive Symbol
  | number (n : Int)
  | name (s : Raw)
  | sign (s : String)
  /-- A character that belongs to no symbol. -/
  | stray
  | ending
  deriving DecidableEq, Repr

/-- The signs, longer ones first. -/
def signs : List String :=
  ["<<=", ">>=", "<<", ">>", "<=", ">=", "==", "!=", "&&", "||", "*=", "/=", "%=", "+=", "-=", "&=", "^=",
    "|=", "<", ">", "+", "-", "*", "/", "%", "&", "|", "^", "!", "~", "(", ")", "?", ":", "="]

/-- The symbols of an expression, of which the number bounds the length. After a stray character nothing
is read. -/
def symbols : Nat → Raw → List Symbol
  | 0, _ => []
  | _ + 1, [] => []
  | n + 1, c :: r =>
    if c == ' ' || c == '\t' || c == '\n' then symbols n r
    else if c.isDigit then
      match Number.leading? 0 (c :: r) with
      | some l => .number l.value :: symbols n l.rest
      | none => [.stray]
    else if startsName c then
      .name ((c :: r).takeWhile isNameChar) :: symbols n ((c :: r).dropWhile isNameChar)
    else match signs.find? fun s => s.toList.isPrefixOf (c :: r) with
      | some s => .sign s :: symbols n ((c :: r).drop s.length)
      | none => [.stray]

/-- What is left of an expression, and the symbol that was read last. -/
structure State where
  expression : Raw
  rest : List Symbol
  last : Symbol := .ending

/-- Reading an expression and finding its value. -/
abbrev Evaluation := StateT State Act

/-- The next symbol. -/
def nextSymbol : Evaluation Symbol := do
  let s ← get
  match s.rest with
  | [] =>
    set { s with last := .ending }
    return .ending
  | [.stray] =>
    set { s with last := .stray }
    return .stray
  | symbol :: rest =>
    set { s with rest, last := symbol }
    return symbol

/-- A fault of the expression. -/
def fail {α : Type} (what : String) : Evaluation α := do
  let s ← get
  Act.fault (raw "arithmetic expression: " ++ raw what ++ raw ": \"" ++ s.expression ++ ['"'])

/-- A truth value as a number. -/
def truth (b : Bool) : Int := if b then 1 else 0

/-- How strongly a sign between two operands binds: the less, the more strongly. -/
def strength? (sign : String) : Option Nat :=
  match sign with
  | "*" => some 0
  | "/" => some 0
  | "%" => some 0
  | "+" => some 1
  | "-" => some 1
  | "<<" => some 2
  | ">>" => some 2
  | "<" => some 3
  | "<=" => some 3
  | ">" => some 3
  | ">=" => some 3
  | "==" => some 4
  | "!=" => some 4
  | "&" => some 5
  | "^" => some 6
  | "|" => some 7
  | _ => none

/-- How strongly a symbol binds, if it is a sign between two operands. -/
def Symbol.strength? : Symbol → Option Nat
  | .sign s => Arithmetic.strength? s
  | _ => none

/-- The value of a sign between two numbers. -/
def apply (sign : String) (a b : Int) : Evaluation Int :=
  match sign with
  | "|" => return Number.wrap (Number.bits a ||| Number.bits b)
  | "^" => return Number.wrap (Number.bits a ^^^ Number.bits b)
  | "&" => return Number.wrap (Number.bits a &&& Number.bits b)
  | "==" => return truth (a == b)
  | "!=" => return truth (a != b)
  | "<" => return truth (a < b)
  | "<=" => return truth (a ≤ b)
  | ">" => return truth (a > b)
  | ">=" => return truth (a ≥ b)
  | "<<" => return Number.wrap (a * Nat.pow 2 (Number.bits b % 64))
  | ">>" => return a / Nat.pow 2 (Number.bits b % 64)
  | "+" => return Number.wrap (a + b)
  | "-" => return Number.wrap (a - b)
  | "*" => return Number.wrap (a * b)
  | "/" => if b = 0 then fail "division by zero" else return Number.wrap (Int.tdiv a b)
  | "%" => if b = 0 then fail "division by zero" else return Int.tmod a b
  | _ => fail "expecting primary"

/-- The number that a variable holds. -/
def numberOf (name : Raw) : Act Int := do
  let v := (← Act.value? name).getD []
  let illegal : Act Int := Act.fault (raw "Illegal number: " ++ v)
  match Number.leading? 0 v with
  | some l => if l.tooGreat || !(l.rest.dropWhile Raw.isSpace).isEmpty then illegal else return l.value
  | none => if (v.dropWhile Raw.isSpace).isEmpty then return 0 else illegal

mutual

/-- An operand, of which the first symbol and the one after it have been read. -/
def operand : Nat → (idle : Bool) → Symbol → Symbol → Evaluation Int
  | 0, _, _, _ => fail "expecting primary"
  | n + 1, idle, symbol, next => do
    match symbol with
    | .sign "(" =>
      let v ← assignment n idle next
      if (← get).last != .sign ")" then fail "expecting ')'"
      let _ ← nextSymbol
      return v
    | .number v =>
      modify fun s => { s with last := next }
      return v
    | .name name =>
      modify fun s => { s with last := next }
      if idle then return 0 else numberOf name
    | .sign "+" => operand n idle next (← nextSymbol)
    | .sign "-" => return Number.wrap (-(← operand n idle next (← nextSymbol)))
    | .sign "!" => return truth ((← operand n idle next (← nextSymbol)) == 0)
    | .sign "~" => return -(← operand n idle next (← nextSymbol)) - 1
    | _ => fail "expecting primary"

/-- Operands with signs between them that bind more strongly than the last number says. -/
def operands : Nat → (idle : Bool) → Int → String → (weakest : Nat) → Evaluation Int
  | 0, _, _, _, _ => fail "expecting primary"
  | n + 1, idle, a, sign, weakest => do
    let symbol ← nextSymbol
    let b ← operand n idle symbol (← nextSymbol)
    let here := (strength? sign).getD 0
    let b ← match (← get).last with
      | .sign s => if (strength? s).any (· < here) then operands n idle b s here else pure b
      | _ => pure b
    let a ← if idle then pure b else apply sign a b
    match (← get).last with
    | .sign s => if (strength? s).any (· < weakest) then operands n idle a s weakest else return a
    | _ => return a

/-- Operands with signs between them that bind more strongly than `&&`. -/
def comparison : Nat → (idle : Bool) → Symbol → Symbol → Evaluation Int
  | 0, _, _, _ => fail "expecting primary"
  | n + 1, idle, symbol, next => do
    let a ← operand n idle symbol next
    match (← get).last with
    | .sign s => if (strength? s).isSome then operands n idle a s 8 else return a
    | _ => return a

/-- Operands joined by `&&`. -/
def conjunction : Nat → (idle : Bool) → Symbol → Symbol → Evaluation Int
  | 0, _, _, _ => fail "expecting primary"
  | n + 1, idle, symbol, next => do
    let a ← comparison n idle symbol next
    if (← get).last != .sign "&&" then return a
    let symbol ← nextSymbol
    let b ← conjunction n (idle || a == 0) symbol (← nextSymbol)
    return truth (a != 0 && b != 0)

/-- Operands joined by `||`. -/
def disjunction : Nat → (idle : Bool) → Symbol → Symbol → Evaluation Int
  | 0, _, _, _ => fail "expecting primary"
  | n + 1, idle, symbol, next => do
    let a ← conjunction n idle symbol next
    if (← get).last != .sign "||" then return a
    let symbol ← nextSymbol
    let b ← disjunction n (idle || a != 0) symbol (← nextSymbol)
    return truth (a != 0 || b != 0)

/-- A choice between two operands. -/
def choice : Nat → (idle : Bool) → Symbol → Symbol → Evaluation Int
  | 0, _, _, _ => fail "expecting primary"
  | n + 1, idle, symbol, next => do
    let a ← disjunction n idle symbol next
    if (← get).last != .sign "?" then return a
    let b ← assignment n (idle || a == 0) (← nextSymbol)
    if (← get).last != .sign ":" then fail "expecting ':'"
    let symbol ← nextSymbol
    let c ← choice n (idle || a != 0) symbol (← nextSymbol)
    return if a != 0 then b else c

/-- An assignment, or an expression without one. -/
def assignment : Nat → (idle : Bool) → Symbol → Evaluation Int
  | 0, _, _ => fail "expecting primary"
  | n + 1, idle, symbol => do
    let next ← nextSymbol
    match symbol, next with
    | .name name, .sign s =>
      if ["=", "*=", "/=", "%=", "+=", "-=", "<<=", ">>=", "&=", "^=", "|="].contains s then
        let v ← assignment n idle (← nextSymbol)
        if idle then return v
        let v ← if s == "=" then pure v else
          apply (String.ofList (s.toList.dropLast)) (← numberOf name) v
        Act.assign name (ofInt v)
        return v
      else choice n idle symbol next
    | _, _ => choice n idle symbol next

end

/-- The value of an expression. -/
def value (expression : Raw) : Act Int := do
  let all := symbols (expression.length + 1) expression
  let evaluation : Evaluation Int := do
    let v ← assignment (16 * all.length + 64) false (← nextSymbol)
    if (← get).last != .ending then fail "expecting EOF"
    return v
  return (← evaluation.run { expression, rest := all }).1

end DocAudit.Shell.Arithmetic
