import DocAudit.Shell.Conditions
import DocAudit.Shell.Options

/-!
# Conditions as programs

The programs of conditions read their words by rules of their own: up to four words are taken by their
number.

## Contents

* `Check`: reading conditions
* `testTool`, `bracketTool`
-/

namespace DocAudit.Shell.Tool

open Text Act

/-- Reading conditions: the words that are left. -/
abbrev Check := StateT (List Raw) Act

namespace Check

/-- The end because of words that mean nothing. -/
def fail {α : Type} (s : Raw) : Check α := giveUp 2 s

/-- The next word is passed. -/
def advance : Check Unit := modify (·.drop 1)

/-- The complaint about a word behind which one is missing. -/
def beyond {α : Type} (s : Raw) : Check α := fail (raw "missing argument after " ++ Quoted.between s)

/-- The next word, which must be there. -/
def word (before : Raw) : Check Raw := do
  match ← get with
  | [] => beyond before
  | w :: rest =>
    set rest
    return w

/-- A word as a number, which may have blanks around it. -/
def number (s : Raw) : Check Int := do
  match Raw.int? (trim Raw.isSpace s) with
  | some n => return n
  | none => fail (raw "invalid integer " ++ Quoted.between s)

/-- The word is an operator between two words. -/
def isBinary (s : Raw) : Bool :=
  ["=", "!=", "==", "-eq", "-ne", "-lt", "-le", "-gt", "-ge", "-nt", "-ot", "-ef", "<",
    ">"].contains (String.ofList s)

/-- The value of an operator between two words. -/
def binary : Check Bool := do
  let first ← word []
  let operator ← word first
  let second ← word operator
  let numbers (f : Int → Int → Bool) : Check Bool := do
    let a ← number first
    let b ← number second
    return f a b
  match String.ofList operator with
  | "=" => return first == second
  | "==" => return first == second
  | "!=" => return first != second
  | "<" => return !le second first
  | ">" => return !le first second
  | "-eq" => numbers fun a b => a == b
  | "-ne" => numbers fun a b => a != b
  | "-lt" => numbers fun a b => a < b
  | "-le" => numbers fun a b => a ≤ b
  | "-gt" => numbers fun a b => a > b
  | "-ge" => numbers fun a b => a ≥ b
  | _ => Condition.between operator first second

/-- The value of an operator in front of a word. -/
def unary : Check Bool := do
  let operator ← word []
  if !(operator.length == 2 && "abcdefghkLnNoOprsStuwxzG".toList.contains (operator.getD 1 ' ')) then
    fail (Quoted.between operator ++ raw ": unary operator expected")
  let operand ← word operator
  match String.ofList operator with
  | "-t" =>
    let _ ← number operand
    return false
  | "-a" => Condition.holdsOfFile (raw "-e") operand
  | "-o" => return false
  | "-N" => Condition.holdsOfFile (raw "-e") operand
  | _ => Condition.before operator operand

/-- The value of one word. -/
def one : Check Bool := return !(← word []).isEmpty

/-- The value of two words. -/
def two : Check Bool := do
  match ← get with
  | ['!'] :: _ =>
    advance
    return !(← one)
  | first :: rest =>
    match first with
    | ['-', _] => unary
    | _ => beyond ((rest.head?).getD first)
  | [] => beyond []

mutual

/-- Conditions of which one must hold. The number bounds the words. -/
def disjunction : Nat → Check Bool
  | 0 => return false
  | n + 1 => do
    let v ← conjunction n
    match ← get with
    | ['-', 'o'] :: _ =>
      advance
      let w ← disjunction n
      return v || w
    | _ => return v

/-- Conditions of which all must hold. -/
def conjunction : Nat → Check Bool
  | 0 => return false
  | n + 1 => do
    let v ← term n
    match ← get with
    | ['-', 'a'] :: _ =>
      advance
      let w ← conjunction n
      return v && w
    | _ => return v

/-- A single condition. -/
def term : Nat → Check Bool
  | 0 => return false
  | n + 1 => do
    match ← get with
    | [] => beyond []
    | ['!'] :: rest =>
      if rest.isEmpty then beyond ['!']
      advance
      return !(← term n)
    | ['('] :: rest =>
      if rest.isEmpty then beyond ['(']
      advance
      let v ← disjunction n
      match ← get with
      | [')'] :: _ =>
        advance
        return v
      | [] => fail (raw "')' expected")
      | w :: _ => fail (raw "')' expected, found " ++ w)
    | w :: rest =>
      match rest with
      | op :: _ :: _ => if isBinary op then binary else simple w
      | _ => simple w
where
  /-- A word, or an operator in front of one. -/
  simple (w : Raw) : Check Bool := do
    match w with
    | ['-', _] => unary
    | _ => one

end

/-- The value of three words. -/
def three : Check Bool := do
  let words ← get
  match words with
  | first :: middle :: last =>
    if isBinary middle then binary
    else if first == ['!'] then
      advance
      return !(← two)
    else if first == ['('] && last.head? == some [')'] then
      advance
      let v ← one
      advance
      return v
    else if [raw "-a", raw "-o", ['>'], ['<']].contains middle then disjunction 20
    else fail (Quoted.between middle ++ raw ": binary operator expected")
  | _ => beyond []

/-- The value of all words. -/
def all : Check Bool := do
  let words ← get
  match words with
  | [_] => one
  | [_, _] => two
  | [_, _, _] => three
  | [first, _, _, last] =>
    if first == ['!'] then
      advance
      return !(← three)
    else if first == ['('] && last == [')'] then
      advance
      let v ← two
      advance
      return v
    else disjunction 40
  | words => disjunction (8 * words.length + 8)

end Check

/-- Tells whether a condition holds. -/
def testTool : Tool := fun words => do
  if words.isEmpty then return 1
  let (v, rest) ← Check.all.run words
  match rest with
  | [] => return if v then 0 else 1
  | extra :: _ => giveUp 2 (raw "extra argument " ++ Quoted.between extra)

/-- The same with a closing bracket behind the condition. -/
def bracketTool : Tool := fun words => do
  if words == [raw "--help"] || words == [raw "--version"] then return 0
  if words.getLast? != some [']'] then giveUp 2 (raw "missing " ++ Quoted.between [']'])
  testTool words.dropLast

end DocAudit.Shell.Tool
