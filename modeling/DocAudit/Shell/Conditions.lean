import DocAudit.Shell.Builtins

/-!
# Conditions

The words of `test`: operators in front of a text, between two texts, and between conditions. Whether a word
is an operator depends on the words behind it.

## Contents

* `Condition.Symbol`, `Condition.symbol`: words that may be operators
* `Condition.disjunction` and its parts
* `test`: the command
-/

namespace DocAudit.Shell

open Text Act

namespace Condition

/-- The place of an operator. -/
inductive Place
  | before
  | between
  | not
  | and
  | or
  | open
  | close
  deriving DecidableEq, Repr

/-- The operator that a word writes. -/
def operator? (s : Raw) : Option Place :=
  let name := String.ofList s
  if ["-r", "-w", "-x", "-e", "-f", "-d", "-c", "-b", "-p", "-u", "-g", "-k", "-s", "-t", "-z", "-n", "-O",
      "-G", "-L", "-h", "-S"].contains name then some .before
  else if ["=", "!=", "<", ">", "-eq", "-ne", "-ge", "-gt", "-le", "-lt", "-nt", "-ot", "-ef"].contains name
  then some .between
  else match name with
    | "!" => some .not
    | "-a" => some .and
    | "-o" => some .or
    | "(" => some .open
    | ")" => some .close
    | _ => none

/-- What a word is where it stands. -/
inductive Symbol
  | ending
  | operand
  | operator (p : Place)
  deriving DecidableEq, Repr

/-- The first word, by the words behind it. -/
def symbol (words : List Raw) : Symbol :=
  match words with
  | [] => .ending
  | w :: rest =>
    match operator? w, rest with
    | none, _ => .operand
    | some .before, [] => .operand
    | some .before, [_] => .operator .before
    | some .before, next :: _ => if operator? next == some .between then .operand else .operator .before
    | some .open, [] => .operand
    | some p, _ => .operator p

/-- A number that a word writes. -/
def number (s : Raw) : Act Int := do
  match Number.number? 10 s with
  | some n => return n
  | none => fault (raw "Illegal number: " ++ s)

/-- What is known of the file of a path. -/
def holdsOfFile (operator path : Raw) : Act Bool := do
  let followLast := operator != raw "-L" && operator != raw "-h"
  match ← stat path followLast with
  | .error _ => return false
  | .ok (names, node) =>
    let t ← tree
    match String.ofList operator with
    | "-e" => return true
    | "-r" => return true
    | "-w" => return true
    | "-x" => return node == .dir || Disk.isExecutable t names
    | "-f" => return match node with
      | .file _ => true
      | .program => true
      | _ => false
    | "-d" => return node == .dir
    | "-L" => return (node matches .link _)
    | "-h" => return (node matches .link _)
    | "-s" => return match node with
      | .file content => !content.isEmpty
      | .device _ => false
      | _ => true
    | "-c" => return (node matches .device _)
    | "-p" =>
      match node with
      | .device (.stream n) => return ((← opened? n).any fun f => f.2.place matches .pipe _)
      | _ => return false
    | "-u" => return Disk.mode t names &&& 0o4000 != 0
    | "-g" => return Disk.mode t names &&& 0o2000 != 0
    | "-k" => return Disk.mode t names &&& 0o1000 != 0
    | "-O" => return true
    | "-G" => return true
    | _ => return false

/-- The value of an operator in front of a word. -/
def before (operator operand : Raw) : Act Bool := do
  match String.ofList operator with
  | "-z" => return operand.isEmpty
  | "-n" => return !operand.isEmpty
  | "-t" =>
    let _ ← number operand
    return false
  | _ => holdsOfFile operator operand

/-- The value of an operator between two words. -/
def between (operator first second : Raw) : Act Bool := do
  match String.ofList operator with
  | "=" => return first == second
  | "!=" => return first != second
  | "<" => return !le second first
  | ">" => return !le first second
  | "-eq" => return (← number first) == (← number second)
  | "-ne" => return (← number first) != (← number second)
  | "-ge" => return (← number first) ≥ (← number second)
  | "-gt" => return (← number first) > (← number second)
  | "-le" => return (← number first) ≤ (← number second)
  | "-lt" => return (← number first) < (← number second)
  | "-ef" =>
    match ← stat first, ← stat second with
    | .ok (a, _), .ok (b, _) => return a == b
    | _, _ => return false
  | _ => return false

/-- A complaint about the words. -/
def misused {α : Type} (word : Raw) (what : String) : Act α :=
  fault (if word.isEmpty then raw what else word ++ raw ": " ++ raw what)

mutual

/-- Conditions of which one must hold. The words begin with the one of the symbol; given back are the words
from the last one that was used. -/
def disjunction : Nat → Symbol → List Raw → Act (Bool × List Raw)
  | 0, _, words => return (false, words)
  | n + 1, s, words => do
    let (v, words) ← conjunction n s words
    if symbol (words.drop 1) == .operator .or then
      let words := words.drop 2
      let (w, words) ← disjunction n (symbol words) words
      return (v || w, words)
    else return (v, words)

/-- Conditions of which all must hold. -/
def conjunction : Nat → Symbol → List Raw → Act (Bool × List Raw)
  | 0, _, words => return (false, words)
  | n + 1, s, words => do
    let (v, words) ← negation n s words
    if symbol (words.drop 1) == .operator .and then
      let words := words.drop 2
      let (w, words) ← conjunction n (symbol words) words
      return (v && w, words)
    else return (v, words)

/-- A condition that may be negated. -/
def negation : Nat → Symbol → List Raw → Act (Bool × List Raw)
  | 0, _, words => return (false, words)
  | n + 1, s, words => do
    if s == .operator .not then
      let next := symbol (words.drop 1)
      let (v, words) ← negation n next (if next == .ending then words else words.drop 1)
      return (!v, words)
    else primary n s words

/-- A condition of one operator at most. -/
def primary : Nat → Symbol → List Raw → Act (Bool × List Raw)
  | 0, _, words => return (false, words)
  | n + 1, s, words => do
    match s, words with
    | .ending, _ => return (false, words)
    | .operator .open, _ =>
      let words := words.drop 1
      if symbol words == .operator .close then return (false, words)
      let (v, words) ← disjunction n (symbol words) words
      let words := words.drop 1
      if symbol words != .operator .close then misused [] "closing paren expected"
      return (v, words)
    | .operator .before, w :: rest =>
      match rest with
      | [] => misused w "argument expected"
      | operand :: _ => return (← before w operand, rest)
    | _, w :: rest =>
      match symbol rest, rest with
      | .operator .between, operator :: more =>
        match more with
        | [] => misused operator "argument expected"
        | second :: _ => return (← between operator w second, more)
      | _, _ => return (!w.isEmpty, words)
    | _, [] => return (false, [])

end

/-- The value of all words, by their number where there are few. The number bounds the words. -/
def value : Nat → List Raw → Act Bool
  | 0, _ => return false
  | n + 1, words => do
    let general (s : Symbol) (words : List Raw) : Act Bool := do
      let (v, rest) ← disjunction (8 * words.length + 8) s words
      match rest with
      | w :: _ :: _ => misused w "unexpected operator"
      | _ => return v
    match words with
    | [] => return false
    | [first, operator, _] =>
      if operator? operator == some .between then general .operand words
      else if first == ['('] && words.getLast? == some [')'] then
        let inner := (words.drop 1).dropLast
        general (symbol inner) inner
      else if first == ['!'] then return !(← value n (words.drop 1))
      else general (symbol words) words
    | [first, _, _, last] =>
      if first == ['('] && last == [')'] then
        let inner := (words.drop 1).dropLast
        general (symbol inner) inner
      else if first == ['!'] then return !(← value n (words.drop 1))
      else general (symbol words) words
    | _ => general (symbol words) words

end Condition

/-- Tells whether a condition holds. -/
def test : Tool := fun words => do return if ← Condition.value (words.length + 1) words then 0 else 1

/-- The same with a closing bracket behind the condition. -/
def bracket : Tool := fun words => do
  if words.getLast? != some [']'] then fault (raw "missing ]")
  test words.dropLast

end DocAudit.Shell
