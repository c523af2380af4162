import DocAudit.Shell.Expression

/-!
# Awk programs

A program is a list of rules. Each of them has a condition on records and statements.

## Contents

* `Awk.Expr`: expressions
* `Awk.Sink`, `Awk.Stmt`: statements
* `Awk.Condition`, `Awk.Program`: rules and functions
-/

namespace DocAudit.Shell.Awk

open Text

/-! ## Expressions -/

/-- An operation on two numbers. -/
inductive Operation
  | add
  | sub
  | mul
  | div
  | mod
  | pow
  deriving DecidableEq, Repr

/-- A comparison of two values. -/
inductive Relation
  | lt
  | le
  | eq
  | ne
  | gt
  | ge
  deriving DecidableEq, Repr

/-- Where a record comes from. -/
inductive Origin
  /-- The input of the program. -/
  | input
  | file
  | command
  deriving DecidableEq, Repr

/-- An expression. Its places for values are variables, elements and fields. -/
inductive Expr
  | number (x : Float)
  | text (s : Raw)
  | pattern (e : Expression)
  | var (name : Raw)
  | element (name : Raw) (subscripts : List Expr)
  | field (index : Expr)
  | assign (target : Expr) (op : Option Operation) (value : Expr)
  /-- One more or one less; the value is the one before or after it. -/
  | step (target : Expr) (up : Bool) (after : Bool)
  | negative (e : Expr)
  | positive (e : Expr)
  | not_ (e : Expr)
  | arith (op : Operation) (a b : Expr)
  | concat (a b : Expr)
  | compare (r : Relation) (a b : Expr)
  | matches_ (negated : Bool) (a b : Expr)
  | both (a b : Expr)
  | either (a b : Expr)
  | cond (test yes no : Expr)
  | isIn (subscripts : List Expr) (name : Raw)
  | call (name : Raw) (args : List Expr)
  /-- A function of the language; an array stands as a variable. -/
  | apply (name : Raw) (args : List Expr)
  | readLine (origin : Origin) (source : Expr) (target : Option Expr)
  /-- An expression in parentheses. -/
  | group (e : Expr)
  deriving Inhabited

/-- The expression is a place for a value. -/
def Expr.isPlace : Expr → Bool
  | .var _ => true
  | .element _ _ => true
  | .field _ => true
  | _ => false

/-! ## Statements -/

/-- Where output goes. -/
inductive Sink
  | standard
  | file (path : Expr)
  | append (path : Expr)
  | command (script : Expr)

/-- A statement. -/
inductive Stmt
  | nothing
  | expr (e : Expr)
  | print (args : List Expr) (sink : Sink)
  | printf (args : List Expr) (sink : Sink)
  | seq (first second : Stmt)
  | cond (test : Expr) (yes no : Stmt)
  /-- A loop: a test, what follows each turn, and the body. -/
  | loop (test : Option Expr) (step : Stmt) (body : Stmt)
  /-- A loop whose body comes before its test. -/
  | until_ (test : Expr) (body : Stmt)
  | each (name array : Raw) (body : Stmt)
  | delete (name : Raw) (subscripts : Option (List Expr))
  | next
  | nextFile
  | exit (status : Option Expr)
  | ret (value : Option Expr)
  | break_
  | continue_
  deriving Inhabited

/-! ## Rules -/

/-- When a rule is used. -/
inductive Condition
  | start
  | finish
  | always
  | test (e : Expr)
  /-- From one record to another. The number tells such rules apart. -/
  | range (number : Nat) (first last : Expr)

/-- A rule; without statements it prints the record. -/
structure Rule where
  condition : Condition
  body : Option Stmt

/-- A function with the names of its parameters. -/
structure Function where
  name : Raw
  params : List Raw
  body : Stmt

/-- A program. -/
structure Program where
  rules : List Rule := []
  functions : List Function := []

end DocAudit.Shell.Awk
