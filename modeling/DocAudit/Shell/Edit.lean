import DocAudit.Shell.Expression

/-!
# Scripts that edit lines

A script is a list of steps. Each step has a condition on lines and a command; blocks and jumps name the
step at which they go on.

## Contents

* `Edit.Pattern`, `Edit.Address`, `Edit.Condition`: which lines a step is for
* `Edit.Chunk`, `Edit.Substitution`: what stands for a match
* `Edit.Command`, `Edit.Step`: what is done
-/

namespace DocAudit.Shell.Edit

open Text

/-! ## Lines -/

/-- An expression in a script. -/
structure Pattern where
  /-- Nothing stands for the one that was used last. -/
  expression : Option Expression := none
  comparison : Expression.Comparison := {}
  /-- The number of its groups, if a step that does not ask for them may use it again. -/
  groups : Option Nat := none
  deriving Repr

/-- One end of a range of lines. -/
inductive Address
  | line (number : Nat)
  /-- The first line, and each one that is so many lines behind it. -/
  | every (first step : Nat)
  | last
  | pattern (p : Pattern)
  /-- So many lines behind the start of the range. -/
  | after (lines : Nat)
  /-- The next line whose number is a multiple. -/
  | multiple (of : Nat)
  deriving Repr

/-- The lines that a step is for. -/
structure Condition where
  first : Option Address := none
  last : Option Address := none
  negated : Bool := false
  deriving Repr

/-! ## Substitutions -/

/-- How the letters of a text are changed. -/
inductive Casing
  | same
  | upper
  | lower
  deriving DecidableEq, Repr

/-- A piece of what stands for a match: text, and a group behind it. -/
structure Chunk where
  text : Raw
  group : Option Nat
  casing : Casing
  /-- How the first letter is changed. -/
  first : Casing
  deriving Repr

/-- Where lines are written. -/
inductive Output
  | standard
  | error
  | file (path : Raw)
  deriving DecidableEq, Repr

/-- A substitution. -/
structure Substitution where
  pattern : Pattern
  pieces : List Chunk
  /-- The first match that is replaced. -/
  number : Nat := 1
  every : Bool := false
  /-- The result is a command, which is run. -/
  runs : Bool := false
  /-- The result is shown before it is run. -/
  showsBefore : Bool := false
  /-- The result is shown. -/
  shows_ : Bool := false
  output : Option Output := none
  deriving Repr

/-- The number of the last group that the pieces ask for. -/
def Substitution.reach (s : Substitution) : Nat := (s.pieces.filterMap (·.group)).foldl max 0

/-! ## Commands -/

/-- When a jump is made. -/
inductive When
  | always
  /-- Something was replaced. -/
  | replaced
  | notReplaced
  deriving DecidableEq, Repr

/-- A command. The pattern is the text that is edited, the store is another one. -/
inductive Command
  /-- The steps up to the one with the number are passed over, unless the condition holds. -/
  | block (stop : Nat)
  | blockEnd
  | label
  /-- A jump to a label, and the step behind it. -/
  | jump (cond : When) (label : Raw) (target : Nat)
  | append (text : Raw)
  | insert_ (text : Raw)
  | change (text : Raw)
  | delete
  | deleteLine
  /-- A script whose output is shown; without one the pattern is the script. -/
  | run (script : Option Raw)
  | fileName
  | recall
  | recallMore
  | store
  | storeMore
  | exchange
  | list (width : Option Nat)
  | next
  | nextMore
  | print
  | printLine
  /-- The end, at which the pattern is shown or not. -/
  | quit (shows_ : Bool) (status : Nat)
  | readFile (path : Raw)
  | readLine (path : Raw)
  | substitute (s : Substitution)
  | transliterate (table : List (Raw.Unit × Raw.Unit))
  | writeFile (o : Output)
  | writeLine (o : Output)
  | clear
  | number
  /-- A command that is known and does not work. -/
  | broken (name : Raw)
  deriving Repr

/-- A step. -/
structure Step where
  condition : Condition
  command : Command
  deriving Repr

end DocAudit.Shell.Edit
