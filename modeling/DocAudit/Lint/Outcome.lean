import DocAudit.Lint.Check

/-!
# Outcomes of prose checks

All checks of a text together. When it is to be mended, spaces and tabs at the ends of lines are taken
away instead of being reported.

## Contents

* `LintOutcome`, `lintText`
* `fixTrailing`: the text without spaces at the ends of prose lines
* `lintFile`
-/

namespace DocAudit

open Text

/-- The outcome of checking a text. -/
structure LintOutcome where
  issues : List Issue
  fixedCount : Nat := 0
  /-- The mended text, when something was mended. -/
  fixedText : Option Text := none
  deriving DecidableEq, Repr

/-- A line without spaces and tabs at its end, when it is prose. -/
def fixLine (masked : Bool) (line : Text) : Text :=
  if masked then line else dropEnd Lint.isSpaceOrTab line

/-- The text without spaces and tabs at the ends of its prose lines. The terminators stay. -/
def fixTrailing (text : Text) : Text :=
  let ls := terminated text
  unterminated (List.zipWith (fun masked (line, ending) => (fixLine masked line, ending))
    (proseMask (ls.map (·.1))) ls)

/-- The checks of a text, in the given order; what they find is put in the order of the lines. -/
def lintText (rules : List LintRule) (fix : Bool) (s : LintScope) (text : Text) :
    Outcome LintOutcome := do
  let prose := Prose.ofLines (lines text)
  let reported := rules.filter fun r => !(fix && r == .trailingWhitespace)
  let issues := (← reported.mapM (·.issues s prose)).flatten.mergeSort fun a b => a.line ≤ b.line
  let fixedCount :=
    if fix then rules.count .trailingWhitespace * (Lint.trailingSpaces prose).length else 0
  return { issues, fixedCount, fixedText := if fixedCount = 0 then none else some (fixTrailing text) }

/-- The checks of a file, and the files after it was mended. -/
def lintFile (rules : List LintRule) (fix : Bool) (s : LintScope) : Outcome (LintOutcome × FileTree) := do
  match (s.tree.content? s.cwd s.path).map Utf8.decode? with
  | some (some text) =>
    let outcome ← lintText rules fix s text
    let tree := match outcome.fixedText, s.tree.locate? s.cwd s.path with
      | some fixed, some names => (s.tree.write names (Utf8.encode fixed)).getD s.tree
      | _, _ => s.tree
    return (outcome, tree)
  | _ => throw (.unreadable s.path)

end DocAudit
