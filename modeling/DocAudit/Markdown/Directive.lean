import DocAudit.Text.Blank

/-!
# Directives

A directive is a comment line `<!-- pave:KEY[:ARG] BODY -->`. Directives stand before the code block
that they are about: how to run it, or what its output is expected to be.

## Contents

* `Directive.split?`: the parts of such a line
* `Directive.ofLine?`: the directive of a line, when its parts make sense together
-/

namespace DocAudit

/-- How expected output is compared with the real one. -/
inductive OutputStrategy
  | contains
  | regex
  | exact
  deriving DecidableEq, Repr

/-- The name under which a strategy is written. -/
def OutputStrategy.name : OutputStrategy → Text
  | .contains => "contains".toList
  | .regex => "regex".toList
  | .exact => "exact".toList

/-- The strategy of a name. -/
def OutputStrategy.ofName? (name : Text) : Option OutputStrategy :=
  [OutputStrategy.contains, .regex, .exact].find? (·.name == name)

/-- A directive that was understood. -/
inductive Directive
  /-- The block is to be run whatever its language. -/
  | run
  /-- The block is the expected output of the block before it. -/
  | expect (strategy : OutputStrategy)
  /-- The block runs in this directory. -/
  | workingDir (dir : Text)
  /-- The block runs with this environment variable. -/
  | env (name value : Text)
  deriving DecidableEq, Repr

namespace Directive

open Text

/-- The parts of a directive comment: key, argument and body. -/
structure Parts where
  key : Text
  arg : Option Text
  body : Text
  deriving DecidableEq, Repr

/-- Letters of a directive's argument. -/
def isArgChar (c : Char) : Bool := 'a' ≤ c && c ≤ 'z'

/-- Letters of a directive's key. -/
def isKeyChar (c : Char) : Bool := isArgChar c || c == '_'

/-- The text after `start`, when it starts the text. -/
def after? (start s : Text) : Option Text :=
  if start.isPrefixOf s then some (s.drop start.length) else none

/-- The text before `ending`, when it ends the text. -/
def before? (ending s : Text) : Option Text :=
  if ending.isSuffixOf s then some (s.take (s.length - ending.length)) else none

/-- The body in what stands between the key and the end of the comment. There is white space before
a body, and no line feed in it. -/
def body? (s : Text) : Option Text :=
  match s with
  | [] => some []
  | c :: _ =>
    if !isBlank c then none
    else if (strip s).contains '\n' then none
    else some (strip s)

/-- The argument after a colon, and what follows it. -/
def arg? (s : Text) : Option (Option Text × Text) :=
  match s with
  | ':' :: r =>
    let arg := r.takeWhile isArgChar
    if arg.isEmpty then none else some (some arg, r.dropWhile isArgChar)
  | _ => some (none, s)

/-- The parts of a line that is a directive comment. -/
def split? (line : Text) : Option Parts := do
  let inner ← after? "<!--".toList (strip line)
  let named ← after? "pave:".toList (stripStart inner)
  let key := named.takeWhile isKeyChar
  if key.isEmpty then none
  let (arg, tail) ← arg? (named.dropWhile isKeyChar)
  let middle ← before? "-->".toList tail
  let body ← body? middle
  return { key, arg, body }

/-- The directive with the given parts, when they make sense together. -/
def ofParts? (p : Parts) : Option Directive :=
  if p.key == "run".toList then some .run
  else if p.key == "expect".toList then
    (OutputStrategy.ofName? (p.arg.getD OutputStrategy.contains.name)).map .expect
  else if p.key == "working_dir".toList then
    if p.body.isEmpty then none else some (.workingDir p.body)
  else if p.key == "env".toList then
    match cut '=' p.body with
    | none => none
    | some (name, value) =>
      if isBlankText name then none else some (.env (strip name) (strip value))
  else none

/-- The directive of a line. -/
def ofLine? (line : Text) : Option Directive := split? line >>= ofParts?

end Directive

end DocAudit
