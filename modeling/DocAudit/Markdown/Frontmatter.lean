import DocAudit.Text.Blank
import DocAudit.Yaml.Value

/-!
# Frontmatter

Lines between two markers `---` at the top of a document. They are read as YAML into a flat record of
texts; what is not YAML is read line by line.

## Contents

* `Record`, `Record.put`, `Record.get?`
* `Frontmatter.split`: the lines of the frontmatter, and where the body starts
* `Frontmatter.read`: its record
-/

namespace DocAudit

open Text

/-- Texts by name, in the order in which the names came up. -/
abbrev Record := List (Text × Text)

namespace Record

/-- The record with the text under the name, in the place of an earlier one. -/
def put (r : Record) (name value : Text) : Record :=
  match r with
  | [] => [(name, value)]
  | (n, v) :: rest => if n = name then (n, value) :: rest else (n, v) :: put rest name value

/-- The text under the name. -/
def get? (r : Record) (name : Text) : Option Text := r.lookup name

end Record

namespace Frontmatter

/-- The line that opens and closes the frontmatter. -/
def isMarker (line : Text) : Bool := strip line == ['-', '-', '-']

/-- The lines before the first marker, and how many lines there are up to it, itself included. -/
def untilMarker : List Text → Option (List Text × Nat)
  | [] => none
  | line :: rest =>
    if isMarker line then some ([], 1)
    else (untilMarker rest).map fun (ls, n) => (line :: ls, n + 1)

/-- The lines of the frontmatter and the number of lines before the body. Without frontmatter the body
is everything. -/
def split (ls : List Text) : Option (List Text) × Nat :=
  let blank := ls.takeWhile isBlankText
  match ls.dropWhile isBlankText with
  | [] => (none, 0)
  | first :: rest =>
    if isMarker first then
      match untilMarker rest with
      | none => (none, 0)
      | some (inner, n) => (some inner, blank.length + 1 + n)
    else (none, 0)

/-- A value without quotes around it. -/
def unquote (s : Text) : Text :=
  match s with
  | '"' :: r => if !r.isEmpty && r.getLastD ' ' == '"' then r.dropLast else s
  | '\'' :: r => if !r.isEmpty && r.getLastD ' ' == '\'' then r.dropLast else s
  | _ => s

/-- The record of lines `key: value`; other lines say nothing. -/
def readLines (ls : List Text) : Record :=
  ls.foldl (fun r line => match cut ':' line with
    | none => r
    | some (key, value) =>
      if isBlankText key then r else r.put (strip key) (unquote (strip value))) []

/-- The text of a value. A whole number with too many digits has none. -/
def textOf (l : Yaml.Leaf) : Yaml.Outcome Text :=
  if l.isOverlong then .error .numberTooLong else .ok l.text

/-- The text of a single value in a record. -/
def leafText : Yaml.Leaf → Yaml.Outcome Text
  | .bool true => .ok "true".toList
  | .bool false => .ok "false".toList
  | .null => .ok []
  | leaf => textOf leaf

/-- A set of values in braces. -/
def setText (members : List Yaml.Leaf) : Yaml.Outcome Text :=
  if members.isEmpty then .ok "set()".toList
  else if members.any (·.isOverlong) then .error .numberTooLong
  else .ok ('\x7B' :: joinWith [',', ' '] (members.map (·.display)) ++ ['\x7D'])

/-- The text of a value that is no list and no table. -/
def singleText? : Yaml.Value → Option (Yaml.Outcome Text)
  | .leaf l => some (leafText l)
  | .set members => some (setText members)
  | _ => none

/-- The record with a value under the name; lists and tables are left out. -/
def putSingle (r : Record) (name : Yaml.Outcome Text) (value : Yaml.Value) : Yaml.Outcome Record :=
  match singleText? value with
  | some text => return r.put (← name) (← text)
  | none => return r

/-- The record of a table. The single values of a table inside it get both names, with a dot. -/
def readTable (pairs : List (Yaml.Leaf × Yaml.Value)) : Yaml.Outcome Record :=
  pairs.foldlM (fun r (key, value) => match value with
    | .table inner =>
      inner.foldlM (fun r (sub, v) =>
        putSingle r (do return (← textOf key) ++ '.' :: (← textOf sub)) v) r
    | value => putSingle r (textOf key) value) []

/-- The record of the lines of a frontmatter. A text that is not well formed, or no table, is read
line by line; other faults are faults of the document. -/
def read (ls : List Text) : Yaml.Outcome Record :=
  match Yaml.Value.ofText? (joinWith ['\n'] ls) with
  | .ok (some (.table pairs)) => readTable pairs
  | .ok _ => .ok (readLines ls)
  | .error .malformed => .ok (readLines ls)
  | .error fault => .error fault

end Frontmatter

end DocAudit
