import DocAudit.Config.Setting

/-!
# JSON

Values and their written form: two spaces for each level, keys in order, and only ASCII characters, so
that all others are escaped by their UTF-16 code units.

## Contents

* `Json`, `Json.render`
* `Json.ofSetting`: a value of a configuration
-/

namespace DocAudit

open Text

/-- A JSON value. -/
inductive Json
  | null
  | bool (b : Bool)
  | int (n : Int)
  | float (x : Float)
  | str (s : Text)
  | arr (items : List Json)
  | obj (pairs : List (Text × Json))
  deriving Repr, Inhabited

namespace Json

/-- A UTF-16 code unit as an escape. -/
def unitEscape (n : Nat) : Text := ['\\', 'u'] ++ hexPadded 4 n

/-- A character of a string. -/
def escapeChar (c : Char) : Text :=
  if c = '"' then ['\\', '"']
  else if c = '\\' then ['\\', '\\']
  else if c = '\n' then ['\\', 'n']
  else if c = '\r' then ['\\', 'r']
  else if c = '\t' then ['\\', 't']
  else if c = '\x08' then ['\\', 'b']
  else if c = '\x0C' then ['\\', 'f']
  else
    let n := c.toNat
    if 0x20 ≤ n && n < 0x7F then [c]
    else if n < 0x10000 then unitEscape n
    else unitEscape (0xD800 + (n - 0x10000) / 0x400) ++ unitEscape (0xDC00 + (n - 0x10000) % 0x400)

/-- A string between quotes. -/
def quote (s : Text) : Text := '"' :: s.flatMap escapeChar ++ ['"']

/-- A number; there are words for the values that no digits can write. -/
def number (x : Float) : Text :=
  if x.isNaN then "NaN".toList
  else if x.isInf then (if x < 0.0 then "-Infinity".toList else "Infinity".toList)
  else Decimal.plain x

/-- A line feed and the indentation of a level. -/
def indent (level : Nat) : Text := '\n' :: List.replicate (2 * level) ' '

/-- Members one to a line between two brackets. -/
def block (left right : Char) (level : Nat) (members : List Text) : Text :=
  if members.isEmpty then [left, right]
  else
    left :: indent (level + 1) ++ joinWith (',' :: indent (level + 1)) members ++
      indent level ++ [right]

mutual

/-- A value at a level of indentation. -/
def renderAt (level : Nat) : Json → Text
  | .null => "null".toList
  | .bool true => "true".toList
  | .bool false => "false".toList
  | .int n => ofInt n
  | .float x => number x
  | .str s => quote s
  | .arr items => block '[' ']' level (renderItems (level + 1) items)
  | .obj pairs =>
    block '\x7B' '\x7D' level
      (((renderPairs (level + 1) pairs).mergeSort fun p q => le p.1 q.1).map fun (key, text) =>
        quote key ++ [':', ' '] ++ text)

/-- The members of an array. -/
def renderItems (level : Nat) : List Json → List Text
  | [] => []
  | item :: rest => renderAt level item :: renderItems level rest

/-- The members of an object, with their keys. -/
def renderPairs (level : Nat) : List (Text × Json) → List (Text × Text)
  | [] => []
  | (key, value) :: rest => (key, renderAt level value) :: renderPairs level rest

end

/-- A value as text. -/
def render (j : Json) : Text := renderAt 0 j

mutual

/-- A value of a configuration; dates and times are texts. -/
def ofSetting : Setting → Json
  | .null => .null
  | .bool b => .bool b
  | .int n => .int n
  | .float x => .float x
  | .str s => .str s
  | .date d => .str d.text
  | .time t => .str t.text
  | .moment m => .str (m.text ' ')
  | .list items => .arr (ofItems items)
  | .table pairs => .obj (ofPairs pairs)

/-- The values of a list. -/
def ofItems : List Setting → List Json
  | [] => []
  | item :: rest => ofSetting item :: ofItems rest

/-- The pairs of a table. -/
def ofPairs : List (Text × Setting) → List (Text × Json)
  | [] => []
  | (key, value) :: rest => (key, ofSetting value) :: ofPairs rest

end

end Json

end DocAudit
