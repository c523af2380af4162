import DocAudit.Calendar.Date
import DocAudit.Decimal.Reading
import DocAudit.Decimal.Shortest
import DocAudit.Text.Quoted

/-!
# Settings

A value in a configuration: what a key of a table is set to.

## Contents

* `Setting`, and the tables among them, `SettingTable`
* `SettingTable.find?`, `SettingTable.at?`: values by a key, and by a path of keys
* `Setting.text`, `Setting.display`: a value alone, and inside a collection
* `Setting.isOverlong`: a value that cannot be written
-/

namespace DocAudit

open Text

/-- A value in a configuration. -/
inductive Setting
  | null
  | bool (b : Bool)
  | int (n : Int)
  | float (x : Float)
  | str (s : Text)
  | date (d : Date)
  | time (t : Time)
  | moment (m : Moment)
  | list (items : List Setting)
  | table (pairs : List (Text × Setting))
  deriving Repr, Inhabited

/-- The pairs of a table. -/
abbrev SettingTable := List (Text × Setting)

namespace SettingTable

/-- The value of a key. -/
def find? (t : SettingTable) (key : Text) : Option Setting := t.lookup key

/-- The table under a key; empty when there is none. -/
def subtable (t : SettingTable) (key : Text) : SettingTable :=
  match t.find? key with
  | some (.table pairs) => pairs
  | _ => []

/-- The value at the end of a path of keys. -/
def at? (t : SettingTable) : List Text → Option Setting
  | [] => some (.table t)
  | [key] => t.find? key
  | key :: rest =>
    match t.find? key with
    | some (.table pairs) => at? pairs rest
    | _ => none

end SettingTable

namespace Setting

mutual

/-- A value inside a collection. -/
def display : Setting → Text
  | .null => "None".toList
  | .bool true => "True".toList
  | .bool false => "False".toList
  | .int n => ofInt n
  | .float x => Decimal.plain x
  | .str s => quoted s
  | .date d => d.display
  | .time t => t.display
  | .moment m => m.display
  | .list items => '[' :: joinWith [',', ' '] (displayItems items) ++ [']']
  | .table pairs => '\x7B' :: joinWith [',', ' '] (displayPairs pairs) ++ ['\x7D']

/-- The values of a list. -/
def displayItems : List Setting → List Text
  | [] => []
  | item :: rest => display item :: displayItems rest

/-- The pairs of a table. -/
def displayPairs : List (Text × Setting) → List Text
  | [] => []
  | (key, value) :: rest => (quoted key ++ [':', ' '] ++ display value) :: displayPairs rest

end

mutual

/-- There is a whole number in the value that has too many digits to be written. -/
def isOverlong : Setting → Bool
  | .int n => Decimal.isOverlong n
  | .list items => hasOverlong items
  | .table pairs => hasOverlongPair pairs
  | _ => false

/-- One of the values is too long to be written. -/
def hasOverlong : List Setting → Bool
  | [] => false
  | item :: rest => isOverlong item || hasOverlong rest

/-- One of the values of a table is too long to be written. -/
def hasOverlongPair : List (Text × Setting) → Bool
  | [] => false
  | (_, value) :: rest => isOverlong value || hasOverlongPair rest

end

/-- A value alone. -/
def text : Setting → Text
  | .str s => s
  | .date d => d.text
  | .time t => t.text
  | .moment m => m.text ' '
  | value => value.display

end Setting

end DocAudit
