import DocAudit.Toml.Scalar

/-!
# TOML tables

A text of keys with values and of headers that say into which table they go.

A table may be declared once. Tables made by dotted keys and by headers must not be declared again,
and values in brackets or braces can never be added to; `Namespace` keeps account of both.

## Contents

* `value?`: a value, collections included
* `Namespace`, `Document`: the tables so far
* `readTable`: the table of a text

## Termination

The depth of a collection is bounded by the length of the text, and every statement takes at least one
character.
-/

namespace DocAudit.Toml

open Text

/-- A path of keys. -/
abbrev Key := List Text

/-- The text after a comment, which must hold no control characters. -/
def skipComment? (s : Text) : Option Text :=
  match s with
  | '#' :: r =>
    let comment := r.takeWhile (· != '\n')
    if comment.any isIllegal then none else some (r.drop comment.length)
  | s => some s

/-- The text after spaces, line breaks and comments. The number bounds the number of comments. -/
def skipGap? : Nat → Text → Option Text
  | 0, _ => none
  | n + 1, s => do
    let rest ← skipComment? (s.dropWhile isSpaceOrBreak)
    if rest.length < s.length then skipGap? n rest else return rest

/-- Characters of keys without quotes. -/
def isKeyChar (c : Char) : Bool := c.isAlphanum || c == '-' || c == '_'

/-- One key of a path. -/
def keyPart? (s : Text) : Option (Text × Text) :=
  let bare := s.takeWhile isKeyChar
  if bare.isEmpty then lineString? s else some (bare, s.drop bare.length)

/-- A path of keys and the text after it and after the spaces behind it. -/
def keyPath? : Nat → Text → Option (Key × Text)
  | 0, _ => none
  | n + 1, s => do
    let (part, rest) ← keyPart? s
    match skipSpaces rest with
    | '.' :: r => do
      let (parts, rest) ← keyPath? n (skipSpaces r)
      return (part :: parts, rest)
    | rest => return ([part], rest)

/-- A path of keys; its length is bounded by that of the text. -/
def key? (s : Text) : Option (Key × Text) := keyPath? (s.length + 1) s

/-! ## Nested tables -/

/-- The table with the value of a key replaced or added. -/
def putKey (t : SettingTable) (key : Text) (value : Setting) : SettingTable :=
  match t with
  | [] => [(key, value)]
  | (k, v) :: rest => if k = key then (k, value) :: rest else (k, v) :: putKey rest key value

/-- The table with the inner table at the path changed. Missing tables are made; in a list of tables
the last one is meant, where `throughLists` allows it. -/
def update (throughLists : Bool) (change : SettingTable → Option SettingTable) :
    Key → SettingTable → Option SettingTable
  | [], t => change t
  | key :: rest, t => do
    match t.find? key with
    | none => return putKey t key (.table (← update throughLists change rest []))
    | some (.table inner) =>
      return putKey t key (.table (← update throughLists change rest inner))
    | some (.list items) =>
      match throughLists, items.getLast? with
      | true, some (.table inner) =>
        let changed ← update throughLists change rest inner
        return putKey t key (.list (items.dropLast ++ [.table changed]))
      | _, _ => none
    | some _ => none

/-- The table with one more value; the key must be new. -/
def insertNew (key : Text) (value : Setting) (t : SettingTable) : Option SettingTable :=
  if (t.find? key).isSome then none else some (t ++ [(key, value)])

/-- The table with one more empty table in the list under the key. -/
def appendTable (key : Text) (t : SettingTable) : Option SettingTable :=
  match t.find? key with
  | none => some (t ++ [(key, .list [.table []])])
  | some (.list items) => some (putKey t key (.list (items ++ [.table []])))
  | some _ => none

/-- A value in brackets or braces. -/
def isCollection : Setting → Bool
  | .list _ => true
  | .table _ => true
  | _ => false

/-! ## Values -/

/-- A part of a text that must be there. -/
def require {α : Type} : Option α → Outcome α
  | some a => .ok a
  | none => .error .malformed

/-- How deep collections may stand in collections, when a list counts twice and a table three times. -/
def depthLimit : Nat := 983

/-- Goes on with what stands at a depth. -/
def atDepth {α : Type} (depth : Nat) (read : Outcome α) : Outcome α :=
  if depthLimit < depth then .error .tooDeep else read

mutual

/-- A value and the text after it. The first number bounds the depth of collections and their size, the
second one is their depth so far. -/
def value? : Nat → (depth : Nat) → Text → Outcome (Setting × Text)
  | 0, _, _ => .error .malformed
  | n + 1, depth, s =>
    match s with
    | '[' :: r => atDepth (depth + 2) do
      let r ← require (skipGap? (r.length + 1) r)
      let (items, rest) ← items? n (depth + 2) r
      return (.list items, rest)
    | '\x7B' :: r =>
      match skipSpaces r with
      | '\x7D' :: rest => .ok (.table [], rest)
      | r => atDepth (depth + 3) do
        let (pairs, rest) ← pairs? n (depth + 3) [] [] r
        return (.table pairs, rest)
    | s => scalar? s

/-- The values of a list up to its closing bracket. -/
def items? : Nat → (depth : Nat) → Text → Outcome (List Setting × Text)
  | 0, _, _ => .error .malformed
  | n + 1, depth, s => do
    match s with
    | ']' :: rest => return ([], rest)
    | s =>
      let (item, rest) ← value? n depth s
      match ← require (skipGap? (rest.length + 1) rest) with
      | ']' :: rest => return ([item], rest)
      | ',' :: rest =>
        let (items, rest) ← items? n depth (← require (skipGap? (rest.length + 1) rest))
        return (item :: items, rest)
      | _ => throw .malformed

/-- The pairs of a table in braces, up to the closing one. `frozen` lists the keys of collections so
far, to which nothing can be added. -/
def pairs? : Nat → (depth : Nat) → (frozen : List Key) → SettingTable → Text →
    Outcome (SettingTable × Text)
  | 0, _, _, _, _ => .error .malformed
  | n + 1, depth, frozen, t, s => do
    let (key, rest) ← require (key? s)
    let (value, rest) ← value? n depth (skipSpaces (← require (after? ['='] rest)))
    if frozen.any fun f => f.isPrefixOf key then throw .malformed
    let t ← require (update false (insertNew (key.getLastD []) value) key.dropLast t)
    match skipSpaces rest with
    | '\x7D' :: rest => return (t, rest)
    | ',' :: rest =>
      pairs? n depth (if isCollection value then key :: frozen else frozen) t (skipSpaces rest)
    | _ => throw .malformed

end

/-! ## Statements -/

/-- The account of declared and of closed tables. -/
structure Namespace where
  /-- Tables that cannot be declared again. -/
  declared : List Key := []
  /-- Tables that become declared with the next header. -/
  pending : List Key := []
  /-- Values in brackets and braces. -/
  frozen : List Key := []

/-- Nothing can be added at the path. -/
def Namespace.isFrozen (s : Namespace) (key : Key) : Bool := s.frozen.any fun f => f.isPrefixOf key

/-- The tables so far and the path of the table that the next keys go to. -/
structure Document where
  table : SettingTable := []
  names : Namespace := {}
  header : Key := []

namespace Document

/-- The pending tables become declared. -/
def settle (d : Document) : Document :=
  { d with names := { d.names with declared := d.names.pending ++ d.names.declared, pending := [] } }

/-- A header in single brackets. -/
def declare? (d : Document) (s : Text) : Option (Document × Text) := do
  let d := d.settle
  let (key, rest) ← key? (skipSpaces s)
  if d.names.declared.contains key || d.names.isFrozen key then none
  let table ← update true some key d.table
  let rest ← after? [']'] rest
  return ({ table, header := key,
            names := { d.names with declared := key :: d.names.declared } }, rest)

/-- A header in double brackets. What is known about the tables below it is forgotten. -/
def append? (d : Document) (s : Text) : Option (Document × Text) := do
  let d := d.settle
  let (key, rest) ← key? (skipSpaces s)
  if d.names.isFrozen key then none
  let table ← update true (appendTable (key.getLastD [])) key.dropLast d.table
  let rest ← after? [']', ']'] rest
  let others (keys : List Key) : List Key := keys.filter fun k => !key.isPrefixOf k
  return ({ table, header := key,
            names := { d.names with declared := key :: others d.names.declared,
                                    frozen := others d.names.frozen } }, rest)

/-- A key with its value. -/
def assign? (d : Document) (s : Text) : Outcome (Document × Text) := do
  let (key, rest) ← require (key? s)
  let rest ← require (after? ['='] rest)
  let (value, rest) ← value? (2 * rest.length + 4) 0 (skipSpaces rest)
  let parents := (List.range (key.length - 1)).map fun i => d.header ++ key.take (i + 1)
  if parents.any d.names.declared.contains then throw .malformed
  let dir := d.header ++ key.dropLast
  if d.names.isFrozen dir then throw .malformed
  let table ← require (update true (insertNew (key.getLastD []) value) dir d.table)
  let names := { d.names with
    pending := parents ++ d.names.pending
    frozen := if isCollection value then (d.header ++ key) :: d.names.frozen else d.names.frozen }
  return ({ d with table, names }, rest)

/-- One statement: a header, a key with its value, or nothing before a comment. -/
def statement? (d : Document) (s : Text) : Outcome (Document × Text) :=
  match s with
  | '[' :: '[' :: r => require (d.append? r)
  | '[' :: r => require (d.declare? r)
  | c :: _ => if isKeyChar c || c == '"' || c == '\'' then d.assign? s else .ok (d, s)
  | [] => .ok (d, [])

/-- The statements of a text, one on each line. -/
def run (d : Document) (s : Text) : Outcome SettingTable := do
  let (d, rest) ← d.statement? (skipSpaces s)
  match ← require (skipComment? (skipSpaces rest)) with
  | [] => return d.table
  | '\n' :: next =>
    if _h : next.length < s.length then run d next else throw .malformed
  | _ => throw .malformed
termination_by s.length

end Document

/-- The table of a text. -/
def readTable (s : Text) : Outcome SettingTable := ({} : Document).run s

end DocAudit.Toml
