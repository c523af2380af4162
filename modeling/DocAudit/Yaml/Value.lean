import DocAudit.Yaml.Leaf
import DocAudit.Yaml.Node

/-!
# Values

The value of a YAML document: a leaf, a list, a set or a table.

A document may have several faults, of which the first one met counts. Values are built level by
level, so a fault is recorded with the depth at which it is met, and of all faults the first of the
least depth is reported.

## Contents

* `Value`, `Value.ofNode`, `Value.ofText?`
* `putPair`: a table keeps the place and the spelling of the first of equal keys, and the last value
-/

namespace DocAudit.Yaml

open Text

/-- The value of a document. -/
inductive Value
  | leaf (l : Leaf)
  | list (items : List Value)
  | set (members : List Leaf)
  | table (pairs : List (Leaf × Value))
  deriving Repr, Inhabited

/-- Faults with the depth at which they are met, in the order of the text. -/
abbrev Faults := List (Nat × Fault)

/-- The fault that is met first: the first of the least depth. -/
def Faults.first? (faults : Faults) : Option Fault :=
  let least := faults.foldl (fun m (d, _) => min m d) (faults.headD (0, .malformed)).1
  (faults.find? fun (d, _) => d == least).map (·.2)

/-- A table with one more pair. -/
def putPair (pairs : List (Leaf × Value)) (key : Leaf) (value : Value) : List (Leaf × Value) :=
  match pairs with
  | [] => [(key, value)]
  | (k, v) :: rest => if k.same key then (k, value) :: rest else (k, v) :: putPair rest key value

/-- The pairs of a mapping, those that other mappings bring in apart from its own. -/
structure Pairs where
  merged : List (Option Leaf × Value) := []
  mergedFaults : Faults := []
  own : List (Option Leaf × Value) := []
  ownFaults : Faults := []

namespace Pairs

/-- The table of all pairs; what is brought in comes first. -/
def table (p : Pairs) : List (Leaf × Value) :=
  (p.merged ++ p.own).foldl (fun acc (key, value) => match key with
    | some k => putPair acc k value
    | none => acc) []

/-- All pairs in one list. -/
def all (p : Pairs) : List (Option Leaf × Value) := p.merged ++ p.own

/-- All faults in one list. -/
def faults (p : Pairs) : Faults := p.mergedFaults ++ p.ownFaults

end Pairs

/-- The tags of collections: what they make of a scalar is decided one level further down. -/
def Tag.isCollection : Tag → Bool
  | .seq => true
  | .map => true
  | .set => true
  | .omap => true
  | .pairs => true
  | _ => false

/-- The tag of a key is that of the sign for merging. -/
def Node.isMerge : Node → Bool
  | .scalar .merge _ => true
  | .seq .merge _ => true
  | .map .merge _ => true
  | _ => false

/-- The text of the key `=`. -/
def Node.defaultKey? : Node → Option Text
  | .scalar .value text => some text
  | _ => none

mutual

/-- The text of a node where a scalar is needed: its own, or that of the entry `=`. -/
def Node.scalarText? : Node → Option Text
  | .scalar _ text => some text
  | .map _ pairs => defaultText? pairs
  | _ => none
termination_by node => sizeOf node

/-- The text of the entry `=`. -/
def defaultText? : List (Node × Node) → Option Text
  | [] => none
  | (key, value) :: rest =>
    if key.defaultKey?.isSome then value.scalarText? else defaultText? rest
termination_by pairs => sizeOf pairs

end

/-- A scalar, built at depth `d`. -/
def scalarValue (d : Nat) (tag : Tag) (text : Option Text) : Value × Faults :=
  match text with
  | none => (.leaf .null, [(d, .malformed)])
  | some text =>
    match Leaf.ofScalar tag text with
    | .ok l => (.leaf l, [])
    | .error fault => (.leaf .null, [(d, fault)])

/-- The key that a value makes; only leaves are keys. -/
def Value.key? : Value → Option Leaf
  | .leaf l => some l
  | _ => none

/-- The faults of a key, which must be a leaf. -/
def keyFaults (d : Nat) (key : Value × Faults) : Faults :=
  if key.1.key?.isSome then key.2 else [(d, .malformed)]

mutual

/-- The value of a node, built at depth `d`. -/
def Value.ofNode (d : Nat) : Node → Value × Faults
  | .self => (.list [], [])
  | .scalar tag text =>
    if tag.isCollection then (.list [], [(d + 1, .malformed)])
    else
      let tag := if tag == .value then Tag.unknown else tag
      scalarValue d tag (some text)
  | .seq tag items =>
    match tag with
    | .seq =>
      let (values, faults) := ofItems (d + 1) items
      (.list values, faults)
    | .omap => (.list [], ofSingles (d + 1) items)
    | .pairs => (.list [], ofSingles (d + 1) items)
    | .map => (.list [], [(d + 1, .malformed)])
    | .set => (.list [], [(d + 1, .malformed)])
    | _ => (.leaf .null, [(d, .malformed)])
  | .map tag pairs =>
    match tag with
    | .map =>
      let p := ofPairs (d + 1) pairs
      (.table p.table, p.faults)
    | .set =>
      let p := ofPairs (d + 1) pairs
      (.set (p.table.map (·.1)), p.faults)
    | .seq => (.list [], [(d + 1, .malformed)])
    | .omap => (.list [], [(d + 1, .malformed)])
    | .pairs => (.list [], [(d + 1, .malformed)])
    | tag => scalarValue d tag (Node.scalarText? (.map tag pairs))
termination_by node => sizeOf node

/-- The values of the items of a sequence. -/
def ofItems (d : Nat) : List Node → List Value × Faults
  | [] => ([], [])
  | item :: rest =>
    let (value, faults) := Value.ofNode d item
    let (values, more) := ofItems d rest
    (value :: values, faults ++ more)
termination_by items => sizeOf items

/-- The faults of items that must be mappings of one pair each. -/
def ofSingles (d : Nat) : List Node → Faults
  | [] => []
  | .map _ [(key, value)] :: rest =>
    (Value.ofNode d key).2 ++ (Value.ofNode d value).2 ++ ofSingles d rest
  | _ :: _ => [(d, .malformed)]
termination_by items => sizeOf items

/-- The pairs of a mapping. -/
def ofPairs (d : Nat) : List (Node × Node) → Pairs
  | [] => {}
  | (keyNode, valueNode) :: rest =>
    let p := ofPairs d rest
    if keyNode.isMerge then
      let brought := ofMerged d valueNode
      { p with merged := brought.1 ++ p.merged, mergedFaults := brought.2 ++ p.mergedFaults }
    else
      let plain := keyNode.defaultKey?.map fun text => scalarValue d .str (some text)
      let key := plain.getD (Value.ofNode d keyNode)
      let (value, faults) := Value.ofNode d valueNode
      { p with own := (key.1.key?, value) :: p.own,
               ownFaults := keyFaults d key ++ faults ++ p.ownFaults }
termination_by pairs => sizeOf pairs

/-- The pairs that the value of a merging key brings in: those of one mapping, or of several, the
last of which comes first. -/
def ofMerged (d : Nat) : Node → List (Option Leaf × Value) × Faults
  | .map _ pairs =>
    let p := ofPairs d pairs
    (p.all, p.faults)
  | .seq _ items => ofMergedItems d items
  | .self => ([], [])
  | .scalar _ _ => ([], [(d, .malformed)])
termination_by node => sizeOf node

/-- The pairs that several mappings bring in, the last of which comes first. -/
def ofMergedItems (d : Nat) : List Node → List (Option Leaf × Value) × Faults
  | [] => ([], [])
  | .map _ pairs :: rest =>
    let p := ofPairs d pairs
    let (more, faults) := ofMergedItems d rest
    (more ++ p.all, faults ++ p.faults)
  | .self :: rest => ofMergedItems d rest
  | _ :: _ => ([], [(d, .malformed)])
termination_by items => sizeOf items

end

/-- The value of the only document of a text, `none` when the text has none. -/
def Value.ofText? (s : Text) : Outcome (Option Value) := do
  match ← Node.ofText? s with
  | none => return none
  | some root =>
    let (value, faults) := Value.ofNode 0 root
    match Faults.first? faults with
    | none => return some value
    | some fault => throw fault

end DocAudit.Yaml
