import DocAudit.Yaml.Tag
import DocAudit.Yaml.Token

/-!
# Nodes

A YAML document as a tree of tagged nodes, built from its tokens. Aliases are replaced by the nodes
that they stand for.

## Contents

* `Node`: scalars, sequences and mappings with their tags
* `Builder`: the tokens that are left, the anchors and the tag handles
* `Node.ofText?`: the only document of a text, `none` when there is none

## Termination

Every call that is not the last of its branch takes a token, so twice the number of tokens bounds
the depth of the calls.
-/

namespace DocAudit.Yaml

open Text

/-- A tagged node. -/
inductive Node
  | scalar (tag : Tag) (text : Text)
  | seq (tag : Tag) (items : List Node)
  | map (tag : Tag) (pairs : List (Node × Node))
  /-- An alias inside the very node that it stands for. -/
  | self
  deriving Repr, Inhabited

/-- What is known while a document is built. -/
structure Builder where
  tokens : List Token
  /-- Why there are no more tokens. -/
  stop : Fault
  anchors : List (Text × Node) := []
  handles : List (Text × Text) := []
  /-- How many collections are being built, one inside the other. -/
  depth : Nat := 0

/-- How many collections may stand one inside the other. -/
def depthLimit : Nat := 489

/-- A step of the construction. -/
abbrev Build := StateT Builder Outcome

namespace Build

/-- The next token. -/
def peek : Build Token := do
  match (← get).tokens with
  | [] => throw (← get).stop
  | t :: _ => return t

/-- Drops the next token. -/
def drop : Build Unit := modify fun b => { b with tokens := b.tokens.tail }

/-- The handles that need no directive. -/
def defaultHandles : List (Text × Text) := [(['!'], ['!']), (['!', '!'], Tag.stem)]

/-- An anchor must be new. -/
def checkAnchor (anchor : Option Text) : Build Unit := do
  match anchor with
  | none => pure ()
  | some name => if ((← get).anchors.lookup name).isSome then throw .malformed

/-- Gives the node the name of the anchor. -/
def setAnchor (anchor : Option Text) (node : Node) : Build Unit := do
  match anchor with
  | none => pure ()
  | some name => modify fun b => { b with anchors := (name, node) :: b.anchors }

/-- The full name of a tag. -/
def tagName (handle : Option Text) (text : Text) : Build Text := do
  match handle with
  | none => return text
  | some h => match (← get).handles.lookup h with
    | none => throw .malformed
    | some stem => return stem ++ text

/-- The anchor and the tag before a node, in either order. -/
def properties : Build (Option Text × Option Text) := do
  match ← peek with
  | .anchor name =>
    drop
    match ← peek with
    | .tag handle text => drop; return (some name, some (← tagName handle text))
    | _ => return (some name, none)
  | .tag handle text =>
    drop
    match ← peek with
    | .anchor name => drop; return (some name, some (← tagName handle text))
    | _ => return (none, some (← tagName handle text))
  | _ => return (none, none)

/-- The tag of a collection: the one of its kind where none is given. -/
def collectionTag (kind : Tag) : Option Text → Tag
  | none => kind
  | some ['!'] => kind
  | some name => Tag.ofText name

/-- The tag of a scalar: by its form where a plain one has none. -/
def scalarTag (tag : Option Text) (text : Text) (isPlain : Bool) : Tag :=
  match tag with
  | some ['!'] => Tag.ofForm text
  | some name => Tag.ofText name
  | none => if isPlain then Tag.ofPlain text else .str

/-- The node that stands where nothing is written. -/
def empty : Node := .scalar .null []

/-- Builds the parts of a collection. -/
def inside {α : Type} (build : Build α) : Build α := do
  let depth := (← get).depth
  if depthLimit ≤ depth then throw .tooDeep
  modify fun b => { b with depth := depth + 1 }
  let parts ← build
  modify fun b => { b with depth }
  return parts

/-- A collection, built between the two namings of its anchor. -/
def collection (anchor : Option Text) (build : Build Node) : Build Node := do
  checkAnchor anchor
  setAnchor anchor .self
  drop
  let node ← inside build
  setAnchor anchor node
  return node

mutual

/-- A node. A block node may be a collection by indentation; after a key, a sequence may stand at the
column of the key. -/
def node : Nat → (block indentless : Bool) → Build Node
  | 0, _, _ => throw .malformed
  | n + 1, block, indentless => do
    if let .alias name ← peek then
      drop
      match (← get).anchors.lookup name with
      | none => throw .malformed
      | some target => return target
    let (anchor, tag) ← properties
    match ← peek with
    | .scalar text isPlain =>
      checkAnchor anchor
      drop
      let node := Node.scalar (scalarTag tag text isPlain) text
      setAnchor anchor node
      return node
    | .flowSequenceStart =>
      collection anchor do return .seq (collectionTag .seq tag) (← flowItems n true)
    | .flowMappingStart =>
      collection anchor do return .map (collectionTag .map tag) (← flowPairs n true)
    | .blockEntry =>
      if indentless then
        checkAnchor anchor
        setAnchor anchor .self
        let node := Node.seq (collectionTag .seq tag) (← inside (indentlessItems n))
        setAnchor anchor node
        return node
      else bare anchor tag
    | .blockSequenceStart =>
      if block then collection anchor do return .seq (collectionTag .seq tag) (← blockItems n)
      else bare anchor tag
    | .blockMappingStart =>
      if block then collection anchor do return .map (collectionTag .map tag) (← blockPairs n)
      else bare anchor tag
    | _ => bare anchor tag

/-- A node of which there is nothing but an anchor or a tag. -/
def bare (anchor tag : Option Text) : Build Node := do
  if anchor.isNone && tag.isNone then throw .malformed
  checkAnchor anchor
  let node := Node.scalar (scalarTag tag [] tag.isNone) []
  setAnchor anchor node
  return node

/-- The entries of a block sequence, to its end. -/
def blockItems : Nat → Build (List Node)
  | 0 => throw .malformed
  | n + 1 => do
    match ← peek with
    | .blockEntry =>
      drop
      let item ← match ← peek with
        | .blockEntry => pure empty
        | .blockEnd => pure empty
        | _ => node n true false
      return item :: (← blockItems n)
    | .blockEnd => drop; return []
    | _ => throw .malformed

/-- The entries of a sequence at the column of its key. Nothing marks its end. -/
def indentlessItems : Nat → Build (List Node)
  | 0 => throw .malformed
  | n + 1 => do
    match ← peek with
    | .blockEntry =>
      drop
      let item ← match ← peek with
        | .blockEntry => pure empty
        | .key => pure empty
        | .value => pure empty
        | .blockEnd => pure empty
        | _ => node n true false
      return item :: (← indentlessItems n)
    | _ => return []

/-- A key or a value of a block mapping; it may be missing. -/
def blockPart : Nat → Build Node
  | 0 => throw .malformed
  | n + 1 => do
    match ← peek with
    | .key => return empty
    | .value => return empty
    | .blockEnd => return empty
    | _ => node n true true

/-- The pairs of a block mapping, to its end. -/
def blockPairs : Nat → Build (List (Node × Node))
  | 0 => throw .malformed
  | n + 1 => do
    match ← peek with
    | .key =>
      drop
      let key ← blockPart n
      let value ← match ← peek with
        | .value => do drop; blockPart n
        | _ => pure empty
      return (key, value) :: (← blockPairs n)
    | .blockEnd => drop; return []
    | _ => throw .malformed

/-- A key or a value inside brackets; it may be missing. -/
def flowPart : Nat → (mayBeValue : Bool) → Build Node
  | 0, _ => throw .malformed
  | n + 1, mayBeValue => do
    match ← peek with
    | .value => if mayBeValue then return empty else node n false false
    | .flowEntry => return empty
    | .flowSequenceEnd => return empty
    | .flowMappingEnd => return empty
    | _ => node n false false

/-- A value inside brackets, after its colon; without one it is missing. -/
def flowValue : Nat → Build Node
  | 0 => throw .malformed
  | n + 1 => do
    match ← peek with
    | .value => drop; flowPart n false
    | _ => return empty

/-- The entries of a sequence in brackets. -/
def flowItems : Nat → (first : Bool) → Build (List Node)
  | 0, _ => throw .malformed
  | n + 1, first => do
    if let .flowSequenceEnd ← peek then drop; return []
    if !first then
      match ← peek with
      | .flowEntry => drop
      | _ => throw .malformed
    match ← peek with
    | .flowSequenceEnd => drop; return []
    | .key =>
      drop
      let pair ← inside do
        let key ← flowPart n true
        return (key, ← flowValue n)
      return .map .map [pair] :: (← flowItems n false)
    | _ =>
      let item ← node n false false
      return item :: (← flowItems n false)

/-- The pairs of a mapping in braces. -/
def flowPairs : Nat → (first : Bool) → Build (List (Node × Node))
  | 0, _ => throw .malformed
  | n + 1, first => do
    if let .flowMappingEnd ← peek then drop; return []
    if !first then
      match ← peek with
      | .flowEntry => drop
      | _ => throw .malformed
    match ← peek with
    | .flowMappingEnd => drop; return []
    | .key =>
      drop
      let key ← flowPart n true
      let value ← flowValue n
      return (key, value) :: (← flowPairs n false)
    | _ =>
      let key ← node n false false
      return (key, empty) :: (← flowPairs n false)

end

/-- The directives before a document; the handles that they define. -/
def directives : Nat → (seenVersion : Bool) → (defined : List (Text × Text)) →
    Build (List (Text × Text))
  | 0, _, _ => throw .malformed
  | n + 1, seenVersion, defined => do
    match ← peek with
    | .directive (.version major) =>
      if seenVersion || major != 1 then throw .malformed
      drop
      directives n true defined
    | .directive (.tagHandle handle stem) =>
      if (defined.lookup handle).isSome then throw .malformed
      drop
      directives n seenVersion ((handle, stem) :: defined)
    | .directive .other => drop; directives n seenVersion defined
    | _ => return defined

/-- The rest of a text after its document: at most one end marker, then document ends only. -/
def ending : Nat → Build Unit
  | 0 => throw .malformed
  | n + 1 => do
    match ← peek with
    | .documentEnd => drop; ending n
    | .streamEnd => return ()
    | _ => throw .malformed

/-- The only document, `none` when there is none. -/
def document (n : Nat) : Build (Option Node) := do
  match ← peek with
  | .streamEnd => return none
  | .directive _ =>
    let defined ← directives n false []
    modify fun b => { b with handles := defined ++ defaultHandles }
    match ← peek with
    | .documentStart => drop
    | _ => throw .malformed
    some <$> content
  | .documentStart => drop; some <$> content
  | _ =>
    let root ← node n true false
    ending n
    return some root
where
  /-- A document after its start marker. -/
  content : Build Node := do
    let root ← match ← peek with
      | .directive _ => pure empty
      | .documentStart => pure empty
      | .documentEnd => pure empty
      | .streamEnd => pure empty
      | _ => node n true false
    ending n
    return root

end Build

/-- Control characters, surrogates and the two highest code points of the first plane are refused. -/
def isAccepted (c : Char) : Bool :=
  let n := c.toNat
  n == 0x09 || n == 0x0A || n == 0x0D || (0x20 ≤ n && n ≤ 0x7E) || n == 0x85 ||
    (0xA0 ≤ n && n ≤ 0xD7FF) || (0xE000 ≤ n && n ≤ 0xFFFD) || 0x10000 ≤ n

/-- The only document of a text, `none` when the text has none. -/
def Node.ofText? (s : Text) : Outcome (Option Node) :=
  if !s.all isAccepted then .error .malformed
  else
    let (tokens, fault) := Token.ofText s
    let builder : Builder :=
      { tokens, stop := fault.getD .malformed, handles := Build.defaultHandles }
    (Build.document (2 * tokens.length + 8)).run' builder

end DocAudit.Yaml
