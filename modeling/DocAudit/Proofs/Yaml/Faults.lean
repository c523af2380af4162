import DocAudit.Yaml.Value

/-!
# Where faults come from

A text has no value when it is malformed, or when one of its scalars has the form or the tag of a value
that there is not. A collection adds no faults of its own besides being malformed: whatever else is wrong
with a tree of nodes is wrong with one scalar in it.

## Contents

* `Node.Holds`: the nodes inside of a node
* `Node.IsScalar`, `Node.IsFaulty`: a scalar, and one whose text makes no value of its tag
* `areOf_ofNode`: **every other fault of a node is that of a scalar in it**
* `FailsOnly`, `Leaf.canFail_of_ofScalar`: the tags of scalars that can be faulty, and their faults
* `Value.HasSource`, `Value.hasSource_of_ofText?`: **where the fault of a text comes from**
-/

namespace DocAudit.Yaml

open Text

/-- The nodes inside of a node, itself among them. -/
inductive Node.Holds (root : Node) : Node → Prop
  | refl : Holds root root
  | item {tag : Tag} {items : List Node} {item : Node} :
    Holds root (.seq tag items) → item ∈ items → Holds root item
  | key {tag : Tag} {pairs : List (Node × Node)} {key value : Node} :
    Holds root (.map tag pairs) → (key, value) ∈ pairs → Holds root key
  | value {tag : Tag} {pairs : List (Node × Node)} {key value : Node} :
    Holds root (.map tag pairs) → (key, value) ∈ pairs → Holds root value

/-- The node is a scalar, or a mapping with an entry `=` that stands for one. -/
inductive Node.IsScalar : Node → Tag → Text → Prop
  | scalar {tag : Tag} {text : Text} : IsScalar (.scalar tag text) tag text
  | map {tag : Tag} {pairs : List (Node × Node)} {text : Text} :
    defaultText? pairs = some text → IsScalar (.map tag pairs) tag text

/-- The text of the scalar makes no value of its tag. -/
def Node.IsFaulty (node : Node) (fault : Fault) : Prop :=
  ∃ tag text, node.IsScalar tag text ∧ Leaf.ofScalar tag text = .error fault

namespace Faults

/-- Each of the faults is that of being malformed, or of a scalar inside of the node. -/
def AreOf (root : Node) (faults : Faults) : Prop :=
  ∀ f ∈ faults, f.2 = .malformed ∨ ∃ node, root.Holds node ∧ node.IsFaulty f.2

variable {root : Node} {fs gs : Faults}

theorem AreOf.nil : AreOf root [] := fun _ h => nomatch h

theorem AreOf.malformed (d : Nat) : AreOf root [(d, .malformed)] := fun f h => by
  rw [List.mem_singleton.mp h]
  exact Or.inl rfl

theorem AreOf.append (hf : AreOf root fs) (hg : AreOf root gs) : AreOf root (fs ++ gs) := fun f h =>
  (List.mem_append.mp h).elim (hf f) (hg f)

theorem AreOf.left (h : AreOf root (fs ++ gs)) : AreOf root fs := fun f hf =>
  h f (List.mem_append_left gs hf)

theorem AreOf.right (h : AreOf root (fs ++ gs)) : AreOf root gs := fun f hf =>
  h f (List.mem_append_right fs hf)

/-- The fault that is met first is one of them. -/
theorem exists_mem_of_first? {fault : Fault} (h : fs.first? = some fault) : ∃ d, (d, fault) ∈ fs := by
  unfold first? at h
  obtain ⟨⟨d, fault'⟩, hfound, rfl⟩ := Option.map_eq_some_iff.mp h
  exact ⟨d, List.mem_of_find?_eq_some hfound⟩

end Faults

open Faults

section Nodes

variable {root : Node}

/-- The faults of a scalar are its own. -/
theorem areOf_scalarValue {node : Node} {tag : Tag} {text? : Option Text} (d : Nat) (h : root.Holds node)
    (hfaulty : ∀ text fault, text? = some text → Leaf.ofScalar tag text = .error fault →
      fault = .malformed ∨ node.IsFaulty fault) :
    AreOf root (scalarValue d tag text?).2 := by
  unfold scalarValue
  cases text? with
  | none => exact AreOf.malformed d
  | some text =>
    simp only
    cases hleaf : Leaf.ofScalar tag text with
    | ok leaf => exact AreOf.nil
    | error fault =>
      intro f hf
      rw [List.mem_singleton.mp hf]
      exact (hfaulty text fault rfl hleaf).imp_right fun hnode => ⟨node, h, hnode⟩

/-- The faults of a key are those of its node. -/
theorem areOf_keyFaults {key : Value × Faults} (d : Nat) (h : AreOf root key.2) :
    AreOf root (keyFaults d key) := by
  unfold keyFaults
  split
  · exact h
  · exact AreOf.malformed d

mutual

/-- **The faults of a node, apart from malformed ones, are those of scalars in it.** -/
theorem areOf_ofNode (d : Nat) : ∀ {node : Node}, root.Holds node → AreOf root (Value.ofNode d node).2
  | .self, _ => by
    rw [Value.ofNode]
    exact AreOf.nil
  | .scalar tag text, h => by
    rw [Value.ofNode]
    split
    · exact AreOf.malformed _
    · refine areOf_scalarValue d h fun text' fault htext hfault => ?_
      obtain rfl := Option.some.inj htext
      split at hfault
      · exact Or.inl (Except.error.inj hfault).symm
      · exact Or.inr ⟨tag, text, .scalar, hfault⟩
  | .seq tag items, h => by
    have hitems : ∀ item ∈ items, root.Holds item := fun item => h.item
    unfold Value.ofNode
    split
    · exact areOf_ofItems (d + 1) hitems
    · exact areOf_ofSingles (d + 1) hitems
    · exact areOf_ofSingles (d + 1) hitems
    · exact AreOf.malformed _
    · exact AreOf.malformed _
    · exact AreOf.malformed _
  | .map tag pairs, h => by
    have hpairs : ∀ key value, (key, value) ∈ pairs → root.Holds key ∧ root.Holds value :=
      fun key value hmem => ⟨h.key hmem, h.value hmem⟩
    have hfaults := areOf_ofPairs (d + 1) hpairs
    unfold Value.ofNode
    split
    · exact hfaults
    · exact hfaults
    · exact AreOf.malformed _
    · exact AreOf.malformed _
    · exact AreOf.malformed _
    · refine areOf_scalarValue d h fun text fault htext hfault =>
        Or.inr ⟨tag, text, .map ?_, hfault⟩
      rwa [Node.scalarText?] at htext
termination_by node => sizeOf node

theorem areOf_ofItems (d : Nat) : ∀ {items : List Node}, (∀ item ∈ items, root.Holds item) →
    AreOf root (ofItems d items).2
  | [], _ => by
    rw [ofItems]
    exact AreOf.nil
  | item :: rest, h => by
    have hitem := areOf_ofNode d (h item List.mem_cons_self)
    have hrest := areOf_ofItems d fun item hmem => h item (List.mem_cons_of_mem _ hmem)
    rw [ofItems]
    exact hitem.append hrest
termination_by items => sizeOf items

theorem areOf_ofSingles (d : Nat) : ∀ {items : List Node}, (∀ item ∈ items, root.Holds item) →
    AreOf root (ofSingles d items)
  | [], _ => by
    rw [ofSingles]
    exact AreOf.nil
  | .map _ [(key, value)] :: rest, h => by
    have hmap := h _ List.mem_cons_self
    have hkey := areOf_ofNode d (hmap.key (List.mem_singleton_self (key, value)))
    have hvalue := areOf_ofNode d (hmap.value (List.mem_singleton_self (key, value)))
    have hrest := areOf_ofSingles d fun item hmem => h item (List.mem_cons_of_mem _ hmem)
    rw [ofSingles]
    exact (hkey.append hvalue).append hrest
  | .self :: _, _ => by simpa only [ofSingles] using AreOf.malformed d
  | .scalar _ _ :: _, _ => by simpa only [ofSingles] using AreOf.malformed d
  | .seq _ _ :: _, _ => by simpa only [ofSingles] using AreOf.malformed d
  | .map _ [] :: _, _ => by simpa only [ofSingles] using AreOf.malformed d
  | .map _ (_ :: _ :: _) :: _, _ => by simpa only [ofSingles] using AreOf.malformed d
termination_by items => sizeOf items

theorem areOf_ofPairs (d : Nat) : ∀ {pairs : List (Node × Node)},
    (∀ key value, (key, value) ∈ pairs → root.Holds key ∧ root.Holds value) →
    AreOf root (ofPairs d pairs).faults
  | [], _ => by
    rw [ofPairs]
    exact AreOf.nil
  | (key, value) :: rest, h => by
    obtain ⟨hkey, hvalue⟩ := h key value List.mem_cons_self
    have hrest := areOf_ofPairs d fun key value hmem => h key value (List.mem_cons_of_mem _ hmem)
    rw [ofPairs]
    split
    · exact ((areOf_ofMerged d hvalue).append hrest.left).append hrest.right
    · have hplain : AreOf root ((key.defaultKey?.map fun text =>
          scalarValue d .str (some text)).getD (Value.ofNode d key)).2 := by
        cases key.defaultKey? with
        | none => exact areOf_ofNode d hkey
        | some text => exact AreOf.nil
      exact hrest.left.append
        (((areOf_keyFaults d hplain).append (areOf_ofNode d hvalue)).append hrest.right)
termination_by pairs => sizeOf pairs

theorem areOf_ofMerged (d : Nat) : ∀ {node : Node}, root.Holds node → AreOf root (ofMerged d node).2
  | .self, _ => by
    rw [ofMerged]
    exact AreOf.nil
  | .scalar _ _, _ => by
    rw [ofMerged]
    exact AreOf.malformed d
  | .map _ pairs, h => by
    rw [ofMerged]
    exact areOf_ofPairs d fun key value hmem => ⟨h.key hmem, h.value hmem⟩
  | .seq _ items, h => by
    rw [ofMerged]
    exact areOf_ofMergedItems d fun item hmem => h.item hmem
termination_by node => sizeOf node

theorem areOf_ofMergedItems (d : Nat) : ∀ {items : List Node}, (∀ item ∈ items, root.Holds item) →
    AreOf root (ofMergedItems d items).2
  | [], _ => by
    rw [ofMergedItems]
    exact AreOf.nil
  | .map _ pairs :: rest, h => by
    have hmap := h _ List.mem_cons_self
    have hpairs := areOf_ofPairs d fun key value hmem => ⟨hmap.key hmem, hmap.value hmem⟩
    have hrest := areOf_ofMergedItems d fun item hmem => h item (List.mem_cons_of_mem _ hmem)
    rw [ofMergedItems]
    exact hrest.append hpairs
  | .self :: rest, h => by
    rw [ofMergedItems]
    exact areOf_ofMergedItems d fun item hmem => h item (List.mem_cons_of_mem _ hmem)
  | .scalar _ _ :: _, _ => by simpa only [ofMergedItems] using AreOf.malformed d
  | .seq _ _ :: _, _ => by simpa only [ofMergedItems] using AreOf.malformed d
termination_by items => sizeOf items

end

end Nodes

/-! ## Faults of scalars -/

/-- Every fault that the result can be satisfies `p`. -/
def FailsOnly (p : Fault → Prop) {α : Type} (x : Outcome α) : Prop := ∀ fault, x = .error fault → p fault

namespace FailsOnly

variable {p : Fault → Prop} {α β : Type}

theorem ok (a : α) : FailsOnly p (.ok a) := fun _ h => nomatch h

theorem error {fault : Fault} (h : p fault) : FailsOnly p (.error fault : Outcome α) := fun _ he =>
  Except.error.inj he ▸ h

theorem bind {x : Outcome α} {f : α → Outcome β} (hx : FailsOnly p x) (hf : ∀ a, FailsOnly p (f a)) :
    FailsOnly p (x >>= f) := by
  cases x with
  | error fault => exact .error (hx fault rfl)
  | ok a => exact hf a

theorem map {x : Outcome α} (f : α → β) (hx : FailsOnly p x) : FailsOnly p (f <$> x) := by
  cases x with
  | error fault => exact .error (hx fault rfl)
  | ok a => exact .ok (f a)

end FailsOnly

namespace Leaf

/-- The tags of scalars that can be faulty without being malformed, and their faults. -/
inductive CanFail : Tag → Fault → Prop
  | bool : CanFail .bool .noSuchTruth
  | emptyInt : CanFail .int .emptyNumber
  | int : CanFail .int .noSuchValue
  | emptyFloat : CanFail .float .emptyNumber
  | float : CanFail .float .noSuchValue
  | largeFloat : CanFail .float .outOfRange
  | noTimestamp : CanFail .timestamp .notADate
  | timestamp : CanFail .timestamp .noSuchValue

theorem failsOnly_readBool (s : Text) : FailsOnly (CanFail .bool) (readBool s) := by
  unfold readBool
  simp only
  split
  · exact .ok true
  split
  · exact .ok false
  · exact .error .bool

/-- The last step of every notation for whole numbers. -/
theorem failsOnly_known (negative : Bool) (n : Option Int) : FailsOnly (CanFail .int)
    (match n with
      | some n => return if negative then -n else n
      | none => throw .noSuchValue : Outcome Int) := by
  cases n with
  | some n => exact .ok _
  | none => exact .error .int

theorem failsOnly_readInt (s : Text) : FailsOnly (CanFail .int) (readInt s) := by
  unfold readInt
  simp only
  split
  · exact .error .emptyInt
  split
  · exact .error .emptyInt
  · exact .ok 0
  · exact failsOnly_known _ _
  · exact failsOnly_known _ _
  · exact failsOnly_known _ _
  · split <;> exact failsOnly_known _ _

theorem failsOnly_sumSixties (parts : List Float) (sum : Float) (base : Nat) :
    FailsOnly (CanFail .float) (sumSixties sum base parts) := by
  induction parts generalizing sum base with
  | nil => exact .ok sum
  | cons part rest ih =>
    rw [sumSixties]
    split
    · exact ih _ _
    · exact .error .largeFloat

theorem failsOnly_readFloat (s : Text) : FailsOnly (CanFail .float) (readFloat s) := by
  -- the last step of every notation: the sign
  have hsign : ∀ {x : Outcome Float} (negative : Bool), FailsOnly (CanFail .float) x →
      FailsOnly (CanFail .float) (do
        let x ← x
        return if negative then -x else x) := fun negative hx => hx.bind fun _ => .ok _
  unfold readFloat
  simp only
  split
  · exact .error .emptyFloat
  split
  · exact .ok _
  split
  · exact .ok _
  split
  · split
    · exact hsign _ (failsOnly_sumSixties _ _ _)
    · exact .error .float
  · split
    · exact .ok _
    · exact .error .float

/-- A day or a time that may not exist. -/
theorem failsOnly_exists {α : Type} (x : Option α) : FailsOnly (CanFail .timestamp)
    (match x with
      | some a => pure a
      | none => throw .noSuchValue : Outcome α) := by
  cases x with
  | some a => exact .ok a
  | none => exact .error .timestamp

theorem failsOnly_readTimestamp (s : Text) : FailsOnly (CanFail .timestamp) (readTimestamp s) := by
  unfold readTimestamp
  split
  · simp only
    split
    · exact (failsOnly_exists _).bind fun _ => .ok _
    · split
      · exact (failsOnly_exists _).bind fun _ => (failsOnly_exists _).bind fun _ => .ok _
      · exact (failsOnly_exists _).bind fun _ => (failsOnly_exists _).bind fun _ => .ok _
      · split
        · exact .error .timestamp
        · exact (failsOnly_exists _).bind fun _ => (failsOnly_exists _).bind fun _ => .ok _
  · exact .error .noTimestamp

/-- **Only certain scalars can be faulty without being malformed.** -/
theorem canFail_of_ofScalar {tag : Tag} {text : Text} {fault : Fault}
    (h : ofScalar tag text = .error fault) (hfault : fault ≠ .malformed) : CanFail tag fault := by
  cases tag with
  | bool => exact (failsOnly_readBool text).map _ fault h
  | int => exact (failsOnly_readInt text).map _ fault h
  | float => exact (failsOnly_readFloat text).map _ fault h
  | timestamp => exact failsOnly_readTimestamp text fault h
  | null => cases h
  | str => cases h
  | binary =>
    unfold ofScalar at h
    simp only at h
    split at h
    · cases h
    · exact absurd (Except.error.inj h).symm hfault
  | _ => exact absurd (Except.error.inj h).symm hfault

end Leaf

/-! ## Faults of texts -/

/-- Where a fault other than being malformed comes from. -/
inductive Value.HasSource (s : Text) (fault : Fault) : Prop
  /-- There are no nodes, because of an escape for no character, or of too many collections in a
  collection. -/
  | nodes : Node.ofText? s = .error fault → HasSource s fault
  /-- One of the nodes is a scalar that can fail, and does. -/
  | scalar {root node : Node} {tag : Tag} {text : Text} : Node.ofText? s = .ok (some root) →
    root.Holds node → node.IsScalar tag text → Leaf.ofScalar tag text = .error fault →
    Leaf.CanFail tag fault → HasSource s fault

/-- **The fault of a text that is not malformed comes from its nodes, or from a scalar in them.** -/
theorem Value.hasSource_of_ofText? {s : Text} {fault : Fault} (h : Value.ofText? s = .error fault)
    (hfault : fault ≠ .malformed) : HasSource s fault := by
  unfold Value.ofText? at h
  cases hroot : Node.ofText? s with
  | error fault' =>
    rw [hroot] at h
    cases h
    exact .nodes hroot
  | ok root? =>
    rw [hroot] at h
    cases root? with
    | none => cases h
    | some root =>
      have hfaults : AreOf root (Value.ofNode 0 root).2 := areOf_ofNode 0 .refl
      have hfirst : Faults.first? (Value.ofNode 0 root).2 = some fault := by
        cases hfirst : Faults.first? (Value.ofNode 0 root).2 with
        | none =>
          simp only [bind, Except.bind, hfirst] at h
          cases h
        | some fault' =>
          simp only [bind, Except.bind, hfirst] at h
          rw [Except.error.inj h]
      obtain ⟨d, hmem⟩ := exists_mem_of_first? hfirst
      obtain hmalformed | ⟨node, hholds, tag, text, hscalar, hleaf⟩ := hfaults _ hmem
      · exact absurd hmalformed hfault
      · exact .scalar hroot hholds hscalar hleaf (Leaf.canFail_of_ofScalar hleaf hfault)

end DocAudit.Yaml
