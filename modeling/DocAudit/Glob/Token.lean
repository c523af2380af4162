import DocAudit.Text.Basic

/-!
# Glob patterns

A pattern is read into tokens: `*` stands for any characters, the slash included, `?` for one, `**` as
a whole component for any number of components, and brackets for one character of a class.

## Contents

* `GlobToken`, `GlobFault`
* `GlobToken.read`: the tokens of a pattern, or why it is none

## Termination

A class is read up to its closing bracket, so what follows it is shorter than the pattern.
-/

namespace DocAudit

open Text

/-- A part of a character class. -/
inductive ClassItem
  | single (c : Char)
  | range (low high : Char)
  deriving DecidableEq, Repr

/-- A token of a pattern. -/
inductive GlobToken
  /-- The character itself. -/
  | literal (c : Char)
  /-- Any one character. -/
  | anyOne
  /-- Any text. -/
  | anyText
  /-- Nothing, or any text that ends in a slash. -/
  | anyDirs
  /-- One character of the class, or one outside of it. -/
  | oneOf (negated : Bool) (items : List ClassItem)
  deriving DecidableEq, Repr

/-- Why a text is no pattern. -/
inductive GlobFault
  /-- A bracket at this position opens a class that is empty or never closed. -/
  | unclosedClass (position : Nat)
  /-- Two stars stand next to something that is not a slash. -/
  | partialComponent
  deriving DecidableEq, Repr

/-- The wording of a fault. -/
def GlobFault.message : GlobFault → Text
  | .unclosedClass position => "unclosed character class at position ".toList ++ ofNat position
  | .partialComponent => "recursive wildcards must form a single path component".toList

namespace ClassItem

/-- The members of a class, read from left to right in threes: a sign between two members makes a
range of them. -/
def ofMembers : Text → List ClassItem
  | low :: '-' :: high :: rest => .range low high :: ofMembers rest
  | c :: rest => .single c :: ofMembers rest
  | [] => []

/-- The character belongs to the part. -/
def holds (c : Char) : ClassItem → Bool
  | .single d => c == d
  | .range low high => low ≤ c && c ≤ high

end ClassItem

namespace GlobToken

/-- The members up to the closing bracket and what follows it. -/
def members? : Text → Option (Text × Text)
  | [] => none
  | ']' :: rest => some ([], rest)
  | c :: rest => (members? rest).map fun (ms, after) => (c :: ms, after)

/-- The members of a class and what follows it; a closing bracket in the first place is a member. -/
def classBody? : Text → Option (Text × Text)
  | ']' :: rest => (members? rest).map fun (ms, after) => (']' :: ms, after)
  | s =>
    match members? s with
    | some ([], _) => none
    | result => result

/-- A class after its opening bracket: whether it is negated, its members and what follows it. -/
def class? : Text → Option (Bool × Text × Text)
  | '!' :: rest => (classBody? rest).map fun (ms, after) => (true, ms, after)
  | s => (classBody? s).map fun (ms, after) => (false, ms, after)

theorem length_members? {s ms after : Text} (h : members? s = some (ms, after)) :
    after.length < s.length := by
  fun_induction members? s generalizing ms after with
  | case1 => simp at h
  | case2 rest => simp at h; simp [← h.2]
  | case3 c rest _ ih =>
    obtain ⟨⟨ms', after'⟩, hr, he⟩ := Option.map_eq_some_iff.1 h
    have := ih hr
    simp only [Prod.mk.injEq] at he
    rw [← he.2, List.length_cons]
    omega

theorem length_classBody? {s ms after : Text} (h : classBody? s = some (ms, after)) :
    after.length < s.length := by
  unfold classBody? at h
  split at h
  · obtain ⟨⟨ms', after'⟩, hr, he⟩ := Option.map_eq_some_iff.1 h
    have := length_members? hr
    simp only [Prod.mk.injEq] at he
    rw [← he.2, List.length_cons]
    omega
  · split at h
    · simp at h
    · exact length_members? h

theorem length_class? {s ms after : Text} {negated : Bool}
    (h : class? s = some (negated, ms, after)) : after.length < s.length := by
  unfold class? at h
  split at h
  · obtain ⟨⟨ms', after'⟩, hr, he⟩ := Option.map_eq_some_iff.1 h
    have := length_classBody? hr
    simp only [Prod.mk.injEq] at he
    rw [← he.2.2, List.length_cons]
    omega
  · obtain ⟨⟨ms', after'⟩, hr, he⟩ := Option.map_eq_some_iff.1 h
    have := length_classBody? hr
    simp only [Prod.mk.injEq] at he
    rwa [← he.2.2]

/-- The tokens of the rest of a pattern. `position` is that of its first character, and `fresh` says
that a component starts there. -/
def readFrom (position : Nat) (fresh : Bool) (s : Text) : Except GlobFault (List GlobToken) :=
  match s with
  | [] => .ok []
  | '*' :: '*' :: rest =>
    match rest with
    | [] => if fresh then .ok [.anyText] else .error .partialComponent
    | '/' :: after =>
      if fresh then (.anyDirs :: ·) <$> readFrom (position + 3) true after
      else .error .partialComponent
    | _ => .error .partialComponent
  | '*' :: rest => (.anyText :: ·) <$> readFrom (position + 1) false rest
  | '?' :: rest => (.anyOne :: ·) <$> readFrom (position + 1) false rest
  | '[' :: rest =>
    match _h : class? rest with
    | none => .error (.unclosedClass position)
    | some (negated, ms, after) =>
      (.oneOf negated (ClassItem.ofMembers ms) :: ·) <$>
        readFrom (position + 1 + (rest.length - after.length)) false after
  | c :: rest => (.literal c :: ·) <$> readFrom (position + 1) (c == '/') rest
termination_by s.length
decreasing_by
  all_goals simp only [List.length_cons]
  all_goals try omega
  have := length_class? (by assumption)
  omega

/-- The tokens of a pattern, or why it is none. -/
def read (pattern : Text) : Except GlobFault (List GlobToken) := readFrom 0 true pattern

end GlobToken

end DocAudit
