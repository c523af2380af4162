import DocAudit.Regex.Pattern

/-!
# Matching of regular expressions

The matcher tries the possibilities in the order of preference and goes on with the first one that lets
the rest of the expression match.

## Contents

* `Spot`: a position in a text and what the groups have matched
* `Regex.run`: the matcher, which is told what has to follow
* `Regex.matchesIn`: a match anywhere in a text

## Termination

`Regex.run` follows the expression. A repetition is allowed as many turns as there are characters left,
and two more: a turn that matches nothing is the last one.
-/

namespace DocAudit

open Text

/-- A position in a text: the characters before it, the last one first, those after it, and what the
groups have matched. -/
structure Spot where
  before : Text
  after : Text
  groups : List (Nat × Text) := []
  deriving DecidableEq, Repr

namespace Spot

/-- The position after one more character of a kind. -/
def step? (p : Char → Bool) (s : Spot) : Option Spot :=
  match s.after with
  | [] => none
  | c :: r => if p c then some { s with before := c :: s.before, after := r } else none

/-- The position `n` characters earlier. -/
def back? : Nat → Spot → Option Spot
  | 0, s => some s
  | n + 1, s =>
    match s.before with
    | [] => none
    | c :: r => back? n { s with before := r, after := c :: s.after }

/-- The characters between an earlier position and this one. -/
def since (s start : Spot) : Text := start.after.take (start.after.length - s.after.length)

/-- The two positions have the same place in the text. -/
def isAt (s t : Spot) : Bool := s.after.length == t.after.length

/-- The position after a text that must stand there. -/
def afterText? (same : Char → Char → Bool) : Text → Spot → Option Spot
  | [], s => some s
  | c :: text, s => (s.step? (same c)).bind (afterText? same text)

/-- The next character on a side is a word character. -/
def meetsWord (ascii : Bool) : Text → Bool
  | [] => false
  | c :: _ => Category.word.holds ascii c

/-- The anchor holds at the position. -/
def holds (m : Modes) (a : Anchor) (s : Spot) : Bool :=
  match a with
  | .lineStart => s.before.isEmpty || (m.multiLine && s.before.head? == some '\n')
  | .lineEnd =>
    s.after.isEmpty || s.after == ['\n'] || (m.multiLine && s.after.head? == some '\n')
  | .textStart => s.before.isEmpty
  | .textEnd => s.after.isEmpty
  | .wordEdge => meetsWord m.ascii s.before != meetsWord m.ascii s.after
  | .noWordEdge =>
    !(s.before.isEmpty && s.after.isEmpty) && meetsWord m.ascii s.before == meetsWord m.ascii s.after

end Spot

namespace Regex

/-- What has to follow a match. -/
abbrev Follow := Spot → Option Spot

/-- Turns of `body` as many as possible, then `next`. `last` is where the turn before began. -/
def greedy (body : Spot → Follow → Option Spot) (least : Nat) (most : Option Nat) :
    (turns : Nat) → (last : Option Spot) → Spot → Follow → Option Spot
  | 0, _, s, next => next s
  | turns + 1, last, s, next =>
    let again (_ : Unit) : Option Spot :=
      body s fun t => greedy body (least - 1) (most.map (· - 1)) turns (some s) t next
    if 0 < least then again ()
    else if most = some 0 || last.any (·.isAt s) then next s
    else match again () with
      | some e => some e
      | none => next s

/-- Turns of `body` as few as possible, then `next`. -/
def reluctant (body : Spot → Follow → Option Spot) (least : Nat) (most : Option Nat) :
    (turns : Nat) → (last : Option Spot) → Spot → Follow → Option Spot
  | 0, _, s, next => next s
  | turns + 1, last, s, next =>
    let again (_ : Unit) : Option Spot :=
      body s fun t => reluctant body (least - 1) (most.map (· - 1)) turns (some s) t next
    if 0 < least then again ()
    else match next s with
      | some t => some t
      | none => if most = some 0 || last.any (·.isAt s) then none else again ()

/-- The end of the first match of an expression at a position, such that `next` goes on from there. -/
def run (m : Modes) : Regex → Spot → Follow → Option Spot
  | .empty, s, next => next s
  | .set negated items, s, next =>
    (s.step? fun c => items.any (·.holds m c) != negated).bind next
  | .any, s, next => (s.step? fun c => m.dotAll || c != '\n').bind next
  | .anchor a, s, next => if s.holds m a then next s else none
  | .seq r t, s, next => run m r s fun s => run m t s next
  | .alt r t, s, next =>
    match run m r s next with
    | some e => some e
    | none => run m t s next
  | .repeated appetite least most body, s, next =>
    let turns := s.after.length + 2
    let least := min least turns
    match appetite with
    | .greedy => greedy (run m body) least most (least + turns) none s next
    | .lazy => reluctant (run m body) least most (least + turns) none s next
    | .possessive =>
      (greedy (fun s next => (run m body s some).bind next) least most (least + turns) none s some).bind
        next
  | .capture group body, s, next =>
    run m body s fun e => next { e with groups := (group, e.since s) :: e.groups }
  | .scoped on off body, s, next =>
    run ((m.union on).without off) body s next
  | .atomic body, s, next => (run m body s some).bind next
  | .same group, s, next =>
    match s.groups.lookup group with
    | none => none
    | some text =>
      (s.afterText? (fun c d => (m.spellings c.toNat).contains d.toNat) text).bind next
  | .ahead negated body, s, next =>
    match run m body s some, negated with
    | some e, false => next { s with groups := e.groups }
    | none, true => next s
    | _, _ => none
  | .behind negated width body, s, next =>
    match (s.back? width).bind (fun b => run m body b some), negated with
    | some e, false => next { s with groups := e.groups }
    | none, true => next s
    | _, _ => none
  | .whether group yes no, s, next =>
    if (s.groups.lookup group).isSome then run m yes s next else run m no s next

/-- A match at this or a later position. -/
def search? (m : Modes) (r : Regex) : (before after : Text) → Option Spot
  | before, [] => run m r { before, after := [] } some
  | before, c :: rest =>
    match run m r { before, after := c :: rest } some with
    | some e => some e
    | none => search? m r (c :: before) rest

/-- The expression matches somewhere in the text. -/
def matchesIn (m : Modes) (r : Regex) (s : Text) : Bool := (search? m r [] s).isSome

end Regex

end DocAudit
