import DocAudit.Yaml.Lexeme

/-!
# Tokens

A YAML text as a sequence of tokens. The layout of the text, its columns and line breaks, becomes
explicit: where a collection starts by indentation there is a token for its start and one for its end,
and a scalar that turns out to be a key is preceded by a key token.

## Contents

* `Token`, and `Token.ofText`: all tokens of a text, and the fault at which reading stopped
* `Layout`: the columns of the open collections and the scalars that may become keys

## Termination

Each step takes at least one character, or is the last.
-/

namespace DocAudit.Yaml

open Text

/-- The tokens of a text. -/
inductive Token
  | directive (line : DirectiveLine)
  | documentStart
  | documentEnd
  | streamEnd
  | blockSequenceStart
  | blockMappingStart
  | blockEnd
  | flowSequenceStart
  | flowSequenceEnd
  | flowMappingStart
  | flowMappingEnd
  | blockEntry
  | flowEntry
  | key
  | value
  | alias (name : Text)
  | anchor (name : Text)
  | tag (handle : Option Text) (text : Text)
  | scalar (text : Text) (isPlain : Bool)
  deriving DecidableEq, Repr

/-- A token that may turn out to be a key: its number, its place, and whether it must be one. -/
structure KeyCandidate where
  number : Nat
  required : Bool
  index : Nat
  line : Nat
  column : Nat
  deriving Repr

/-- The state between two tokens. -/
structure Layout where
  cursor : Cursor
  /-- The tokens so far, the last one first. -/
  tokens : List Token := []
  /-- The number of tokens so far. -/
  count : Nat := 0
  /-- The column of the innermost collection that is open by indentation. -/
  indent : Int := -1
  /-- The columns of the collections around it. -/
  outerIndents : List Int := []
  /-- The candidate inside the innermost brackets. -/
  candidate : Option KeyCandidate := none
  /-- The candidates of the brackets around them, one for each open bracket. -/
  outerCandidates : List (Option KeyCandidate) := []
  /-- Whether a key may start here. -/
  keyAllowed : Bool := true
  deriving Repr

namespace Layout

/-- Inside brackets. -/
def inFlow (s : Layout) : Bool := !s.outerCandidates.isEmpty

/-- The state with one more token. -/
def push (s : Layout) (t : Token) : Layout :=
  { s with tokens := t :: s.tokens, count := s.count + 1 }

/-- The state with one more token, read from one or more characters. -/
def pushOver (s : Layout) (t : Token) (n : Nat) : Layout :=
  { s.push t with cursor := s.cursor.advance n }

/-- The state with a token put before the token of the given number. -/
def insert (s : Layout) (number : Nat) (t : Token) : Layout :=
  { s with tokens := s.tokens.insertIdx (s.count - number) t, count := s.count + 1 }

/-- The blank space and the comments before the next token. -/
def skipGap (keyAllowed inFlow : Bool) (c : Cursor) : Cursor × Bool :=
  let inner := c.skipSpaces.skipComment
  match _h : inner.lineBreak? with
  | none => (inner, keyAllowed)
  | some (_, after) => skipGap (keyAllowed || !inFlow) inFlow after
termination_by c.rest.length
decreasing_by
  have := Cursor.length_lineBreak? (by assumption)
  simp only [inner, Cursor.skipComment] at this
  split at this <;> simp only [Cursor.skipSpaces, Cursor.skip, Cursor.rest_advance,
    List.length_drop] at this <;> omega

/-- A candidate is given up after its line or 1024 characters. -/
def isStale (c : Cursor) (k : KeyCandidate) : Bool := k.line != c.line || c.index - k.index > 1024

/-- The candidate after a look at the place reached; one that must be a key is not given up. -/
def refresh (c : Cursor) : Option KeyCandidate → Outcome (Option KeyCandidate)
  | none => .ok none
  | some k =>
    if !isStale c k then .ok (some k) else if k.required then .error .malformed else .ok none

/-- The state without the candidates that are given up here. -/
def dropStale (s : Layout) : Outcome Layout := do
  let candidate ← refresh s.cursor s.candidate
  let outerCandidates ← s.outerCandidates.mapM (refresh s.cursor)
  return { s with candidate, outerCandidates }

/-- The state without the innermost candidate, which must not be one that has to be a key. -/
def dropCandidate (s : Layout) : Outcome Layout :=
  match s.candidate with
  | some { required := true, .. } => .error .malformed
  | _ => .ok { s with candidate := none }

/-- The state in which the next token may be a key. -/
def saveCandidate (s : Layout) : Outcome Layout :=
  if s.keyAllowed then do
    let required := !s.inFlow && s.indent == (s.cursor.column : Int)
    let s ← s.dropCandidate
    let k : KeyCandidate := { number := s.count, required, index := s.cursor.index,
                              line := s.cursor.line, column := s.cursor.column }
    return { s with candidate := some k }
  else .ok s

/-- The collections of the list that end before `column`: how many they are, and the columns left. -/
def closeBefore (column : Int) : Int → List Int → Nat × Int × List Int
  | indent, [] => (0, indent, [])
  | indent, outer :: rest =>
    if column < indent then
      let (n, indent, left) := closeBefore column outer rest
      (n + 1, indent, left)
    else (0, indent, outer :: rest)

/-- The state after the ends of the collections that stand further right than `column`. -/
def unwind (s : Layout) (column : Int) : Layout :=
  if s.inFlow then s
  else
    let (n, indent, outerIndents) := closeBefore column s.indent s.outerIndents
    { s with tokens := List.replicate n .blockEnd ++ s.tokens, count := s.count + n,
             indent, outerIndents }

/-- The state in which a collection at `column` is open, and whether it was opened just now. -/
def openAt (s : Layout) (column : Nat) : Layout × Bool :=
  if s.indent < (column : Int) then
    ({ s with indent := column, outerIndents := s.indent :: s.outerIndents }, true)
  else (s, false)

/-! ## One token -/

/-- A token that starts a line at the left margin: a directive or a document marker. -/
def marginToken (s : Layout) (t : Token) (after : Cursor) : Outcome Layout := do
  let s ← (s.unwind (-1)).dropCandidate
  return { s.push t with cursor := after, keyAllowed := false }

/-- An opening bracket. -/
def openFlow (s : Layout) (t : Token) : Outcome Layout := do
  let s ← s.saveCandidate
  let s := s.pushOver t 1
  return { s with candidate := none, outerCandidates := s.candidate :: s.outerCandidates,
                  keyAllowed := true }

/-- A closing bracket. -/
def closeFlow (s : Layout) (t : Token) : Outcome Layout := do
  let s ← s.dropCandidate
  match s.outerCandidates with
  | [] => .error .malformed
  | candidate :: outerCandidates =>
    return { s.pushOver t 1 with candidate, outerCandidates, keyAllowed := false }

/-- A comma. -/
def flowEntry (s : Layout) : Outcome Layout := do
  let s ← s.dropCandidate
  return { s.pushOver .flowEntry 1 with keyAllowed := true }

/-- The mark of a sequence entry or of a key; it may start a collection. -/
def blockMark (s : Layout) (t start : Token) (keyAllowed : Bool) : Outcome Layout := do
  let s ←
    if s.inFlow then pure s
    else if !s.keyAllowed then .error .malformed
    else
      let (s, opened) := s.openAt s.cursor.column
      pure (if opened then s.push start else s)
  let s ← s.dropCandidate
  return { s.pushOver t 1 with keyAllowed }

/-- A colon. It makes a key of the candidate, when there is one. -/
def valueMark (s : Layout) : Outcome Layout :=
  match s.candidate with
  | some k =>
    let s := { s with candidate := none, keyAllowed := false }.insert k.number .key
    if s.inFlow then .ok (s.pushOver .value 1)
    else
      let (s, opened) := s.openAt k.column
      .ok ((if opened then s.insert k.number .blockMappingStart else s).pushOver .value 1)
  | none => do
    let s ←
      if s.inFlow then pure s
      else if !s.keyAllowed then .error .malformed
      else
        let (s, opened) := s.openAt s.cursor.column
        pure (if opened then s.push .blockMappingStart else s)
    let s ← { s with keyAllowed := !s.inFlow }.dropCandidate
    return s.pushOver .value 1

/-- A token that may be a key or belong to one. -/
def keyLike (s : Layout) (read : Cursor → Outcome (Token × Cursor)) : Outcome Layout := do
  let s ← s.saveCandidate
  let (t, after) ← read s.cursor
  return { s.push t with cursor := after, keyAllowed := false }

/-- A plain scalar. A line break after it lets a key start. -/
def plainScalar (s : Layout) : Outcome Layout := do
  let s ← s.saveCandidate
  let (text, broken, after) := plain s.inFlow s.indent s.cursor
  return { s.push (.scalar text true) with cursor := after, keyAllowed := broken }

/-- A block scalar. -/
def blockScalar (s : Layout) : Outcome Layout := do
  let s ← s.dropCandidate
  let (text, after) ← block? s.indent s.cursor
  return { s.push (.scalar text false) with cursor := after, keyAllowed := true }

/-- A plain scalar can start with these characters. -/
def startsPlain (inFlow : Bool) (c : Cursor) : Bool :=
  let ch := c.peek
  !(isGapOrTab ch || "-?:,[]\x7B\x7D#&*!|>'\"%@`".toList.contains ch) ||
    (!isGapOrTab (c.peek 1) && (ch == '-' || (!inFlow && (ch == '?' || ch == ':'))))

/-- The next token, with the place at its first character. -/
def token (s : Layout) : Outcome Layout :=
  let c := s.cursor
  let ch := c.peek
  let gapAhead := isGapOrTab (c.peek 1)
  if ch == '%' && c.column == 0 then do
    let (line, after) ← directive? c
    s.marginToken (.directive line) after
  else if c.column == 0 && c.atMarker '-' then s.marginToken .documentStart (c.advance 3)
  else if c.column == 0 && c.atMarker '.' then s.marginToken .documentEnd (c.advance 3)
  else if ch == '[' then s.openFlow .flowSequenceStart
  else if ch == '\x7B' then s.openFlow .flowMappingStart
  else if ch == ']' then s.closeFlow .flowSequenceEnd
  else if ch == '\x7D' then s.closeFlow .flowMappingEnd
  else if ch == ',' then s.flowEntry
  else if ch == '-' && gapAhead then s.blockMark .blockEntry .blockSequenceStart true
  else if ch == '?' && (s.inFlow || gapAhead) then s.blockMark .key .blockMappingStart !s.inFlow
  else if ch == ':' && (s.inFlow || gapAhead) then s.valueMark
  else if ch == '*' then
    s.keyLike fun c => do let (n, after) ← name? c; return (.alias n, after)
  else if ch == '&' then
    s.keyLike fun c => do let (n, after) ← name? c; return (.anchor n, after)
  else if ch == '!' then
    s.keyLike fun c => do let ((handle, text), after) ← tag? c; return (.tag handle text, after)
  else if (ch == '|' || ch == '>') && !s.inFlow then s.blockScalar
  else if ch == '\'' || ch == '"' then
    s.keyLike fun c => do let (text, after) ← quoted? c; return (.scalar text false, after)
  else if startsPlain s.inFlow c then s.plainScalar
  else .error .malformed

/-- All tokens from here on, and the fault at which reading stopped. -/
def run (s : Layout) : List Token × Option Fault :=
  let (cursor, keyAllowed) := skipGap s.keyAllowed s.inFlow s.cursor
  match { s with cursor, keyAllowed }.dropStale with
  | .error fault => (s.tokens.reverse, some fault)
  | .ok s' =>
    let s' := s'.unwind s'.cursor.column
    if s'.cursor.rest.isEmpty then
      match (s'.unwind (-1)).dropCandidate with
      | .error fault => (s'.tokens.reverse, some fault)
      | .ok final => ((final.push .streamEnd).tokens.reverse, none)
    else match s'.token with
      | .error fault => (s'.tokens.reverse, some fault)
      | .ok next =>
        if _h : next.cursor.rest.length < s.cursor.rest.length then next.run
        else (next.tokens.reverse, some .malformed)
termination_by s.cursor.rest.length

end Layout

/-- The tokens of a text, and the fault at which reading stopped. -/
def Token.ofText (s : Text) : List Token × Option Fault :=
  let start : Cursor := { rest := s }
  Layout.run { cursor := if start.peek == '\uFEFF' then start.advance 1 else start }

end DocAudit.Yaml
