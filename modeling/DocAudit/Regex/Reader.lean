import DocAudit.Decimal.Reading
import DocAudit.Regex.Pattern
import DocAudit.Text.Name

/-!
# Reading regular expressions

The text of an expression is cut into tokens, a backslash together with the character behind it, and
the tokens are read into a tree.

## Contents

* `Token`, `Token.ofText?`
* `Fault`: why a text is no expression
* `Reading`: the state of a reader: the rest of the tokens, and what is known about the groups
* `Regex.ofText`

## Termination

The readers for alternatives and for sequences call each other; the number that bounds their calls is
more than twice the number of tokens, and every second call takes a token.
-/

namespace DocAudit.Regex

open Text

/-- A character, or an escaped one. -/
structure Token where
  escaped : Bool
  char : Char
  deriving DecidableEq, Repr

namespace Token

/-- The tokens of a text. A backslash at the end escapes nothing. -/
def ofText? : Text → Option (List Token)
  | [] => some []
  | ['\\'] => none
  | '\\' :: c :: r => (ofText? r).map (⟨true, c⟩ :: ·)
  | c :: r => (ofText? r).map (⟨false, c⟩ :: ·)

/-- The token is the character itself. -/
def is (t : Token) (c : Char) : Bool := !t.escaped && t.char == c

/-- The token as text. -/
def text (t : Token) : Text := if t.escaped then ['\\', t.char] else [t.char]

end Token

/-- Why a text gives no expression. -/
inductive Fault
  /-- It is no expression. -/
  | malformed
  /-- A number of repetitions is too great. -/
  | countTooGreat
  /-- A number of repetitions has too many digits. -/
  | countTooLong
  /-- A code point is so great that it is no number of a code point at all. -/
  | pointTooGreat
  /-- Character classes are to be those of ASCII and not those of ASCII. -/
  | modesClash
  /-- Groups stand too deep in groups. -/
  | tooDeep
  deriving DecidableEq, Repr

/-- What a reader knows. -/
structure State where
  rest : List Token
  /-- Global modes. -/
  modes : Modes
  /-- A global mode asks for character classes that are not those of ASCII. -/
  unlimited : Bool := false
  /-- How many groups were opened. -/
  opened : Nat := 0
  /-- The widths of the groups that are closed. -/
  closed : List (Nat × (Nat × Option Nat)) := []
  names : List (Text × Nat) := []
  /-- Inside of an expression that looks behind: how many groups were opened before it. -/
  lookback : Option Nat := none
  /-- The greatest number that a condition asked for. -/
  asked : Nat := 0
  /-- An expression that looks behind can have more than one width. -/
  uneven : Bool := false

/-- A reader, which can fail. -/
abbrev Reading := StateT State (Except Fault)

namespace Reading

/-- Fails. -/
def fail {α : Type} (f : Fault) : Reading α := fun _ => .error f

/-- No expression. -/
def refuse {α : Type} : Reading α := fail .malformed

/-- The next token, which stays. -/
def peek : Reading (Option Token) := return (← get).rest.head?

/-- The next token. -/
def next : Reading (Option Token) := do
  let t ← peek
  modify fun s => { s with rest := s.rest.tail }
  return t

/-- The next token, which must be there. -/
def demand : Reading Token := do
  match ← next with
  | some t => return t
  | none => refuse

/-- Takes the character when it comes next. -/
def accept (c : Char) : Reading Bool := do
  match ← peek with
  | some t => if t.is c then do let _ ← next; return true else return false
  | none => return false

/-- Takes a character that must come next. -/
def expect (c : Char) : Reading Unit := do
  if ← accept c then return () else refuse

/-- Takes up to `n` characters of a class. -/
def takeUpTo (p : Char → Bool) : Nat → Reading Text
  | 0 => return []
  | n + 1 => do
    match ← peek with
    | some t =>
      if !t.escaped && p t.char then do
        let _ ← next
        return t.char :: (← takeUpTo p n)
      else return []
    | none => return []

/-- Takes all characters of a class. -/
def takeAll (p : Char → Bool) : Reading Text := do takeUpTo p (← get).rest.length

/-- The text up to a character, which is taken too. There must be some text. -/
def upTo (c : Char) : Reading Text := do
  let s ← get
  let taken := s.rest.takeWhile (!Token.is · c)
  if taken.isEmpty || taken.length == s.rest.length then refuse
  else
    modify fun s => { s with rest := s.rest.drop (taken.length + 1) }
    return taken.flatMap Token.text

/-- A name of a group. -/
def isName : Text → Bool
  | [] => false
  | c :: r => isWord c && !isDigit c && r.all isWord

/-- The group can be referred to: it is closed, and not part of an expression that looks behind. -/
def referTo (group : Nat) : Reading Unit := do
  let s ← get
  if (s.closed.lookup group).isNone then refuse
  else match s.lookback with
    | some n => if n < group then refuse
    | none => return ()

end Reading

open Reading

/-- Hexadecimal digits. -/
def isHexDigit (c : Char) : Bool :=
  c.isDigit || ('a' ≤ c && c ≤ 'f') || ('A' ≤ c && c ≤ 'F')

/-- Octal digits. -/
def isOctalDigit (c : Char) : Bool := '0' ≤ c && c ≤ '7'

/-- The number that digits stand for. -/
def number (base : Nat) (ds : Text) : Nat := Decimal.ofDigits base (ds.filterMap Decimal.baseDigit)

/-- Numbers up to this one may be tried as code points. -/
def pointLimit : Nat := 0x7FFFFFFF

/-- A code point in exactly `n` hexadecimal digits. -/
def hexEscape (n : Nat) : Reading Nat := do
  let ds ← takeUpTo isHexDigit n
  if ds.length != n then refuse
  else if pointLimit < number 16 ds then fail .pointTooGreat
  else if number 16 ds < 0x110000 then return number 16 ds
  else refuse

/-- A code point by its name in braces. -/
def nameEscape : Reading Nat := do
  expect '\x7B'
  match codePointNamed? (← upTo '\x7D') with
  | some n => return n
  | none => refuse

/-- The code points of escapes with one letter. -/
def controlEscape? (c : Char) : Option Nat :=
  [('a', 7), ('b', 8), ('f', 12), ('n', 10), ('r', 13), ('t', 9), ('v', 11), ('\\', 92)].lookup c

/-- The classes of escapes. -/
def categoryEscape? (c : Char) : Option SetItem :=
  [('d', SetItem.category false .digit), ('D', .category true .digit), ('s', .category false .space),
    ('S', .category true .space), ('w', .category false .word), ('W', .category true .word)].lookup c

/-- The anchors of escapes. -/
def anchorEscape? (c : Char) : Option Anchor :=
  [('A', Anchor.textStart), ('Z', .textEnd), ('b', .wordEdge), ('B', .noWordEdge)].lookup c

/-- An escape for a code point that is no letter of its own, or a character that escapes itself. -/
def pointEscape (c : Char) : Reading Nat := do
  if c == 'x' then hexEscape 2
  else if c == 'u' then hexEscape 4
  else if c == 'U' then hexEscape 8
  else if c == 'N' then nameEscape
  else if c.isAlphanum then refuse
  else return c.toNat

/-- An octal number in at most three digits, of which the first was taken. -/
def octalEscape (first : Char) : Reading Nat := do
  let n := number 8 (first :: (← takeUpTo isOctalDigit 2))
  if n ≤ 0xFF then return n else refuse

/-- An escape in a set. -/
def setEscape (c : Char) : Reading SetItem := do
  match controlEscape? c, categoryEscape? c with
  | some n, _ => return .range n n
  | none, some item => return item
  | none, none =>
    let n ← if isOctalDigit c then octalEscape c else pointEscape c
    return .range n n

/-- A number of a group, or an octal number in three digits. -/
def groupEscape (first : Char) : Reading Regex := do
  let second ← takeUpTo Char.isDigit 1
  let third ← if (first :: second).all isOctalDigit && second.length == 1 then
    takeUpTo isOctalDigit 1 else pure []
  if third.length == 1 then
    let n := number 8 (first :: second ++ third)
    if n ≤ 0xFF then return .char n else refuse
  else
    let group := number 10 (first :: second)
    referTo group
    return .same group

/-- An escape outside of sets. -/
def escape (c : Char) : Reading Regex := do
  match anchorEscape? c, categoryEscape? c, controlEscape? c with
  | some a, _, _ => return .anchor a
  | none, some item, _ => return .set false [item]
  | none, none, some n => return .char n
  | none, none, none =>
    if c == '0' then return .char (number 8 (← takeUpTo isOctalDigit 2))
    else if c.isDigit then groupEscape c
    else return .char (← pointEscape c)

/-- One end of a range, or a part of a set. -/
def setPart (t : Token) : Reading SetItem :=
  if t.escaped then setEscape t.char else return .range t.char.toNat t.char.toNat

/-- A range between two parts that are single characters. -/
def rangeOf? : SetItem → SetItem → Option SetItem
  | .range low _, .range high _ => if low ≤ high then some (.range low high) else none
  | _, _ => none

/-- The parts of a set up to its closing bracket, which may be the first part itself. -/
def setItems (first : Bool) : Nat → Reading (List SetItem)
  | 0 => refuse
  | n + 1 => do
    let t ← demand
    if t.is ']' && !first then return []
    let item ← setPart t
    if ← accept '-' then
      let u ← demand
      if u.is ']' then return [item, .range '-'.toNat '-'.toNat]
      match rangeOf? item (← setPart u) with
      | some range => return range :: (← setItems false n)
      | none => refuse
    else return item :: (← setItems false n)

/-- A set, after its opening bracket. -/
def bracketed : Reading Regex := do
  let negated ← accept '^'
  return .set negated (← setItems true ((← get).rest.length + 1))

/-- How often a part is repeated. -/
structure Count where
  least : Nat
  most : Option Nat

/-- Numbers of repetitions from here on are too great. -/
def countLimit : Nat := 4294967295

/-- A number of repetitions, when there are digits. -/
def countOf (digits : Text) : Reading (Option Nat) := do
  if digits.isEmpty then return none
  else if Decimal.digitLimit < digits.length then fail .countTooLong
  else if countLimit ≤ number 10 digits then fail .countTooGreat
  else return some (number 10 digits)

/-- A count in braces, after the opening one. Without a result the brace stands for itself. -/
def bracedCount : Reading (Option Count) := do
  let start ← get
  let literal : Reading (Option Count) := do modify fun _ => start; return none
  if (start.rest.head?.any (·.is '\x7D')) then return none
  let low ← takeAll Char.isDigit
  let high ← if ← accept ',' then takeAll Char.isDigit else pure low
  if !(← accept '\x7D') then literal
  else
    let least := (← countOf low).getD 0
    let most ← countOf high
    if most.any (· < least) then refuse else return some { least, most }

/-- The count that a character announces; none when the character stands for itself. -/
def count (c : Char) : Reading (Option Count) := do
  if c == '?' then return some ⟨0, some 1⟩
  else if c == '*' then return some ⟨0, none⟩
  else if c == '+' then return some ⟨1, none⟩
  else bracedCount

/-- A part that was read, the last one first, can be repeated. -/
def repeatable? : List Regex → Option Regex
  | [] => none
  | .anchor _ :: _ => none
  | .repeated _ _ _ _ :: _ => none
  | r :: _ => some r

/-- The sign behind a count that tells how the turns are taken. -/
def appetite : Reading Appetite := do
  if ← accept '?' then return .lazy
  if ← accept '+' then return .possessive
  return .greedy

/-- The parts with the last one repeated. -/
def repeatLast (parts : List Regex) (k : Count) : Reading (List Regex) := do
  match repeatable? parts with
  | none => refuse
  | some r =>
    return .repeated (← appetite) k.least k.most r :: parts.tail

/-- The mode of a letter. -/
def modeOf? (c : Char) : Option Modes :=
  [('i', { ignoreCase := true }), ('m', { multiLine := true }), ('s', { dotAll := true }),
    ('x', { verbose := true }), ('a', { ascii := true }), ('u', ({} : Modes)),
    ('t', { rigid := true })].lookup c

/-- A character that can start the letters of modes. -/
def startsModes (c : Char) : Bool := c == '-' || (modeOf? c).isSome

/-- The letters of modes from the given one on, up to a character that is no such letter. -/
def modeLetters (c : Char) : Nat → Reading (Text × Char)
  | 0 => refuse
  | n + 1 => do
    if (modeOf? c).isNone then return ([], c)
    let t ← demand
    if t.escaped then refuse
    let (letters, last) ← modeLetters t.char n
    return (c :: letters, last)

/-- The union of the modes of letters. -/
def modesOf (letters : Text) : Modes := (letters.filterMap modeOf?).foldl Modes.union {}

/-- Only one of the modes of character classes can be chosen. -/
def areCompatible (letters : Text) : Bool := !(letters.contains 'a' && letters.contains 'u')

/-- Modes for the whole expression, or for the group that they open: those to turn on and those to turn
off. -/
def modeChange (first : Char) : Reading (Option (Modes × Modes)) := do
  let n := (← get).rest.length + 1
  let (on, last) ← if first == '-' then pure ([], '-') else modeLetters first n
  if !areCompatible on then refuse
  if last == ')' then
    modify fun s =>
      { s with modes := s.modes.union (modesOf on), unlimited := s.unlimited || on.contains 'u' }
    return none
  else if on.contains 't' then refuse
  else if last == ':' then
    return some (modesOf on, { ascii := on.contains 'u' })
  else if last == '-' then
    let t ← demand
    if t.escaped || (modeOf? t.char).isNone then refuse
    let (off, last) ← modeLetters t.char n
    if last != ':' || "aut".toList.any off.contains || off.any on.contains then refuse
    return some (modesOf on, modesOf off)
  else refuse

/-- A new group, perhaps with a name. -/
def openGroup (name : Option Text) : Reading Nat := do
  let s ← get
  let group := s.opened + 1
  match name with
  | none => modify fun s => { s with opened := group }
  | some name =>
    if (s.names.lookup name).isSome then refuse
    modify fun s => { s with opened := group, names := (name, group) :: s.names }
  return group

/-- The widths of groups that are closed. -/
def State.widths (s : State) (group : Nat) : Nat × Option Nat :=
  (s.closed.lookup group).getD (0, some 0)

/-- The group with its body, closed. -/
def closeGroup (group : Nat) (body : Regex) : Reading Regex := do
  modify fun s => { s with closed := (group, body.width s.widths) :: s.closed }
  return .capture group body

/-- The group that a condition asks for. -/
def conditionGroup (name : Text) : Reading Nat := do
  let s ← get
  let group ←
    if isName name then
      match s.names.lookup name with
      | some group => pure group
      | none => refuse
    else match Decimal.int? 10 name with
      | some (.ofNat (n + 1)) => pure (n + 1)
      | _ => refuse
  modify fun s => { s with asked := max s.asked group }
  if s.lookback.isSome then referTo group
  return group

/-- A reference to a group by its name. -/
def namedReference : Reading Regex := do
  let name ← upTo ')'
  match (← get).names.lookup name with
  | none => refuse
  | some group =>
    referTo group
    return .same group

/-- White space between the parts of a verbose expression. -/
def isVerboseSpace (c : Char) : Bool := c == ' ' || (9 ≤ c.toNat && c.toNat ≤ 13)

/-- Skips a comment up to the end of its line. -/
def skipLine : Reading Unit :=
  modify fun s => { s with rest := (s.rest.dropWhile (!Token.is · '\n')).tail }

/-- What the characters behind an opening parenthesis announce. -/
inductive Opening
  | capture (name : Option Text)
  | plain
  | atomic
  | look (behind negated : Bool)
  | condition (group : Nat)
  | reference (r : Regex)
  | comment
  | globalModes
  | modes (on off : Modes)

/-- The opening of a group, after the parenthesis. -/
def opening : Reading Opening := do
  if !(← accept '?') then return .capture none
  let t ← demand
  if t.escaped then refuse
  match t.char with
  | ':' => return .plain
  | '>' => return .atomic
  | '=' => return .look false false
  | '!' => return .look false true
  | '<' =>
    if ← accept '=' then return .look true false
    else if ← accept '!' then return .look true true
    else refuse
  | '(' => return .condition (← conditionGroup (← upTo ')'))
  | '#' =>
    let s ← get
    let rest := s.rest.dropWhile (!Token.is · ')')
    if rest.isEmpty then refuse
    modify fun s => { s with rest := rest.tail }
    return .comment
  | 'P' =>
    if ← accept '<' then
      let name ← upTo '>'
      if isName name then return .capture (some name) else refuse
    else if ← accept '=' then return .reference (← namedReference)
    else refuse
  | c =>
    if startsModes c then
      match ← modeChange c with
      | none => return .globalModes
      | some (on, off) => return .modes on off
    else refuse

/-- How deep the readers may call each other. A group needs two calls, a condition one. -/
def depthLimit : Nat := 981

/-- A call of a reader at a depth. -/
def enter (depth : Nat) : Reading Unit := if depthLimit < depth then fail .tooDeep else return ()

mutual

/-- Alternatives. `top` tells that they are the whole expression. -/
def alternatives : Nat → (depth : Nat) → (verbose top : Bool) → Reading Regex
  | 0, _, _, _ => refuse
  | n + 1, depth, verbose, top => do
    let first ← parts n (depth + 2) verbose top []
    if ← accept '|' then
      let s ← get
      let verbose := if top then s.modes.verbose else verbose
      return .alt first (← moreAlternatives n depth verbose top)
    else return first

/-- Alternatives after the first one. -/
def moreAlternatives : Nat → (depth : Nat) → (verbose top : Bool) → Reading Regex
  | 0, _, _, _ => refuse
  | n + 1, depth, verbose, top => do
    let first ← parts n (depth + 2) verbose false []
    if ← accept '|' then
      let s ← get
      let verbose := if top then s.modes.verbose else verbose
      return .alt first (← moreAlternatives n depth verbose top)
    else return first

/-- The parts of a sequence, after those that were read already, the last one first. -/
def parts : Nat → (depth : Nat) → (verbose first : Bool) → List Regex → Reading Regex
  | 0, _, _, _, _ => refuse
  | n + 1, depth, verbose, first, done => do
    enter depth
    match ← peek with
    | none => return .ofList done.reverse
    | some t =>
      if t.is '|' || t.is ')' then return .ofList done.reverse
      let _ ← next
      if t.escaped then
        parts n depth verbose first ((← escape t.char) :: done)
      else if verbose && isVerboseSpace t.char then parts n depth verbose first done
      else if verbose && t.char == '#' then do
        skipLine
        parts n depth verbose first done
      else match t.char with
        | '[' => parts n depth verbose first ((← bracketed) :: done)
        | '.' => parts n depth verbose first (.any :: done)
        | '^' => parts n depth verbose first (.anchor .lineStart :: done)
        | '$' => parts n depth verbose first (.anchor .lineEnd :: done)
        | '(' =>
          match ← opening with
          | .comment => parts n depth verbose first done
          | .reference r => parts n depth verbose first (r :: done)
          | .globalModes =>
            if !first || !done.isEmpty then refuse
            parts n depth (← get).modes.verbose first done
          | o => parts n depth verbose first ((← group n depth verbose o) :: done)
        | c =>
          if c == '?' || c == '*' || c == '+' || c == '\x7B' then
            match ← count c with
            | some k => parts n depth verbose first (← repeatLast done k)
            | none => parts n depth verbose first (.char c.toNat :: done)
          else parts n depth verbose first (.char c.toNat :: done)

/-- A group after its opening. -/
def group : Nat → (depth : Nat) → (verbose : Bool) → Opening → Reading Regex
  | 0, _, _, _ => refuse
  | n + 1, depth, verbose, o => do
    match o with
    | .capture name =>
      let k ← openGroup name
      let body ← alternatives n depth verbose false
      expect ')'
      closeGroup k body
    | .atomic =>
      let body ← alternatives n depth verbose false
      expect ')'
      return .atomic body
    | .modes on off =>
      let body ← alternatives n depth ((verbose || on.verbose) && !off.verbose) false
      expect ')'
      return .scoped on off body
    | .look false negated =>
      let body ← alternatives n depth verbose false
      expect ')'
      return .ahead negated body
    | .look true negated =>
      let outer := (← get).lookback
      modify fun s => { s with lookback := outer.or (some s.opened) }
      let body ← alternatives n depth verbose false
      modify fun s => { s with lookback := outer }
      expect ')'
      let (low, high) := body.width (← get).widths
      if high != some low || countLimit ≤ low then modify fun s => { s with uneven := true }
      return .behind negated low body
    | .condition k =>
      let yes ← parts n (depth + 1) verbose false []
      let no ← if ← accept '|' then parts n (depth + 1) verbose false [] else pure .empty
      expect ')'
      return .whether k yes no
    | _ =>
      let body ← alternatives n depth verbose false
      expect ')'
      return .scoped {} {} body

end

end DocAudit.Regex

namespace DocAudit

/-- The expression that a text holds, and its modes, to which the given ones are added. -/
def Regex.ofText (modes : Modes) (s : Text) : Except Regex.Fault (Modes × Regex) := do
  match Regex.Token.ofText? s with
  | none => throw .malformed
  | some tokens =>
    let (r, state) ← (Regex.alternatives (4 * tokens.length + 4) 0 modes.verbose true).run
      { rest := tokens, modes }
    if state.modes.ascii && state.unlimited then throw .modesClash
    else if !state.rest.isEmpty || state.opened < state.asked then throw .malformed
    else if Regex.depthLimit < r.depth then throw .tooDeep
    else if state.uneven || (state.modes.rigid && r.hasRepetition) then throw .malformed
    else return (state.modes, r)

end DocAudit
