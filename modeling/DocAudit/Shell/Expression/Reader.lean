import DocAudit.Shell.Expression

/-!
# Reading expressions

Expressions are written in two ways: in the plain one only some signs have a meaning of their own, and
others get one from a backslash; in the extended one it is the other way round.

## Contents

* `ExpressionFault`: why a text is no expression
* `Dialect`: the ways in which expressions are written
* `Expression.read`: the expression of a text

## Termination

The functions call each other with a number that becomes smaller and bounds how deep the expression can be.
-/

namespace DocAudit.Shell

open Text

/-- Why a text is no expression. -/
inductive ExpressionFault
  | malformed
  | unmatchedBracket
  | unmatchedOpening
  | unmatchedClosing
  | unmatchedBrace
  | braceContent
  | rangeEnd
  | className
  | backReference
  | trailingBackslash
  | nothingToRepeat
  | tooBig
  | classOutside
  | collation
  deriving DecidableEq, Repr

/-- The wording of a fault. -/
def ExpressionFault.message (f : ExpressionFault) : Raw :=
  match f with
  | .malformed => raw "Invalid regular expression"
  | .unmatchedBracket => raw "Unmatched [, [^, [:, [., or [="
  | .unmatchedOpening => raw "Unmatched ( or \\("
  | .unmatchedClosing => raw "Unmatched ) or \\)"
  | .unmatchedBrace => raw "Unmatched \\\x7b"
  | .braceContent => raw "Invalid content of \\\x7b\\\x7d"
  | .rangeEnd => raw "Invalid range end"
  | .className => raw "Invalid character class name"
  | .backReference => raw "Invalid back reference"
  | .trailingBackslash => raw "Trailing backslash"
  | .nothingToRepeat => raw "Invalid preceding regular expression"
  | .tooBig => raw "Regular expression too big"
  | .classOutside => raw "character class syntax is [[:space:]], not [:space:]"
  | .collation => raw "Invalid collation character"

/-- How expressions are written. -/
structure Dialect where
  extended : Bool := false
  /-- Signs that have nothing to repeat are faults, and so are parentheses and braces that have no
  counterpart. -/
  strict : Bool := false
  deriving DecidableEq, Repr

namespace Expression

/-- A reading of an expression: what is left, the number of groups so far, the groups that are complete, and
signs at the start of an expression that have nothing to repeat. -/
structure ReaderState where
  rest : List Raw.Unit
  groups : Nat := 0
  complete : List Nat := []
  idle : List Raw := []

/-- Reading an expression. -/
abbrev Reader := StateT ReaderState (Except ExpressionFault)

namespace Reader

/-- What is left. -/
def rest : Reader (List Raw.Unit) := return (← get).rest

/-- Goes on behind so many units. -/
def skip (n : Nat) : Reader Unit := modify fun s => { s with rest := s.rest.drop n }

/-- The unit is the character. -/
def is (c : Char) (u : Raw.Unit) : Bool := u.char == some c

/-- The characters of units; a zero where there is none. -/
def chars (us : List Raw.Unit) : List Char := us.map fun u => u.char.getD '\x00'

/-- The units up to a sign and a closing bracket, and what follows. -/
def enclosed (sign : Char) : List Raw.Unit → Option (List Raw.Unit × List Raw.Unit)
  | u :: v :: rest =>
    if is sign u && is ']' v then some ([], rest)
    else (enclosed sign (v :: rest)).map fun (inside, after) => (u :: inside, after)
  | _ => none

/-- One end of a range, or a class: the first item of a set, and what follows. -/
def element : List Raw.Unit → Except ExpressionFault (Item × List Raw.Unit)
  | [] => .error .unmatchedBracket
  | u :: rest =>
    let special? : Option Char := if is '[' u then (rest.head?.bind (·.char)).filter (".=:".toList.contains ·)
      else none
    match special? with
    | some sign =>
      match enclosed sign (rest.drop 1) with
      | none => .error .unmatchedBracket
      | some (inside, after) =>
        if sign == ':' then
          match Kind.ofName? (inside.flatMap (·.bytes)) with
          | some k => .ok (.kind k, after)
          | none => .error .className
        else match inside with
          | [c] => .ok (.unit c, after)
          | _ => .error .collation
    | none => .ok (.unit u, rest)

/-- The items of a set up to its closing bracket, and what follows. `first` tells that none has been read. -/
def items : Nat → (first : Bool) → List Raw.Unit → Except ExpressionFault (List Item × List Raw.Unit)
  | 0, _, _ => .error .unmatchedBracket
  | _, _, [] => .error .unmatchedBracket
  | n + 1, first, u :: rest => do
    if is ']' u && !first then return ([], rest)
    let (start, after) ← element (u :: rest)
    match after with
    | dash :: v :: more =>
      if is '-' dash && !is ']' v then
        let (stop, after) ← element (v :: more)
        match start, stop with
        | .unit a, .unit b =>
          match a.char, b.char with
          | some x, some y =>
            if y < x then throw .rangeEnd
            let (others, rest) ← items n false after
            return (.range x y :: others, rest)
          | _, _ => throw .rangeEnd
        | _, _ => throw .rangeEnd
      else
        let (others, rest) ← items n false after
        return (start :: others, rest)
    | after =>
      let (others, rest) ← items n false after
      return (start :: others, rest)

/-- A set of characters behind its opening bracket. -/
def bracketed : Reader Expression := do
  let all ← rest
  let (negated, inside) := match all with
    | u :: r => if is '^' u then (true, r) else (false, all)
    | [] => (false, [])
  if inside.isEmpty then throw .malformed
  match items (inside.length + 1) true inside with
  | .error f => throw f
  | .ok (listed, after) =>
    let body := chars (inside.take (inside.length - after.length - 1))
    if !negated && 2 ≤ body.length && body.head? == some ':' && body.getLast? == some ':' then
      throw .classOutside
    modify fun s => { s with rest := after }
    return .set negated listed

/-- How often something is repeated, as it stands between braces. -/
structure Bounds where
  least : Nat
  most : Option Nat

/-- The greatest number of repetitions. -/
def repeatLimit : Nat := 32767

/-- The bounds behind an opening brace. Nothing where the brace stands for itself. -/
def bounds (d : Dialect) : Reader (Option Bounds) := do
  let us ← rest
  let closing : Raw := if d.extended then ['\x7d'] else ['\\', '\x7d']
  let cs := chars us
  let low := cs.takeWhile Char.isDigit
  let afterLow := cs.drop low.length
  let (comma, high) := match afterLow with
    | ',' :: r => (true, r.takeWhile Char.isDigit)
    | _ => (false, [])
  let size := low.length + (if comma then 1 else 0) + high.length
  let left := cs.drop size
  let least := (Raw.nat? low).getD 0
  let most : Option Nat := if comma then Raw.nat? high else some least
  let lenient := d.extended && !d.strict
  if closing.isPrefixOf left && (comma || !low.isEmpty) then
    if most.any (· < least) then throw .braceContent
    if repeatLimit < most.getD least then throw .tooBig
    skip (size + closing.length)
    return some { least, most }
  else if lenient then return none
  else if left.isEmpty || left == ['\\'] then throw .unmatchedBrace
  else throw .braceContent

/-- What a backslash and a character stand for, besides signs that repeat or enclose. -/
def escaped (u : Raw.Unit) : Reader Expression := do
  match u.char with
  | some c =>
    if '1' ≤ c && c ≤ '9' then
      let n := c.toNat - 48
      if !(← get).complete.contains n then throw .backReference
      return .back n
    else match c with
      | 'w' => return .wordChar false
      | 'W' => return .wordChar true
      | 's' => return .spaceChar false
      | 'S' => return .spaceChar true
      | 'b' => return .assertion .wordEdge
      | 'B' => return .assertion .wordInside
      | '<' => return .assertion .wordStart
      | '>' => return .assertion .wordEnd
      | '\x60' => return .assertion .textStart
      | '\'' => return .assertion .textEnd
      | _ => return .unit u
  | none => return .unit u

/-- A sign that repeats what stands before it. -/
inductive Sign
  | star
  | plus
  | question
  | brace
  deriving DecidableEq, Repr

/-- The sign at the start of units, and its length. -/
def sign? (d : Dialect) : List Raw.Unit → Option (Sign × Nat)
  | [] => none
  | u :: rest =>
    if is '*' u then some (.star, 1)
    else if d.extended then
      if is '+' u then some (.plus, 1) else if is '?' u then some (.question, 1)
      else if is '\x7b' u then some (.brace, 1) else none
    else if is '\\' u then
      match rest with
      | v :: _ =>
        if is '+' v then some (.plus, 2) else if is '?' v then some (.question, 2)
        else if is '\x7b' v then some (.brace, 2) else none
      | [] => none
    else none

/-- A bar between alternatives at the start of units. -/
def startsBar (d : Dialect) : List Raw.Unit → Bool
  | u :: rest =>
    if d.extended then is '|' u else is '\\' u && rest.head?.any (is '|')
  | [] => false

/-- A closing parenthesis at the start of units. -/
def startsClosing (d : Dialect) : List Raw.Unit → Bool
  | u :: rest =>
    if d.extended then is ')' u else is '\\' u && rest.head?.any (is ')')
  | [] => false

/-- The signs behind an expression that repeat it. -/
def repeats (d : Dialect) : Nat → Expression → Reader Expression
  | 0, e => return e
  | n + 1, e => do
    match sign? d (← rest) with
    | none => return e
    | some (.star, k) =>
      skip k
      repeats d n (.repeated e 0 none)
    | some (.plus, k) =>
      skip k
      repeats d n (.repeated e 1 none)
    | some (.question, k) =>
      skip k
      repeats d n (.repeated e 0 (some 1))
    | some (.brace, k) =>
      let before ← get
      skip k
      match ← bounds d with
      | some b => repeats d n (.repeated e b.least b.most)
      | none =>
        modify fun _ => before
        return e

mutual

/-- Alternatives up to a closing parenthesis or the end. -/
def alternatives (d : Dialect) : Nat → (depth : Nat) → Reader Expression
  | 0, _ => throw .tooBig
  | n + 1, depth => do
    let first ← branch d n depth true .empty
    let us ← rest
    if startsBar d us then
      skip (if d.extended then 1 else 2)
      return .alt first (← alternatives d n depth)
    else return first

/-- Expressions that follow each other. `start` tells that no expression stands before, or only a start of
the line. -/
def branch (d : Dialect) : Nat → (depth : Nat) → (start : Bool) → Expression → Reader Expression
  | 0, _, _, _ => throw .tooBig
  | n + 1, depth, start, soFar => do
    let us ← rest
    let add (e : Expression) : Expression := if soFar == .empty then e else .seq soFar e
    match us with
    | [] => return soFar
    | u :: more =>
      if startsBar d us then return soFar
      if startsClosing d us then
        if depth != 0 then return soFar
        if !(d.extended && !d.strict) then throw .unmatchedClosing
        skip 1
        let e ← repeats d n (.unit u)
        return ← branch d n depth false (add e)
      match if start then sign? d us else none with
      | some (sign, k) =>
        if d.extended then
          if d.strict then throw .nothingToRepeat
          skip k
          let name : Raw := match sign with
            | .star => ['*']
            | .plus => ['+']
            | .question => ['?']
            | .brace => raw "\x7b...\x7d"
          if sign == .brace then
            match ← bounds d with
            | some _ =>
              modify fun s => { s with idle := s.idle ++ [name] }
              return ← branch d n depth true soFar
            | none => return ← branch d n depth false (add (.unit u))
          else
            modify fun s => { s with idle := s.idle ++ [name] }
            return ← branch d n depth true soFar
        else
          if sign == .brace && d.strict then throw .nothingToRepeat
          skip k
          let e ← repeats d n (.unit ((us.drop (k - 1)).headD u))
          return ← branch d n depth false (add e)
      | none =>
        if is '^' u && (d.extended || start) then
          skip 1
          return ← branch d n depth true (add (.assertion .lineStart))
        if is '$' u && (d.extended || more.isEmpty || startsBar d more || startsClosing d more) then
          skip 1
          return ← branch d n depth d.strict (add (.assertion .lineEnd))
        let e ← atom d n depth
        match e with
        | .assertion _ => branch d n depth d.strict (add e)
        | e =>
          let e ← repeats d n e
          branch d n depth false (add e)

/-- A single expression. -/
def atom (d : Dialect) : Nat → (depth : Nat) → Reader Expression
  | 0, _ => throw .tooBig
  | n + 1, depth => do
    match ← rest with
    | [] => return .empty
    | u :: more =>
      let opening : Option Nat :=
        if d.extended then (if is '(' u then some 1 else none)
        else if is '\\' u && more.head?.any (is '(') then some 2 else none
      match opening with
      | some k =>
        skip k
        let number := (← get).groups + 1
        modify fun s => { s with groups := number }
        let body ← alternatives d n (depth + 1)
        if !startsClosing d (← rest) then throw .unmatchedOpening
        skip k
        modify fun s => { s with complete := number :: s.complete }
        return .group number body
      | none =>
        if is '\\' u then
          match more with
          | [] => throw .trailingBackslash
          | v :: _ =>
            skip 2
            escaped v
        else if is '.' u then
          skip 1
          return .any
        else if is '[' u then
          skip 1
          bracketed
        else
          skip 1
          return .unit u

end

end Reader

/-- An expression that has been read, with the number of its groups and the signs that had nothing to
repeat. -/
structure Read where
  expression : Expression
  groups : Nat := 0
  idle : List Raw := []

/-- The expression of a text. -/
def read (d : Dialect) (s : Raw) : Except ExpressionFault Read := do
  let us := Raw.units s
  let (expression, state) ← (Reader.alternatives d (4 * us.length + 10) 0).run { rest := us }
  return { expression, groups := state.groups, idle := state.idle }

/-- The expression of a text that stands for itself. -/
def literal (s : Raw) : Expression :=
  match Raw.units s with
  | [] => .empty
  | u :: us => us.foldl (fun e u => .seq e (.unit u)) (.unit u)

end Expression

end DocAudit.Shell
