import DocAudit.Shell.Edit
import DocAudit.Shell.Expression.Reader

/-!
# Reading scripts that edit lines

A script can come in several parts, from arguments and from files; a text at the end of one part can go on
in the next one. A fault names the part and the place in it.

## Contents

* `Origin`, `Reading`, `Fault`: where a reader is, and why it stops
* `plainText`, `Chunk.ofText`: escapes in texts and in what stands for a match
* `delimited`: texts between delimiters
* `part`, `close`: the parts of a script, and its end

## Termination

The functions that read step by step have a number that bounds the steps; there are no more of them than
characters.
-/

namespace DocAudit.Shell.Edit

open Text

/-! ## Parts of a script -/

/-- Where a part of a script comes from. -/
inductive Origin
  /-- The argument of a number. -/
  | expression (number : Nat)
  | file (name : Raw)
  deriving DecidableEq, Repr

/-- A reader of a script. -/
structure Reading where
  /-- What is left of the part. -/
  rest : Raw := []
  taken : Nat := 0
  line : Nat := 1
  origin : Origin := .expression 0
  /-- The number of arguments so far. -/
  expressions : Nat := 0
  first : Bool := true
  extended : Bool := false
  /-- No other files and programs may be used. -/
  closed : Bool := false
  /-- Line feeds end lines. -/
  byLines : Bool := true
  /-- The script asks that lines are not shown. -/
  quiet : Bool := false
  steps : Array Step := #[]
  /-- The blocks that are open, with their places. -/
  blocks : List (Nat × Origin × Nat) := []
  labels : List (Raw × Nat) := []
  /-- The files that are written, the last one first. -/
  outputs : List Raw := []
  /-- The text of the last step, if it goes on in the next part. -/
  pending : Option Raw := none

/-- Why a script cannot be read: what is said, and the status. -/
structure Fault where
  message : Raw
  status : Nat

/-- A step of a reader. -/
abbrev Reader := ExceptT Fault (StateM Reading)

/-- The place of a reader, as faults name it. -/
def Reading.spot (r : Reading) : Raw :=
  match r.origin with
  | .expression n => raw "-e expression #" ++ ofNat n ++ raw ", char " ++ ofNat r.taken
  | .file name => raw "file " ++ name ++ raw " line " ++ ofNat r.line

namespace Reader

/-- The script is wrong at the place. -/
def bad {α : Type} (message : Raw) : Reader α := do
  throw { message := (← get).spot ++ raw ": " ++ message, status := 1 }

/-- The next character. -/
def next : Reader (Option Char) := do
  let r ← get
  match r.rest with
  | [] => return none
  | c :: rest =>
    set { r with rest, taken := r.taken + 1, line := if c == '\n' then r.line + 1 else r.line }
    return some c

/-- Gives a character back. -/
def back (c : Option Char) : Reader Unit := do
  match c with
  | none => return
  | some c =>
    modify fun r => { r with
      rest := c :: r.rest, taken := r.taken - 1, line := if c == '\n' then r.line - 1 else r.line }

/-- Takes the characters at the front that pass a test. -/
def takeWhile (p : Char → Bool) : Reader Raw := do
  let r ← get
  let s := r.rest.takeWhile p
  set { r with
    rest := r.rest.drop s.length, taken := r.taken + s.length
    line := r.line + s.countP (· == '\n') }
  return s

/-- The next character that is no blank. -/
def nextFilled : Reader (Option Char) := do
  let _ ← takeWhile fun c => c == ' ' || c == '\t'
  next

/-- The number that begins with the character, which was taken before. -/
def number (c : Option Char) : Reader Nat := do
  back c
  return (Raw.nat? (← takeWhile Char.isDigit)).getD 0

/-- The end of a command. -/
def endOfCommand : Reader Unit := do
  match ← nextFilled with
  | none => return
  | some '\n' => return
  | some ';' => return
  | some '}' => back (some '}')
  | some '#' => back (some '#')
  | some _ => bad (raw "extra characters after command")

/-- A label. -/
def label : Reader Raw := do
  let _ ← takeWhile fun c => c == ' ' || c == '\t'
  takeWhile fun c => !(Raw.isSpace c || c == ';' || c == '}')

/-- Files and programs are used. -/
def reachOut : Reader Unit := do
  if (← get).closed then bad (raw "e/r/w commands disabled in sandbox mode")

/-- The name of a file, which is the rest of the line. -/
def fileName : Reader Raw := do
  let _ ← takeWhile fun c => c == ' ' || c == '\t'
  let name ← takeWhile (· != '\n')
  let _ ← next
  if name.isEmpty then bad (raw "missing filename in r/R/w/W commands")
  return name

/-- The name of a file that is written. -/
def output : Reader Output := do
  let name ← fileName
  if name == raw "/dev/stdout" then return .standard
  if name == raw "/dev/stderr" then return .error
  modify fun r => { r with outputs := if r.outputs.contains name then r.outputs else name :: r.outputs }
  return .file name

end Reader

/-! ## Escapes -/

/-- The value of a digit. -/
def digit? (base : Nat) (c : Char) : Option Nat :=
  let n := c.toNat
  let value := if 48 ≤ n && n ≤ 57 then n - 48 else if 65 ≤ n && n ≤ 70 then n - 55
    else if 97 ≤ n && n ≤ 102 then n - 87 else 99
  if value < base then some value else none

/-- The character whose number digits at the front give, and the rest. -/
def numbered? (base count : Nat) (s : Raw) : Option (Char × Raw) :=
  let digits := (s.take count).takeWhile fun c => (digit? base c).isSome
  if digits.isEmpty then none
  else
    let n := digits.foldl (fun n c => base * n + (digit? base c).getD 0) 0
    some (Char.ofNat (n % 256), s.drop digits.length)

/-- What a backslash and the text behind it stand for, where that is a single character: it, and the rest. -/
def escaped? : Raw → Option (Char × Raw)
  | 'a' :: r => some ('\x07', r)
  | 'f' :: r => some ('\x0c', r)
  | 'n' :: r => some ('\n', r)
  | 'r' :: r => some ('\r', r)
  | 't' :: r => some ('\t', r)
  | 'v' :: r => some ('\x0b', r)
  | ['c'] => some ('\\', [])
  | 'c' :: '\\' :: '\\' :: r => some ('\x1c', r)
  | 'c' :: c :: r => some (Char.ofNat (c.toUpper.toNat ^^^ 64), r)
  | 'd' :: r => some ((numbered? 10 3 r).getD ('d', r))
  | 'o' :: r => some ((numbered? 8 3 r).getD ('o', r))
  | 'x' :: r => some ((numbered? 16 2 r).getD ('x', r))
  | _ => none

/-- A control character is asked for whose letter is an escape itself. -/
def hasNestedControl : Raw → Bool
  | '\\' :: 'c' :: '\\' :: '\\' :: r => hasNestedControl r
  | '\\' :: 'c' :: '\\' :: _ :: _ => true
  | '\\' :: _ :: r => hasNestedControl r
  | _ :: r => hasNestedControl r
  | [] => false

/-- A text with escapes put in and other backslashes taken away. The number bounds the steps. -/
def plainTextFrom : Nat → Raw → Raw
  | 0, s => s
  | n + 1, s => match s with
    | '\\' :: r =>
      match escaped? r with
      | some (c, rest) => c :: plainTextFrom n rest
      | none => match r with
        | c :: rest => c :: plainTextFrom n rest
        | [] => ['\\']
    | c :: r => c :: plainTextFrom n r
    | [] => []

/-- A text with escapes put in and other backslashes taken away. -/
def plainText (s : Raw) : Raw := plainTextFrom (s.length + 1) s

/-- A text with escapes put in and other backslashes kept. `guarded` tells which characters keep a backslash
if an escape stands for them. The number bounds the steps. -/
def markedTextFrom (guarded : Char → Bool) : Nat → Raw → Raw
  | 0, s => s
  | n + 1, s => match s with
    | '\\' :: r =>
      match escaped? r with
      | some (c, rest) => (if guarded c then ['\\', c] else [c]) ++ markedTextFrom guarded n rest
      | none => match r with
        | c :: rest => '\\' :: c :: markedTextFrom guarded n rest
        | [] => ['\\']
    | c :: r => c :: markedTextFrom guarded n r
    | [] => []

/-- A text with escapes put in and other backslashes kept. -/
def markedText (guarded : Char → Bool) (s : Raw) : Raw := markedTextFrom guarded (s.length + 1) s

/-- The pieces of a text that stands for matches. -/
def Chunk.ofText : (soFar : Raw) → (casing first : Casing) → Raw → List Chunk
  | [], _, _, [] => []
  | soFar, casing, first, [] => [{ text := soFar.reverse, group := none, casing, first }]
  | soFar, casing, first, ['\\'] => [{ text := ('\\' :: soFar).reverse, group := none, casing, first }]
  | soFar, casing, first, '\\' :: c :: rest =>
    let text := soFar.reverse
    if c.isDigit then
      { text, group := some (c.toNat - 48), casing, first } :: ofText [] casing .same rest
    else match c with
      | 'L' => { text, group := none, casing, first } :: ofText [] .lower .same rest
      | 'U' => { text, group := none, casing, first } :: ofText [] .upper .same rest
      | 'E' => { text, group := none, casing, first } :: ofText [] .same .same rest
      | 'l' => { text, group := none, casing, first } :: ofText [] casing .lower rest
      | 'u' => { text, group := none, casing, first } :: ofText [] casing .upper rest
      | c => { text := text ++ [c], group := none, casing, first } :: ofText [] casing .same rest
  | soFar, casing, first, '&' :: rest =>
    { text := soFar.reverse, group := some 0, casing, first } :: ofText [] casing .same rest
  | soFar, casing, first, c :: rest => ofText (c :: soFar) casing first rest

namespace Reader

/-! ## Texts between delimiters -/

/-- Where a reader is in a set of characters. -/
inductive SetState
  | plain
  | opened
  /-- Inside of a class, which the sign closes. -/
  | inside (sign : Char)
  | closing (sign : Char)
  deriving DecidableEq, Repr

/-- The characters of a set, with the last one read; what was read before is in the other order. -/
def setBody : Nat → SetState → Raw → Reader (Raw × Option Char)
  | 0, _, soFar => return (soFar, none)
  | n + 1, state, soFar => do
    let c? ← next
    match c? with
    | none => return (soFar, none)
    | some '\n' => return (soFar, some '\n')
    | some ']' =>
      match state with
      | .closing _ => setBody n .plain (']' :: soFar)
      | .inside sign => setBody n (.inside sign) (']' :: soFar)
      | _ => return (soFar, some ']')
    | some c =>
      let sign := c == '.' || c == ':' || c == '='
      let state : SetState := match state with
        | .plain => if c == '[' then .opened else .plain
        | .opened => if sign then .inside c else if c == '[' then .opened else .plain
        | .inside s => if c == s then .closing s else .inside s
        | .closing s => if c == s then .closing s else .inside s
      setBody n state (c :: soFar)

/-- The characters of a set behind its opening bracket, with the last one read; the text is in the other
order. -/
def setOf (fuel : Nat) (soFar : Raw) : Reader (Raw × Option Char) := do
  let c? ← next
  let (soFar, c?) ← match c? with
    | some '^' => do pure ('^' :: soFar, ← next)
    | c? => pure (soFar, c?)
  match c? with
  | some ']' => setBody fuel .plain (']' :: soFar)
  | c? =>
    back c?
    setBody fuel .plain soFar

/-- The text up to a delimiter; nothing if there is none on the line. `pattern` tells that it is an
expression. -/
def delimited (delimiter : Char) (pattern : Bool) : Nat → Raw → Reader (Option Raw)
  | 0, _ => return none
  | n + 1, soFar => do
    match ← next with
    | none => return none
    | some '\n' =>
      back (some '\n')
      return none
    | some c =>
      if c == delimiter then return some soFar.reverse
      if c == '\\' then
        match ← next with
        | none => return none
        | some d =>
          if d == 'n' && pattern then delimited delimiter pattern n ('\n' :: soFar)
          else if d != '\n' && (d != delimiter || (!pattern && d == '&')) then
            delimited delimiter pattern n (d :: '\\' :: soFar)
          else delimited delimiter pattern n (d :: soFar)
      else if c == '[' && pattern then
        match ← setOf n ('[' :: soFar) with
        | (soFar, some ']') => delimited delimiter pattern n (']' :: soFar)
        | (_, last) =>
          if last == some '\n' then back last
          return none
      else delimited delimiter pattern n (c :: soFar)

/-- The text up to a delimiter, which was taken before. -/
def upTo (delimiter : Option Char) (pattern : Bool) : Reader (Option Raw) := do
  match delimiter with
  | none => return none
  | some d =>
    if 128 ≤ d.toNat then bad (raw "delimiter character is not a single-byte character")
    delimited d pattern ((← get).rest.length + 1) []

/-- The expression of a text. `reach` is the last group that is asked for, if any are. -/
def pattern (s : Raw) (fold lines : Bool) (reach : Option Nat) : Reader Pattern := do
  if s.isEmpty then
    if fold || lines then bad (raw "cannot specify modifiers on empty regexp")
    return {}
  let r ← get
  if hasNestedControl s then bad (raw "recursive escaping after \\c not allowed")
  let text := markedText (fun _ => false) s
  match Expression.read { extended := r.extended, strict := true } text with
  | .error .classOutside => throw { message := ExpressionFault.classOutside.message, status := 4 }
  | .error f => bad f.message
  | .ok e =>
    if let some n := reach then
      if e.groups < n then bad (raw "invalid reference \\" ++ ofNat n ++ raw " on \x60s' command's RHS")
    return {
      expression := some e.expression
      comparison := { fold, lines := lines && r.byLines }
      groups := if reach.isNone then some e.groups else none }

/-! ## Addresses -/

/-- The letters behind an expression. -/
def patternLetters : Nat → (fold lines : Bool) → Reader (Bool × Bool)
  | 0, fold, lines => return (fold, lines)
  | n + 1, fold, lines => do
    match ← nextFilled with
    | some 'I' => patternLetters n true lines
    | some 'M' => patternLetters n fold true
    | c =>
      back c
      return (fold, lines)

/-- An address that begins with the character, which was taken before. -/
def address (c : Option Char) : Reader (Option Address) := do
  match c with
  | some '$' => return some .last
  | some '+' => return some (.after (← number (← nextFilled)))
  | some '~' => return some (.multiple (← number (← nextFilled)))
  | some c =>
    if c == '/' || c == '\\' then
      let delimiter ← if c == '/' then pure (some '/') else next
      match ← upTo delimiter true with
      | none => bad (raw "unterminated address regex")
      | some s =>
        let (fold, lines) ← patternLetters ((← get).rest.length + 1) false false
        return some (.pattern (← pattern s fold lines none))
    else if c.isDigit then
      let first ← number (some c)
      let after ← nextFilled
      if after == some '~' then
        let step ← number (← nextFilled)
        return some (if step == 0 then .line first else .every first step)
      else
        back after
        return some (.line first)
    else return none
  | none => return none

/-- The condition of a step that begins with the character, and the character behind it. -/
def condition (c : Option Char) : Reader (Condition × Option Char) := do
  let first ← address c
  let (last, c) : Option Address × Option Char ← match first with
    | none => pure (none, c)
    | some a =>
      match a with
      | .after _ => bad (raw "invalid usage of +N or ~N as first address")
      | .multiple _ => bad (raw "invalid usage of +N or ~N as first address")
      | _ =>
        let c ← nextFilled
        let (last, c) ← if c == some ',' then do
            match ← address (← nextFilled) with
            | none => bad (raw "unexpected \x60,'")
            | some b => pure (some b, ← nextFilled)
          else pure (none, c)
        let isPattern : Bool := match last with
          | some (.pattern _) => true
          | _ => false
        match a with
        | .line 0 => if !isPattern then bad (raw "invalid usage of line address 0")
        | _ => pure ()
        pure (last, c)
  if c == some '!' then
    let c ← nextFilled
    if c == some '!' then bad (raw "multiple \x60!'s")
    return ({ first, last, negated := true }, c)
  return ({ first, last }, c)

/-! ## Commands -/

/-- The text of a command, with its backslashes, and whether it goes on in the next part. -/
def textBody : Nat → Raw → Reader (Raw × Bool)
  | 0, soFar => return (soFar, false)
  | n + 1, soFar => do
    match ← next with
    | none => return ('\n' :: soFar, false)
    | some '\n' => return ('\n' :: soFar, false)
    | some '\\' =>
      match ← next with
      | none =>
        modify fun r => { r with line := r.line + 1 }
        return ('\n' :: soFar, true)
      | some c => textBody n (c :: '\\' :: soFar)
    | some c => textBody n (c :: soFar)

/-- A text from here on. -/
def textFrom (soFar : Raw) : Reader Raw := do
  let (s, more) ← textBody ((← get).rest.length + 1) soFar.reverse
  let s := s.reverse
  modify fun r => { r with pending := if more then some s else none }
  return plainText s

/-- The text of a command that begins with the character, which was taken before. -/
def text (c : Option Char) : Reader Raw := do
  match c with
  | none => bad (raw "expected \\ after \x60a', \x60c' or \x60i'")
  | some '\\' =>
    match ← next with
    | none =>
      modify fun r => { r with pending := some [] }
      return []
    | some '\n' => textFrom []
    | c =>
      back c
      textFrom []
  | c =>
    back c
    textFrom []

/-- The letters behind a substitution, with those of its expression. -/
def letters : Nat → Substitution → (numbered fold lines : Bool) → Reader (Substitution × Bool × Bool)
  | 0, s, _, fold, lines => return (s, fold, lines)
  | n + 1, s, numbered, fold, lines => do
    let c ← next
    match c with
    | none => return (s, fold, lines)
    | some '\n' => return (s, fold, lines)
    | some ';' => return (s, fold, lines)
    | some '}' =>
      back c
      return (s, fold, lines)
    | some '#' =>
      back c
      return (s, fold, lines)
    | some 'i' => letters n s numbered true lines
    | some 'I' => letters n s numbered true lines
    | some 'm' => letters n s numbered fold true
    | some 'M' => letters n s numbered fold true
    | some 'e' =>
      reachOut
      letters n { s with runs := true } numbered fold lines
    | some 'p' =>
      if s.shows_ || s.showsBefore then bad (raw "multiple \x60p' options to \x60s' command")
      let s := if s.runs then { s with shows_ := true } else { s with showsBefore := true }
      letters n s numbered fold lines
    | some 'g' =>
      if s.every then bad (raw "multiple \x60g' options to \x60s' command")
      letters n { s with every := true } numbered fold lines
    | some 'w' =>
      reachOut
      return ({ s with output := some (← output) }, fold, lines)
    | some '\r' =>
      if (← next) == some '\n' then return (s, fold, lines)
      bad (raw "unknown option to \x60s'")
    | some c =>
      if c.isDigit then
        if numbered then bad (raw "multiple number options to \x60s' command")
        let k ← number (some c)
        if k == 0 then bad (raw "number option to \x60s' command may not be zero")
        letters n { s with number := k } true fold lines
      else if c == ' ' || c == '\t' then letters n s numbered fold lines
      else bad (raw "unknown option to \x60s'")

/-- A substitution. -/
def substitution : Reader Command := do
  let delimiter ← next
  let unterminated {α : Type} : Reader α := bad (raw "unterminated \x60s' command")
  match ← upTo delimiter true with
  | none => unterminated
  | some s =>
    match ← upTo delimiter false with
    | none => unterminated
    | some t =>
      if hasNestedControl t then bad (raw "recursive escaping after \\c not allowed")
      let pieces := Chunk.ofText [] .same .same (markedText (fun c => c == '&' || c == '\\') t)
      let (sub, fold, lines) ← letters ((← get).rest.length + 1) { pattern := {}, pieces } false false false
      let sub := if sub.runs then sub else { sub with shows_ := sub.showsBefore, showsBefore := false }
      return .substitute { sub with pattern := ← pattern s fold lines (some sub.reach) }

/-- Characters put for others. -/
def transliteration : Reader Command := do
  let delimiter ← next
  let unterminated {α : Type} : Reader α := bad (raw "unterminated \x60y' command")
  match ← upTo delimiter false with
  | none => unterminated
  | some s =>
    match ← upTo delimiter false with
    | none => unterminated
    | some t =>
      let us := Raw.units (plainText s)
      let vs := Raw.units (plainText t)
      if us.length != vs.length then bad (raw "strings for \x60y' command are different lengths")
      endOfCommand
      return .transliterate (us.zip vs)

/-- A number behind a command, if there is one. -/
def argument : Reader (Option Nat) := do
  let c ← nextFilled
  let value ← if c.any Char.isDigit then pure (some (← number c)) else do
    back c
    pure none
  endOfCommand
  return value

/-- The version whose commands are known. -/
def version : List Nat := [4, 9]

/-- A version that is not newer than the known one. -/
def isKnown (s : Raw) : Bool :=
  let parts := (splitAt '.' s).map Raw.nat?
  parts.all (·.isSome) && !(version < parts.map (·.getD 0))

/-- A command without anything behind it. -/
def plain? (c : Char) : Option Command :=
  match c with
  | '=' => some .number
  | 'd' => some .delete
  | 'D' => some .deleteLine
  | 'F' => some .fileName
  | 'g' => some .recall
  | 'G' => some .recallMore
  | 'h' => some .store
  | 'H' => some .storeMore
  | 'n' => some .next
  | 'N' => some .nextMore
  | 'p' => some .print
  | 'P' => some .printLine
  | 'x' => some .exchange
  | 'z' => some .clear
  | _ => none

/-- One address is all that the command can have. -/
def oneAddress (cond : Condition) : Reader Unit := do
  if cond.last.isSome then bad (raw "command only uses one address")

/-- A further step. -/
def add (condition : Condition) (command : Command) : Reader Unit :=
  modify fun r => { r with steps := r.steps.push { condition, command } }

/-- A step whose command begins with the character, which was taken before. -/
def command (cond : Condition) (c : Option Char) : Reader Unit := do
  match c with
  | none => bad (raw "missing command")
  | some '#' =>
    if cond.first.isSome then bad (raw "comments don't accept any addresses")
    let r ← get
    if r.first && r.taken == 1 && r.rest.head? == some 'n' then set { r with quiet := true }
    let _ ← takeWhile (· != '\n')
    let _ ← next
  | some 'v' =>
    let name ← label
    if !name.isEmpty && !isKnown name then bad (raw "expected newer version of sed")
  | some '\x7b' =>
    modify fun r => { r with blocks := (r.steps.size, r.origin, r.line) :: r.blocks }
    add cond (.block 0)
  | some '}' =>
    match (← get).blocks with
    | [] => bad (raw "unexpected \x60\x7d'")
    | (start, _) :: blocks =>
      if cond.first.isSome then bad (raw "\x60\x7d' doesn't want any addresses")
      endOfCommand
      add cond .blockEnd
      modify fun r => { r with
        blocks
        steps := r.steps.modify start fun s => { s with command := .block r.steps.size } }
  | some ':' =>
    if cond.first.isSome then bad (raw ": doesn't want any addresses")
    let name ← label
    if name.isEmpty then bad (raw "\":\" lacks a label")
    modify fun r => { r with labels := (name, r.steps.size) :: r.labels }
    add cond .label
  | some 'b' => add cond (.jump .always (← label) 0)
  | some 't' => add cond (.jump .replaced (← label) 0)
  | some 'T' => add cond (.jump .notReplaced (← label) 0)
  | some 'a' => add cond (.append (← text (← nextFilled)))
  | some 'i' => add cond (.insert_ (← text (← nextFilled)))
  | some 'c' => add cond (.change (← text (← nextFilled)))
  | some 'e' =>
    reachOut
    let c ← nextFilled
    if c.isNone || c == some '\n' then add cond (.run none) else add cond (.run (some (← text c)))
  | some 'q' =>
    oneAddress cond
    add cond (.quit true ((← argument).getD 0))
  | some 'Q' =>
    oneAddress cond
    add cond (.quit false ((← argument).getD 0))
  | some 'l' => add cond (.list (← argument))
  | some 'L' =>
    let _ ← argument
    add cond (.broken ['L'])
  | some 'r' =>
    reachOut
    add cond (.readFile (← fileName))
  | some 'R' =>
    reachOut
    add cond (.readLine (← fileName))
  | some 'w' =>
    reachOut
    add cond (.writeFile (← output))
  | some 'W' =>
    reachOut
    add cond (.writeLine (← output))
  | some 's' => add cond (← substitution)
  | some 'y' => add cond (← transliteration)
  | some c =>
    match plain? c with
    | some known =>
      endOfCommand
      add cond known
    | none => bad (raw "unknown command: \x60" ++ [c] ++ raw "'")

/-! ## Parts and the end -/

/-- The steps that are left. -/
def steps : Nat → Reader Unit
  | 0 => return
  | n + 1 => do
    let _ ← takeWhile fun c => c == ';' || Raw.isSpace c
    match ← next with
    | none => return
    | c =>
      let (cond, c) ← condition c
      command cond c
      steps n

/-- The command with another text. -/
def withText (s : Raw) : Command → Command
  | .append _ => .append s
  | .insert_ _ => .insert_ s
  | .change _ => .change s
  | .run _ => .run (some s)
  | c => c

/-- A part of a script. -/
def part (origin : Origin) (s : Raw) : Reader Unit := do
  modify fun r => { r with rest := s, taken := 0, line := 1, origin }
  if let some soFar := (← get).pending then
    let s ← textFrom soFar
    modify fun r => { r with
      steps := r.steps.modify (r.steps.size - 1) fun step =>
        { step with command := withText s step.command } }
  steps (s.length + 1)
  modify fun r => { r with first := false, taken := 0 }

/-- The step with its jump led to its label. -/
def aim (labels : List (Raw × Nat)) (size : Nat) (step : Step) : Except Raw Step :=
  match step.command with
  | .jump cond name _ =>
    if name.isEmpty then .ok { step with command := .jump cond name size }
    else match labels.lookup name with
      | some target => .ok { step with command := .jump cond name target }
      | none => .error name
  | _ => .ok step

/-- The whole script. -/
def close : Reader (List Step) := do
  let r ← get
  if let (_, origin, line) :: _ := r.blocks then
    modify fun r => { r with origin, line, taken := 0 }
    bad (raw "unmatched \x60\x7b'")
  let aimed := r.steps.toList.map (aim r.labels r.steps.size)
  match aimed.reverse.findSome? fun s => match s with | .error name => some name | .ok _ => none with
  | some name => throw { message := raw "can't find label for jump to \x60" ++ name ++ raw "'", status := 4 }
  | none => return aimed.filterMap (·.toOption)

end Reader

end DocAudit.Shell.Edit
