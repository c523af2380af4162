import DocAudit.Text.Classes
import DocAudit.Text.Utf8
import DocAudit.Yaml.Cursor

/-!
# Lexemes

The pieces of a YAML text that are read character by character: names of anchors, tags, directives,
and the three ways to write a scalar. Each reader takes the place where its piece starts and gives
the piece and the place after it.

## Contents

* `name?`, `tag?`, `directive?`
* `quoted?`: a scalar in single or double quotes
* `block?`: a literal or folded scalar
* `plain`: a scalar without quotes

## Termination

Every loop moves forward; where the next place comes from another reader, the loop asks whether it
is further on and stops otherwise.
-/

namespace DocAudit.Yaml

open Text

/-- Why a text has no value. -/
inductive Fault
  /-- The text breaks the rules of the format. -/
  | malformed
  /-- A scalar has the form of a value that does not exist, such as the thirtieth of February. -/
  | noSuchValue
  /-- A scalar that is tagged as a truth value names none. -/
  | noSuchTruth
  /-- A number is too large for the machine. -/
  | outOfRange
  /-- A scalar that is tagged as a number is empty. -/
  | emptyNumber
  /-- A scalar that is tagged as a date does not look like one. -/
  | notADate
  /-- A whole number has too many digits to be written. -/
  | numberTooLong
  /-- Collections stand too deep in collections. -/
  | tooDeep
  deriving DecidableEq, Repr

/-- A result, or the reason for having none. -/
abbrev Outcome := Except Fault

/-- Characters of names: letters, digits, `-` and `_`. -/
def isNameChar (c : Char) : Bool := c.isAlphanum || c == '-' || c == '_'

/-- Characters of tags besides letters and digits. -/
def isUriChar (c : Char) : Bool := c.isAlphanum || "-;/?:@&=+$,_.!~*'()[]%".toList.contains c

/-- A hexadecimal digit. -/
def hexValue (c : Char) : Option Nat :=
  if '0' ≤ c && c ≤ '9' then some (c.toNat - '0'.toNat)
  else if 'a' ≤ c && c ≤ 'f' then some (c.toNat - 'a'.toNat + 10)
  else if 'A' ≤ c && c ≤ 'F' then some (c.toNat - 'A'.toNat + 10)
  else none

/-- A number in hexadecimal digits. -/
def hexNumber (digits : Text) : Option Nat :=
  digits.foldl (fun acc c => do return (← acc) * 16 + (← hexValue c)) (some 0)

/-! ## Names and tags -/

/-- The name of an anchor or alias, after its mark. -/
def name? (c : Cursor) : Outcome (Text × Cursor) :=
  let c := c.advance 1
  let n := c.span isNameChar
  let after := c.advance n
  if n == 0 then .error .malformed
  else if isGapOrTab after.peek || "?:,]\x7D%@`".toList.contains after.peek then .ok (c.take n, after)
  else .error .malformed

/-- The bytes that stand in the text as a per cent sign and two digits. -/
def escapedBytes : Text → Option (List UInt8 × Text)
  | '%' :: a :: b :: r => do
    let byte ← hexNumber [a, b]
    let (bytes, rest) ← escapedBytes r
    return (byte.toUInt8 :: bytes, rest)
  | '%' :: _ => none
  | r => some ([], r)

/-- A text with its escaped characters decoded. The number bounds the length of the text. -/
def unescape : Nat → Text → Option Text
  | 0, _ => some []
  | _, [] => some []
  | n + 1, '%' :: r => do
    let (bytes, rest) ← escapedBytes ('%' :: r)
    return (← Utf8.decode? bytes) ++ (← unescape n rest)
  | n + 1, c :: r => do return c :: (← unescape n r)

/-- The part of a tag that may hold escaped characters. -/
def uri? (c : Cursor) : Outcome (Text × Cursor) :=
  let n := c.span isUriChar
  match if n == 0 then none else unescape (n + 1) (c.take n) with
  | none => .error .malformed
  | some text => .ok (text, c.advance n)

/-- The handle of a tag: `!`, `!!` or `!name!`. -/
def handle? (c : Cursor) : Outcome (Text × Cursor) :=
  if c.peek != '!' then .error .malformed
  else if c.peek 1 == ' ' then .ok (['!'], c.advance 1)
  else
    let n := (c.advance 1).span isNameChar
    if (c.advance (n + 1)).peek == '!' then .ok (c.take (n + 2), c.advance (n + 2))
    else .error .malformed

/-- A tag: its handle, when it has one, and the rest of it. -/
def tag? (c : Cursor) : Outcome ((Option Text × Text) × Cursor) := do
  let (tag, after) ←
    if c.peek 1 == '<' then do
      let (text, after) ← uri? (c.advance 2)
      if after.peek == '>' then pure ((none, text), after.advance 1) else .error .malformed
    else if isGapOrTab (c.peek 1) then pure ((none, ['!']), c.advance 1)
    else do
      let ahead := (c.advance 1).rest.takeWhile (!isGapChar ·)
      let (handle, after) ← if ahead.contains '!' then handle? c else pure (['!'], c.advance 1)
      let (text, after) ← uri? after
      pure ((some handle, text), after)
  if isGapChar after.peek then return (tag, after) else .error .malformed

/-! ## Directives -/

/-- What a directive line says. -/
inductive DirectiveLine
  | version (major : Nat)
  | tagHandle (handle stem : Text)
  | other
  deriving DecidableEq, Repr

/-- A run of digits. -/
def digits? (c : Cursor) : Outcome (Nat × Cursor) :=
  let n := c.span isAsciiDigit
  if n == 0 then .error .malformed
  else .ok ((c.take n).foldl (fun acc d => acc * 10 + (d.toNat - '0'.toNat)) 0, c.advance n)

/-- The end of a line that holds nothing more than a comment. -/
def restOfLine? (c : Cursor) : Outcome Cursor :=
  let c := c.skipSpaces.skipComment
  if !isLineEnd c.peek then .error .malformed
  else .ok (match c.lineBreak? with | some (_, after) => after | none => c)

/-- A directive line. -/
def directive? (c : Cursor) : Outcome (DirectiveLine × Cursor) := do
  let c := c.advance 1
  let n := c.span isNameChar
  let after := c.advance n
  if n == 0 || !isGapChar after.peek then .error .malformed
  let (line, after) ←
    if c.take n == "YAML".toList then do
      let (major, after) ← digits? after.skipSpaces
      if after.peek != '.' then .error .malformed
      let (_, after) ← digits? (after.advance 1)
      if !isGapChar after.peek then .error .malformed
      pure (DirectiveLine.version major, after)
    else if c.take n == "TAG".toList then do
      let (handle, after) ← handle? after.skipSpaces
      if after.peek != ' ' then .error .malformed
      let (stem, after) ← uri? after.skipSpaces
      if !isGapChar after.peek then .error .malformed
      pure (DirectiveLine.tagHandle handle stem, after)
    else pure (DirectiveLine.other, after.skip (!isLineEnd ·))
  return (line, ← restOfLine? after)

/-! ## Scalars in quotes -/

/-- The characters that a backslash and a letter stand for. -/
def escapes : List (Char × Char) :=
  [('0', '\x00'), ('a', '\x07'), ('b', '\x08'), ('t', '\t'), ('\t', '\t'), ('n', '\n'),
    ('v', '\x0B'), ('f', '\x0C'), ('r', '\r'), ('e', '\x1B'), (' ', ' '), ('"', '"'), ('\\', '\\'),
    ('/', '/'), ('N', '\u0085'), ('_', '\u00A0'), ('L', '\u2028'), ('P', '\u2029')]

/-- How many hexadecimal digits follow a backslash and the letter. -/
def escapeWidth : Char → Option Nat
  | 'x' => some 2
  | 'u' => some 4
  | 'U' => some 8
  | _ => none

/-- The blank lines inside a quoted scalar. -/
def quotedBreaks (c : Cursor) : Outcome (Text × Cursor) :=
  if c.atAnyMarker then .error .malformed
  else
    let c := c.skip fun ch => ch == ' ' || ch == '\t'
    match _h : c.lineBreak? with
    | none => .ok ([], c)
    | some (ch, after) => do
      let (more, last) ← quotedBreaks after
      return (ch :: more, last)
termination_by c.rest.length
decreasing_by
  have := Cursor.length_lineBreak? (by assumption)
  simp only [c, Cursor.skip, Cursor.rest_advance, List.length_drop] at this
  omega

/-- A line break inside a quoted scalar, folded: what it stands for. -/
def foldBreak (first : Char) (more : Text) : Text :=
  if first != '\n' then first :: more else if more.isEmpty then [' '] else more

/-- The escape sequence after a backslash. -/
def escape? (c : Cursor) : Outcome (Text × Cursor) :=
  match escapes.lookup c.peek, escapeWidth c.peek with
  | some ch, _ => .ok ([ch], c.advance 1)
  | none, some width =>
    match hexNumber ((c.advance 1).take width) with
    | none => .error .malformed
    | some n =>
      if ((c.advance 1).take width).length < width then .error .malformed
      else if n > 0x7FFFFFFF then .error .outOfRange
      else if n > 0x10FFFF then .error .noSuchValue
      else .ok ([if n.isValidChar then Char.ofNat n else '\uFFFD'], c.advance (width + 1))
  | none, none =>
    match c.lineBreak? with
    | none => .error .malformed
    | some (_, after) => quotedBreaks after

/-- The white space at a place inside a quoted scalar: what it stands for. -/
def quotedSpace (c : Cursor) : Outcome (Text × Cursor) :=
  let n := c.span fun ch => ch == ' ' || ch == '\t'
  let after := c.advance n
  match after.lineBreak? with
  | none => if after.rest.isEmpty then .error .malformed else .ok (c.take n, after)
  | some (ch, next) => do
    let (more, last) ← quotedBreaks next
    return (foldBreak ch more, last)

/-- One piece of a quoted scalar, or nothing at the closing quote. -/
def quotedPiece (quote : Char) (c : Cursor) : Outcome (Option Text × Cursor) :=
  let double := quote == '"'
  let plainRun := c.span fun ch => !(ch == '\'' || ch == '"' || ch == '\\' || isGapOrTab ch)
  if plainRun > 0 then .ok (some (c.take plainRun), c.advance plainRun)
  else if !double && c.peek == '\'' && c.peek 1 == '\'' then .ok (some ['\''], c.advance 2)
  else if c.peek == quote then .ok (none, c.advance 1)
  else if c.peek == '\'' || c.peek == '"' || (!double && c.peek == '\\') then
    .ok (some [c.peek], c.advance 1)
  else if c.peek == '\\' then do
    let (text, after) ← escape? (c.advance 1)
    return (some text, after)
  else do
    let (text, after) ← quotedSpace c
    return (some text, after)

/-- The pieces of a quoted scalar up to its closing quote. -/
def quotedRest (quote : Char) (c : Cursor) : Outcome (Text × Cursor) :=
  match quotedPiece quote c with
  | .error fault => .error fault
  | .ok (none, after) => .ok ([], after)
  | .ok (some text, after) =>
    if _h : after.rest.length < c.rest.length then do
      let (more, last) ← quotedRest quote after
      return (text ++ more, last)
    else .error .malformed
termination_by c.rest.length

/-- A scalar in quotes. -/
def quoted? (c : Cursor) : Outcome (Text × Cursor) := quotedRest c.peek (c.advance 1)

/-! ## Block scalars -/

/-- What happens to the line breaks at the end of a block scalar. -/
inductive Chomping
  | strip
  | clip
  | keep
  deriving DecidableEq, Repr

/-- A sign after the mark of a block scalar. -/
def chomping? : Char → Option Chomping
  | '+' => some .keep
  | '-' => some .strip
  | _ => none

/-- The sign and the indentation digit after the mark of a block scalar, in either order. -/
def blockHeader? (c : Cursor) : Outcome ((Chomping × Option Nat) × Cursor) := do
  let digit? (c : Cursor) : Outcome (Option Nat × Cursor) :=
    if c.peek == '0' then .error .malformed
    else if isAsciiDigit c.peek then .ok (some (c.peek.toNat - '0'.toNat), c.advance 1)
    else .ok (none, c)
  let (header, after) ← match chomping? c.peek with
    | some chomping => do
      let (width, after) ← digit? (c.advance 1)
      pure ((chomping, width), after)
    | none => do
      let (width, after) ← digit? c
      match if width.isSome then chomping? after.peek else none with
      | some chomping => pure ((chomping, width), after.advance 1)
      | none => pure ((Chomping.clip, width), after)
  if isGapChar after.peek then return (header, ← restOfLine? after) else .error .malformed

/-- The blank lines before a block scalar whose indentation is not given: their breaks, and the
greatest indentation seen. -/
def blockIndentation (c : Cursor) : Text × Nat × Cursor :=
  let inner := c.skipSpaces
  match _h : inner.lineBreak? with
  | none => ([], inner.column, inner)
  | some (ch, after) =>
    let (more, width, last) := blockIndentation after
    (ch :: more, max inner.column width, last)
termination_by c.rest.length
decreasing_by
  have := Cursor.length_lineBreak? (by assumption)
  simp only [inner, Cursor.skipSpaces, Cursor.skip, Cursor.rest_advance, List.length_drop] at this
  omega

/-- The spaces at the start of a line, up to the column `indent`. -/
def skipIndent (indent : Nat) (c : Cursor) : Cursor :=
  c.advance (min (c.span (· == ' ')) (indent - c.column))

/-- The blank lines inside a block scalar of the given indentation. -/
def blockBreaks (indent : Nat) (c : Cursor) : Text × Cursor :=
  let inner := skipIndent indent c
  match _h : inner.lineBreak? with
  | none => ([], inner)
  | some (ch, after) =>
    let (more, last) := blockBreaks indent after
    (ch :: more, last)
termination_by c.rest.length
decreasing_by
  have := Cursor.length_lineBreak? (by assumption)
  simp only [inner, skipIndent, Cursor.rest_advance, List.length_drop] at this
  omega

/-- The lines of a block scalar from the first one on: their text, the last line break, and the blank
lines after it. -/
def blockLines (folded : Bool) (indent : Nat) (c : Cursor) : Text × Text × Text × Cursor :=
  let n := c.span (!isLineEnd ·)
  let line := c.take n
  let after := c.advance n
  match _h : after.lineBreak? with
  | none => (line, [], [], after)
  | some (ch, next) =>
    let blank := blockBreaks indent next
    let inner := blank.2
    if inner.column == indent && !inner.rest.isEmpty then
      let starts (c : Char) : Bool := c == ' ' || c == '\t'
      let joint : Text :=
        if folded && ch == '\n' && !starts c.peek && !starts inner.peek then
          if blank.1.isEmpty then [' '] else []
        else [ch]
      if _h : inner.rest.length < c.rest.length then
        let (text, last) := blockLines folded indent inner
        (line ++ joint ++ blank.1 ++ text, last)
      else (line, [ch], blank.1, inner)
    else (line, [ch], blank.1, inner)
termination_by c.rest.length

/-- A block scalar inside a collection of the given indentation. -/
def block? (outer : Int) (c : Cursor) : Outcome (Text × Cursor) := do
  let folded := c.peek == '>'
  let ((chomping, width), after) ← blockHeader? (c.advance 1)
  let least := (max (outer + 1) 1).toNat
  let (breaks, indent, start) := match width with
    | none =>
      let (breaks, widest, start) := blockIndentation after
      (breaks, max least widest, start)
    | some w =>
      let (breaks, start) := blockBreaks (least + w - 1) after
      (breaks, least + w - 1, start)
  let (text, last, blank, final) :=
    if start.column == indent && !start.rest.isEmpty then
      let (text, last, blank, final) := blockLines folded indent start
      (breaks ++ text, last, blank, final)
    else ([], [], breaks, start)
  let tail : Text := match chomping with
    | .strip => []
    | .clip => last
    | .keep => last ++ blank
  return (text ++ tail, final)

/-! ## Plain scalars -/

/-- How many characters the next word of a plain scalar has. -/
def plainWord (inFlow : Bool) : Text → Nat
  | [] => 0
  | ch :: r =>
    let ahead := r.headD '\x00'
    if isGapOrTab ch ||
      (ch == ':' && (isGapOrTab ahead || (inFlow && ",[]\x7B\x7D".toList.contains ahead))) ||
      (inFlow && ",?[]\x7B\x7D".toList.contains ch) then 0
    else plainWord inFlow r + 1

/-- The blank lines between two lines of a plain scalar; `none` at a document marker. -/
def plainBreaks (c : Cursor) : Option (Text × Cursor) :=
  let inner := c.skipSpaces
  match _h : inner.lineBreak? with
  | none => some ([], inner)
  | some (ch, after) =>
    if after.atAnyMarker then none
    else (plainBreaks after).map fun (more, last) => (ch :: more, last)
termination_by c.rest.length
decreasing_by
  have := Cursor.length_lineBreak? (by assumption)
  simp only [inner, Cursor.skipSpaces, Cursor.skip, Cursor.rest_advance, List.length_drop] at this
  omega

/-- Where the line breaks after a word of a plain scalar lead when a marker ends it: right behind the
last of them. -/
def lastBreak (c : Cursor) : Cursor :=
  if c.atAnyMarker then c
  else
    let inner := c.skipSpaces
    match _h : inner.lineBreak? with
    | none => inner
    | some (_, after) => lastBreak after
termination_by c.rest.length
decreasing_by
  have := Cursor.length_lineBreak? (by assumption)
  simp only [inner, Cursor.skipSpaces, Cursor.skip, Cursor.rest_advance, List.length_drop] at this
  omega

/-- The space after a word of a plain scalar: what it stands for when the scalar goes on, empty when
it does not, whether a line was broken, and the place after it. -/
def plainSpace (c : Cursor) : Text × Bool × Cursor :=
  let n := c.span (· == ' ')
  let after := c.advance n
  match after.lineBreak? with
  | none => (c.take n, false, after)
  | some (ch, next) =>
    if next.atAnyMarker then ([], true, next)
    else match plainBreaks next with
      | none => ([], true, lastBreak next)
      | some (more, last) => (foldBreak ch more, true, last)

/-- The words of a plain scalar, each with the space before it. Also whether the last space, which is
not part of the scalar, broke a line. -/
def plainRest (inFlow : Bool) (indent : Int) (broken : Bool) (space : Text) (c : Cursor) :
    Text × Bool × Cursor :=
  let n := if c.peek == '#' then 0 else plainWord inFlow c.rest
  if n == 0 then ([], broken, c)
  else
    let (next, newLine, after) := plainSpace (c.advance n)
    let word := space ++ c.take n
    if next.isEmpty || after.peek == '#' || (!inFlow && (after.column : Int) < indent) then
      (word, newLine, after)
    else if _h : after.rest.length < c.rest.length then
      let (more, last) := plainRest inFlow indent newLine next after
      (word ++ more, last)
    else (word, newLine, after)
termination_by c.rest.length

/-- A plain scalar inside a collection of the given indentation: its text, whether a line break
follows it, and the place after it. -/
def plain (inFlow : Bool) (outer : Int) (c : Cursor) : Text × Bool × Cursor :=
  plainRest inFlow (outer + 1) false [] c

end DocAudit.Yaml
