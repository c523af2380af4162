import DocAudit.Config.Setting
import DocAudit.Decimal.Reading

/-!
# TOML scalars

Strings, numbers, truth values, dates and times, each read at the start of a text. A reader gives the
value and the text after it.

## Contents

* `string?`: the four kinds of strings
* `number?`, `timestamp?`, `word?`: everything else
* `scalar?`: the first of them that fits

## Termination

The body of a string is read character by character; after an escape the rest is shorter.
-/

namespace DocAudit.Toml

open Text

/-- Why a text is no table. -/
inductive Fault
  /-- The text breaks the rules of the format. -/
  | malformed
  /-- A number has more digits than can be converted. -/
  | numberTooLong
  /-- Collections stand too deep in collections. -/
  | tooDeep
  deriving DecidableEq, Repr

/-- A result, or the reason for having none. -/
abbrev Outcome := Except Fault

/-- Spaces and tabs. -/
def isSpace (c : Char) : Bool := c == ' ' || c == '\t'

/-- Spaces, tabs and line feeds. -/
def isSpaceOrBreak (c : Char) : Bool := isSpace c || c == '\n'

/-- Control characters other than the tab. -/
def isIllegal (c : Char) : Bool := (c.toNat < 0x20 && c != '\t') || c.toNat == 0x7F

/-- Characters that may not stand in strings of several lines. -/
def isIllegalMultiline (c : Char) : Bool := isIllegal c && c != '\n'

/-- The text without the spaces before it. -/
def skipSpaces (s : Text) : Text := s.dropWhile isSpace

/-- The text after a beginning that it must have. -/
def after? (start s : Text) : Option Text :=
  if start.isPrefixOf s then some (s.drop start.length) else none

/-! ## Strings -/

/-- The characters of escapes with one letter. -/
def escapes : List (Char × Char) :=
  [('b', '\x08'), ('t', '\t'), ('n', '\n'), ('f', '\x0C'), ('r', '\r'), ('"', '"'), ('\\', '\\')]

/-- A hexadecimal number of the given width that names a character. -/
def codePoint? (width : Nat) (s : Text) : Option (Char × Text) := do
  let ds := s.take width
  if ds.length < width then none
  let values ← ds.mapM fun c => if c.isAlphanum then Decimal.baseDigit c else none
  let n := Decimal.ofDigits 16 values
  if n.isValidChar then some (Char.ofNat n, s.drop width) else none

/-- The text after a line that ends in a backslash: all white space is dropped. -/
def afterFold (s : Text) : Option Text :=
  match s with
  | '\n' :: r => some (r.dropWhile isSpaceOrBreak)
  | s =>
    match skipSpaces s with
    | [] => some []
    | '\n' :: r => some (r.dropWhile isSpaceOrBreak)
    | _ => none

/-- An escape, after its backslash: what it stands for and the text after it. -/
def escape? (multiline : Bool) (s : Text) : Option (Text × Text) :=
  match s with
  | [] => none
  | c :: r =>
    if multiline && isSpaceOrBreak c then (afterFold s).map fun rest => ([], rest)
    else if c = 'u' then (codePoint? 4 r).map fun (d, rest) => ([d], rest)
    else if c = 'U' then (codePoint? 8 r).map fun (d, rest) => ([d], rest)
    else (escapes.lookup c).map fun d => ([d], r)

/-- The body of a string in double quotes and the text after its closing quotes. -/
def basicBody? (multiline : Bool) (s : Text) : Option (Text × Text) :=
  match s with
  | [] => none
  | '\\' :: r =>
    match escape? multiline r with
    | none => none
    | some (text, rest) =>
      if _h : rest.length < r.length + 1 then
        (basicBody? multiline rest).map fun (more, last) => (text ++ more, last)
      else none
  | '"' :: r =>
    if !multiline then some ([], r)
    else if ['"', '"'].isPrefixOf r then some ([], r.drop 2)
    else (basicBody? multiline r).map fun (more, last) => ('"' :: more, last)
  | c :: r =>
    if if multiline then isIllegalMultiline c else isIllegal c then none
    else (basicBody? multiline r).map fun (more, last) => (c :: more, last)
termination_by s.length

/-- The body of a string in single quotes and the text after them. -/
def literalBody? (multiline : Bool) : Text → Option (Text × Text)
  | [] => none
  | '\'' :: r =>
    if !multiline then some ([], r)
    else if ['\'', '\''].isPrefixOf r then some ([], r.drop 2)
    else (literalBody? multiline r).map fun (more, last) => ('\'' :: more, last)
  | c :: r =>
    if if multiline then isIllegalMultiline c else isIllegal c then none
    else (literalBody? multiline r).map fun (more, last) => (c :: more, last)

/-- A line feed at the start of a string of several lines is not part of it. -/
def dropFirstBreak : Text → Text
  | '\n' :: r => r
  | s => s

/-- Up to two quotes behind the closing ones belong to the string. -/
def withTail (quote : Char) (result : Text × Text) : Text × Text :=
  let n := min 2 (result.2.takeWhile (· == quote)).length
  (result.1 ++ List.replicate n quote, result.2.drop n)

/-- A string of one line. -/
def lineString? : Text → Option (Text × Text)
  | '"' :: r => basicBody? false r
  | '\'' :: r => literalBody? false r
  | _ => none

/-- A string. -/
def string? (s : Text) : Option (Text × Text) :=
  match s with
  | '"' :: '"' :: '"' :: r => (basicBody? true (dropFirstBreak r)).map (withTail '"')
  | '\'' :: '\'' :: '\'' :: r => (literalBody? true (dropFirstBreak r)).map (withTail '\'')
  | s => lineString? s

/-! ## Numbers -/

/-- Digits of a class, a low line allowed between any two, and the text after them. -/
def digitRun (p : Char → Bool) : Text → Text × Text
  | [] => ([], [])
  | c :: r =>
    if p c then
      let (ds, rest) := digitRun p r
      (c :: ds, rest)
    else if c = '_' && (r.head?.any p) then digitRun p r
    else ([], c :: r)

/-- Digits as `digitRun`, at least one. -/
def digits? (p : Char → Bool) (s : Text) : Option (Text × Text) :=
  match s with
  | [] => none
  | c :: _ => if p c then some (digitRun p s) else none

/-- The number in digits of a base. -/
def natOf (base : Nat) (ds : Text) : Nat := Decimal.ofDigits base (ds.filterMap Decimal.baseDigit)

/-- Binary digits. -/
def isBinary (c : Char) : Bool := c == '0' || c == '1'

/-- Octal digits. -/
def isOctal (c : Char) : Bool := '0' ≤ c && c ≤ '7'

/-- Hexadecimal digits. -/
def isHex (c : Char) : Bool := c.isDigit || ('a' ≤ c && c ≤ 'f') || ('A' ≤ c && c ≤ 'F')

/-- A number after the mark of its base. -/
def based? : Text → Option (Nat × Text)
  | '0' :: 'x' :: r => (digits? isHex r).map fun (ds, rest) => (natOf 16 ds, rest)
  | '0' :: 'o' :: r => (digits? isOctal r).map fun (ds, rest) => (natOf 8 ds, rest)
  | '0' :: 'b' :: r => (digits? isBinary r).map fun (ds, rest) => (natOf 2 ds, rest)
  | _ => none

/-- The digits of a whole number without superfluous zeros. -/
def whole? (s : Text) : Option (Text × Text) :=
  match s with
  | '0' :: r => some (['0'], r)
  | s => digits? Char.isDigit s

/-- The digits after a point, and the text after them. -/
def fraction (s : Text) : Text × Text :=
  match s with
  | '.' :: r => (digits? Char.isDigit r).getD ([], s)
  | s => ([], s)

/-- An exponent, and the text after it. -/
def exponent? (s : Text) : Option (Int × Text) :=
  match s with
  | e :: r =>
    if e == 'e' || e == 'E' then
      let (negative, unsigned) := Decimal.signed r
      (digits? Char.isDigit unsigned).map fun (ds, rest) =>
        (if negative then -(natOf 10 ds : Int) else natOf 10 ds, rest)
    else none
  | [] => none

/-- A whole or floating point number. -/
def number? (s : Text) : Outcome (Setting × Text) :=
  match based? s with
  | some (n, rest) => .ok (.int n, rest)
  | none =>
    let (negative, unsigned) := Decimal.signed s
    match whole? unsigned with
    | none => .error .malformed
    | some (whole, rest) =>
      let (frac, rest) := fraction rest
      match frac, exponent? rest with
      | [], none =>
        if Decimal.digitLimit < whole.length then .error .numberTooLong
        else .ok (.int (if negative then -(natOf 10 whole : Int) else natOf 10 whole), rest)
      | frac, e =>
        let (exponent, rest) := e.getD (0, rest)
        let x := Decimal.toFloat (natOf 10 (whole ++ frac)) (exponent - frac.length)
        .ok (.float (if negative then -x else x), rest)

/-- The words for truth values and for the numbers that have no digits. -/
def word? (s : Text) : Option (Setting × Text) :=
  let inf : Float := 1.0 / 0.0
  let nan : Float := 0.0 / 0.0
  [("true", Setting.bool true), ("false", .bool false), ("inf", .float inf), ("+inf", .float inf),
    ("-inf", .float (-inf)), ("nan", .float nan), ("+nan", .float nan), ("-nan", .float nan)].findSome?
    fun (name, value) => (after? name.toList s).map fun rest => (value, rest)

/-! ## Dates and times -/

/-- A number of exactly `n` digits between two bounds. -/
def bounded? (n low high : Nat) (s : Text) : Option (Nat × Text) := do
  let (value, rest) ← Date.number? n s
  if low ≤ value && value ≤ high then some (value, rest) else none

/-- The digits of a fraction of a second as microseconds; those after the sixth are dropped. -/
def micros (s : Text) : Nat × Text :=
  match s with
  | '.' :: r =>
    let ds := r.takeWhile Char.isDigit
    if ds.isEmpty then (0, s)
    else (natOf 10 ((ds ++ List.replicate 6 '0').take 6), r.drop ds.length)
  | s => (0, s)

/-- A time of day. -/
def time? (s : Text) : Option (Time × Text) := do
  let (hour, r) ← bounded? 2 0 23 s
  let (minute, r) ← bounded? 2 0 59 (← after? [':'] r)
  let (second, r) ← bounded? 2 0 59 (← after? [':'] r)
  let (micro, r) := micros r
  return ({ hour, minute, second, micro }, r)

/-- A zone, or none. -/
def zone (s : Text) : Option Int × Text :=
  match s with
  | 'Z' :: r => (some 0, r)
  | 'z' :: r => (some 0, r)
  | sign :: r =>
    let read : Option (Nat × Text) := do
      let (hours, r) ← bounded? 2 0 23 r
      let (minutes, r) ← bounded? 2 0 59 (← after? [':'] r)
      return (hours * 60 + minutes, r)
    if sign == '+' || sign == '-' then
      match read with
      | some (n, rest) => (some (if sign == '-' then -(n : Int) else n), rest)
      | none => (none, s)
    else (none, s)
  | [] => (none, [])

/-- A date, alone or with a time and perhaps a zone. It may name a day that does not exist. -/
def timestamp? (s : Text) : Option (Option Setting × Text) := do
  let (year, r) ← Date.number? 4 s
  let (month, r) ← bounded? 2 1 12 (← after? ['-'] r)
  let (day, r) ← bounded? 2 1 31 (← after? ['-'] r)
  let date := Date.of? year month day
  let timed : Option (Time × Text) := match r with
    | c :: rest => if c == 'T' || c == 't' || c == ' ' then time? rest else none
    | [] => none
  match timed with
  | none => return (date.map .date, r)
  | some (time, r) =>
    let (offset, r) := zone r
    return (date.map fun date => .moment { date, time, offset }, r)

/-- A value that is no collection. -/
def scalar? (s : Text) : Outcome (Setting × Text) :=
  match s with
  | [] => .error .malformed
  | c :: _ =>
    if c == '"' || c == '\'' then
      match string? s with
      | some (text, rest) => .ok (.str text, rest)
      | none => .error .malformed
    else match timestamp? s, time? s, word? s with
      | some (some value, rest), _, _ => .ok (value, rest)
      | some (none, _), _, _ => .error .malformed
      | none, some (t, rest), _ => .ok (.time t, rest)
      | none, none, some result => .ok result
      | none, none, none => number? s

end DocAudit.Toml
