import DocAudit.Text.Classes
import DocAudit.Yaml.Cursor

/-!
# Tags

The kind of value that a scalar or collection stands for. A tag is written out, or follows from the
form of a plain scalar.

## Contents

* `Tag`, `Tag.ofText`: the tags with a meaning, under their full names
* `Tag.ofPlain`, `Tag.ofForm`: the tag of a scalar by its form; the forms are `isTruth`, `isFloat`, `isInt`,
  `isTimestamp` and the fixed words
-/

namespace DocAudit.Yaml

open Text

/-- The kinds of values. -/
inductive Tag
  | null
  | bool
  | int
  | float
  | binary
  | timestamp
  | str
  | seq
  | map
  | set
  | omap
  | pairs
  /-- The key that takes in the pairs of other mappings. -/
  | merge
  /-- The key `=`. -/
  | value
  /-- A kind without a meaning here. -/
  | unknown
  deriving DecidableEq, Repr

namespace Tag

/-- What the full names of the known tags begin with. -/
def stem : Text := "tag:yaml.org,2002:".toList

/-- The known tags by what follows `stem`. -/
def known : List (String × Tag) :=
  [("null", .null), ("bool", .bool), ("int", .int), ("float", .float), ("binary", .binary),
    ("timestamp", .timestamp), ("str", .str), ("seq", .seq), ("map", .map), ("set", .set),
    ("omap", .omap), ("pairs", .pairs), ("merge", .merge), ("value", .value)]

/-- The tag of a full name. -/
def ofText (name : Text) : Tag :=
  if stem.isPrefixOf name then (known.lookup (String.ofList (name.drop stem.length))).getD .unknown
  else .unknown

/-! ## The forms of plain scalars -/

/-- Drops one sign. -/
def dropSign : Text → Text
  | '+' :: r => r
  | '-' :: r => r
  | s => s

/-- A digit or the low line. -/
def isDigitOrLow (c : Char) : Bool := isAsciiDigit c || c == '_'

/-- The words for truth values. -/
def isTruth (s : Text) : Bool :=
  ["yes", "Yes", "YES", "no", "No", "NO", "true", "True", "TRUE", "false", "False", "FALSE",
    "on", "On", "ON", "off", "Off", "OFF"].contains (String.ofList s)

/-- An exponent with a sign, or nothing. -/
def isExponent : Text → Bool
  | [] => true
  | e :: sign :: r =>
    (e == 'e' || e == 'E') && (sign == '+' || sign == '-') && !r.isEmpty && r.all isAsciiDigit
  | _ => false

/-- Sixties of an amount: one digit, or two of which the first is below six. -/
def isSixty : Text → Bool
  | [a] => isAsciiDigit a
  | [a, b] => '0' ≤ a && a ≤ '5' && isAsciiDigit b
  | _ => false

/-- A fraction with or without an exponent, digits before the point or after it. -/
def isDecimal (s : Text) : Bool :=
  let unsigned := dropSign s
  let whole := unsigned.takeWhile isDigitOrLow
  match unsigned.dropWhile isDigitOrLow with
  | '.' :: r =>
    let startsWell (t : Text) : Bool := match t with | c :: _ => isAsciiDigit c | [] => false
    isExponent (r.dropWhile isDigitOrLow) &&
      (startsWell whole || (whole.isEmpty && startsWell r && unsigned == s))
  | _ => false

/-- A number with sixties and a fraction, such as `1:30.5`. -/
def isSexagesimalFloat (s : Text) : Bool :=
  match splitAt ':' (dropSign s) with
  | [] => false
  | [_] => false
  | first :: rest =>
    let last := rest.getLastD []
    match cut '.' last with
    | none => false
    | some (sixty, fraction) =>
      (match first with | c :: _ => isAsciiDigit c | [] => false) && first.all isDigitOrLow &&
        rest.dropLast.all isSixty && isSixty sixty && fraction.all isDigitOrLow

/-- The forms of floating point numbers. -/
def isFloat (s : Text) : Bool :=
  isDecimal s || isSexagesimalFloat s ||
    [".inf", ".Inf", ".INF"].contains (String.ofList (dropSign s)) ||
    [".nan", ".NaN", ".NAN"].contains (String.ofList s)

/-- The forms of whole numbers: binary, octal, hexadecimal, decimal, and decimal with sixties. -/
def isInt (s : Text) : Bool :=
  match dropSign s with
  | ['0'] => true
  | '0' :: 'b' :: r => !r.isEmpty && r.all fun c => c == '0' || c == '1' || c == '_'
  | '0' :: 'x' :: r => !r.isEmpty && r.all fun c => c.isDigit || c == '_' ||
      ('a' ≤ c && c ≤ 'f') || ('A' ≤ c && c ≤ 'F')
  | '0' :: r => r.all fun c => ('0' ≤ c && c ≤ '7') || c == '_'
  | c :: r =>
    ('1' ≤ c && c ≤ '9') &&
      (match splitAt ':' r with
        | [] => true
        | first :: rest => first.all isDigitOrLow && rest.all isSixty)
  | [] => false

/-- The parts of a timestamp as they are written. -/
structure Stamp where
  year : Text
  month : Text
  day : Text
  /-- Hour, minute, second and the digits of the fraction. -/
  time : Option (Text × Text × Text × Text)
  /-- The zone: `some none` for universal time, else sign, hours and minutes. -/
  zone : Option (Option (Char × Text × Text))
  deriving Repr

/-- A run of digits of the given lengths at the start of the text, the longest first. -/
def digitRun? (least most : Nat) (s : Text) : Option (Text × Text) :=
  let n := min most (s.takeWhile isAsciiDigit).length
  if n < least then none else some (s.take n, s.drop n)

/-- The text after the character, when the text starts with it. -/
def expect? (c : Char) : Text → Option Text
  | [] => none
  | d :: r => if d = c then some r else none

/-- A zone and nothing after it; no zone at all is fine. -/
def zone? (s : Text) : Option (Option (Option (Char × Text × Text))) :=
  match s, s.dropWhile fun c => c == ' ' || c == '\t' with
  | [], _ => some none
  | _, ['Z'] => some (some none)
  | _, sign :: r =>
    if sign == '+' || sign == '-' then do
      let (hours, r) ← digitRun? 1 2 r
      match r with
      | [] => some (some (some (sign, hours, [])))
      | ':' :: r => do
        let (minutes, r) ← digitRun? 2 2 r
        if r.isEmpty then some (some (some (sign, hours, minutes))) else none
      | _ => none
    else none
  | _, [] => none

/-- A text without one line feed at its end. -/
def withoutBreak (s : Text) : Text := if s.getLast? == some '\n' then s.dropLast else s

/-- The parts of a timestamp: a date, or a date with a time and perhaps a zone. A line feed may follow. -/
def stamp? (s : Text) : Option Stamp := do
  let (year, r) ← digitRun? 4 4 (withoutBreak s)
  let r ← expect? '-' r
  let (month, r) ← digitRun? 1 2 r
  let r ← expect? '-' r
  let (day, r) ← digitRun? 1 2 r
  match r with
  | [] => some { year, month, day, time := none, zone := none }
  | c :: rest =>
    let r ← if c == 'T' || c == 't' then some rest
      else if c == ' ' || c == '\t' then some (r.dropWhile fun c => c == ' ' || c == '\t')
      else none
    let (hour, r) ← digitRun? 1 2 r
    let r ← expect? ':' r
    let (minute, r) ← digitRun? 2 2 r
    let r ← expect? ':' r
    let (second, r) ← digitRun? 2 2 r
    let (fraction, r) := match r with
      | '.' :: r => (r.takeWhile isAsciiDigit, r.dropWhile isAsciiDigit)
      | _ => ([], r)
    let zone ← zone? r
    some { year, month, day, time := some (hour, minute, second, fraction), zone }

/-- The form of a timestamp. A date alone has two digits for the month and the day. -/
def isTimestamp (s : Text) : Bool :=
  match stamp? s with
  | none => false
  | some stamp => stamp.time.isSome || (stamp.month.length == 2 && stamp.day.length == 2)

/-- The tag of a plain scalar. Signs that cannot start one have a tag without a meaning. -/
def ofPlain (s : Text) : Tag :=
  if ["!", "&", "*"].contains (String.ofList s) then .unknown
  else if isTruth s then .bool
  else if isFloat s then .float
  else if isInt s then .int
  else if s == "<<".toList then .merge
  else if ["", "~", "null", "Null", "NULL"].contains (String.ofList s) then .null
  else if isTimestamp s then .timestamp
  else if s == ['='] then .value
  else .str

/-- The tag by its form of a scalar that is not plain. A line feed at its end does not count. -/
def ofForm (s : Text) : Tag :=
  if s.isEmpty then .null
  else if (withoutBreak s).isEmpty then .str
  else ofPlain (withoutBreak s)

end Tag

end DocAudit.Yaml
