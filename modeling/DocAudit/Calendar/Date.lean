import DocAudit.Text.Classes
import DocAudit.Text.Utf8

/-!
# Dates

Days of the Gregorian calendar from the year 1 to the year 9999, times of day, and their written
forms.

## Contents

* `Date`, `Date.of?`, `Date.lt`
* `Date.read?`: `YYYY-MM-DD`, `YYYYMMDD` and the forms with week numbers
* `Time`, `Moment`: a time of day, a date with a time and perhaps a zone
* `Moment.same`: equality, whatever the zones
* `Date.display`, `Time.display`, `Moment.display`: the forms inside collections
-/

namespace DocAudit

open Text

/-- Every fourth year is a leap year, but of the full centuries only every fourth. -/
def isLeap (year : Nat) : Bool := year % 4 == 0 && (year % 100 != 0 || year % 400 == 0)

/-- The number of days of a month. -/
def daysIn (year month : Nat) : Nat :=
  if month == 2 then (if isLeap year then 29 else 28)
  else if month == 4 || month == 6 || month == 9 || month == 11 then 30
  else 31

/-- A year, a month and a day that exist. -/
def isDate (year month day : Nat) : Bool :=
  1 ≤ year && year ≤ 9999 && 1 ≤ month && month ≤ 12 && 1 ≤ day && day ≤ daysIn year month

/-- A day of the calendar. -/
structure Date where
  year : Nat
  month : Nat
  day : Nat
  valid : isDate year month day = true
  deriving DecidableEq, Repr

/-- A number with leading zeros up to the width. -/
def padded (width n : Nat) : Text :=
  let ds := ofNat n
  List.replicate (width - ds.length) '0' ++ ds

namespace Date

/-- The day with the given numbers, when there is one. -/
def of? (year month day : Nat) : Option Date :=
  if h : isDate year month day = true then some ⟨year, month, day, h⟩ else none

/-- The earlier of two days comes first. -/
def lt (a b : Date) : Bool :=
  a.year < b.year || (a.year == b.year && (a.month < b.month ||
    (a.month == b.month && a.day < b.day)))

/-- The written form `YYYY-MM-DD`. -/
def text (d : Date) : Text := padded 4 d.year ++ '-' :: padded 2 d.month ++ '-' :: padded 2 d.day

/-- The number of days before the first of January. -/
def daysBefore (year : Nat) : Nat :=
  let y := year - 1
  365 * y + y / 4 - y / 100 + y / 400

/-- The number of days before a day of the calendar. -/
def number (d : Date) : Nat :=
  (List.range (d.month - 1)).foldl (fun n m => n + daysIn d.year (m + 1)) (daysBefore d.year) + (d.day - 1)

/-- The day with the given number in its year, counted from zero, in this or a later month. -/
def inYear? (year : Nat) : (months : List Nat) → (n : Nat) → Option Date
  | [], _ => none
  | month :: rest, n =>
    if n < daysIn year month then of? year month (n + 1) else inYear? year rest (n - daysIn year month)

/-- The months in order. -/
def months : List Nat := [1, 2, 3, 4, 5, 6, 7, 8, 9, 10, 11, 12]

/-- The day number `n`, counted from the first day of the year 1. It lies in one of three years. -/
def ofDayNumber? (near n : Nat) : Option Date :=
  [near - 1, near, near + 1].findSome? fun year =>
    if 1 ≤ year && daysBefore year ≤ n && n < daysBefore (year + 1) then
      inYear? year months (n - daysBefore year)
    else none

/-- The weekday of the first of January, Monday being zero. -/
def firstWeekday (year : Nat) : Nat := daysBefore year % 7

/-- The number of weeks of a year: 53 when it begins on a Thursday, and a leap year also on a
Wednesday. -/
def weeksIn (year : Nat) : Nat :=
  if firstWeekday year == 3 || (firstWeekday year == 2 && isLeap year) then 53 else 52

/-- A day by its week. The first week is the one with the first Thursday. -/
def ofWeek? (year week day : Nat) : Option Date :=
  if 1 ≤ year && 1 ≤ week && week ≤ weeksIn year && 1 ≤ day && day ≤ 7 then
    let weekday := firstWeekday year
    -- the Monday of the first week, one week later so that it is not before the calendar
    let monday := daysBefore year + 7 - weekday + (if 3 < weekday then 7 else 0)
    let n := monday + 7 * (week - 1) + (day - 1)
    if n < 7 then none else ofDayNumber? year (n - 7)
  else none

/-- A number of `n` digits at the start of the text. -/
def number? (n : Nat) (s : Text) : Option (Nat × Text) :=
  if s.length < n || !(s.take n).all isAsciiDigit then none
  else some ((s.take n).foldl (fun acc c => acc * 10 + (c.toNat - '0'.toNat)) 0, s.drop n)

/-- A month and a day, or a week and perhaps a day, after a year. Behind the day of a week without
separators two bytes are not looked at. -/
def afterYear? (year : Nat) (separated : Bool) (s : Text) : Option Date := do
  let separator? (s : Text) : Option Text := match separated, s with
    | false, s => some s
    | true, '-' :: r => some r
    | true, _ => none
  match s with
  | 'W' :: r =>
    let (week, r) ← number? 2 r
    if r.isEmpty then ofWeek? year week 1
    else
      let (day, _) ← number? 1 (← separator? r)
      ofWeek? year week day
  | _ =>
    let (month, r) ← number? 2 s
    let (day, r) ← number? 2 (← separator? r)
    if r.isEmpty then of? year month day else none

/-- The day that a text names, in one of the forms `YYYY-MM-DD`, `YYYYMMDD`, `YYYY-Www`, `YYYYWww`,
`YYYY-Www-D` and `YYYYWwwD`. -/
def read? (s : Text) : Option Date := do
  let size := (Utf8.encode s).length
  if size == 7 || size == 8 || size == 10 then
    let (year, r) ← number? 4 s
    match r with
    | '-' :: r => afterYear? year true r
    | _ => afterYear? year false r
  else none

end Date

/-- A time of day, to the microsecond. -/
structure Time where
  hour : Nat
  minute : Nat
  second : Nat
  micro : Nat
  deriving DecidableEq, Repr

namespace Time

/-- The time with the given numbers, when there is one. -/
def of? (hour minute second micro : Nat) : Option Time :=
  if hour < 24 && minute < 60 && second < 60 && micro < 1000000 then
    some { hour, minute, second, micro }
  else none

/-- The written form `HH:MM:SS`, with six places where there is a fraction. -/
def text (t : Time) : Text :=
  padded 2 t.hour ++ ':' :: padded 2 t.minute ++ ':' :: padded 2 t.second ++
    (if t.micro == 0 then [] else '.' :: padded 6 t.micro)

end Time

/-- A date with a time and, when it is known, the distance from universal time in minutes. -/
structure Moment where
  date : Date
  time : Time
  offset : Option Int
  deriving DecidableEq, Repr

namespace Moment

/-- A distance from universal time as `+HH:MM` or `-HH:MM`. -/
def offsetText (minutes : Int) : Text :=
  (if minutes < 0 then '-' else '+') :: padded 2 (minutes.natAbs / 60) ++
    ':' :: padded 2 (minutes.natAbs % 60)

/-- The minutes since the first day of the calendar, in universal time. -/
def minutes (m : Moment) (offset : Int) : Int :=
  (m.date.number * 1440 + m.time.hour * 60 + m.time.minute : Nat) - offset

/-- The two are the same moment. A moment whose zone is not known is none whose zone is known. -/
def same (a b : Moment) : Bool :=
  match a.offset, b.offset with
  | none, none => a == b
  | some p, some q =>
    a.minutes p == b.minutes q && a.time.second == b.time.second && a.time.micro == b.time.micro
  | _, _ => false

/-- The written form with `separator` between date and time. -/
def text (separator : Char) (m : Moment) : Text :=
  m.date.text ++ separator :: m.time.text ++
    (match m.offset with | none => [] | some minutes => offsetText minutes)

end Moment

/-! ## Dates inside collections

Inside a list or a table a date is shown by its parts, as a call that would build it. -/

/-- Numbers with a comma and a space between them, in brackets after a name. -/
def callText (name : String) (args : List Text) : Text :=
  name.toList ++ '(' :: joinWith [',', ' '] args ++ [')']

/-- A date by its parts. -/
def Date.display (d : Date) : Text :=
  callText "datetime.date" [ofNat d.year, ofNat d.month, ofNat d.day]

/-- The parts of a time: the seconds are left out when they are zero and no microseconds follow. -/
def Time.parts (t : Time) : List Text :=
  [ofNat t.hour, ofNat t.minute] ++
    (if t.micro != 0 then [ofNat t.second, ofNat t.micro]
     else if t.second != 0 then [ofNat t.second] else [])

/-- A time by its parts. -/
def Time.display (t : Time) : Text := callText "datetime.time" t.parts

/-- A zone by its distance from universal time, in days and seconds. -/
def zoneDisplay (minutes : Int) : Text :=
  if minutes == 0 then "datetime.timezone.utc".toList
  else
    let days := minutes / 1440
    let seconds := minutes % 1440 * 60
    callText "datetime.timezone"
      [callText "datetime.timedelta"
        ((if days != 0 then ["days=".toList ++ ofInt days] else []) ++
          (if seconds != 0 then ["seconds=".toList ++ ofInt seconds] else []))]

/-- A date with a time by its parts. -/
def Moment.display (m : Moment) : Text :=
  callText "datetime.datetime"
    ([ofNat m.date.year, ofNat m.date.month, ofNat m.date.day] ++ m.time.parts ++
      (match m.offset with
        | none => []
        | some minutes => ["tzinfo=".toList ++ zoneDisplay minutes]))

end DocAudit
