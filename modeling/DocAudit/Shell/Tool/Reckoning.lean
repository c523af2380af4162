import DocAudit.Shell.Expression.Reader
import DocAudit.Shell.Options
import DocAudit.Shell.Format
import DocAudit.Shell.Tool.Sorting

/-!
# Reckoning

## Contents

* `Calculation`, `expr`: the value of an expression
* `RowNumber`, `seq`: numbers in a row
* `factor`: the prime factors of numbers
-/

namespace DocAudit.Shell.Tool

open Text Act

/-! ## Expressions -/

/-- Working out an expression: the word before the next one, and the words that are left. -/
abbrev Calculation := StateT (Raw × List Raw) Act

namespace Calculation

/-- The end because of words that mean nothing. -/
def fail {α : Type} (s : Raw) : Calculation α := giveUp 2 (raw "syntax error: " ++ s)

/-- The next word, if it is one of these, which is then passed. -/
def taken? (words : List String) : Calculation (Option String) := do
  let (_, rest) ← get
  match rest with
  | [] => return none
  | w :: rest =>
    match words.find? fun x => raw x == w with
    | some x =>
      set (w, rest)
      return some x
    | none => return none

/-- Any next word. -/
def word : Calculation Raw := do
  let (before, rest) ← get
  match rest with
  | [] => fail (raw "missing argument after " ++ Quoted.between before)
  | w :: rest =>
    set (w, rest)
    return w

/-- The number that a text is. -/
def number? (s : Raw) : Option Int := if s.head? == some '+' then none else Raw.int? s

/-- The number that a text has to be. -/
def number (s : Raw) : Calculation Int := do
  match number? s with
  | some n => return n
  | none => giveUp 2 (raw "non-integer argument")

/-- The text says nothing: it is empty or zero. -/
def isNothing (s : Raw) : Bool :=
  s.isEmpty || (let digits := if s.head? == some '-' then s.drop 1 else s
    !digits.isEmpty && digits.all (· == '0'))

/-- A number as a text. -/
def textOf (n : Int) : Raw := if n < 0 then '-' :: ofNat n.natAbs else ofNat n.natAbs

/-- A text compared with a pattern from its start: what the first group has matched, or how many characters
have been matched. -/
def matched (s pattern : Raw) : Calculation Raw := do
  match Expression.read {} pattern with
  | .error f => giveUp 2 f.message
  | .ok r =>
    let units := Raw.units s
    let found := r.expression.find? {} units 0 fun m => m.first == 0
    let grouped := 0 < r.groups
    match found with
    | none => return if grouped then [] else ['0']
    | some m =>
      if grouped then
        match m.groups.lookup 1 with
        | some (first, last) => return (Expression.between units first last).flatMap (·.bytes)
        | none => return []
      else return ofNat (m.last - m.first)

mutual

/-- Texts of which the first one that says something is taken. The number bounds the words. -/
def choice : Nat → (idle : Bool) → Calculation Raw
  | 0, _ => return []
  | n + 1, idle => do
    let mut v ← both n idle
    for _ in List.range (n + 1) do
      match ← taken? ["|"] with
      | none => return v
      | some _ =>
        let w ← both n (idle || !isNothing v)
        if isNothing v then v := if isNothing w then ['0'] else w
    return v

/-- Texts that all have to say something. -/
def both : Nat → (idle : Bool) → Calculation Raw
  | 0, _ => return []
  | n + 1, idle => do
    let mut v ← comparison n idle
    for _ in List.range (n + 1) do
      match ← taken? ["&"] with
      | none => return v
      | some _ =>
        let w ← comparison n (idle || isNothing v)
        if isNothing v || isNothing w then v := ['0']
    return v

/-- Texts or numbers compared. -/
def comparison : Nat → (idle : Bool) → Calculation Raw
  | 0, _ => return []
  | n + 1, idle => do
    let mut v ← sum n idle
    for _ in List.range (n + 1) do
      match ← taken? ["<", "<=", "=", "==", "!=", ">=", ">"] with
      | none => return v
      | some operator =>
        let w ← sum n idle
        let order : Ordering := match number? v, number? w with
          | some a, some b => compare a b
          | _, _ => compareBytes v w
        let holds : Bool := match operator with
          | "<" => order == .lt
          | "<=" => order != .gt
          | "!=" => order != .eq
          | ">=" => order != .lt
          | ">" => order == .gt
          | _ => order == .eq
        v := if holds then ['1'] else ['0']
    return v

/-- Sums and differences. -/
def sum : Nat → (idle : Bool) → Calculation Raw
  | 0, _ => return []
  | n + 1, idle => do
    let mut v ← product n idle
    for _ in List.range (n + 1) do
      match ← taken? ["+", "-"] with
      | none => return v
      | some operator =>
        let w ← product n idle
        if !idle then
          let a ← number v
          let b ← number w
          v := textOf (if operator == "+" then a + b else a - b)
    return v

/-- Products, quotients and remainders. -/
def product : Nat → (idle : Bool) → Calculation Raw
  | 0, _ => return []
  | n + 1, idle => do
    let mut v ← comparedWithPattern n idle
    for _ in List.range (n + 1) do
      match ← taken? ["*", "/", "%"] with
      | none => return v
      | some operator =>
        let w ← comparedWithPattern n idle
        if !idle then
          let a ← number v
          let b ← number w
          if operator != "*" && b == 0 then giveUp 2 (raw "division by zero")
          v := textOf (if operator == "*" then a * b else if operator == "/" then Int.tdiv a b
            else Int.tmod a b)
    return v

/-- Texts compared with patterns. -/
def comparedWithPattern : Nat → (idle : Bool) → Calculation Raw
  | 0, _ => return []
  | n + 1, idle => do
    let mut v ← function n idle
    for _ in List.range (n + 1) do
      match ← taken? [":"] with
      | none => return v
      | some _ =>
        let pattern ← function n idle
        if !idle then v := (← matched v pattern)
    return v

/-- A word that may name a function of the words behind it. -/
def function : Nat → (idle : Bool) → Calculation Raw
  | 0, _ => return []
  | n + 1, idle => do
    match ← taken? ["+", "length", "match", "index", "substr"] with
    | some "+" => word
    | some "length" =>
      let s ← function n idle
      return ofNat (Raw.units s).length
    | some "match" =>
      let s ← function n idle
      let pattern ← function n idle
      if idle then return s else matched s pattern
    | some "index" =>
      let s ← function n idle
      let chars ← function n idle
      let wanted := Raw.units chars
      return ofNat (((Raw.units s).findIdx? wanted.contains).elim 0 (· + 1))
    | some _ =>
      let s ← function n idle
      let start ← function n idle
      let count ← function n idle
      match number? start, number? count with
      | some i, some k =>
        if i ≤ 0 || k ≤ 0 then return []
        else return (((Raw.units s).drop (i.toNat - 1)).take k.toNat).flatMap (·.bytes)
      | _, _ => return []
    | none =>
      match ← taken? ["("] with
      | some _ =>
        let v ← choice n idle
        let (before, rest) ← get
        match rest with
        | [')'] :: _ =>
          set ([')'], rest.drop 1)
          return v
        | [] => fail (raw "expecting ')' after " ++ Quoted.between before)
        | w :: _ => fail (raw "expecting ')' instead of " ++ Quoted.between w)
      | none =>
        match ← taken? [")"] with
        | some _ => fail (raw "unexpected ')'")
        | none => word

end

end Calculation

/-- Prints the value of an expression. -/
def expr : Tool := fun args => do
  let args := if args.head? == some (raw "--") then args.drop 1 else args
  if args == [raw "--help"] || args == [raw "--version"] then return 0
  if args.isEmpty then misuse 2 (raw "missing operand")
  let (v, (_, rest)) ← (Calculation.choice (12 * args.length + 12) false).run ([], args)
  match rest with
  | extra :: _ => giveUp 2 (raw "syntax error: unexpected argument " ++ Quoted.between extra)
  | [] =>
    say (v ++ ['\n'])
    return if Calculation.isNothing v then 1 else 0

/-! ## Numbers in a row -/

/-- A number with a point: units of a power of ten, the number of digits behind the point, and how wide the
number was written. -/
structure RowNumber where
  units : Int
  places : Nat
  /-- How many digits behind the point are shown. -/
  shown : Nat
  width : Nat
  deriving Repr

/-- A number, or one without end. -/
inductive Bound
  | decimal (d : RowNumber)
  | endless (negative : Bool)
  deriving Repr

/-- The number that a text writes, as rows count with it. -/
def Bound.read (s : Raw) : Option Bound := do
  let s := s.dropWhile fun c => Raw.isSpace c || c == '+'
  let (negative, body) : Bool × Raw := match s with
    | '-' :: r => (true, r)
    | r => (false, r)
  let lower := body.map Char.toLower
  if lower == raw "inf" || lower == raw "infinity" then return .endless negative
  let signed (n : Nat) : Int := if negative then -(n : Int) else n
  if (raw "0x").isPrefixOf lower then
    let l ← Number.leading? 0 body
    if !l.rest.isEmpty || l.tooGreat then none
    return .decimal { units := signed l.value.toNat, places := 0, shown := 0, width := 0 }
  let whole := body.takeWhile Char.isDigit
  let rest := body.drop whole.length
  let pointed := rest.head? == some '.'
  let fraction := if pointed then (rest.drop 1).takeWhile Char.isDigit else []
  let rest := if pointed then rest.drop (1 + fraction.length) else rest
  if whole.isEmpty && fraction.isEmpty then none
  let e : Int ← match rest with
    | [] => some 0
    | c :: r => if c == 'e' || c == 'E' then Raw.int? r else none
  let n := (Raw.nat? (whole ++ fraction)).getD 0
  let places : Int := (fraction.length : Int) - e
  let shown : Nat := if e < 0 then fraction.length + e.natAbs else fraction.length - e.natAbs
  let written := s.length - rest.length
  let width : Int :=
    if !pointed then written else if fraction.isEmpty then written - 1
    else if whole.isEmpty then written + 1 else written
  let width := if e < 0 then width + (if pointed then (if fraction.isEmpty then 1 else 0) else 1) + e.natAbs
    else if rest.isEmpty then width
    else width - (if pointed && shown == 0 && !fraction.isEmpty then 1 else 0) + e
  if places < 0 then
    let units := signed (n * Nat.pow 10 places.natAbs)
    return .decimal { units, places := 0, shown, width := width.toNat }
  else return .decimal { units := signed n, places := places.toNat, shown, width := width.toNat }

/-- The units of a number at another number of digits behind the point. -/
def RowNumber.unitsAt (d : RowNumber) (places : Nat) : Int := d.units * (Nat.pow 10 (places - d.places) : Nat)

/-- The text of so many units. -/
def decimalText (shown places : Nat) (units : Int) : Raw :=
  let n := units.natAbs / Nat.pow 10 (places - shown)
  let digits := Raw.padLeft '0' (shown + 1) (ofNat n)
  let whole := digits.take (digits.length - shown)
  (if units < 0 then ['-'] else []) ++ whole ++
    (if shown == 0 then [] else '.' :: digits.drop (digits.length - shown))

/-- A format of numbers: what stands around one conversion. -/
structure NumberFormat where
  before : Raw
  conversion : Conversion
  after : Raw

/-- A text in which two percent signs stand for one, up to a conversion. -/
def untilConversion : Raw → Raw × Raw
  | '%' :: '%' :: rest =>
    let (s, left) := untilConversion rest
    ('%' :: s, left)
  | '%' :: rest => ([], '%' :: rest)
  | [] => ([], [])
  | c :: rest =>
    let (s, left) := untilConversion rest
    (c :: s, left)

/-- The format that a text writes. -/
def NumberFormat.read (s : Raw) : Act NumberFormat := do
  let shown := Quoted.between s
  let (before, rest) := untilConversion s
  match rest with
  | [] => giveUp 1 (raw "format " ++ shown ++ raw " has no % directive")
  | _ :: rest =>
    let flags := rest.takeWhile fun c => "-+#0 '".toList.contains c
    let v : Conversion := flags.foldl Conversion.flag {}
    let rest := rest.drop flags.length
    let width := rest.takeWhile Char.isDigit
    let rest := rest.drop width.length
    let v := { v with width := (Raw.nat? width).getD 0 }
    let (v, rest) := match rest with
      | '.' :: r =>
        let digits := r.takeWhile Char.isDigit
        ({ v with precision := some ((Raw.nat? digits).getD 0) }, r.drop digits.length)
      | r => (v, r)
    let rest := if rest.head? == some 'L' then rest.drop 1 else rest
    match rest with
    | [] => giveUp 1 (raw "format " ++ shown ++ raw " ends in %")
    | c :: rest =>
      if !"efgaEFGA".toList.contains c then
        giveUp 1 (raw "format " ++ shown ++ raw " has unknown %" ++ [c] ++ raw " directive")
      let (after, more) := untilConversion rest
      if !more.isEmpty then giveUp 1 (raw "format " ++ shown ++ raw " has too many % directives")
      return { before, conversion := { v with letter := c }, after }

/-- How numbers are shown in a row. -/
structure RowStyle where
  format : Option NumberFormat := none
  separator : Raw := ['\n']
  equalWidth : Bool := false

/-- Numbers from one on, so many at most, until one is behind the last; in pieces of a hundred. The first
number bounds the pieces. -/
def sayRow (text : Int → Raw) (separator : Raw) (step : Int) (last : Option Int) :
    Nat → (first : Bool) → Int → Act Bool
  | 0, _, _ => do
    hang
    return true
  | n + 1, first, x => do
    let inside (x : Int) : Bool := match last with
      | some last => if step < 0 then last ≤ x else x ≤ last
      | none => true
    let numbers := ((List.range 100).map fun (i : Nat) => x + (i : Int) * step).takeWhile inside
    if numbers.isEmpty then return !first
    let piece := joinWith separator (numbers.map text)
    match ← write 1 (if first then piece else separator ++ piece) with
    | some f =>
      setShell fun sh => { sh with failed := some f }
      return false
    | none =>
      if numbers.length < 100 then return true
      sayRow text separator step last n false (x + 100 * step)

/-- The operand is a number with a sign and no option. -/
def isNegative (s : Raw) : Bool :=
  match s with
  | '-' :: c :: _ => c == '.' || c.isDigit
  | _ => false

/-- Prints numbers in a row. -/
def seq : Tool := fun args => do
  let place := (args.findIdx? isNegative).getD args.length
  let (v, operands) ← optionsOf "f/format= s/separator= w/equal-width" 1 true (args.take place)
    (({}, none) : RowStyle × Option Raw) fun (v, format) key value => return match key with
      | "f" => (v, some value)
      | "s" => ({ v with separator := value }, format)
      | _ => ({ v with equalWidth := true }, format)
  let (v, format) := v
  let operands := operands ++ args.drop place
  if operands.isEmpty then missingOperand
  if let some extra := operands[3]? then extraOperand extra
  let format ← match format with
    | some s => do pure (some (← NumberFormat.read s))
    | none => pure none
  if format.isSome && v.equalWidth then
    misuse 1 (raw "format string may not be specified when printing equal width strings")
  let number (s : Raw) : Act Bound := do
    match Bound.read s with
    | some b => return b
    | none =>
      let bare := (s.dropWhile fun c => Raw.isSpace c || c == '+' || c == '-').map Char.toLower
      if bare == raw "nan" then misuse 1 (raw "invalid " ++ Quoted.between (raw "not-a-number") ++
        raw " argument: " ++ Quoted.between s)
      misuse 1 (raw "invalid floating point argument: " ++ Quoted.between s)
  let (firstText, stepText, lastText) : Raw × Raw × Raw := match operands with
    | [a, b, c] => (a, b, c)
    | [a, b] => (a, ['1'], b)
    | a => (['1'], ['1'], a.headD [])
  let one : Bound := .decimal { units := 1, places := 0, shown := 0, width := 1 }
  let first ← if operands.length == 1 then pure one else number firstText
  let step ← if operands.length < 3 then pure one else number stepText
  if let .decimal { units := 0, .. } := step then
    misuse 1 (raw "invalid Zero increment value: " ++ Quoted.between stepText)
  let last ← number lastText
  match first, step with
  | .decimal first, .decimal step =>
    let lastPlaces := match last with
      | .decimal d => d.places
      | .endless _ => 0
    let places := max first.places (max step.places lastPlaces)
    let shown := max first.shown step.shown
    let width := match last with
      | .decimal d =>
        let lastWidth := d.width + shown - d.shown
        let lastWidth := if d.shown != 0 && shown == 0 then lastWidth - 1 else if d.shown == 0 && shown != 0
          then lastWidth + 1 else lastWidth
        let firstWidth := first.width + (shown - first.shown) + if first.shown == 0 && shown != 0 then 1
          else 0
        max firstWidth lastWidth
      | .endless _ => 0
    let text (x : Int) : Raw := match format with
      | some f =>
        let size := Decimal.toFloat x.natAbs (-(places : Int))
        f.before ++ f.conversion.float (if x < 0 then -size else size) ++ f.after
      | none =>
        let s := decimalText shown places x
        if !v.equalWidth then s
        else if s.head? == some '-' then '-' :: Raw.padLeft '0' (width - 1) (s.drop 1)
        else Raw.padLeft '0' width s
    let start := first.unitsAt places
    let step := step.unitsAt places
    let bound : Option Int := match last with
      | .decimal d => some (d.unitsAt places)
      | .endless negative => if negative == (step < 0 : Bool) then none
        else some (if negative then start - 1 else start + 1)
    if ← sayRow text v.separator step bound 3000 true start then say ['\n']
    return 0
  | _, _ =>
    hang
    return 0

/-! ## Prime factors -/

/-- The prime factors of a number that are not less than another one. The first number bounds the steps. -/
def primesFrom : Nat → (least n : Nat) → List Nat
  | 0, _, n => [n]
  | fuel + 1, least, n =>
    if n < 2 then []
    else if n < least * least then [n]
    else if n % least == 0 then least :: primesFrom fuel least (n / least)
    else primesFrom fuel (if least == 2 then 3 else least + 2) n

/-- Prints the prime factors of numbers. -/
def factor : Tool := fun args => do
  let (powers, operands) ← options "h/exponents" args false fun _ _ _ => return true
  let mut status := 0
  let words ← if operands.isEmpty then do
      match ← readAll 0 with
      | .ok s => pure (((splitAt '\n' s).flatMap fun l =>
        splitAt ' ' (l.map fun c => if c == '\t' then ' ' else c)).filter
          (!·.isEmpty))
      | .error _ => pure []
    else pure operands
  for word in words do
    let s := word.dropWhile Raw.isSpace
    let s := if s.head? == some '+' then s.drop 1 else s
    match Raw.nat? s with
    | some n =>
      let primes := primesFrom 2000000 2 n
      let shown := if powers then primes.eraseDups.map fun p =>
          let k := primes.count p
          ofNat p ++ if 1 < k then '^' :: ofNat k else []
        else primes.map ofNat
      say (ofNat n ++ ':' :: shown.flatMap (fun p => ' ' :: p) ++ ['\n'])
    | none =>
      grumble (Quoted.between word ++ raw " is not a valid positive integer")
      status := 1
  return status

end DocAudit.Shell.Tool
