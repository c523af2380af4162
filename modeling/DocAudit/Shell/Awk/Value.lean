import DocAudit.Shell.Format

/-!
# Values of awk programs

A value is a number or a text; a text from outside may look like a number and then counts as one. Arrays
have texts and whole numbers as subscripts. The order in which a walk goes through an array is the order of
its buckets, and inside of a bucket the subscript that was used last comes first.

## Contents

* `Awk.Value`: values, their numbers and truth
* `Awk.wholeText?`: whole numbers as text
* `Awk.Subscript`, `Awk.Table`: arrays
* `Awk.formatted`: values written by a format
* `Awk.numberText`, `Awk.Value.shown`: values as text
-/

namespace DocAudit.Shell.Awk

open Text

/-! ## Values -/

/-- A value. -/
inductive Value
  | unset
  | number (x : Float)
  | text (s : Raw)
  /-- A text from outside. -/
  | outside (s : Raw)
  deriving Inhabited

/-- The number that a text begins with; zero if there is none. -/
def leadingNumber (s : Raw) : Float := ((leadingFloat? s).map (·.1)).getD 0.0

/-- The number that a text from outside looks like. -/
def looksLike? (s : Raw) : Option Float :=
  let t := trim Raw.isSpace s
  match t, t.getLast? with
  | first :: _, some last =>
    if !(last.isDigit || last == '.') || !(first.isDigit || "+-.".toList.contains first) then none
    else match leadingFloat? t with
      | some (x, []) => some x
      | _ => none
  | _, _ => none

namespace Value

/-- The value as a number. -/
def toNumber : Value → Float
  | .unset => 0.0
  | .number x => x
  | .text s => leadingNumber s
  | .outside s => leadingNumber s

/-- The number of the value, if it is compared as one. -/
def number? : Value → Option Float
  | .unset => some 0.0
  | .number x => some x
  | .text _ => none
  | .outside s => looksLike? s

/-- The value holds as a condition. -/
def holds : Value → Bool
  | .unset => false
  | .number x => x != 0.0
  | .text s => !s.isEmpty
  | .outside s => match looksLike? s with
    | some x => x != 0.0
    | none => !s.isEmpty

/-- A condition as a value. -/
def ofBool (b : Bool) : Value := .number (if b then 1.0 else 0.0)

/-- A count as a value. -/
def ofNat (n : Nat) : Value := .number (Float.ofNat n)

end Value

/-- A number without its fraction, as a whole number; the nearest one within the bits that there are. -/
def whole (x : Float) : Int :=
  if x != x then Number.least
  else if x ≥ 9223372036854775807.0 then Number.greatest
  else if x ≤ -9223372036854775808.0 then Number.least
  else if x < 0.0 then -(((-x).floor.toUInt64.toNat : Nat) : Int)
  else (x.floor.toUInt64.toNat : Nat)

/-- The text of a number that is whole and not too great. -/
def wholeText? (x : Float) : Option Raw :=
  if x != x then none
  else if x ≥ 9223372036854775808.0 then
    if x > 18446744073709551616.0 then none
    else if x == 18446744073709551616.0 then some (raw "18446744073709551615")
    else some (ofNat x.toUInt64.toNat)
  else if x < -9223372036854775808.0 then none
  else
    let size := x.abs.floor
    if size != x.abs then none
    else
      let n := size.toUInt64.toNat
      some (if x < 0.0 then '-' :: ofNat n else ofNat n)

/-! ## Arrays -/

/-- A subscript. -/
inductive Subscript
  | name (s : Raw)
  | index (n : Int)
  deriving DecidableEq, Repr

/-- The text of a whole number. -/
def ofInt (n : Int) : Raw := if n < 0 then '-' :: ofNat n.natAbs else ofNat n.natAbs

/-- The text of a subscript. -/
def Subscript.text : Subscript → Raw
  | .name s => s
  | .index n => ofInt n

/-- An element of an array. -/
structure Node where
  key : Raw
  value : Value

/-- An array: its elements, and the subscripts by which they were used, the last one first. -/
structure Table where
  nodes : List Node := []
  /-- Texts are known for all elements. -/
  named : Bool := false
  names : List Raw := []
  indices : List Int := []

/-- The bucket of a text: each byte goes into the lower bits of a product. -/
def bucketOf (width : Nat) (s : Raw) : Nat :=
  (s.foldl (fun h c => ((h ^^^ c.toNat) * 16777619) % 4294967296) 2166136261) % width

namespace Table

/-- The number of buckets. -/
def width (t : Table) : Nat := if t.nodes.length ≤ 768 then 64 else if t.nodes.length ≤ 1536 then 128 else 256

/-- The bucket of a whole number. -/
def bucketOfIndex (width : Nat) (n : Int) : Nat := (n % (width : Int)).toNat

/-- The subscript was used just now. -/
def moved {α : Type} [BEq α] (x : α) (xs : List α) : List α := x :: xs.filter (· != x)

/-- Texts for all elements. -/
def withNames (t : Table) : Table :=
  if t.named then t
  else
    let width := t.width
    let order := t.indices.mergeSort fun a b => bucketOfIndex width a ≤ bucketOfIndex width b
    { t with named := true, names := order.foldl (fun names n => ofInt n :: names) t.names }

/-- The element of a text. -/
def node? (t : Table) (key : Raw) : Option Node := t.nodes.find? (·.key == key)

/-- Looks for a subscript, which is made if that is asked for. -/
def touch (t : Table) (make : Bool) : Subscript → Table × Bool
  | .name s =>
    let t := t.withNames
    if (t.node? s).isSome then ({ t with names := moved s t.names }, true)
    else if make then ({ t with nodes := { key := s, value := .unset } :: t.nodes, names := s :: t.names },
      true)
    else (t, false)
  | .index n =>
    let key := ofInt n
    let known := (t.node? key).isSome
    if !known && !make then (t, false)
    else
      let t := if known then t else { t with nodes := { key, value := .unset } :: t.nodes }
      if t.indices.contains n then ({ t with indices := moved n t.indices }, true)
      else ({ t with indices := n :: t.indices, names := if t.named then moved key t.names else t.names },
        true)

/-- The value of a subscript. -/
def value (t : Table) (s : Subscript) : Value := ((t.node? s.text).map (·.value)).getD .unset

/-- A value for a subscript. -/
def put (t : Table) (s : Subscript) (v : Value) : Table :=
  let key := s.text
  { t with nodes := t.nodes.map fun n => if n.key == key then { n with value := v } else n }

/-- The array without a subscript. -/
def remove (t : Table) (s : Subscript) : Table :=
  let key := s.text
  let nodes := t.nodes.filter (·.key != key)
  if nodes.isEmpty then {}
  else
    { t with nodes, names := t.names.filter (· != key), indices := t.indices.filter (ofInt · != key) }

/-- The texts of all subscripts in the order of a walk. -/
def walk (t : Table) : Table × List Raw :=
  let t := t.withNames
  let width := t.width
  (t, t.names.mergeSort fun a b => bucketOf width a ≤ bucketOf width b)

/-- The array of a list, whose subscripts begin with one. -/
def ofList (vs : List Value) : Table :=
  { nodes := vs.zipIdx.map fun (value, i) => { key := ofInt (i + 1), value }
    indices := (List.range vs.length).reverse.map fun i => ((i + 1 : Nat) : Int) }

/-- The array of arguments, whose subscripts begin with zero. -/
def ofArgs (args : List Raw) : Table :=
  args.zipIdx.foldl (fun t (arg, i) =>
    ((t.touch true (.index i)).1.put (.index i) (.outside arg))) {}

end Table

/-! ## Values as text -/

/-- Why values cannot be written by a format. -/
inductive FormatFault
  | tooFew
  /-- The conversion of the number is none. -/
  | improper (number : Nat)

/-- A width or a precision in a format: digits, or a star that takes the next value. -/
def amount (s : Raw) (args : List Value) : Option (Option Int × Raw × List Value) :=
  match s with
  | '*' :: rest =>
    match args with
    | [] => none
    | v :: args => some (some (whole v.toNumber), rest, args)
  | s =>
    let digits := s.takeWhile Char.isDigit
    some ((Raw.nat? digits).map fun n => (n : Int), s.drop digits.length, args)

/-- A value written by a conversion. -/
def converted (shown : Value → Raw) (v : Conversion) (value : Value) : Option Raw :=
  let x := value.toNumber
  match v.letter with
  | 's' => some (v.text (shown value))
  | 'c' =>
    let c : Raw := match value with
      | .number x => [Char.ofNat ((whole x) % 256).toNat]
      | value => match (shown value).head? with
        | some c => [c]
        | none => ['\x00']
    some (v.fill c)
  | c =>
    if c == 'd' || c == 'i' then some (v.signed (whole x))
    else if "ouxX".toList.contains c then
      some (v.unsigned (if x ≥ 9223372036854775808.0 then x.toUInt64.toNat else Number.bits (whole x)))
    else if "eEfgG".toList.contains c then some (if x.isNaN then v.fill (raw "-nan") else v.float x)
    else none

/-- What a format makes of values up to a fault. The first number bounds the length of the format, the second
one counts the conversions. -/
def formatPieces (shown : Value → Raw) : Nat → (count : Nat) → Raw → List Value →
    Raw × Option FormatFault
  | 0, _, _, _ => ([], none)
  | _ + 1, _, [], _ => ([], none)
  | n + 1, count, '%' :: '%' :: rest, args =>
    let (more, f) := formatPieces shown n count rest args
    ('%' :: more, f)
  | n + 1, count, '%' :: rest, args =>
    let flags := rest.takeWhile fun c => "#-+ 0".toList.contains c
    let v : Conversion := flags.foldl Conversion.flag {}
    match amount (rest.drop flags.length) args with
    | none => ([], some .tooFew)
    | some (width, rest, args) =>
      let v := (width.map v.setWidth).getD v
      let pointed := rest.head? == some '.'
      match if pointed then amount (rest.drop 1) args else some (none, rest, args) with
      | none => ([], some .tooFew)
      | some (precision, rest, args) =>
        let v := if !pointed then v else match precision with
          | some p => { v with precision := if p < 0 then none else some p.toNat }
          | none => { v with precision := some 0 }
        let rest := rest.dropWhile fun c => c == 'l' || c == 'h'
        match args with
        | [] => ([], some .tooFew)
        | value :: args =>
          match rest with
          | [] => ([], some (.improper (count + 1)))
          | letter :: rest =>
            match converted shown { v with letter } value with
            | none => ([], some (.improper (count + 1)))
            | some s =>
              let (more, f) := formatPieces shown n (count + 1) rest args
              (s ++ more, f)
  | n + 1, count, c :: rest, args =>
    let (more, f) := formatPieces shown n count rest args
    (c :: more, f)

/-- What a format makes of values, and why it could not be finished. -/
def formatted (shown : Value → Raw) (format : Raw) (args : List Value) : Raw × Option FormatFault :=
  formatPieces shown (format.length + 1) 0 format args

/-- A number as text: whole ones as they are, others by a format. -/
def numberText (format : Raw) (x : Float) : Raw :=
  match wholeText? x with
  | some s => s
  | none => if x.isNaN then raw "-nan" else (formatted (fun _ => []) format [.number x]).1

/-- A value as text. -/
def Value.shown (format : Raw) : Value → Raw
  | .unset => []
  | .number x => numberText format x
  | .text s => s
  | .outside s => s

end DocAudit.Shell.Awk
