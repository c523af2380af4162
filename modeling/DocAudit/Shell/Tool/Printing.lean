import DocAudit.Shell.Builtins
import DocAudit.Shell.Options

/-!
# Printing arguments

The programs that print their arguments. They know some more escapes than the commands of the shell that
have the same names, and complain in other words.

## Contents

* `echoTool`, `printfTool`: arguments, with escapes or by a format
* `yes`: a line without end
-/

namespace DocAudit.Shell.Tool

open Text Act

/-! ## Escapes -/

/-- The value of hexadecimal digits. -/
def hexValue (s : Raw) : Nat := s.foldl (fun n c => 16 * n + (Number.digit? c).getD 0) 0

/-- The character is a hexadecimal digit. -/
def isHexDigit (c : Char) : Bool := (Number.digit? c).any (· < 16)

/-- A letter behind a backslash that stands for a control character. -/
def controlOf? (c : Char) : Option Char :=
  match c with
  | 'a' => some '\x07'
  | 'b' => some '\x08'
  | 'e' => some '\x1b'
  | 'f' => some '\x0c'
  | 'n' => some '\n'
  | 'r' => some '\r'
  | 't' => some '\t'
  | 'v' => some '\x0b'
  | '\\' => some '\\'
  | _ => none

/-- The value of up to so many octal digits at the start of a text, and what is left. -/
def octalStart (most : Nat) (s : Raw) : Char × Raw :=
  let digits := (s.take most).takeWhile fun c => '0' ≤ c && c ≤ '7'
  (Char.ofNat (digits.foldl (fun n c => 8 * n + (c.toNat - 48)) 0 % 256), s.drop digits.length)

/-- The text with its escapes replaced, up to one that ends all output, and whether there was such a one. The
number bounds the length. -/
def echoEscapes : Nat → Raw → Raw × Bool
  | 0, _ => ([], false)
  | _ + 1, [] => ([], false)
  | n + 1, '\\' :: c :: rest =>
    let goOn (out : Raw) (rest : Raw) : Raw × Bool :=
      let (more, ended) := echoEscapes n rest
      (out ++ more, ended)
    let isOctal (c : Char) : Bool := '0' ≤ c && c ≤ '7'
    match controlOf? c with
    | some d => goOn [d] rest
    | none =>
      if c == 'c' then ([], true)
      else if c == 'x' then
        let digits := (rest.take 2).takeWhile isHexDigit
        if digits.isEmpty then goOn ['\\', 'x'] rest
        else goOn [Char.ofNat (hexValue digits)] (rest.drop digits.length)
      else if isOctal c then
        let (d, rest) := octalStart 3 (if c == '0' then rest else c :: rest)
        goOn [d] rest
      else goOn ['\\', c] rest
  | n + 1, c :: rest =>
    let (more, ended) := echoEscapes n rest
    (c :: more, ended)

/-- The words joined by blanks, with their escapes replaced, and whether one of them ends all output. -/
def echoWords : List Raw → Raw × Bool
  | [] => ([], false)
  | w :: rest =>
    let (s, ended) := echoEscapes (w.length + 1) w
    if ended || rest.isEmpty then (s, ended)
    else
      let (more, ended) := echoWords rest
      (s ++ ' ' :: more, ended)

/-- Prints its arguments. -/
def echoTool : Tool := fun args => do
  if args == [raw "--help"] || args == [raw "--version"] then return 0
  let isOption (s : Raw) : Bool := s.head? == some '-' && 1 < s.length && (s.drop 1).all "neE".toList.contains
  let letters := (args.takeWhile isOption).flatMap (·.drop 1)
  let words := args.dropWhile isOption
  let escapes := (letters.filter (· != 'n')).getLast? == some 'e'
  let (text, ended) := if escapes then echoWords words else (joinWith [' '] words, false)
  say (if ended || letters.contains 'n' then text else text ++ ['\n'])
  return 0

/-! ## Formats -/

/-- The arguments that are left for a format, and the status. -/
structure Formatting where
  args : List Raw
  status : Nat := 0
  deriving Repr

/-- Printing by a format. The printing ends at an escape that ends all output, or at a fault. -/
abbrev Formatter := StateT Formatting Act

namespace Formatter

/-- The next argument. -/
def next : Formatter (Option Raw) := do
  let p ← get
  match p.args with
  | [] => return none
  | a :: rest =>
    set { p with args := rest }
    return some a

/-- A complaint about an argument. -/
def doubt (arg : Raw) (what : String) : Formatter Unit := do
  grumble (Quoted.between arg ++ raw ": " ++ raw what)
  modify fun p => { p with status := 1 }

/-- The number of the character behind a quotation mark. -/
def charNumber (rest : Raw) : Formatter Nat := do
  let units := Raw.units rest
  if 1 < units.length then
    grumble (raw "warning: " ++ units.tail.flatMap (·.bytes) ++
      raw ": character(s) following character constant have been ignored")
  return match units with
    | { char := some c, .. } :: _ => c.toNat
    | { bytes := b :: _, .. } :: _ => b.toNat
    | _ => 0

/-- The complaint about what was left of a number, or about its size. -/
def check (arg rest : Raw) (tooGreat : Bool) : Formatter Unit := do
  if tooGreat then doubt arg "Numerical result out of range"
  else if !rest.isEmpty then
    doubt arg (if rest == arg then "expected a numeric value" else "value not completely converted")

/-- The next argument as a whole number, with the least and the greatest one that are allowed. -/
def whole (least greatest : Int) : Formatter Int := do
  match ← next with
  | none => return 0
  | some [] => return 0
  | some (c :: rest) =>
    if (c == '\'' || c == '"') && !rest.isEmpty then return (← charNumber rest : Nat)
    let arg := c :: rest
    match Number.leading? 0 arg with
    | none =>
      check arg arg false
      return 0
    | some l =>
      let s := arg.dropWhile Raw.isSpace
      let negative := s.head? == some '-'
      let digits := if negative || s.head? == some '+' then s.drop 1 else s
      let digits := digits.take (digits.length - l.rest.length)
      let value : Int := if l.tooGreat then
          let n :=
            if (raw "0x").isPrefixOf digits || (raw "0X").isPrefixOf digits then hexValue (digits.drop 2)
            else if digits.head? == some '0' then digits.foldl (fun n c => 8 * n + (c.toNat - 48)) 0
            else (Raw.nat? digits).getD 0
          if negative then -(n : Int) else n
        else l.value
      if value < least then
        check arg [] true
        return if least == 0 && -(Nat.pow 2 64 : Nat) < value then value else least
      else if greatest < value then
        check arg [] true
        return greatest
      else
        check arg l.rest false
        return value

/-- The next argument as a number with a point. -/
def float : Formatter Float := do
  match ← next with
  | none => return 0.0
  | some [] => return 0.0
  | some (c :: rest) =>
    if (c == '\'' || c == '"') && !rest.isEmpty then return Float.ofNat (← charNumber rest)
    let arg := c :: rest
    match leadingFloat? arg with
    | none =>
      check arg arg false
      return 0.0
    | some (x, rest) =>
      check arg rest false
      return x

/-- A fault that ends the tool. -/
def abort {α : Type} (s : Raw) : Formatter α := giveUp 1 s

/-- An escape, of which the backslash has been read; what is left. In arguments octal numbers may have one
more zero in front. -/
def escape (inArgument : Bool) (s : Raw) : Formatter Raw := do
  let isOctal (c : Char) : Bool := '0' ≤ c && c ≤ '7'
  match s with
  | [] =>
    say ['\\']
    return []
  | c :: rest =>
    if c == 'c' then
      let status := (← get).status
      Act.exit status
    else if c == '"' then
      say ['"']
      return rest
    else if c == 'x' then
      let digits := (rest.take 2).takeWhile isHexDigit
      if digits.isEmpty then abort (raw "missing hexadecimal number in escape")
      say [Char.ofNat (hexValue digits)]
      return rest.drop digits.length
    else if isOctal c then
      let (d, rest) := octalStart 3 (if inArgument && c == '0' then rest else c :: rest)
      say [d]
      return rest
    else if c == 'u' || c == 'U' then
      let size := if c == 'u' then 4 else 8
      let digits := rest.take size
      if digits.length < size || !digits.all isHexDigit then
        abort (raw "missing hexadecimal number in escape")
      let n := hexValue digits
      if 0xD800 ≤ n && n < 0xE000 then
        abort (raw "invalid universal character name \\" ++ c :: digits)
      say (Raw.ofText [Char.ofNat n])
      return rest.drop size
    else match controlOf? c with
      | some d =>
        say [d]
        return rest
      | none =>
        say ['\\', c]
        return rest

/-- A text with escapes. The number bounds the length. -/
def escapes : Nat → Raw → Formatter Unit
  | 0, _ => return
  | n + 1, s => do
    match s with
    | [] => return
    | '\\' :: rest => escapes n (← escape true rest)
    | s =>
      let plain := s.takeWhile (· != '\\')
      say plain
      escapes n (s.drop plain.length)

/-- A width or a precision; a star takes the next argument. -/
def size (s : Raw) : Formatter (Option Int × Raw) := do
  match s with
  | '*' :: rest =>
    let n ← whole (-2147483648) 2147483647
    return (some n, rest)
  | s =>
    let digits := s.takeWhile Char.isDigit
    return ((Raw.nat? digits).map fun n => (n : Int), s.drop digits.length)

/-- The letters that a conversion may have after its flags. -/
def lettersAfter (flags : Raw) (precise : Bool) : Raw :=
  let all := "aAcdeEfFgGiosuxX".toList
  let without (gone : String) (s : Raw) : Raw := s.filter fun c => !gone.toList.contains c
  let all := if flags.contains '\'' then without "aAceEosxX" all else all
  let all := if flags.contains '#' then without "cdisu" all else all
  let all := if flags.contains '0' then without "cs" all else all
  if precise then without "c" all else all

/-- One conversion, of which the percent sign has been read; what is left of the format. -/
def conversion (s : Raw) : Formatter Raw := do
  match s with
  | 'b' :: rest =>
    let arg := (← next).getD []
    escapes (arg.length + 1) arg
    return rest
  | 'q' :: rest =>
    if let some arg ← next then say (Quoted.ifNeeded arg false)
    return rest
  | s =>
    let flags := s.takeWhile fun c => "#-+ 0'I".toList.contains c
    let v : Conversion := flags.foldl Conversion.flag {}
    let (width, rest) ← size (s.drop flags.length)
    let v := match width with
      | some n => v.setWidth n
      | none => v
    let precise := rest.head? == some '.'
    let (precision, rest) ← if precise then size (rest.drop 1) else pure (none, rest)
    let v : Conversion := { v with
      precision := if precise then match precision with
        | some n => if n < 0 then none else some n.toNat
        | none => some 0
      else none }
    let rest := rest.dropWhile fun c => "lLhjtz".toList.contains c
    let bad (used : Nat) : Formatter Raw :=
      abort ('%' :: s.take used ++ raw ": invalid conversion specification")
    match rest with
    | [] => bad s.length
    | c :: rest =>
      if !(lettersAfter flags precise).contains c then bad (s.length - rest.length)
      else
        let v := { v with letter := c }
        if c == 's' then say (v.text ((← next).getD []))
        else if c == 'c' then say (v.fill (((← next).getD []).take 1))
        else if c == 'd' || c == 'i' then
          say (v.signed (← whole Number.least Number.greatest))
        else if "ouxX".toList.contains c then
          say (v.unsigned (Number.bits (← whole (-(Nat.pow 2 64 - 1 : Nat)) (Nat.pow 2 64 - 1 : Nat))))
        else say (v.float (← float))
        return rest

/-- The format once. The number bounds its length. -/
def once : Nat → Raw → Formatter Unit
  | 0, _ => return
  | n + 1, s => do
    match s with
    | [] => return
    | '\\' :: rest => once n (← escape false rest)
    | '%' :: '%' :: rest =>
      say ['%']
      once n rest
    | '%' :: rest => once n (← conversion rest)
    | s =>
      let plain := s.takeWhile fun c => c != '%' && c != '\\'
      say plain
      once n (s.drop plain.length)

/-- The format as long as it takes arguments and some are left. The number bounds how often. -/
def all (format : Raw) : Nat → Formatter Unit
  | 0 => return
  | n + 1 => do
    let before := (← get).args.length
    once (format.length + 1) format
    let left := (← get).args
    if left.length < before then
      if !left.isEmpty then all format n
    else if let some arg := left.head? then
      grumble (raw "warning: ignoring excess arguments, starting with " ++ Quoted.between arg)

end Formatter

/-- Prints its arguments by a format. -/
def printfTool : Tool := fun args => do
  if args == [raw "--help"] || args == [raw "--version"] then return 0
  let args := if args.head? == some (raw "--") then args.drop 1 else args
  match args with
  | [] => missingOperand
  | format :: args => return (← (Formatter.all format (args.length + 1)).run { args }).2.status

/-! ## Lines without end -/

/-- Bytes again and again, so often at most; after that nothing more is done. -/
def repeatBlock (block : Raw) : Nat → Act Nat
  | 0 => do
    hang
    return 0
  | n + 1 => do
    match ← write 1 block with
    | some f =>
      grumble (raw "standard output: " ++ f.message)
      return 1
    | none => repeatBlock block n

/-- Prints a line again and again. -/
def yes : Tool := fun args => do
  let (_, words) ← optionsOf "" 1 true args () fun _ _ _ => return ()
  let line := (if words.isEmpty then ['y'] else joinWith [' '] words) ++ ['\n']
  repeatBlock (List.replicate (max 1 (16384 / line.length)) line).flatten 200

end DocAudit.Shell.Tool
