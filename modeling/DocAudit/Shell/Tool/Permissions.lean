import DocAudit.Shell.Options

/-!
# Permissions

Permissions are written as a number to the base eight or as clauses that change those that are there.

## Contents

* `ModeClause`, `Mode.read?`, `Mode.apply`: permissions as they are asked for
* `Mode.letters`, `Mode.digits`: permissions as they are shown
-/

namespace DocAudit.Shell.Tool

open Text

/-- What a clause does with permissions. -/
inductive ModeSign
  | add
  | remove
  | set
  deriving DecidableEq, Repr

/-- What a clause gives or takes. -/
inductive ModeValue
  | bits (bits : Nat)
  /-- Also the right to run, where somebody has it or there is a directory. -/
  | bitsAndRun (bits : Nat)
  /-- What others have, as one of their three rights. -/
  | copy (shift : Nat)
  deriving DecidableEq, Repr

/-- A change of permissions. -/
structure ModeClause where
  /-- For whom; nothing where everybody is meant except those whom the mask leaves out. -/
  who : Option Nat
  sign : ModeSign
  value : ModeValue
  deriving DecidableEq, Repr

namespace Mode

/-- Somebody for whom there are permissions. -/
def who? (c : Char) : Option Nat :=
  match c with
  | 'u' => some 0o4700
  | 'g' => some 0o2070
  | 'o' => some 0o1007
  | 'a' => some 0o7777
  | _ => none

/-- The bits of letters. -/
def bits? : Raw → Option ModeValue
  | [] => some (.bits 0)
  | c :: r => do
    let rest ← bits? r
    let (bits, run) ← match rest with
      | .bits b => some (b, false)
      | .bitsAndRun b => some (b, true)
      | .copy _ => none
    let (more, run) ← match c with
      | 'r' => some (0o444, run)
      | 'w' => some (0o222, run)
      | 'x' => some (0o111, run)
      | 's' => some (0o6000, run)
      | 't' => some (0o1000, run)
      | 'X' => some (0, true)
      | _ => none
    return if run then .bitsAndRun (bits ||| more) else .bits (bits ||| more)

/-- What stands behind a sign. -/
def value? (s : Raw) : Option ModeValue :=
  match s with
  | ['u'] => some (.copy 6)
  | ['g'] => some (.copy 3)
  | ['o'] => some (.copy 0)
  | s => bits? s

/-- A sign of a clause. -/
def sign? (c : Char) : Option ModeSign :=
  match c with
  | '+' => some .add
  | '-' => some .remove
  | '=' => some .set
  | _ => none

/-- The changes behind those for whom they are. The number bounds how many there are. -/
def changes? (who : Option Nat) : Nat → Raw → Option (List ModeClause)
  | 0, _ => none
  | _, [] => some []
  | n + 1, c :: r => do
    let sign ← sign? c
    let body := r.takeWhile fun c => (sign? c).isNone
    let value ← value? body
    let rest ← changes? who n (r.drop body.length)
    return { who, sign, value } :: rest

/-- One part of the permissions that are asked for. -/
def part? (s : Raw) : Option (List ModeClause) := do
  let names := s.takeWhile fun c => (who? c).isSome
  let who := if names.isEmpty then none
    else some ((names.filterMap who?).foldl (· ||| ·) 0)
  let rest := s.drop names.length
  if rest.isEmpty then none
  changes? who (rest.length + 1) rest

/-- The number that digits to the base eight write. -/
def octal? (s : Raw) : Option Nat :=
  if s.isEmpty || !s.all fun c => '0' ≤ c && c ≤ '7' then none
  else some (s.foldl (fun n c => 8 * n + (c.toNat - 48)) 0)

/-- Permissions as they are asked for. -/
def read? (s : Raw) : Option (List ModeClause) :=
  match octal? s with
  | some n => if n ≤ 0o7777 then some [{ who := some 0o7777, sign := .set, value := .bits n }] else none
  | none => ((splitAt ',' s).mapM part?).map List.flatten

/-- One change of permissions. -/
def change (mask : Nat) (isDir : Bool) (c : ModeClause) (mode : Nat) : Nat :=
  let bits := match c.value with
    | .bits b => b
    | .bitsAndRun b => if isDir || mode &&& 0o111 != 0 then b ||| 0o111 else b
    | .copy shift =>
      let three := mode >>> shift &&& 7
      three ||| three <<< 3 ||| three <<< 6
  let range := c.who.getD (0o7777 - mask % 0o1000)
  let mine := bits &&& range
  match c.sign with
  | .add => mode ||| mine
  | .remove => mode &&& (0o7777 - mine)
  | .set =>
    let whole := c.who.getD 0o7777
    let whole := if isDir && c.who != some 0o7777 then whole &&& 0o1777 else whole
    (mode &&& (0o7777 - whole)) ||| mine

/-- The permissions after changes. -/
def apply (mask : Nat) (isDir : Bool) (cs : List ModeClause) (mode : Nat) : Nat :=
  cs.foldl (fun mode c => change mask isDir c mode) mode

/-- The three letters of rights. -/
def three (bits : Nat) (special : Bool) (mark : Char) : Raw :=
  let run := bits &&& 1 != 0
  [if bits &&& 4 != 0 then 'r' else '-', if bits &&& 2 != 0 then 'w' else '-',
    if special then (if run then mark else mark.toUpper) else if run then 'x' else '-']

/-- Permissions in letters. -/
def letters (mode : Nat) : Raw :=
  three (mode >>> 6) (mode &&& 0o4000 != 0) 's' ++ three (mode >>> 3) (mode &&& 0o2000 != 0) 's' ++
    three mode (mode &&& 0o1000 != 0) 't'

/-- The digits of a number to the base eight. -/
def digits (n : Nat) : Raw := (Nat.toDigits 8 n)

/-- Permissions in four digits. -/
def fourDigits (mode : Nat) : Raw := Raw.padLeft '0' 4 (digits mode)

end Mode

end DocAudit.Shell.Tool
