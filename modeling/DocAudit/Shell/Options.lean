import DocAudit.Shell.Machine
import DocAudit.Shell.Raw

/-!
# Options of tools

Tools read their arguments in the same way: options have letters or words, a word may be cut short as long
as it is clear, and operands may stand between options.

## Contents

* `Quoted.between`, `Quoted.always`, `Quoted.ifNeeded`: names in messages
* `Flag`, `Flag.table`: the options of a tool
* `Flag.choose`: options and operands of arguments
* `misuse`, `options`: what a tool does with its arguments
* `Launcher`: the ways in which a tool runs a program
* `launchStatus`: the status of a tool that cannot run one
-/

namespace DocAudit.Shell

open Text Act

/-! ## Quoted names

Tools put names into their messages between marks, so that a reader sees where they begin and end, and
replace what cannot be shown. -/

namespace Quoted

/-- The digits of a byte to the base eight, of which there are three. -/
def octal (c : Char) : Raw :=
  let n := c.toNat
  '\\' :: [n / 64, n / 8 % 8, n % 8].map fun d => Char.ofNat (48 + d)

/-- The letter of a character that has a short escape. -/
def letter? (c : Char) : Option Char :=
  match c with
  | '\x07' => some 'a'
  | '\x08' => some 'b'
  | '\t' => some 't'
  | '\n' => some 'n'
  | '\x0b' => some 'v'
  | '\x0c' => some 'f'
  | '\r' => some 'r'
  | _ => none

/-- A unit that cannot be shown as it is. -/
def isHidden (u : Raw.Unit) : Bool :=
  match u.char with
  | none => true
  | some c => c.toNat < 32 || (127 ≤ c.toNat && c.toNat < 160)

/-- What stands for a unit that cannot be shown. -/
def escape (u : Raw.Unit) : Raw :=
  match u.bytes with
  | [c] => match letter? c with
    | some l => ['\\', l]
    | none => octal c
  | bytes => bytes.flatMap octal

/-- A name between curved marks. -/
def between (s : Raw) : Raw :=
  raw "‘" ++ (Raw.units s).flatMap (fun u =>
    if isHidden u then escape u
    else if u.char == some '\\' then raw "\\\\"
    else if u.char == some '’' then raw "\\’"
    else u.bytes) ++ raw "’"

/-- The characters that a shell does not take for themselves. -/
def isActive (first : Bool) (c : Char) : Bool :=
  " !\"$&()*;<=>[^|'\\?".toList.contains c || c == '\x60' || (first && (c == '#' || c == '~'))

/-- The characters that mean the same between double quotes in a shell and in most languages. -/
def isPlain (c : Char) : Bool :=
  c.isAlphanum || "%+,-./:]_@ \x7b\x7d'#~".toList.contains c

/-- A name behind a single quote; units that cannot be shown stand between other quotes. `outside` tells that
the text so far ends between those. -/
def pieces : (outside : Bool) → List Raw.Unit → Raw
  | _, [] => raw "'"
  | outside, u :: rest =>
    if isHidden u then (if outside then [] else raw "'$'") ++ escape u ++ pieces true rest
    else
      (if outside then raw "''" else []) ++ (if u.char == some '\'' then raw "'\\''" else u.bytes) ++
        pieces false rest

/-- A name between single quotes in any case. -/
def always (s : Raw) : Raw :=
  let us := Raw.units s
  if s.contains '\'' && us.all fun u => u.char.any isPlain then '"' :: s ++ ['"']
  else '\'' :: pieces false us

/-- A name, in quotes if a shell would not read it as it is. The second word tells that a colon follows. -/
def ifNeeded (s : Raw) (colon : Bool := true) : Raw :=
  let us := Raw.units s
  let odd := us.zipIdx.any fun (u, i) => isHidden u || u.char.any fun c =>
    isActive (i == 0) c || (colon && c == ':') || (s.length == 1 && (c == '\x7b' || c == '}'))
  if s.isEmpty || odd then always s else s

end Quoted

/-! ## Options -/

/-- Whether an option has an argument. -/
inductive Needs
  | nothing
  | something
  /-- Only if it follows without a blank. -/
  | maybe
  deriving DecidableEq, Repr

/-- An option of a tool. -/
structure Flag where
  letter : Option Char
  word : Raw
  needs : Needs
  deriving Repr

/-- The name by which a tool knows an option: its letter, or its word if it has none. -/
def Flag.key (f : Flag) : String :=
  match f.letter with
  | some c => c.toString
  | none => String.ofList f.word

/-- An option as it is written in a table: a letter, a slash and a word, of which one may be missing, and a
mark if there is an argument. -/
def Flag.ofText (s : Text) : Flag :=
  let needs : Needs := match s.getLast? with
    | some '=' => .something
    | some '%' => .maybe
    | _ => .nothing
  let s := if needs == .nothing then s else s.dropLast
  match s with
  | '/' :: word => { letter := none, word, needs }
  | c :: rest => { letter := some c, word := rest.drop 1, needs }
  | [] => { letter := none, word := [], needs }

/-- The options that a table lists. Every tool knows two more of them. -/
def Flag.table (s : String) : List Flag :=
  ((splitAt ' ' s.toList).filter (!·.isEmpty) ++ ["/help".toList, "/version".toList]).map Flag.ofText

/-- An option as it was chosen, or why it could not be read. -/
inductive Chosen
  | option (key : String) (value : Raw)
  | wrong (message : Raw)
  deriving Repr

/-- The options of a group of letters, and whether the argument of the last one is the next word. -/
def Flag.ofLetters (flags : List Flag) : Raw → List Chosen × Option Flag
  | [] => ([], none)
  | c :: rest =>
    match flags.find? (·.letter == some c) with
    | none => ([.wrong (raw "invalid option -- '" ++ [c, '\''])], none)
    | some f =>
      match f.needs with
      | .nothing =>
        let (more, open_) := ofLetters flags rest
        (.option f.key [] :: more, open_)
      | .something => if rest.isEmpty then ([], some f) else ([.option f.key rest], none)
      | .maybe => ([.option f.key rest], none)

/-- The option of a word, and whether its argument is the next word. -/
def Flag.ofWord (flags : List Flag) (s : Raw) : List Chosen × Option Flag :=
  let name := s.takeWhile (· != '=')
  let value : Option Raw := if name.length < s.length then some (s.drop (name.length + 1)) else none
  let near := flags.filter fun f => !f.word.isEmpty && name.isPrefixOf f.word
  let same : Bool := match near with
    | f :: rest => rest.all (·.key == f.key)
    | [] => false
  match if same then near.head? else near.find? (·.word == name) with
  | some f => match f.needs, value with
    | .nothing, some _ =>
      ([.wrong (raw "option '--" ++ f.word ++ raw "' doesn't allow an argument")], none)
    | .something, none => ([], some f)
    | _, v => ([.option f.key (v.getD [])], none)
  | none =>
    if near.isEmpty then ([.wrong (raw "unrecognized option '--" ++ s ++ ['\''])], none)
    else ([.wrong (raw "option '--" ++ s ++ raw "' is ambiguous; possibilities:" ++
      near.flatMap fun f => raw " '--" ++ f.word ++ ['\''])], none)

/-- The options and operands of arguments. `inOrder` tells that the first operand ends the options. -/
def Flag.choose (flags : List Flag) (inOrder : Bool) : List Raw → List Chosen × List Raw
  | [] => ([], [])
  | arg :: rest =>
    match arg with
    | ['-', '-'] => ([], rest)
    | '-' :: c :: cs =>
      let (chosen, open_) :=
        if c == '-' && !cs.isEmpty then ofWord flags cs else ofLetters flags (c :: cs)
      match open_, rest with
      | some f, value :: rest =>
        let (more, operands) := choose flags inOrder rest
        (chosen ++ .option f.key value :: more, operands)
      | some f, [] =>
        let message := if c == '-' then raw "option '--" ++ f.word ++ raw "' requires an argument"
          else raw "option requires an argument -- '" ++ f.letter.toList ++ ['\'']
        (chosen ++ [.wrong message], [])
      | none, rest =>
        let (more, operands) := choose flags inOrder rest
        (chosen ++ more, operands)
    | operand =>
      if inOrder then ([], operand :: rest)
      else
        let (more, operands) := choose flags inOrder rest
        (more, operand :: operands)

/-! ## Tools and their arguments -/

/-- A complaint with the name of the tool in front. -/
def grumble (s : Raw) : Act Unit := do
  let _ ← complain 0 ((← shell).name ++ raw ": " ++ s)

/-- The end of a tool that cannot go on. -/
def giveUp {α : Type} (status : Nat) (s : Raw) : Act α := do
  grumble s
  exit status

/-- The end of a tool that was not used as it should be. -/
def hint {α : Type} (status : Nat) : Act α := do
  let name := (← shell).name
  let _ ← complain 0 (raw "Try '" ++ name ++ raw " --help' for more information.")
  exit status

/-- The same with a reason. -/
def misuse {α : Type} (status : Nat) (s : Raw) : Act α := do
  grumble s
  hint status

/-- Too few operands. -/
def missingOperand {α : Type} : Act α := misuse 1 (raw "missing operand")

/-- Too few operands, after one of them. -/
def missingOperandAfter {α : Type} (s : Raw) : Act α :=
  misuse 1 (raw "missing operand after " ++ Quoted.between s)

/-- Too many operands. -/
def extraOperand {α : Type} (s : Raw) : Act α := misuse 1 (raw "extra operand " ++ Quoted.between s)

/-- A file that cannot be read or written. -/
def fileTrouble (path : Raw) (f : FileFault) : Act Unit :=
  grumble (Quoted.ifNeeded path ++ raw ": " ++ f.message)

/-- What is made of the options of a tool one after the other, and its operands. -/
def optionsOf {σ : Type} (table : String) (status : Nat) (inOrder : Bool) (args : List Raw) (start : σ)
    (f : σ → String → Raw → Act σ) : Act (σ × List Raw) := do
  let (chosen, operands) := Flag.choose (Flag.table table) inOrder args
  let result ← chosen.foldlM (fun s c => match c with
    | .wrong message => misuse status message
    | .option key value => if key == "help" || key == "version" then exit 0 else f s key value) start
  return (result, operands)

/-- The same where operands may stand between options. -/
def options {σ : Type} (table : String) (args : List Raw) (start : σ)
    (f : σ → String → Raw → Act σ) (status : Nat := 1) : Act (σ × List Raw) :=
  optionsOf table status false args start f

/-! ## Tools that run programs -/

/-- How a tool runs a program, of which the name stands in front of its arguments. -/
structure Launcher where
  /-- The program goes on in the place of the tool. -/
  become : List Raw → Act (Except FileFault Nat)
  /-- The tool waits for the program, which is a process of its own. -/
  spawn : List Raw → Act (Except FileFault Ended)

/-- The status of a tool whose program cannot be run. -/
def launchStatus (f : FileFault) : Nat := if f == .noEntry then 127 else 126

end DocAudit.Shell
