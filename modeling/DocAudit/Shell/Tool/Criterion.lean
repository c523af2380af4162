import DocAudit.Shell.Expression.Reader
import DocAudit.Shell.Tool.Listing

/-!
# Criteria for files

Files below directories are judged by an expression of tests and actions.

## Contents

* `FindTest`, `Criterion`: expressions
* `FindReader`: the expression of what was written
-/

namespace DocAudit.Shell.Tool

open Text Act

/-! ## Expressions -/

/-- How a number is compared. -/
structure Comparing where
  order : Ordering := .eq
  value : Nat
  deriving Repr

/-- The number compares as asked for. -/
def Comparing.holds (c : Comparing) (n : Nat) : Bool := compare n c.value == c.order

/-- A sign and a number, and what follows. -/
def Comparing.read (s : Raw) : Option (Comparing × Raw) :=
  let (order, s) : Ordering × Raw := match s with
    | '+' :: r => (.gt, r)
    | '-' :: r => (.lt, r)
    | r => (.eq, r)
  let digits := s.takeWhile Char.isDigit
  (Raw.nat? digits).map fun value => ({ order, value }, s.drop digits.length)

/-- The programs that are run: the words before and behind the place of the path, and how. -/
structure Running where
  words : List Raw
  /-- In the directory of the file. -/
  inDir : Bool := false
  asks : Bool := false
  deriving Repr

/-- A test of a file, or an action. -/
inductive FindTest
  | constant (value : Bool)
  | name (fold : Bool) (pattern : List Pattern.Sign)
  | path (fold : Bool) (pattern : List Pattern.Sign)
  | regex (fold : Bool) (e : Expression)
  | target (fold : Bool) (pattern : List Pattern.Sign)
  | kind (letters : Raw) (other : Bool)
  | empty
  | size (unit : Nat) (c : Comparing)
  | days (c : Comparing)
  | minutes (c : Comparing)
  | links (c : Comparing)
  | owner (isRoot : Bool)
  | permissions (how : Char) (bits : Nat)
  | runnable
  | same (place : List Text)
  | print (output : Option Nat) (ending : Char)
  | format (output : Option Nat) (format : Raw)
  | list (output : Option Nat)
  | run (r : Running)
  /-- One program is run for many files; the number tells for which of them. -/
  | gather (number : Nat) (r : Running)
  | delete
  | prune
  | quit
  deriving Repr

/-- The test is an action that takes the place of printing. -/
def FindTest.isAction : FindTest → Bool
  | .print _ _ => true
  | .format _ _ => true
  | .list _ => true
  | .run _ => true
  | .gather _ _ => true
  | .delete => true
  | .quit => false
  | _ => false

/-- An expression. -/
inductive Criterion
  | test (t : FindTest)
  | not (c : Criterion)
  | and (first second : Criterion)
  | or (first second : Criterion)
  | list (first second : Criterion)
  deriving Repr

/-- A part of what was written. -/
inductive FindToken
  | test (t : FindTest)
  | not (word : Raw)
  | binary (strength : Nat) (word : Raw)
  | opening
  | closing
  deriving Repr

/-- An `and` stands where two conditions follow each other. -/
def withAnds : List FindToken → List FindToken
  | a :: b :: rest =>
    let ends : Bool := match a with
      | .test _ => true
      | .closing => true
      | _ => false
    let starts : Bool := match b with
      | .test _ => true
      | .not _ => true
      | .opening => true
      | _ => false
    if ends && starts then a :: .binary 3 (raw "-a") :: withAnds (b :: rest) else a :: withAnds (b :: rest)
  | ts => ts

namespace Criterion

/-- Two conditions joined by an operator of a strength. -/
def join (strength : Nat) (a b : Criterion) : Criterion :=
  match strength with
  | 3 => .and a b
  | 2 => .or a b
  | _ => .list a b

/-- The wording where an expression ends too early. -/
def missingAfter (word : Raw) : Raw := raw "expected an expression after '" ++ word ++ ['\'']

mutual

/-- A condition and those that are joined to it by operators stronger than the number. The token before it
decides about complaints. The first number bounds the tokens. -/
def ofTokens : Nat → (weaker : Nat) → (before : Option FindToken) → List FindToken →
    Except Raw (Criterion × List FindToken)
  | 0, _, _, _ => .error []
  | n + 1, weaker, before, ts => do
    let (c, rest) ← single n before ts
    more n weaker c rest

/-- The operators behind a condition. -/
def more : Nat → (weaker : Nat) → Criterion → List FindToken → Except Raw (Criterion × List FindToken)
  | 0, _, c, ts => .ok (c, ts)
  | n + 1, weaker, c, ts =>
    match ts with
    | .binary strength word :: rest =>
      if weaker < strength then do
        let (d, rest) ← ofTokens n strength (some (.binary strength word)) rest
        more n weaker (join strength c d) rest
      else .ok (c, ts)
    | _ => .ok (c, ts)

/-- One condition. -/
def single : Nat → (before : Option FindToken) → List FindToken → Except Raw (Criterion × List FindToken)
  | 0, _, _ => .error []
  | n + 1, before, ts =>
    match ts with
    | [] => match before with
      | some (.not word) => .error (missingAfter word)
      | some (.binary _ word) => .error (missingAfter word)
      | _ => .error []
    | .test t :: rest => .ok (.test t, rest)
    | .not word :: rest => do
      let (c, rest) ← ofTokens n 4 (some (.not word)) rest
      return (.not c, rest)
    | .binary _ word :: _ =>
      .error (raw "invalid expression; you have used a binary operator '" ++ word ++
        raw "' with nothing before it.")
    | .closing :: _ => match before with
      | some (.not word) => .error (raw "expected an expression between '" ++ word ++ raw "' and ')'")
      | some (.binary _ word) => .error (raw "expected an expression between '" ++ word ++ raw "' and ')'")
      | some .opening => .error (raw "invalid expression; empty parentheses are not allowed.")
      | _ => .error (raw "invalid expression; you have too many ')'")
    | .opening :: rest => do
      if rest.isEmpty then
        throw (raw "invalid expression; expected to find a ')' but didn't see one. " ++
          raw "Perhaps you need an extra predicate after '('")
      let (c, rest) ← ofTokens n 0 (some .opening) rest
      match rest with
      | .closing :: rest => return (c, rest)
      | _ => throw (raw "invalid expression; I was expecting to find a ')' somewhere but did not see one.")

end

end Criterion

/-! ## Reading -/

/-- How files are looked for. -/
structure Walk where
  /-- Links are followed; or only those among the operands. -/
  follow : Bool := false
  followOperands : Bool := false
  least : Nat := 0
  most : Option Nat := none
  depthFirst : Bool := false

/-- What has been read of the words so far. -/
structure FindReading where
  search : Walk := {}
  tokens : List FindToken := []
  extended : Option Bool := none
  /-- Programs that are run for many files. -/
  gathered : Nat := 0
  /-- The number of the next open file. -/
  output : Nat := 1000100
  words : List Raw

/-- Reading the words behind the paths. -/
abbrev FindReader := StateT FindReading Act

namespace FindReader

/-- The end because of words that mean nothing. -/
def fail {α : Type} (s : Raw) : FindReader α := giveUp 1 s

/-- The next word. -/
def next? : FindReader (Option Raw) := do
  let r ← get
  match r.words with
  | [] => return none
  | w :: rest =>
    set { r with words := rest }
    return some w

/-- The argument of a word. -/
def argument (word : Raw) : FindReader Raw := do
  match ← next? with
  | some w => return w
  | none => fail (raw "missing argument to \x60" ++ word ++ ['\''])

/-- The words up to a semicolon, or up to a plus behind the place of the path, and whether it is the plus. -/
def programWords (word : Raw) (mayGather : Bool) : List Raw → (soFar : List Raw) →
    FindReader (List Raw × Bool)
  | [], _ => fail (raw "missing argument to \x60" ++ word ++ ['\''])
  | w :: rest, soFar => do
    if w == [';'] then
      modify fun r => { r with words := rest }
      return (soFar.reverse, false)
    else if mayGather && w == ['+'] && soFar.head? == some (raw "\x7b\x7d") then
      modify fun r => { r with words := rest }
      return (soFar.reverse, true)
    else programWords word mayGather rest (w :: soFar)

/-- A file for output. -/
def output (path : Raw) : FindReader Nat := do
  let stream := (← get).output
  match ← openPath path .overwrite with
  | .ok f =>
    install stream f
    modify fun r => { r with output := stream + 1 }
    return stream
  | .error f => fail (Quoted.between path ++ raw ": " ++ f.message)

/-- A number with a sign. -/
def comparing (word : Raw) : FindReader Comparing := do
  let s ← argument word
  match Comparing.read s with
  | some (c, []) => return c
  | _ => fail (raw "invalid argument \x60" ++ s ++ raw "' to \x60" ++ word ++ ['\''])

/-- The expression of a word; the signs of the plain dialect are those of the other one with a backslash. -/
def expression (fold : Bool) (word : Raw) : FindReader FindTest := do
  let s ← argument word
  let rec plain : Raw → Raw
    | '\\' :: c :: r => if c == '+' || c == '?' then c :: plain r else '\\' :: c :: plain r
    | c :: r => if c == '+' || c == '?' then '\\' :: c :: plain r else c :: plain r
    | [] => []
  let dialect := (← get).extended
  let pattern := if dialect.isNone then plain s else s
  match Expression.read { extended := dialect == some true } pattern with
  | .ok r => return .regex fold r.expression
  | .error f => fail (raw "failed to compile regular expression '" ++ s ++ raw "': " ++ f.message)

/-- The dialects of expressions, and those of them that are extended. -/
def dialects : List (String × Bool) :=
  [("findutils-default", false), ("ed", false), ("emacs", false), ("gnu-awk", true), ("grep", false),
    ("posix-awk", true), ("awk", true), ("posix-basic", false), ("posix-egrep", true), ("egrep", true),
    ("posix-extended", true), ("posix-minimal-basic", false), ("sed", false)]

/-- The letters of kinds of files with commas between them. -/
def kinds (word : Raw) : FindReader Raw := do
  let s ← argument word
  if s.isEmpty then fail (raw "Arguments to " ++ word ++ raw " should contain at least one letter")
  let rec letters : Raw → FindReader Raw
    | [] => return []
    | c :: rest => do
      if !"bcdpfslD".toList.contains c then
        fail (raw "Unknown argument to " ++ word ++ raw ": " ++ [c])
      match rest with
      | [] => return [c]
      | ',' :: more =>
        if more.isEmpty then
          fail (raw "Last file type in list argument to " ++ word ++
            raw " is missing, i.e., list is ending on: ','")
        return c :: (← letters more)
      | _ => fail (raw "Must separate multiple arguments to " ++ word ++ raw " using: ','")
  letters s

/-- The size that is asked for. -/
def size (word : Raw) : FindReader FindTest := do
  let s ← argument word
  match Comparing.read s with
  | some (c, rest) =>
    let unit? : Option Nat := match rest with
      | [] => some 512
      | ['b'] => some 512
      | ['c'] => some 1
      | ['w'] => some 2
      | ['k'] => some 1024
      | ['M'] => some 1048576
      | ['G'] => some 1073741824
      | _ => none
    match unit? with
    | some unit => return .size unit c
    | none => fail (raw "invalid -size type \x60" ++ rest.take 1 ++ ['\''])
  | none => fail (raw "invalid -size type \x60" ++ s.reverse.take 1 ++ ['\''])

/-- The permissions that are asked for. -/
def permissions (word : Raw) : FindReader FindTest := do
  let s ← argument word
  let (how, rest) : Char × Raw := match s with
    | '-' :: r => ('-', r)
    | '/' :: r => ('/', r)
    | r => ('=', r)
  match Mode.read? rest with
  | some cs => return .permissions how (Mode.apply 0 false cs 0)
  | none => fail (raw "invalid mode " ++ Quoted.between s)

/-- A number that is no less than zero. -/
def level (word : Raw) : FindReader Nat := do
  let s ← argument word
  match Raw.nat? s with
  | some n => return n
  | none =>
    fail (raw "Expected a positive decimal integer argument to " ++ word ++ raw ", but got " ++
      Quoted.between s)

/-- A change of the search, which is a test that always holds. -/
def setting (f : Walk → Walk) : FindReader FindTest := do
  modify fun r => { r with search := f r.search }
  return .constant true

/-- A program that is run. -/
def program (word : Raw) (inDir asks : Bool) : FindReader FindTest := do
  let (words, many) ← programWords word (!asks) (← get).words []
  if words.isEmpty then fail (raw "missing argument to \x60" ++ word ++ ['\''])
  if many then
    if (words.dropLast.filter (· == raw "\x7b\x7d")).length != 0 then
      fail (raw "Only one instance of \x7b\x7d is supported with " ++ word ++ raw " ... +")
    let number := (← get).gathered
    modify fun r => { r with gathered := number + 1 }
    return .gather number { words := words.dropLast, inDir }
  else return .run { words, inDir, asks }

/-- The test of a word, if it is known. -/
def test? (word : Raw) : FindReader (Option FindTest) := do
  let known (t : FindReader FindTest) : FindReader (Option FindTest) := do return some (← t)
  let pattern (fold : Bool) (f : Bool → List Pattern.Sign → FindTest) : FindReader (Option FindTest) := do
    let s ← argument word
    return some (f fold (Pattern.read (if fold then s.map Char.toLower else s)))
  match String.ofList word with
  | "-name" => pattern false .name
  | "-iname" => pattern true .name
  | "-path" => pattern false .path
  | "-wholename" => pattern false .path
  | "-ipath" => pattern true .path
  | "-iwholename" => pattern true .path
  | "-lname" => pattern false .target
  | "-ilname" => pattern true .target
  | "-regex" => known (expression false word)
  | "-iregex" => known (expression true word)
  | "-regextype" =>
    let s ← argument word
    match dialects.find? fun (n, _) => raw n == s with
    | some (name, extended) =>
      let plain := name == "findutils-default" || name == "emacs"
      modify fun r => { r with extended := if plain then none else some extended }
      return some (.constant true)
    | none => fail (raw "Unknown regular expression type " ++ Quoted.between s ++ raw "; valid types are " ++
        joinWith (raw ", ") (dialects.map fun (n, _) => Quoted.between (raw n)) ++ ['.'])
  | "-type" => return some (.kind (← kinds word) false)
  | "-xtype" => return some (.kind (← kinds word) true)
  | "-empty" => return some .empty
  | "-size" => known (size word)
  | "-mtime" => return some (.days (← comparing word))
  | "-atime" => return some (.days (← comparing word))
  | "-ctime" => return some (.days (← comparing word))
  | "-mmin" => return some (.minutes (← comparing word))
  | "-amin" => return some (.minutes (← comparing word))
  | "-cmin" => return some (.minutes (← comparing word))
  | "-links" => return some (.links (← comparing word))
  | "-inum" =>
    let _ ← comparing word
    return some (.constant false)
  | "-uid" => return some (.owner ((← comparing word).holds 0))
  | "-gid" => return some (.owner ((← comparing word).holds 0))
  | "-user" => owner "user"
  | "-group" => owner "group"
  | "-nouser" => return some (.constant false)
  | "-nogroup" => return some (.constant false)
  | "-perm" => known (permissions word)
  | "-readable" => return some (.constant true)
  | "-writable" => return some (.constant true)
  | "-executable" => return some .runnable
  | "-newer" =>
    let s ← argument word
    match ← stat s with
    | .ok _ => return some (.constant false)
    | .error f => fail (Quoted.between s ++ raw ": " ++ f.message)
  | "-newermt" =>
    let _ ← argument word
    return some (.constant true)
  | "-samefile" =>
    let s ← argument word
    match ← stat s with
    | .ok (place, _) => return some (.same place)
    | .error f => fail (Quoted.between s ++ raw ": " ++ f.message)
  | "-true" => return some (.constant true)
  | "-false" => return some (.constant false)
  | "-print" => return some (.print none '\n')
  | "-print0" => return some (.print none '\x00')
  | "-fprint" => return some (.print (some (← output (← argument word))) '\n')
  | "-fprint0" => return some (.print (some (← output (← argument word))) '\x00')
  | "-printf" => return some (.format none (← format word))
  | "-fprintf" =>
    let path ← argument word
    let stream ← output path
    return some (.format (some stream) (← format word))
  | "-ls" => return some (.list none)
  | "-fls" => return some (.list (some (← output (← argument word))))
  | "-exec" => known (program word false false)
  | "-execdir" => known (program word true false)
  | "-ok" => known (program word false true)
  | "-okdir" => known (program word true true)
  | "-delete" =>
    modify fun r => { r with search := { r.search with depthFirst := true } }
    return some .delete
  | "-prune" => return some .prune
  | "-quit" => return some .quit
  | "-depth" => known (setting fun s => { s with depthFirst := true })
  | "-d" => known (setting fun s => { s with depthFirst := true })
  | "-maxdepth" =>
    let n ← level word
    known (setting fun s => { s with most := some n })
  | "-mindepth" =>
    let n ← level word
    known (setting fun s => { s with least := n })
  | "-follow" => known (setting fun s => { s with follow := true })
  | "-mount" => return some (.constant true)
  | "-xdev" => return some (.constant true)
  | "-daystart" => return some (.constant true)
  | "-noleaf" => return some (.constant true)
  | "-warn" => return some (.constant true)
  | "-nowarn" => return some (.constant true)
  | "-ignore_readdir_race" => return some (.constant true)
  | "-noignore_readdir_race" => return some (.constant true)
  | _ => return none
where
  /-- A text with places for facts. -/
  format (word : Raw) : FindReader Raw := do
    let s ← argument word
    if (s.reverse.takeWhile (· == '%')).length % 2 == 1 then fail (raw "error: % at end of format string")
    return s
  /-- Somebody to whom files may belong. -/
  owner (kind : String) : FindReader (Option FindTest) := do
    let s ← argument word
    if s == raw "root" || s == ['0'] then return some (.owner true)
    else if (Raw.nat? s).isSome then return some (.owner false)
    else fail (Quoted.between s ++ raw (" is not the name of a" ++
      (if kind == "user" then " known user" else "n existing group")))

/-- The word can stand in an expression. `first` tells that nothing of it has been read yet. -/
def isPart (first : Bool) (s : Raw) : Bool :=
  match s with
  | '-' :: _ :: _ => true
  | [')'] => !first
  | [','] => !first
  | ['('] => true
  | ['!'] => true
  | _ => false

/-- Reads the words that are left. The number bounds them. -/
def all : Nat → (before : Raw) → FindReader Unit
  | 0, _ => return
  | n + 1, before => do
    match ← next? with
    | none => return
    | some word =>
      if !isPart false word then
        grumble (raw "paths must precede expression: \x60" ++ word ++ ['\''])
        if !before.isEmpty then
          if let .ok _ ← stat word then
            grumble (raw "possible unquoted pattern after predicate \x60" ++ before ++ raw "'?")
        Act.exit 1
      let token ← tokenOf word
      modify fun r => { r with tokens := r.tokens ++ [token] }
      all n word
where
  /-- What a word writes. -/
  tokenOf (word : Raw) : FindReader FindToken := do
    match String.ofList word with
    | "(" => return .opening
    | ")" => return .closing
    | "!" => return .not word
    | "-not" => return .not word
    | "-a" => return .binary 3 word
    | "-and" => return .binary 3 word
    | "-o" => return .binary 2 word
    | "-or" => return .binary 2 word
    | "," => return .binary 1 word
    | _ =>
      match ← test? word with
      | some t => return .test t
      | none => fail (raw "unknown predicate \x60" ++ word ++ ['\''])

end FindReader

end DocAudit.Shell.Tool
