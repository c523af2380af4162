import DocAudit.Shell.Syntax

/-!
# Sources of scripts

The text that a shell reads, sign by sign. A word that is an alias is replaced by its value in the source
itself, and as long as signs of that value are left the alias is not replaced again.

## Contents

* `SyntaxFault`: what is wrong with a text
* `Token`
* `Source`, `Reading`: what reading changes, and what it ends with
* `next`, `nextJoined`, `unread`: one character
-/

namespace DocAudit.Shell

open Text

/-- What is wrong with the text of a command. -/
inductive SyntaxFault
  | unterminatedQuote
  | unterminatedOutput
  | missing (mark : Raw)
  /-- Something stands where something else is expected. -/
  | unexpected (found : Raw) (expected : Option Raw)
  | badLoopVariable
  | badFunctionName
  | badStream
  deriving DecidableEq, Repr

/-- The wording of a fault. -/
def SyntaxFault.message (f : SyntaxFault) : Raw :=
  raw "Syntax error: " ++ match f with
    | .unterminatedQuote => raw "Unterminated quoted string"
    | .unterminatedOutput => raw "EOF in backquote substitution"
    | .missing mark => raw "Missing '" ++ mark ++ ['\'']
    | .unexpected found none => found ++ raw " unexpected"
    | .unexpected found (some expected) =>
      found ++ raw " unexpected (expecting " ++ expected ++ [')']
    | .badLoopVariable => raw "Bad for loop variable"
    | .badFunctionName => raw "Bad function name"
    | .badStream => raw "Bad fd number"

/-- What is done to a stream, before the word that tells more about it. -/
inductive RedirectMark
  | file (how : Opening)
  | copy
  | document (stripTabs : Bool)
  deriving DecidableEq, Repr

/-- A word or a sign of a script. -/
inductive Token
  | endOfFile
  | newline
  | sign (s : Raw)
  | word (parts : Word) (quoted : Bool)
  /-- A word that is reserved where it stands. -/
  | reserved (s : Raw)
  | redirect (stream : Nat) (mark : RedirectMark)

/-- The words that are reserved where a command can start. -/
def reservedWords : List Raw :=
  ["!", "case", "do", "done", "elif", "else", "esac", "fi", "for", "if", "in", "then", "until", "while",
    "\x7B", "\x7D"].map String.toList

/-- A name of a sign or of a reserved word in a wording. -/
def signName (s : Raw) : Raw := '"' :: s ++ ['"']

/-- The name of a token in a wording. -/
def Token.name : Token → Raw
  | .endOfFile => raw "end of file"
  | .newline => raw "newline"
  | .sign s => signName s
  | .word _ _ => raw "word"
  | .reserved s => signName s
  | .redirect _ _ => raw "redirection"

/-- The text of a word that is one plain piece. -/
def plainText? : Word → Option Raw
  | [] => some []
  | [.text s false] => some s
  | _ => none

/-- A token that is the sign. -/
def Token.isSign (t : Token) (s : String) : Bool :=
  match t with
  | .sign u => u == s.toList
  | _ => false

/-- A token that is the reserved word. -/
def Token.isReserved (t : Token) (s : String) : Bool :=
  match t with
  | .reserved u => u == s.toList
  | _ => false

/-- A list of commands ends before such a token. -/
def Token.endsList : Token → Bool
  | .endOfFile => true
  | .sign s => s == [')'] || s == raw ";;"
  | .reserved s =>
    (["do", "done", "elif", "else", "esac", "fi", "then", "\x7D"].map String.toList).contains s
  | _ => false

/-- What is looked for in the next token. -/
structure Wants where
  /-- Line feeds are skipped. -/
  noBreaks : Bool := false
  reserved : Bool := false
  aliases : Bool := false
  /-- A word that ends a here-document, in which nothing is put in. -/
  endMark : Bool := false
  deriving DecidableEq, Repr

/-- A here-document that starts behind the line. -/
structure Expected where
  number : Nat
  mark : Raw
  /-- Nothing is put into the document. -/
  literal : Bool
  stripTabs : Bool
  deriving DecidableEq, Repr

/-- A sign of a source: a character, or the end of the value of an alias, after which the next word may be
an alias as well. -/
inductive Sign
  | char (c : Char)
  | aliasEnd (name : Raw) (goesOn : Bool)
  deriving DecidableEq, Repr

/-- What is left to read, and what is known about it. -/
structure Source where
  rest : List Sign
  line : Nat := 1
  aliases : List (Raw × Raw) := []
  /-- The aliases in whose values the reading is. -/
  busy : List Raw := []
  /-- The last token is read once more. -/
  again : Bool := false
  last : Token := .newline
  wants : Wants := {}
  expected : List Expected := []
  documents : Documents := []
  numbers : Nat := 0

/-- A fault with the line where it was found. -/
structure Misread where
  line : Nat
  fault : SyntaxFault
  deriving DecidableEq, Repr

/-- Reading from a source. -/
abbrev Reading := StateT Source (Except Misread)

/-- A text as a source. -/
def Source.ofRaw (s : Raw) (line : Nat) (aliases : List (Raw × Raw)) : Source :=
  { rest := s.map .char, line, aliases }

namespace Reading

/-- The end of the reading. -/
def fail {α : Type} (f : SyntaxFault) : Reading α := do throw { line := (← get).line, fault := f }

/-- One more line has been read. -/
def countLine : Reading Unit := modify fun s => { s with line := s.line + 1 }

/-- The source behind the ends of aliases, and behind ends of lines that backslashes join with the next
ones if that is asked for. -/
def onward (join : Bool) (s : Source) : List Sign → Source
  | .aliasEnd name goesOn :: rest =>
    onward join { s with
      busy := s.busy.erase name
      wants := { s.wants with aliases := s.wants.aliases || goesOn } } rest
  | .char '\\' :: .char '\n' :: rest =>
    if join then onward join { s with line := s.line + 1 } rest
    else { s with rest := .char '\\' :: .char '\n' :: rest }
  | rest => { s with rest }

/-- One character after going onward. -/
def take (join : Bool) : Reading (Option Char) := do
  let s ← get
  let s := onward join s s.rest
  match s.rest with
  | .char c :: rest =>
    set { s with rest }
    return some c
  | _ =>
    set s
    return none

/-- The next character. -/
def next : Reading (Option Char) := take false

/-- The next character, with lines joined. -/
def nextJoined : Reading (Option Char) := take true

/-- A character to be read once more. -/
def unread : Option Char → Reading Unit
  | none => return
  | some c => modify fun s => { s with rest := .char c :: s.rest }

/-- A token where it cannot stand, and where another one may be expected. -/
def misplaced {α : Type} (t : Token) (expected : Option Raw := none) : Reading α :=
  fail (.unexpected t.name expected)

end Reading

end DocAudit.Shell
