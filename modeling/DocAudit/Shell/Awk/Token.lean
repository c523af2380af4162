import DocAudit.Shell.Format

/-!
# Tokens of awk programs

## Contents

* `Awk.Token`, `Awk.Token.shown`: tokens, and what complaints call them
* `Awk.unescaped`: escapes in texts
* `Awk.tokens`: the tokens of a program
-/

namespace DocAudit.Shell.Awk

open Text

/-- A token. -/
inductive Token
  | number (x : Float) (written : Raw)
  | text (s : Raw) (written : Raw)
  | pattern (s : Raw)
  | name (s : Raw)
  /-- A name with a parenthesis right behind it. -/
  | call (s : Raw)
  /-- A function of the language. -/
  | builtin (s : Raw)
  | keyword (s : Raw)
  | sign (s : Raw)
  | newline
  deriving Repr, Inhabited

/-- What complaints call a token. -/
def Token.shown : Token → Raw
  | .number _ s => s
  | .text _ s => s
  | .pattern s => '/' :: s ++ raw "/ ..."
  | .name s => s
  | .call s => s
  | .builtin s => s
  | .keyword s => s
  | .sign s => s
  | .newline => raw "end of line"

/-- A token in its line. -/
structure Placed where
  token : Token
  line : Nat
  deriving Repr, Inhabited

/-- Why a program cannot be read. -/
inductive Fault
  | syntax_ (line : Nat) (near : Raw)
  | runawayText (line : Nat) (start : Raw)
  | runawayPattern (line : Nat) (start : Raw)
  /-- A sign that closes nothing, and what follows it if that is told as well. -/
  | extra (line : Nat) (closing : Char) (next : Raw)
  | missing (line : Nat) (closing : Char) (near : Raw)
  | outsideFunction (line : Nat)
  | outsideLoop (line : Nat) (what : Raw)
  | unknownFunction (line : Nat) (name : Raw)
  | badPattern (line : Nat) (why : Raw) (pattern : Raw)
  /-- A character that is in no token. -/
  | strange (line : Nat) (c : Char)
  | other (line : Nat) (why : Raw)
  deriving Repr

/-- The wording of a fault. -/
def Fault.message : Fault → Raw
  | .syntax_ line near => at_ line ++ raw "syntax error at or near " ++ near
  | .runawayText line start => at_ line ++ raw "runaway string constant " ++ start ++ raw " ..."
  | .runawayPattern line start => at_ line ++ raw "runaway regular expression " ++ start ++ raw " ..."
  | .extra line closing next => at_ line ++ raw "extra '" ++ [closing, '\''] ++
    (if next.isEmpty then [] else raw "\nawk: " ++ at_ line ++ raw "syntax error at or near " ++ next)
  | .missing line closing near => at_ line ++ raw "missing " ++ closing :: raw " near " ++ near
  | .outsideFunction line => at_ line ++ raw "return outside function body"
  | .outsideLoop line what => at_ line ++ what ++ raw " statement outside of loop"
  | .unknownFunction line name => at_ line ++ raw "function " ++ name ++ raw " never defined"
  | .badPattern line why pattern => at_ line ++ raw "regular expression compile failed (" ++ why ++
    raw ")\n" ++ pattern
  | .strange line c => ofNat line ++ raw ": unexpected character '" ++ [c, '\'']
  | .other line why => at_ line ++ why
where
  /-- The line of the fault. -/
  at_ (line : Nat) : Raw := raw "line " ++ ofNat line ++ raw ": "

/-- The functions of the language. -/
def builtins : List Raw :=
  ["length", "substr", "index", "split", "sub", "gsub", "match", "sprintf", "sin", "cos", "atan2", "exp",
    "log",
    "sqrt", "int", "rand", "srand", "tolower", "toupper", "system", "close", "fflush"].map String.toList

/-- The words of the language. -/
def keywords : List Raw :=
  ["BEGIN", "END", "function", "func", "if", "else", "while", "for", "do", "break", "continue", "next",
    "nextfile", "exit", "return", "delete", "in", "getline", "print", "printf"].map String.toList

/-- The signs of the language, longer ones first. -/
def signs : List Raw :=
  ["**=", "&&", "||", "==", "<=", ">=", "!=", "!~", "++", "--", "+=", "-=", "*=", "/=", "%=", "^=", ">>",
    "\x7b", "\x7d",
    "(", ")", "[", "]", ";", ",", "+", "-", "*", "/", "%", "^", "!", "<", ">", "|", "?", ":", "~", "$",
    "="].map String.toList

/-- The character can stand in a name. -/
def isNameChar (c : Char) : Bool := c.isAlphanum || c == '_'

/-- The value of hexadecimal digits. -/
def hexValue (ds : Raw) : Nat := (ds.filterMap Number.digit?).foldl (fun n d => 16 * n + d) 0

/-- A text with its escapes replaced; a backslash before any other character stands for itself. The number
bounds the length. -/
def unescaped : Nat → Raw → Raw
  | 0, _ => []
  | _ + 1, [] => []
  | _ + 1, ['\\'] => ['\\']
  | n + 1, '\\' :: c :: rest =>
    let isOctal (c : Char) : Bool := '0' ≤ c && c ≤ '7'
    let isHex (c : Char) : Bool := (Number.digit? c).any (· < 16)
    match c with
    | '"' => '"' :: unescaped n rest
    | '\\' => '\\' :: unescaped n rest
    | 'a' => '\x07' :: unescaped n rest
    | 'b' => '\x08' :: unescaped n rest
    | 'f' => '\x0c' :: unescaped n rest
    | 'n' => '\n' :: unescaped n rest
    | 'r' => '\r' :: unescaped n rest
    | 't' => '\t' :: unescaped n rest
    | 'v' => '\x0b' :: unescaped n rest
    | '\n' => unescaped n rest
    | c =>
      if isOctal c then
        let ds := ((c :: rest).take 3).takeWhile isOctal
        let value := ds.foldl (fun n d => 8 * n + (d.toNat - 48)) 0
        Char.ofNat (value % 256) :: unescaped n ((c :: rest).drop ds.length)
      else if c == 'x' && rest.head?.any isHex then
        let ds := (rest.take 2).takeWhile isHex
        Char.ofNat (hexValue ds) :: unescaped n (rest.drop ds.length)
      else '\\' :: c :: unescaped n rest
  | n + 1, c :: rest => c :: unescaped n rest

/-- The characters up to a quotation mark that no backslash announces, and what follows it; nothing if
there is none in the line. -/
def quoted : (soFar : Raw) → Raw → Option (Raw × Raw)
  | _, [] => none
  | _, '\n' :: _ => none
  | soFar, '"' :: rest => some (soFar.reverse, rest)
  | soFar, '\\' :: c :: rest => quoted (c :: '\\' :: soFar) rest
  | soFar, c :: rest => quoted (c :: soFar) rest

/-- The characters up to a slash that no backslash announces and that is in no set, and what follows it. -/
def slashed : (inSet : Bool) → (soFar : Raw) → Raw → Option (Raw × Raw)
  | _, _, [] => none
  | _, _, '\n' :: _ => none
  | inSet, soFar, '\\' :: c :: rest =>
    if c == '/' then slashed inSet ('/' :: soFar) rest else slashed inSet (c :: '\\' :: soFar) rest
  | inSet, soFar, c :: rest =>
    if c == '/' && !inSet then some (soFar.reverse, rest)
    else if c == '[' && !inSet then
      match rest with
      | ']' :: rest => slashed true (']' :: '[' :: soFar) rest
      | '^' :: ']' :: rest => slashed true (']' :: '^' :: '[' :: soFar) rest
      | rest => slashed true ('[' :: soFar) rest
    else slashed (inSet && c != ']') (c :: soFar) rest

/-- A slash behind the token divides. -/
def Token.isOperand : Token → Bool
  | .number _ _ => true
  | .text _ _ => true
  | .pattern _ => true
  | .name _ => true
  | .builtin _ => true
  | .sign s => [")", "]", "$", "++", "--"].map String.toList |>.contains s
  | _ => false

/-- The number at the start of a text, as it is written in a program, and what follows. -/
def number? (s : Raw) : Option (Float × Raw) :=
  let digits := s.takeWhile Char.isDigit
  let isNumber := match s with
    | '.' :: c :: _ => c.isDigit
    | _ => !digits.isEmpty
  if isNumber then leadingFloat? s else none

/-- Reads a word. -/
def word (s rest : Raw) : Token :=
  if keywords.contains s then .keyword s
  else if builtins.contains s then .builtin s
  else if rest.head? == some '(' then .call s
  else .name s

/-- The tokens of a program, the last one first. The number bounds its length. -/
def scan : Nat → (line : Nat) → (soFar : List Placed) → Raw → Except Fault (List Placed)
  | 0, _, soFar, _ => .ok soFar
  | n + 1, line, soFar, s =>
    let add (t : Token) (rest : Raw) : Except Fault (List Placed) :=
      scan n line ({ token := t, line } :: soFar) rest
    match s with
    | [] => .ok soFar
    | '\\' :: '\n' :: rest => scan n (line + 1) soFar rest
    | '\\' :: '\r' :: '\n' :: rest => scan n (line + 1) soFar rest
    | '\n' :: rest => scan n (line + 1) ({ token := .newline, line } :: soFar) rest
    | '#' :: rest => scan n line soFar (rest.dropWhile (· != '\n'))
    | '"' :: rest =>
      match quoted [] rest with
      | some (inside, after) =>
        add (.text (unescaped (inside.length + 1) inside) ('"' :: inside ++ ['"'])) after
      | none => .error (.runawayText line ('"' :: (rest.takeWhile (· != '\n')).take 10))
    | c :: rest =>
      if c == ' ' || c == '\t' || c == '\r' then scan n line soFar rest
      else if c == '/' && !(soFar.head?.any (·.token.isOperand)) then
        match slashed false [] rest with
        | some (inside, after) => add (.pattern inside) after
        | none => .error (.runawayPattern line ('/' :: (rest.takeWhile (· != '\n')).take 10))
      else if c.isAlpha || c == '_' then
        let w := s.takeWhile isNameChar
        let after := s.drop w.length
        add (word w after) after
      else match number? s with
        | some (x, after) => add (.number x (s.take (s.length - after.length))) after
        | none =>
          match signs.find? (·.isPrefixOf s) with
          | some sign => add (.sign (if sign == raw "**=" then raw "^=" else sign)) (s.drop sign.length)
          | none => .error (.strange line c)

/-- The tokens of a program. -/
def tokens (s : Raw) : Except Fault (List Placed) := (scan (s.length + 1) 1 [] s).map List.reverse

end DocAudit.Shell.Awk
