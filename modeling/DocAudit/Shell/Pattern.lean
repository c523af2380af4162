import DocAudit.Shell.Raw

/-!
# Shell patterns

A pattern matches a text as a whole. A backslash takes the meaning of the character behind it away. The
matcher goes through the signs of the pattern with all rests that the pieces so far can leave.

## Contents

* `Pattern.Member`, `Pattern.Sign`: what a pattern is made of
* `Pattern.read`
* `Pattern.accepts`: the matcher
-/

namespace DocAudit.Shell.Pattern

open Text

/-- A member of a set of characters. -/
inductive Member
  | range (low high : Char)
  | named (name : String)
  deriving DecidableEq, Repr

/-- A sign of a pattern. -/
inductive Sign
  | anyText
  | anyOne
  | oneOf (negated : Bool) (members : List Member)
  | char (c : Char)
  deriving DecidableEq, Repr

/-- The names of classes of characters. -/
def classNames : List String :=
  ["alnum", "alpha", "blank", "cntrl", "digit", "graph", "lower", "print", "punct", "space", "upper",
    "xdigit"]

/-- The character belongs to the class. -/
def inClass (name : String) (c : Char) : Bool :=
  let n := c.toNat
  let graph := 0x21 ≤ n && n ≤ 0x7E
  match name with
  | "alnum" => c.isAlphanum
  | "alpha" => c.isAlpha
  | "blank" => c == ' ' || c == '\t'
  | "cntrl" => n < 0x20 || n == 0x7F
  | "digit" => c.isDigit
  | "graph" => graph
  | "lower" => c.isLower
  | "print" => graph || c == ' '
  | "punct" => graph && !c.isAlphanum
  | "space" => Raw.isSpace c
  | "upper" => c.isUpper
  | "xdigit" => c.isDigit || ('a' ≤ c && c ≤ 'f') || ('A' ≤ c && c ≤ 'F')
  | _ => false

/-- The member holds the character. -/
def Member.holds (m : Member) (c : Char) : Bool :=
  match m with
  | .range low high => low ≤ c && c ≤ high
  | .named name => inClass name c

/-- A class at the start of a text, behind its opening bracket. -/
def className? (s : Raw) : Option (String × Raw) :=
  classNames.findSome? fun name =>
    let mark := ':' :: name.toList ++ [':', ']']
    if mark.isPrefixOf s then some (name, s.drop mark.length) else none

/-- The members of a set, of which the first character has been read, up to its closing bracket; nothing
where there is none. The number bounds the length. -/
def members : Nat → Char → Raw → Option (List Member × Raw)
  | 0, _, _ => none
  | n + 1, c, s => do
    let goOn (m : Member) (s : Raw) : Option (List Member × Raw) :=
      match s with
      | [] => none
      | ']' :: rest => some ([m], rest)
      | d :: rest => (members n d rest).map fun (ms, rest) => (m :: ms, rest)
    match if c == '[' then className? s else none with
    | some (name, rest) => goOn (.named name) rest
    | none =>
      let (c, s) ← if c == '\\' then (match s with
        | [] => none
        | d :: rest => some (d, rest)) else some (c, s)
      match s with
      | '-' :: d :: rest =>
        if d == ']' then goOn (.range c c) s
        else if d == '\\' then match rest with
          | [] => none
          | e :: rest => goOn (.range c e) rest
        else goOn (.range c d) rest
      | _ => goOn (.range c c) s

/-- The signs of a pattern, of which the number bounds the length. -/
def signs : Nat → Raw → List Sign
  | 0, _ => []
  | _ + 1, [] => []
  | n + 1, '*' :: rest => .anyText :: signs n rest
  | n + 1, '?' :: rest => .anyOne :: signs n rest
  | n + 1, '\\' :: c :: rest => .char c :: signs n rest
  | n + 1, '[' :: rest =>
    let (negated, inner) := match rest with
      | '!' :: r => (true, r)
      | r => (false, r)
    match inner with
    | [] => .char '[' :: signs n rest
    | c :: more => match members (more.length + 1) c more with
      | some (ms, after) => .oneOf negated ms :: signs n after
      | none => .char '[' :: signs n rest
  | n + 1, c :: rest => .char c :: signs n rest

/-- The signs of a pattern. -/
def read (pattern : Raw) : List Sign := signs (pattern.length + 1) pattern

/-- The ends of a text, from the whole of it to nothing. -/
def ends : Raw → List Raw
  | [] => [[]]
  | c :: r => (c :: r) :: ends r

/-- What a piece that matches the sign can leave of the text. -/
def Sign.rests (sign : Sign) (s : Raw) : List Raw :=
  match sign, s with
  | .anyText, s => ends s
  | .anyOne, _ :: r => [r]
  | .oneOf negated ms, c :: r => if ms.any (·.holds c) != negated then [r] else []
  | .char d, c :: r => if c == d then [r] else []
  | _, [] => []

/-- The longest rests of which all shorter ones are ends: after a star only the longest counts. -/
def step (left : List Raw) (sign : Sign) : List Raw :=
  match sign with
  | .anyText => match left with
    | [] => []
    | first :: _ => ends first
  | sign => left.flatMap sign.rests

/-- The whole text matches the signs. The rests so far stand in the order of their lengths, the longest one
first. -/
def accepts (signs : List Sign) (s : Raw) : Bool := (signs.foldl step [s]).any (·.isEmpty)

/-- A text of which every character stands for itself. -/
def escape (s : Raw) : Raw := s.flatMap fun c => ['\\', c]

/-- What the characters of a pattern stand for when it is no pattern. -/
def unescape : Raw → Raw
  | '\\' :: c :: r => c :: unescape r
  | c :: r => c :: unescape r
  | [] => []

/-- There is something in the pattern that more than one text can match. -/
def isWild (pattern : Raw) : Bool := (read pattern).any fun
  | .char _ => false
  | _ => true

end DocAudit.Shell.Pattern
