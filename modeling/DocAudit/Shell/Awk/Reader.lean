import DocAudit.Shell.Awk.Pattern
import DocAudit.Shell.Awk.Syntax

/-!
# Reading awk programs

## Contents

* `Awk.Reader`: what is left of the tokens, and what surrounds them
* `Awk.expr`, `Awk.stmt`: expressions and statements
* `Awk.readProgram`: programs

## Termination

The functions call each other with a number that becomes smaller and bounds how deep the program can be.
-/

namespace DocAudit.Shell.Awk

open Text

/-- A reading of a program. -/
structure ReaderState where
  rest : List Placed
  /-- The line behind the program. -/
  lastLine : Nat
  loops : Nat := 0
  inFunction : Bool := false
  /-- The statement belongs to a rule for records. -/
  inRule : Bool := false
  /-- How many braces are open. -/
  braces : Nat := 0
  /-- How many parentheses are open. -/
  parens : Nat := 0
  ranges : Nat := 0
  /-- The functions that are called, with the numbers of arguments and the lines. -/
  called : List (Raw × Nat × Nat) := []
  /-- Names outside of functions that are used already; whether as arrays. -/
  kinds : List (Raw × Bool) := []
  /-- The parameters of the function. -/
  params : List Raw := []

/-- Reading a program. -/
abbrev Reader := StateT ReaderState (Except Fault)

namespace Reader

/-- The next token. -/
def peek : Reader (Option Token) := return (← get).rest.head?.map (·.token)

/-- The token behind the next one. -/
def peekSecond : Reader (Option Token) := return ((← get).rest.drop 1).head?.map (·.token)

/-- Goes on behind the next token. -/
def skip : Reader Unit := modify fun s =>
  let parens := match s.rest.head?.map (·.token) with
    | some (.sign ['(']) => s.parens + 1
    | some (.sign [')']) => s.parens - 1
    | _ => s.parens
  { s with rest := s.rest.drop 1, parens }

/-- The line of the next token. -/
def line : Reader Nat := do
  let s ← get
  return (s.rest.head?.map (·.line)).getD s.lastLine

/-- The next token should not be there. -/
def fail {α : Type} : Reader α := do
  let s ← get
  match s.rest with
  | [] =>
    if s.braces > 0 then throw (.missing s.lastLine '\x7d' (raw "end of file"))
    else throw (.syntax_ (s.lastLine - 1) (raw "end of line"))
  | p :: _ =>
    match p.token with
    | .sign [')'] => throw (if s.parens == 0 then .extra p.line ')' [] else .syntax_ p.line [')'])
    | .sign ['\x7d'] => throw (if s.parens > 0 then .missing p.line ')' ['\x7d']
      else .syntax_ p.line ['\x7d'])
    | t => throw (.syntax_ p.line t.shown)

/-- The next token is the sign. -/
def isSign (s : String) : Reader Bool := do
  match ← peek with
  | some (.sign t) => return t == s.toList
  | _ => return false

/-- The next token is the word. -/
def isKeyword (s : String) : Reader Bool := do
  match ← peek with
  | some (.keyword t) => return t == s.toList
  | _ => return false

/-- Goes on behind the sign, if it is there. -/
def takeSign (s : String) : Reader Bool := do
  let hit ← isSign s
  if hit then skip
  return hit

/-- Goes on behind the sign. -/
def need (s : String) : Reader Unit := do
  if !(← takeSign s) then fail

/-- Goes on behind ends of lines. -/
def skipLines : Reader Unit :=
  modify fun s => { s with rest := s.rest.dropWhile fun p => p.token matches .newline }

/-- Goes on behind ends of lines and of statements. -/
def skipEnds : Reader Unit :=
  modify fun s => { s with rest := s.rest.dropWhile fun p => match p.token with
    | .newline => true
    | .sign t => t == [';']
    | _ => false }

/-- A name. -/
def name : Reader Raw := do
  match ← peek with
  | some (.name s) =>
    skip
    return s
  | _ => fail

/-- The name is used as an array, or as a variable. -/
def use (name : Raw) (isArray : Bool) : Reader Unit := do
  let s ← get
  if !s.params.contains name then
    match s.kinds.lookup name with
    | none => set { s with kinds := (name, isArray) :: s.kinds }
    | some known =>
      if known && !isArray then throw (.other (← line) (raw "illegal reference to array " ++ name))
      if !known && isArray then throw (.other (← line) (raw "illegal reference to variable " ++ name))

/-- The least and the greatest number of arguments of functions of the language. -/
def arity (name : Raw) : Nat × Nat :=
  match String.ofList name with
  | "substr" => (2, 3)
  | "index" => (2, 2)
  | "atan2" => (2, 2)
  | "sprintf" => (1, 1000)
  | "rand" => (0, 0)
  | "srand" => (0, 1)
  | "fflush" => (0, 1)
  | "length" => (0, 1)
  | "split" => (2, 3)
  | "sub" => (2, 3)
  | "gsub" => (2, 3)
  | "match" => (2, 2)
  | _ => (1, 1)

/-- The number of arguments is part of the language. -/
def isFixed (name : Raw) : Bool :=
  (["length", "split", "sub", "gsub", "match"].map String.toList).contains name

/-- A part in which a sign has a meaning of its own or has not. -/
structure Mode where
  /-- A sign for a greater value is none. -/
  noGreater : Bool := false
  /-- The word for membership is none. -/
  noIn : Bool := false

/-- The operation of an assignment. -/
def assignment? (s : Raw) : Option (Option Operation) :=
  match String.ofList s with
  | "=" => some none
  | "+=" => some (some .add)
  | "-=" => some (some .sub)
  | "*=" => some (some .mul)
  | "/=" => some (some .div)
  | "%=" => some (some .mod)
  | "^=" => some (some .pow)
  | _ => none

/-- The comparison of a sign. -/
def relation? (s : Raw) : Option Relation :=
  match String.ofList s with
  | "<" => some .lt
  | "<=" => some .le
  | "==" => some .eq
  | "!=" => some .ne
  | ">" => some .gt
  | ">=" => some .ge
  | _ => none

/-- An expression can begin with the token where another one ends. -/
def startsOperand : Token → Bool
  | .number _ _ => true
  | .text _ _ => true
  | .pattern _ => true
  | .name _ => true
  | .call _ => true
  | .builtin _ => true
  | .sign s => (["$", "!", "(", "-", "+", "++", "--"].map String.toList).contains s
  | _ => false

/-- A pattern between slashes. -/
def pattern (s : Raw) : Reader Expression := do
  match readPattern s with
  | .ok e => return e
  | .error why => throw (.badPattern (← line) why s)

mutual

/-- An expression. -/
def expr : Nat → Mode → Reader Expr
  | 0, _ => fail
  | n + 1, v => do
    let test ← orExpr n v
    if ← takeSign "?" then
      skipLines
      let yes ← expr n v
      skipLines
      need ":"
      skipLines
      let no ← expr n v
      return .cond test yes no
    else return test

/-- Expressions of which one holds. -/
def orExpr : Nat → Mode → Reader Expr
  | 0, _ => fail
  | n + 1, v => do orRest n v (← andExpr n v)

/-- More of them. -/
def orRest : Nat → Mode → Expr → Reader Expr
  | 0, _, _ => fail
  | n + 1, v, a => do
    if ← takeSign "||" then
      skipLines
      orRest n v (.either a (← andExpr n v))
    else return a

/-- Expressions that all hold. -/
def andExpr : Nat → Mode → Reader Expr
  | 0, _ => fail
  | n + 1, v => do andRest n v (← inExpr n v)

/-- More of them. -/
def andRest : Nat → Mode → Expr → Reader Expr
  | 0, _, _ => fail
  | n + 1, v, a => do
    if ← takeSign "&&" then
      skipLines
      andRest n v (.both a (← inExpr n v))
    else return a

/-- A membership. -/
def inExpr : Nat → Mode → Reader Expr
  | 0, _ => fail
  | n + 1, v => do inRest n v (← matchExpr n v)

/-- More of it. -/
def inRest : Nat → Mode → Expr → Reader Expr
  | 0, _, _ => fail
  | n + 1, v, a => do
    if !v.noIn && (← isKeyword "in") then
      skip
      let array ← name
      use array true
      inRest n v (.isIn [a] array)
    else return a

/-- A match. -/
def matchExpr : Nat → Mode → Reader Expr
  | 0, _ => fail
  | n + 1, v => do matchRest n v (← relation n v)

/-- More of it. -/
def matchRest : Nat → Mode → Expr → Reader Expr
  | 0, _, _ => fail
  | n + 1, v, a => do
    if ← takeSign "~" then matchRest n v (.matches_ false a (← relation n v))
    else if ← takeSign "!~" then matchRest n v (.matches_ true a (← relation n v))
    else return a

/-- A comparison. -/
def relation : Nat → Mode → Reader Expr
  | 0, _ => fail
  | n + 1, v => do relationRest n v (← assigned n v)

/-- More of it. -/
def relationRest : Nat → Mode → Expr → Reader Expr
  | 0, _, _ => fail
  | n + 1, v, a => do
    match ← peek with
    | some (.sign s) =>
      match if v.noGreater && s == ['>'] then none else relation? s with
      | some r =>
        skip
        relationRest n v (.compare r a (← assigned n v))
      | none => return a
    | _ => return a

/-- An assignment, or values one after the other. -/
def assigned : Nat → Mode → Reader Expr
  | 0, _ => fail
  | n + 1, v => do
    let e ← concatRest n v (← sum n v)
    match ← peek with
    | some (.sign s) =>
      match if e.isPlace then assignment? s else none with
      | some op =>
        skip
        skipLines
        return .assign e op (← expr n v)
      | none => return e
    | _ => return e

/-- More values one after the other. -/
def concatRest : Nat → Mode → Expr → Reader Expr
  | 0, _, _ => fail
  | n + 1, v, a => do
    match ← peek with
    | some t =>
      if startsOperand t then concatRest n v (.concat a (← sum n v)) else return a
    | none => return a

/-- A sum. -/
def sum : Nat → Mode → Reader Expr
  | 0, _ => fail
  | n + 1, v => do sumRest n v (← product n v)

/-- More of it. -/
def sumRest : Nat → Mode → Expr → Reader Expr
  | 0, _, _ => fail
  | n + 1, v, a => do
    if ← takeSign "+" then sumRest n v (.arith .add a (← product n v))
    else if ← takeSign "-" then sumRest n v (.arith .sub a (← product n v))
    else return a

/-- A product. -/
def product : Nat → Mode → Reader Expr
  | 0, _ => fail
  | n + 1, v => do productRest n v (← unary n v)

/-- More of it. -/
def productRest : Nat → Mode → Expr → Reader Expr
  | 0, _, _ => fail
  | n + 1, v, a => do
    if ← takeSign "*" then productRest n v (.arith .mul a (← unary n v))
    else if ← takeSign "/" then productRest n v (.arith .div a (← unary n v))
    else if ← takeSign "%" then productRest n v (.arith .mod a (← unary n v))
    else return a

/-- A value with a sign in front of it. -/
def unary : Nat → Mode → Reader Expr
  | 0, _ => fail
  | n + 1, v => do
    if ← takeSign "!" then return .not_ (← unary n v)
    else if ← takeSign "-" then return .negative (← unary n v)
    else if ← takeSign "+" then return .positive (← unary n v)
    else piped n v (← power n v)

/-- A value from which a record may be read. -/
def piped : Nat → Mode → Expr → Reader Expr
  | 0, _, _ => fail
  | n + 1, v, e => do
    let second ← peekSecond
    let reads := match second with
      | some (.keyword s) => s == raw "getline"
      | _ => false
    if reads && (← isSign "|") then
      skip
      skip
      piped n v (.readLine .command e (← place? n v))
    else return e

/-- A place for a value, if there is one. -/
def place? : Nat → Mode → Reader (Option Expr)
  | 0, _ => fail
  | n + 1, v => do
    match ← peek with
    | some (.name _) => return some (← primary n v)
    | some (.sign ['$']) => return some (← primary n v)
    | _ => return none

/-- A power. -/
def power : Nat → Mode → Reader Expr
  | 0, _ => fail
  | n + 1, v => do
    let base ← stepped n v
    if ← takeSign "^" then return .arith .pow base (← exponent n v)
    else return base

/-- What stands behind the sign of a power. -/
def exponent : Nat → Mode → Reader Expr
  | 0, _ => fail
  | n + 1, v => do
    if ← takeSign "!" then return .not_ (← exponent n v)
    else if ← takeSign "-" then return .negative (← exponent n v)
    else if ← takeSign "+" then return .positive (← exponent n v)
    else power n v

/-- A place that may be counted up or down. -/
def stepped : Nat → Mode → Reader Expr
  | 0, _ => fail
  | n + 1, v => do
    let e ← primary n v
    if !e.isPlace then return e
    else if ← takeSign "++" then return .step e true true
    else if ← takeSign "--" then return .step e false true
    else return e

/-- A single value. -/
def primary : Nat → Mode → Reader Expr
  | 0, _ => fail
  | n + 1, v => do
    match ← peek with
    | some (.number x _) =>
      skip
      return .number x
    | some (.text s _) =>
      skip
      return .text s
    | some (.pattern s) =>
      let e ← pattern s
      skip
      return .pattern e
    | some (.name s) =>
      skip
      if ← takeSign "[" then
        use s true
        let subscripts ← exprs n {}
        need "]"
        return .element s subscripts
      else
        use s false
        return .var s
    | some (.call s) =>
      skip
      if ((← get).kinds.lookup s) == some false then return .var s
      skip
      skipLines
      let args ← if ← isSign ")" then pure [] else arguments n
      need ")"
      let line ← line
      modify fun st => { st with called := (s, args.length, line) :: st.called }
      return .call s args
    | some (.builtin s) =>
      skip
      if ← takeSign "(" then
        skipLines
        let args ← if ← isSign ")" then pure [] else arguments n
        skipLines
        let (least, most) := arity s
        if isFixed s && args.length < least then fail
        if isFixed s && most < args.length then throw (.syntax_ (← line) [','])
        need ")"
        if args.length < least || most < args.length then
          throw (.other (← line) (raw "wrong number of arguments in call to " ++ s))
        return .apply s args
      else if s == raw "length" then return .apply s []
      else fail
    | some (.keyword s) =>
      if s == raw "getline" then
        skip
        let target ← place? n v
        if ← takeSign "<" then return .readLine .file (← stepped n v) target
        else return .readLine .input (.text []) target
      else fail
    | some (.sign s) =>
      match String.ofList s with
      | "(" =>
        skip
        skipLines
        let es ← exprs n {}
        skipLines
        need ")"
        match es with
        | [e] => return .group e
        | es =>
          if ← isKeyword "in" then
            skip
            let array ← name
            use array true
            return .isIn es array
          else fail
      | "$" =>
        skip
        return .field (← fieldIndex n v)
      | "++" =>
        skip
        counted n v true
      | "--" =>
        skip
        counted n v false
      | _ => fail
    | _ => fail

/-- The number of a field. -/
def fieldIndex : Nat → Mode → Reader Expr
  | 0, _ => fail
  | n + 1, v => do
    if ← takeSign "-" then return .negative (← fieldIndex n v)
    else if ← takeSign "+" then return .positive (← fieldIndex n v)
    else if ← takeSign "!" then return .not_ (← fieldIndex n v)
    else primary n v

/-- A place that is counted up or down before its value is taken. -/
def counted : Nat → Mode → (up : Bool) → Reader Expr
  | 0, _, _ => fail
  | n + 1, v, up => do
    let good := match ← peek with
      | some (.name _) => true
      | some (.sign s) => s == ['$']
      | _ => false
    if !good then fail
    return .step (← primary n v) up false

/-- Arguments with commas between them; a name among them may stand for an array. -/
def arguments : Nat → Reader (List Expr)
  | 0 => fail
  | n + 1 => do
    let bare : Option Raw := match ← peek, ← peekSecond with
      | some (.name s), some (.sign [',']) => some s
      | some (.name s), some (.sign [')']) => some s
      | _, _ => none
    let e ← match bare with
      | some s => do
        skip
        pure (.var s)
      | none => expr n {}
    if ← takeSign "," then
      skipLines
      return e :: (← arguments n)
    else return [e]

/-- Expressions with commas between them. -/
def exprs : Nat → Mode → Reader (List Expr)
  | 0, _ => fail
  | n + 1, v => do
    let e ← expr n v
    if ← takeSign "," then
      skipLines
      return e :: (← exprs n v)
    else return [e]

end

/-! ## Statements -/

/-- The next token ends a statement; it is taken unless it closes something else. -/
def ending : Reader Unit := do
  match ← peek with
  | none => return
  | some .newline => skip
  | some (.sign s) =>
    if s == [';'] then skip
    else if s == ['\x7d'] then return
    else fail
  | _ => fail

/-- The next token ends the arguments of a print. -/
def endsPrint : Reader Bool := do
  match ← peek with
  | none => return true
  | some .newline => return true
  | some (.sign s) => return ([";", "\x7d", ">", ">>", "|"].map String.toList).contains s
  | _ => return false

/-- The arguments of a print. -/
def printed (n : Nat) : Reader (List Expr) := do
  if ← endsPrint then return []
  let start ← get
  let inside : Option (List Expr) ← do
    if ← takeSign "(" then
      match (do
          skipLines
          let es ← exprs n {}
          skipLines
          need ")"
          return es : Reader (List Expr)).run (← get) with
      | .ok (es, s) =>
        set s
        pure (if ← endsPrint then some es else none)
      | .error _ => pure none
    else pure none
  match inside with
  | some es => return es
  | none =>
    set start
    exprs n { noGreater := true }

/-- Where the output of a print goes. -/
def sink (n : Nat) : Reader Sink := do
  if ← takeSign ">" then return .file (← expr n { noGreater := true })
  else if ← takeSign ">>" then return .append (← expr n { noGreater := true })
  else if ← takeSign "|" then return .command (← expr n { noGreater := true })
  else return .standard

/-- A statement without other ones in it. -/
def simple (n : Nat) : Reader Stmt := do
  match ← peek with
  | some (.keyword s) =>
    match String.ofList s with
    | "print" =>
      skip
      let args ← printed n
      return .print args (← sink n)
    | "printf" =>
      skip
      let next : List Token := ((← get).rest.take 2).map (·.token)
      let nothing := match next with
        | [.sign ['('], .sign [')']] => true
        | _ => false
      let args ← if nothing then pure [] else printed n
      if args.isEmpty then throw (.other (← line) (raw "no arguments in call to printf"))
      return .printf args (← sink n)
    | "delete" =>
      skip
      let array ← name
      use array true
      if ← takeSign "[" then
        let subscripts ← exprs n {}
        need "]"
        return .delete array (some subscripts)
      else return .delete array none
    | "next" =>
      inRule s
      skip
      return .next
    | "nextfile" =>
      inRule s
      skip
      return .nextFile
    | "exit" =>
      skip
      if ← endsPrint then return .exit none else return .exit (some (← expr n {}))
    | "return" =>
      if !(← get).inFunction then throw (.outsideFunction (← line))
      skip
      if ← endsPrint then return .ret none else return .ret (some (← expr n {}))
    | "break" =>
      if (← get).loops == 0 then throw (.outsideLoop (← line) s)
      skip
      return .break_
    | "continue" =>
      if (← get).loops == 0 then throw (.outsideLoop (← line) s)
      skip
      return .continue_
    | _ => return .expr (← expr n {})
  | _ => return .expr (← expr n {})
where
  /-- The word is used in a rule for records. -/
  inRule (s : Raw) : Reader Unit := do
    if !(← get).inRule then throw (.other (← line) (raw "improper use of " ++ s))

/-- A statement inside of a loop. -/
def inLoop {α : Type} (body : Reader α) : Reader α := do
  modify fun s => { s with loops := s.loops + 1 }
  let result ← body
  modify fun s => { s with loops := s.loops - 1 }
  return result

/-- The names of a walk through an array, if that is what a parenthesis opens. -/
def walk? : Reader (Option (Raw × Raw)) := do
  let next : List Token := ((← get).rest.take 4).map (·.token)
  match next with
  | [.name x, .keyword i, .name a, .sign c] =>
    if i == raw "in" && c == [')'] then
      modify fun s => { s with rest := s.rest.drop 4, parens := s.parens - 1 }
      return some (x, a)
    else return none
  | _ => return none

mutual

/-- A statement. -/
def stmt : Nat → Reader Stmt
  | 0 => fail
  | n + 1 => do
    match ← peek with
    | some (.sign ['\x7b']) => block n
    | some (.sign ['\x7d']) => return .nothing
    | some (.sign [';']) =>
      skip
      return .nothing
    | some (.keyword s) =>
      match String.ofList s with
      | "if" =>
        skip
        need "("
        let test ← expr n {}
        need ")"
        skipLines
        let yes ← stmt n
        let before ← get
        skipEnds
        if ← isKeyword "else" then
          skip
          skipLines
          return .cond test yes (← stmt n)
        else
          set before
          return .cond test yes .nothing
      | "while" =>
        skip
        need "("
        let test ← expr n {}
        need ")"
        if ← takeSign ";" then return .loop (some test) .nothing .nothing
        skipLines
        return .loop (some test) .nothing (← inLoop (stmt n))
      | "do" =>
        skip
        skipLines
        let body ← inLoop (stmt n)
        skipEnds
        if !(← isKeyword "while") then fail
        skip
        need "("
        let test ← expr n {}
        need ")"
        ending
        return .until_ test body
      | "for" =>
        skip
        need "("
        match ← walk? with
        | some (x, a) =>
          use x false
          use a true
          skipLines
          return .each x a (← inLoop (stmt n))
        | none =>
          let init ← if ← isSign ";" then pure .nothing else simple n
          need ";"
          skipLines
          let test ← if ← isSign ";" then pure none else pure (some (← expr n {}))
          need ";"
          skipLines
          let step ← if ← isSign ")" then pure .nothing else simple n
          need ")"
          if ← takeSign ";" then return .seq init (.loop test step .nothing)
          skipLines
          return .seq init (.loop test step (← inLoop (stmt n)))
      | _ =>
        let s ← simple n
        ending
        return s
    | _ =>
      let s ← simple n
      ending
      return s

/-- Statements in braces. -/
def block : Nat → Reader Stmt
  | 0 => fail
  | n + 1 => do
    need "\x7b"
    modify fun s => { s with braces := s.braces + 1 }
    let body ← stmts n
    need "\x7d"
    modify fun s => { s with braces := s.braces - 1 }
    return body

/-- Statements up to a closing brace. -/
def stmts : Nat → Reader Stmt
  | 0 => fail
  | n + 1 => do
    skipLines
    if ← isSign "\x7d" then return .nothing
    let first ← stmt n
    return .seq first (← stmts n)

end

/-! ## Rules -/

/-- The names of parameters. -/
def params : Nat → Reader (List Raw)
  | 0 => return []
  | n + 1 => do
    if ← takeSign ")" then return []
    let x ← name
    if ← takeSign "," then
      skipLines
      return x :: (← params n)
    else
      need ")"
      return [x]

/-- The first name that stands in a list before. -/
def firstRepeat? : List Raw → Option Raw
  | [] => none
  | x :: xs => if xs.contains x then some x else firstRepeat? xs

/-- What follows is a block. -/
def opensBlock : Reader Bool := isSign "\x7b"

/-- The rules and functions of a program. The number bounds them. -/
def program (depth : Nat) : Nat → Program → Reader Program
  | 0, p => return p
  | n + 1, p => do
    skipEnds
    let more (condition : Condition) (body : Option Stmt) : Program :=
      { p with rules := p.rules ++ [{ condition, body }] }
    match ← peek with
    | none => return p
    | some (.sign ['\x7b']) =>
      let body ← ruleBlock
      program depth n (more .always (some body))
    | some (.sign ['\x7d']) =>
      let next := ((← peekSecond).map Token.shown).getD (raw "end of line")
      throw (.extra (← line) '\x7d' next)
    | some (.keyword s) =>
      match String.ofList s with
      | "BEGIN" =>
        skip
        if !(← opensBlock) then fail
        let body ← block depth
        program depth n (more .start (some body))
      | "END" =>
        skip
        if !(← opensBlock) then fail
        let body ← block depth
        program depth n (more .finish (some body))
      | "getline" => rule n p
      | _ =>
        if s == raw "function" || s == raw "func" then
          skip
          let f ← match ← peek with
            | some (.name f) => pure f
            | some (.call f) => pure f
            | _ => fail
          skip
          need "("
          if p.functions.any (·.name == f) then throw (.other (← line) (raw "redefinition of " ++ f))
          let ps ← params 1000
          match firstRepeat? ps with
          | some x => throw (.other (← line) (x ++ raw " is duplicated in argument list"))
          | none => pure ()
          skipLines
          modify fun s => { s with inFunction := true, params := ps }
          let body ← block depth
          modify fun s => { s with inFunction := false, params := [] }
          program depth n { p with functions := p.functions ++ [{ name := f, params := ps, body }] }
        else fail
    | _ => rule n p
where
  /-- The statements of a rule for records. -/
  ruleBlock : Reader Stmt := do
    modify fun s => { s with inRule := true }
    let body ← block depth
    modify fun s => { s with inRule := false }
    return body
  /-- A rule with a condition. -/
  rule (n : Nat) (p : Program) : Reader Program := do
    let test ← expr depth {}
    let condition ← if ← takeSign "," then do
        skipLines
        let last ← expr depth {}
        let number := (← get).ranges
        modify fun s => { s with ranges := number + 1 }
        pure (.range number test last)
      else pure (.test test)
    let body ← if ← opensBlock then do pure (some (← ruleBlock)) else do
      ending
      pure none
    program depth n { p with rules := p.rules ++ [{ condition, body }] }

end Reader

/-- The program of a text. -/
def readProgram (s : Raw) : Except Fault Program := do
  let ts ← tokens s
  let lastLine := (s.filter (· == '\n')).length + 2
  let (p, state) ← (Reader.program (20 * ts.length + 100) (ts.length + 1) {}).run { rest := ts, lastLine }
  for (name, count, line) in state.called.reverse do
    match p.functions.find? (·.name == name) with
    | none => throw (.unknownFunction lastLine name)
    | some f =>
      if f.params.length < count then throw (.other line (raw "too many arguments in call to " ++ name))
  return p

end DocAudit.Shell.Awk
