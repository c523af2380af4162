import DocAudit.Shell.Awk.World

/-!
# Running awk programs

## Contents

* `Awk.Running.eval`, `Awk.Running.exec`: expressions and statements
* `Awk.run`: a program from its start to its end
* `Tool.awk`: runs a program for the records of files

## Termination

`eval`, `exec` and the functions beside them call each other with a number that becomes smaller and bounds how
deep calls are nested. Loops have a number of their own.
-/

namespace DocAudit.Shell.Awk

open Text Act

namespace Running

/-! ## Substitutions -/

/-- What stands for a match. -/
def replacement : Raw → (found : Raw) → Raw
  | [], _ => []
  | '\\' :: '&' :: rest, found => '&' :: replacement rest found
  | '\\' :: '\\' :: rest, found => '\\' :: replacement rest found
  | '&' :: rest, found => found ++ replacement rest found
  | c :: rest, found => c :: replacement rest found

/-- A text in which matches are replaced, and their number. The first number bounds them. -/
def replaceAll (e : Expression) (s : List Raw.Unit) (new : Raw) (every : Bool) :
    Nat → (start : Nat) → (last : Option Nat) → Raw × Nat
  | 0, start, _ => ((s.drop start).flatMap (·.bytes), 0)
  | n + 1, start, last =>
    let bytes (us : List Raw.Unit) : Raw := us.flatMap (·.bytes)
    match e.find? {} s start (fun m => m.first < m.last || last != some m.first) with
    | none => (bytes (s.drop start), 0)
    | some m =>
      let before := bytes (Expression.between s start m.first)
      let here := replacement new (bytes (Expression.between s m.first m.last))
      if !every then (before ++ here ++ bytes (s.drop m.last), 1)
      else if m.first == m.last then
        let one := bytes (Expression.between s m.last (m.last + 1))
        if s.length ≤ m.last then (before ++ here, 1)
        else
          let (rest, k) := replaceAll e s new every n (m.last + 1) none
          (before ++ here ++ one ++ rest, k + 1)
      else
        let (rest, k) := replaceAll e s new every n m.last (some m.last)
        (before ++ here ++ rest, k + 1)

/-! ## Functions of the language -/

/-- Part of a text from a place on, no longer than told. -/
def substring (s : Raw) (start : Value) (length : Option Value) : Raw :=
  let first := whole start.toNumber
  match length with
  | none => s.drop (first - 1).toNat
  | some v =>
    let size := whole v.toNumber
    let (first, size) := if first ≤ 0 then (1, size - first) else (first, size)
    if size ≤ 0 then [] else (s.drop (first - 1).toNat).take size.toNat

/-- The place of a text in another one, counted from one; zero if it is not there. -/
def placeOf (s part : Raw) : Nat :=
  if part.isEmpty then 0
  else
    let i := lengthBefore part s
    if i < s.length then i + 1 else 0

/-- The place of a text in another one where nothing is found everywhere. -/
def placeOrOne (s part : Raw) : Nat := if part.isEmpty then (if s.isEmpty then 0 else 1) else placeOf s part

/-- The next number at random. -/
def random : Running Float := do
  let w ← get
  let chance := (w.chance * 6364136223846793005 + 1442695040888963407) % Nat.pow 2 64
  set { w with chance }
  return Float.ofNat (chance / Nat.pow 2 11) / Float.ofNat (Nat.pow 2 53)

/-- A comparison of two values. -/
def compared (a b : Value) : Running Ordering := do
  match a.number?, b.number? with
  | some x, some y =>
    match a, b with
    | .unset, .outside _ => return if x < y then .lt else if x == y then .eq else .gt
    | _, _ => return if x < y then .lt else if x == y then .eq else .gt
  | _, _ =>
    let s ← shown a
    let t ← shown b
    return if s == t then .eq else if s.map Char.toNat < t.map Char.toNat then .lt else .gt

/-- A number from two others. -/
def calculated (op : Operation) (x y : Float) : Float :=
  match op with
  | .add => x + y
  | .sub => x - y
  | .mul => x * y
  | .div => x / y
  | .mod =>
    if y == 0.0 then 0.0 / 0.0
    else if x.isInf || x.isNaN || y.isNaN then 0.0 / 0.0
    else if y.isInf then x
    else remainder x y
  | .pow => x.pow y
where
  /-- What is left of a number when another one has been taken from it as often as it goes. -/
  remainder (x y : Float) : Float :=
    match Decimal.Binary.ofFloat x, Decimal.Binary.ofFloat y with
    | .finite negative m q, .finite _ n r =>
      let low := if q < r then q else r
      let a := m * Nat.pow 2 (q - low).toNat
      let b := n * Nat.pow 2 (r - low).toNat
      let left := (Float.ofNat (a % b)).scaleB low
      if negative then -left else left
    | _, _ => 0.0 / 0.0

/-- How many turns a loop takes at most. -/
def turnLimit : Nat := 2000000

/-- How deep calls are nested at most. -/
def nestingLimit : Nat := 6000

/-- A loop: a test, a body and a step. The number bounds its turns. -/
def turns (test : Running Bool) (body step : Running Unit) : Nat → Running Unit
  | 0 => act hang
  | n + 1 => do
    if ← test then
      if ← turn body then
        step
        turns test body step n
where
  /-- One turn; whether the loop goes on. -/
  turn (body : Running Unit) : Running Bool := fun w => do
    let (result, w) ← (body.run).run w
    match result with
    | .ok _ => return (.ok true, w)
    | .error .nextTurn => return (.ok true, w)
    | .error .leave => return (.ok false, w)
    | .error jump => return (.error jump, w)

/-- One turn for each of the values. -/
def turnsOver (body : Raw → Running Unit) : List Raw → Running Unit
  | [] => return
  | x :: xs => do
    if ← turns.turn (body x) then turnsOver body xs

/-- A call: the statements of a function with names of its own. -/
def called (locals : List (Raw × Cell)) (body : Running Unit) : Running Value := fun w => do
  let outer := w.locals
  let (result, w) ← (body.run).run { w with locals := some locals }
  let w := { w with locals := outer }
  match result with
  | .error (.back v) => return (.ok v, w)
  | .error jump => return (.error jump, w)
  | .ok _ => return (.ok .unset, w)

mutual

/-- The value of an expression. -/
def eval : Nat → Expr → Running Value
  | 0, _ => fault (raw "function call nesting too deep")
  | n + 1, e => do
    match e with
    | .number x => return .number x
    | .text s => return .text s
    | .pattern p => return .ofBool (p.find? {} (units (← get).record)).isSome
    | .var name => variable_ name
    | .element name subs =>
      let sub ← subscript n subs
      let number ← tableOf name
      let (t, _) := (← table number).touch true sub
      setTable number t
      return t.value sub
    | .field i => field (whole (← eval n i).toNumber)
    | .assign target none value =>
      let spot ← spotOf n target
      let v ← eval n value
      store spot v
      return v
    | .assign target (some op) value =>
      let spot ← spotOf n target
      let y := (← eval n value).toNumber
      let x := (← load spot).toNumber
      let v : Value := .number (calculated op x y)
      store spot v
      return v
    | .step target up after =>
      let spot ← spotOf n target
      let x := (← load spot).toNumber
      let y := if up then x + 1.0 else x - 1.0
      store spot (.number y)
      return .number (if after then x else y)
    | .negative e => return .number (-(← eval n e).toNumber)
    | .positive e => return .number (← eval n e).toNumber
    | .not_ e => return .ofBool (!(← eval n e).holds)
    | .arith op a b =>
      let x := (← eval n a).toNumber
      let y := (← eval n b).toNumber
      return .number (calculated op x y)
    | .concat a b =>
      let s ← shown (← eval n a)
      let t ← shown (← eval n b)
      return .text (s ++ t)
    | .compare r a b =>
      let x ← eval n a
      let y ← eval n b
      let o ← compared x y
      return .ofBool (match r with
        | .lt => o == .lt
        | .le => o != .gt
        | .eq => o == .eq
        | .ne => o != .eq
        | .gt => o == .gt
        | .ge => o != .lt)
    | .matches_ negated a b =>
      let s ← shown (← eval n a)
      let p ← patternOf n b
      return .ofBool ((p.find? {} (units s)).isSome != negated)
    | .both a b =>
      if (← eval n a).holds then return .ofBool (← eval n b).holds else return .ofBool false
    | .either a b =>
      if (← eval n a).holds then return .ofBool true else return .ofBool (← eval n b).holds
    | .cond test yes no => if (← eval n test).holds then eval n yes else eval n no
    | .isIn subs name =>
      let sub ← subscript n subs
      let number ← tableOf name
      let (t, hit) := (← table number).touch false sub
      setTable number t
      return .ofBool hit
    | .call name args =>
      match (← get).functions.find? (·.name == name) with
      | none => fault (raw "function " ++ name ++ raw " never defined")
      | some f =>
        if f.params.length < args.length then fault (raw "too many arguments in call to " ++ name)
        let cells ← argCells n args
        let missing := f.params.drop args.length
        let open_ ← missing.mapM fun p => do
          let w ← get
          set { w with fresh := w.fresh + 1 }
          return (p, Cell.open_ w.fresh)
        called ((f.params.zip cells) ++ open_) (exec n f.body)
    | .apply name args => apply n name args
    | .readLine origin source target => readLine n origin source target
    | .group e => eval n e

/-- The cells of arguments. -/
def argCells : Nat → List Expr → Running (List Cell)
  | 0, _ => return []
  | _ + 1, [] => return []
  | n + 1, e :: es => do
    let c : Cell ← match e with
      | .var name => do
        let known ← cell? name
        match if name == raw "NF" then some (Cell.scalar .unset) else known with
        | some (.table k) => pure (.table k)
        | some (.open_ k) => pure (.open_ k)
        | some (.scalar _) => pure (.scalar (← variable_ name))
        | none => do
          let w ← get
          set { w with fresh := w.fresh + 1 }
          setCell name (.open_ w.fresh)
          pure (.open_ w.fresh)
      | e => do pure (.scalar (← eval n e))
    return c :: (← argCells n es)

/-- The subscript that expressions make. -/
def subscript : Nat → List Expr → Running Subscript
  | 0, _ => return .name []
  | n + 1, es => do
    match es with
    | [e] =>
      let v ← eval n e
      match v with
      | .number x =>
        let k := whole x
        if (wholeText? x).isSome && x.abs < 9000000000000000000.0 then return .index k
        else return .name (← shown v)
      | v => return .name (← shown v)
    | es =>
      let sep ← settingText "SUBSEP"
      let texts ← evalAll n es
      return .name (joinWith sep (← texts.mapM shown))

/-- The values of expressions. -/
def evalAll : Nat → List Expr → Running (List Value)
  | 0, _ => return []
  | _ + 1, [] => return []
  | n + 1, e :: es => do
    let v ← eval n e
    return v :: (← evalAll n es)

/-- The pattern that an expression stands for. -/
def patternOf : Nat → Expr → Running Expression
  | 0, _ => return .empty
  | n + 1, e => do
    match e with
    | .pattern p => return p
    | e =>
      let s ← shown (← eval n e)
      match readPattern s with
      | .ok p => return p
      | .error why =>
        flush
        act (giveUp 2 (raw "line 1: regular expression compile failed (" ++ why ++ raw ")\n" ++ s))

/-- The place that an expression means. -/
def spotOf : Nat → Expr → Running Spot
  | 0, _ => return .name []
  | n + 1, target => do
    match target with
    | .var name => return .name name
    | .element name subs =>
      let sub ← subscript n subs
      let number ← tableOf name
      let (t, _) := (← table number).touch true sub
      setTable number t
      return .element number sub
    | .field i => return .field (whole (← eval n i).toNumber)
    | .group e => spotOf n e
    | _ => return .name []

/-- Reads a record. -/
def readLine : Nat → Origin → Expr → Option Expr → Running Value
  | 0, _, _, _ => return .unset
  | n + 1, origin, source, target => do
    match origin with
    | .input =>
      match ← nextRecord 10000 with
      | none => return .number 0.0
      | some r =>
        receive n target r
        return .number 1.0
    | .file =>
      let path ← shown (← eval n source)
      let key := 'f' :: path
      match (← get).sources.lookup key with
      | some s => fromSource n key s false target
      | none =>
        if path == ['-'] || path == raw "/dev/stdin" then fromSource n key { stream := some 0 } false target
        else match ← act (openPath path .read) with
          | .error _ => return .number (-1.0)
          | .ok f =>
            let number := 2000000 + (← get).fresh
            modify fun w => { w with fresh := w.fresh + 1 }
            act (install number f)
            fromSource n key { stream := some number } false target
    | .command =>
      let script ← shown (← eval n source)
      let key := 'c' :: script
      match (← get).sources.lookup key with
      | some s => fromSource n key s true target
      | none =>
        flush
        let (out, _) ← runScript (raw "/bin/sh") script [] false true
        fromSource n key { stream := none, buffer := out, ended := true } true target

/-- Reads a record of a source. -/
def fromSource : Nat → Raw → Source → (counts : Bool) → Option Expr → Running Value
  | 0, _, _, _, _ => return .unset
  | n + 1, key, s, counts, target => do
    let (record, s) ← Source.record s
    modify fun w => { w with sources := (key, s) :: w.sources.filter (·.1 != key) }
    match record with
    | none => return .number 0.0
    | some r =>
      if counts then count false
      receive n target r
      return .number 1.0

/-- A record for a place, or for the record itself. -/
def receive : Nat → Option Expr → Raw → Running Unit
  | 0, _, _ => return
  | n + 1, target, r => do
    match target with
    | none => setRecord r
    | some place => store (← spotOf n place) (.outside r)

/-- A function of the language. -/
def apply : Nat → Raw → List Expr → Running Value
  | 0, _, _ => return .unset
  | n + 1, name, args => do
    let text (k : Nat) : Running Raw := do
      match args[k]? with
      | some e => shown (← eval n e)
      | none => return []
    let numeric (f : Float → Float) : Running Value := do
      match args[0]? with
      | some e => return .number (f (← eval n e).toNumber)
      | none => return .number 0.0
    match String.ofList name with
    | "length" =>
      match args with
      | [] => return .ofNat (← get).record.length
      | [.var x] =>
        match ← cell? x with
        | some (.table k) => return .ofNat (← table k).nodes.length
        | _ => return .ofNat (← shown (← variable_ x)).length
      | e :: _ => return .ofNat (← shown (← eval n e)).length
    | "substr" =>
      let s ← text 0
      let start ← match args[1]? with
        | some e => eval n e
        | none => pure .unset
      let length ← match args[2]? with
        | some e => pure (some (← eval n e))
        | none => pure none
      return .text (substring s start length)
    | "index" =>
      let s ← text 0
      let t ← text 1
      return .ofNat (placeOrOne s t)
    | "split" =>
      let s ← text 0
      let third : Option Expr := args[2]?
      let sep ← match third with
        | none => separator (← settingText "FS")
        | some (.pattern p) => pure (Separator.pattern p)
        | some e => separator (← shown (← eval n e))
      let second : Option Expr := args[1]?
      match second with
      | some (.var a) =>
        let lines := (← settingText "RS").isEmpty && args.length < 3
        let found := parts sep lines s
        setTable (← tableOf a) (Table.ofList (found.map .outside))
        return .ofNat found.length
      | _ => fault (raw "improper call to split")
    | "sub" => substitute n false args
    | "gsub" => substitute n true args
    | "match" =>
      let s ← text 0
      let p ← match args[1]? with
        | some e => patternOf n e
        | none => pure .empty
      let (start, length) : Float × Float := match p.find? {} (units s) with
        | some m => (Float.ofNat (m.first + 1), Float.ofNat (m.last - m.first))
        | none => (0.0, -1.0)
      setSetting "RSTART" (.number start)
      setSetting "RLENGTH" (.number length)
      return .number start
    | "sprintf" =>
      let values ← evalAll n args
      return .text (← formattedBy "sprintf" values)
    | "sin" => numeric Float.sin
    | "cos" => numeric Float.cos
    | "exp" => numeric Float.exp
    | "log" => numeric Float.log
    | "sqrt" => numeric Float.sqrt
    | "int" => numeric fun x => if x < 0.0 then x.ceil else x.floor
    | "atan2" =>
      let values ← evalAll n args
      match values with
      | [y, x] => return .number (Float.atan2 y.toNumber x.toNumber)
      | _ => return .unset
    | "rand" => return .number (← random)
    | "srand" =>
      let old := (← get).seed
      match args with
      | e :: _ =>
        let x := (← eval n e).toNumber
        modify fun w => { w with seed := (whole x).natAbs, chance := (whole x).natAbs }
      | [] => pure ()
      return .ofNat old
    | "tolower" => return .text ((← text 0).map Char.toLower)
    | "toupper" => return .text ((← text 0).map Char.toUpper)
    | "system" =>
      let script ← text 0
      flush
      return .ofNat (← runScript (raw "sh") script [] false false).2
    | "fflush" =>
      flush
      return .number 0.0
    | "close" =>
      let key ← text 0
      closeAll key
    | _ => return .unset

/-- Replaces matches in a place. -/
def substitute : Nat → (every : Bool) → List Expr → Running Value
  | 0, _, _ => return .unset
  | n + 1, every, args => do
    match args with
    | e :: new :: rest =>
      let p ← patternOf n e
      let new ← shown (← eval n new)
      let spot ← spotOf n (rest.headD (.field (.number 0.0)))
      let s ← shown (← load spot)
      let us := units s
      let (result, k) := replaceAll p us new every (us.length + 2) 0 none
      if k > 0 then store spot (.text result)
      return .ofNat k
    | _ => fault (raw "improper call to sub")

/-- Closes what has a name. -/
def closeAll (key : Raw) : Running Value := do
  let w ← get
  let outputs := w.channels.filter fun c => c.1.drop 1 == key
  let inputs := w.sources.filter fun s => s.1.drop 1 == key
  if outputs.isEmpty && inputs.isEmpty then return .number (-1.0)
  set { w with
    channels := w.channels.filter fun c => c.1.drop 1 != key
    sources := w.sources.filter fun s => s.1.drop 1 != key }
  let mut status := 0
  for (_, c) in outputs do
    status ← finish c key
  for (_, s) in inputs do
    if let some number := s.stream then
      if number != 0 then act (Act.close number)
  return .ofNat status

/-- Values written by the first one of them. -/
def formattedBy (name : String) (values : List Value) : Running Raw := do
  match values with
  | [] => return []
  | format :: values =>
    let format ← shown format
    let conv ← settingText "CONVFMT"
    match formatted (Value.shown conv) format values with
    | (s, none) => return s
    | (s, some f) =>
      if name == "printf" then put s
      match f with
      | .tooFew => fault (raw "not enough arguments passed to " ++ name.toList ++ raw "(\"" ++ format ++
        raw "\")")
      | .improper k =>
        fault (raw "improper conversion(number " ++ ofNat k ++ raw ") in " ++ name.toList ++ raw "(\"" ++
          format ++ raw "\")")

/-- Runs a statement. -/
def exec : Nat → Stmt → Running Unit
  | 0, _ => fault (raw "function call nesting too deep")
  | n + 1, s => do
    match s with
    | .nothing => return
    | .expr e =>
      let _ ← eval n e
    | .print args sink =>
      let values ← evalAll n args
      let text ← if args.isEmpty then pure (← get).record else do
        let ofmt ← settingText "OFMT"
        pure (joinWith (← settingText "OFS") (values.map (Value.shown ofmt)))
      send n sink (text ++ (← settingText "ORS"))
    | .printf args sink =>
      let values ← evalAll n args
      send n sink (← formattedBy "printf" values)
    | .seq a b =>
      exec n a
      exec n b
    | .cond test yes no => if (← eval n test).holds then exec n yes else exec n no
    | .loop test step body =>
      turns (match test with
        | some e => do return (← eval n e).holds
        | none => return true) (exec n body) (exec n step) turnLimit
    | .until_ test body =>
      if ← turns.turn (exec n body) then
        turns (do return (← eval n test).holds) (exec n body) (return) turnLimit
    | .each x array body =>
      let number ← tableOf array
      let (t, keys) := (← table number).walk
      setTable number t
      turnsOver (fun key => do
        setVariable x (.outside key)
        exec n body) keys
    | .delete array none => setTable (← tableOf array) {}
    | .delete array (some subs) =>
      let sub ← subscript n subs
      let number ← tableOf array
      setTable number ((← table number).remove sub)
    | .next => throw .nextRecord
    | .nextFile => throw .nextFile
    | .exit status =>
      if let some e := status then
        let k := whole (← eval n e).toNumber
        modify fun w => { w with status := (k % 256).toNat }
      throw .exit
    | .ret value =>
      let v ← match value with
        | some e => eval n e
        | none => pure .unset
      throw (.back v)
    | .break_ => throw .leave
    | .continue_ => throw .nextTurn

/-- Output to where a statement sends it. -/
def send : Nat → Sink → Raw → Running Unit
  | 0, _, _ => return
  | n + 1, sink, s => do
    match sink with
    | .standard => put s
    | .file path =>
      let path ← shown (← eval n path)
      putTo ('f' :: path) path .create false s
    | .append path =>
      let path ← shown (← eval n path)
      putTo ('f' :: path) path .append false s
    | .command script =>
      let script ← shown (← eval n script)
      putTo ('c' :: script) script .create true s

end

/-! ## Whole programs -/

/-- The condition of a rule holds for the record. -/
def applies (c : Condition) : Running Bool := do
  match c with
  | .start => return false
  | .finish => return false
  | .always => return true
  | .test e => return (← eval nestingLimit e).holds
  | .range number first last =>
    let on := (← get).active.contains number
    let starts ← if on then pure true else do pure (← eval nestingLimit first).holds
    if !starts then return false
    let ends := (← eval nestingLimit last).holds
    modify fun w => { w with
      active := if ends then w.active.filter (· != number) else number :: w.active.filter (· != number) }
    return true

/-- Uses the rules for the record. -/
def useRules : List Rule → Running Unit
  | [] => return
  | r :: rs => do
    if ← applies r.condition then
      match r.body with
      | some body => exec nestingLimit body
      | none => put ((← get).record ++ (← settingText "ORS"))
    useRules rs

/-- Runs statements; whether the program goes on. -/
def guarded (body : Running Unit) : Running Bool := fun w => do
  let (result, w) ← (body.run).run w
  match result with
  | .error .exit => return (.ok false, w)
  | .error .nextFile => return (.ok true, { w with input := none })
  | _ => return (.ok true, w)

/-- Uses the rules for all records; whether the program goes on. The number bounds them. -/
def records (rules : List Rule) : Nat → Running Bool
  | 0 => return true
  | n + 1 => do
    match ← nextRecord 10000 with
    | none => return true
    | some r =>
      setRecord r
      if ← guarded (useRules rules) then records rules n else return false

/-- How many records are read at most. -/
def recordLimit : Nat := 10000000

/-- Runs a program; its status. -/
def program (p : Program) : Running Nat := do
  let starts := p.rules.filterMap fun r => if r.condition matches .start then r.body else none
  let ends := p.rules.filterMap fun r => if r.condition matches .finish then r.body else none
  let rules := p.rules.filter fun r => match r.condition with
    | .start => false
    | .finish => false
    | _ => true
  if ← guarded (starts.forM (exec nestingLimit)) then
    if !(rules.isEmpty && ends.isEmpty) then
      let _ ← records rules recordLimit
  let _ ← guarded (ends.forM (exec nestingLimit))
  let channels := (← get).channels
  for (key, c) in channels do
    let _ ← finish c (key.drop 1)
  flush
  return (← get).status

end Running

/-- Runs a program with settings, variables of its surroundings and arguments. -/
def run (launcher : Launcher) (p : Program) (settings : List (Raw × Raw)) (surroundings : List (Raw × Raw))
    (args : List Raw) : Act Nat := do
  let usual : List (String × Value) :=
    [("FS", .text [' ']), ("OFS", .text [' ']), ("ORS", .text ['\n']), ("RS", .text ['\n']),
      ("NR", .number 0.0), ("FNR", .number 0.0), ("CONVFMT", .text "%.6g".toList),
      ("OFMT", .text "%.6g".toList), ("SUBSEP", .text ['\x1c']), ("RSTART", .number 0.0), ("RLENGTH", .number (-1.0)), ("FILENAME", .text [])]
  let body : Running Nat := do
    for (name, v) in usual do Running.setSetting name v
    Running.setTable (← Running.tableOf (raw "ARGV")) (Table.ofArgs args)
    Running.setSetting "ARGC" (.ofNat args.length)
    let env : Table := surroundings.foldl (fun t (name, value) =>
      ((t.touch true (.name name)).1.put (.name name) (.outside value))) {}
    Running.setTable (← Running.tableOf (raw "ENVIRON")) env
    for (name, value) in settings do
      Running.setVariable name (.outside (unescaped (value.length + 1) value))
    Running.program p
  let (result, w) ← (body.run).run { launcher, functions := p.functions }
  match result with
  | .ok status => return status
  | .error _ => return w.status

end DocAudit.Shell.Awk

namespace DocAudit.Shell.Tool

open Text Act

/-! ## The tool -/

/-- The arguments of a tool that runs programs: files with programs, settings, and what is left. -/
structure Programs where
  files : List Raw := []
  settings : List (Raw × Raw) := []

/-- Reads the arguments. -/
def programArgs : Programs → List Raw → Act (Programs × List Raw)
  | p, [] => return (p, [])
  | p, ['-', '-'] :: rest => return (p, rest)
  | p, ('-' :: 'W' :: []) :: _ :: rest => programArgs p rest
  | p, ('-' :: 'W' :: _) :: rest => programArgs p rest
  | p, ['-', c] :: value :: rest =>
    match option p c value with
    | some p => programArgs p rest
    | none => do
      if c == 'v' then giveUp 2 (raw "improper assignment: -v " ++ value)
      bad ['-', c]
  | p, ('-' :: c :: value) :: rest =>
    match if value.isEmpty then none else option p c value with
    | some p => programArgs p rest
    | none => do
      if value.isEmpty && "fFv".toList.contains c then giveUp 2 (raw "option -" ++ c :: raw " lacks argument")
      bad ('-' :: c :: value)
  | p, rest => return (p, rest)
where
  /-- The argument is no option. -/
  bad (arg : Raw) : Act (Programs × List Raw) := do
    grumble (raw "not an option: " ++ arg)
    exit 2
  /-- An option with its value. -/
  option (p : Programs) (c : Char) (value : Raw) : Option Programs :=
    match c with
    | 'f' => some { p with files := p.files ++ [value] }
    | 'F' => some { p with settings := p.settings ++ [(raw "FS", value)] }
    | 'v' => (Awk.Running.assigned? value).map fun s => { p with settings := p.settings ++ [s] }
    | _ => none

/-- Runs a program for the records of files. -/
def awk (launcher : Launcher) : Tool := fun args => do
  let (p, rest) ← programArgs {} args
  let name := (← shell).name
  let mut text : Raw := []
  let mut operands := rest
  if p.files.isEmpty then
    match rest with
    | [] => exit 2
    | program :: more =>
      text := program
      operands := more
  else
    for file in p.files do
      match ← content file with
      | .ok s => text := text ++ s
      | .error f => giveUp 2 (raw "cannot open \"" ++ file ++ raw "\" (" ++ f.message ++ [')'])
  match Awk.readProgram text with
  | .error f => giveUp 2 f.message
  | .ok program =>
    let surroundings := (← shell).vars.filterMap fun (n, v) => if v.exported then v.value.map fun s => (n, s)
      else none
    for (name, value) in p.settings do
      if name == raw "FS" && value.length > 1 then
        match Awk.readPattern (Awk.unescaped (value.length + 1) value) with
        | .error why => giveUp 2 (Awk.Fault.badPattern 0 why value).message
        | .ok _ => pure ()
    Awk.run launcher program p.settings surroundings (name :: operands)

end DocAudit.Shell.Tool
