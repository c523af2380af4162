import DocAudit.Shell.Awk.Reader
import DocAudit.Shell.Awk.Value
import DocAudit.Shell.Options

/-!
# What awk programs work on

Variables, streams, the record at work with its fields, and the files that the arguments name.

## Contents

* `Awk.World`, `Awk.Running`: the state of a program
* `Awk.Running.put`, `Awk.Running.putTo`: output
* `Awk.Running.parts`: fields of a record
* `Awk.Running.nextRecord`: input
-/

namespace DocAudit.Shell.Awk

open Text Act

/-! ## What a program works on -/

/-- What a name stands for. -/
inductive Cell
  | scalar (v : Value)
  | table (number : Nat)
  /-- An array as soon as it is used as one. -/
  | open_ (number : Nat)

/-- Where output goes. -/
inductive Channel
  | standard
  | stream (number : Nat)
  /-- A script that reads what has been written so far, the last piece first. -/
  | command (pieces : List Raw)

/-- Where records come from: a stream, what has been read of it already, and whether it is at its end. -/
structure Source where
  stream : Option Nat
  buffer : Raw := []
  ended : Bool := false

/-- What a program works on. -/
structure World where
  launcher : Launcher
  functions : List Function
  globals : List (Raw × Cell) := []
  /-- The names of the function at work. -/
  locals : Option (List (Raw × Cell)) := none
  tables : List (Nat × Table) := []
  fresh : Nat := 0
  record : Raw := []
  fields : List Value := []
  /-- Output that waits, the last piece first, and its size. -/
  pending : List Raw := []
  waiting : Nat := 0
  channels : List (Raw × Channel) := []
  sources : List (Raw × Source) := []
  /-- The number of the next argument, and the file that is read. -/
  next : Nat := 1
  input : Option Source := none
  /-- An argument was read as a file. -/
  opened : Bool := false
  /-- Rules that are used from one record to another one. -/
  active : List Nat := []
  status : Nat := 0
  seed : Nat := 0
  /-- What the next number at random is made of. -/
  chance : Nat := 0

/-- A place for a value. -/
inductive Spot
  | name (s : Raw)
  | element (table : Nat) (s : Subscript)
  | field (index : Int)

/-- Why statements are left. -/
inductive Jump
  | leave
  | nextTurn
  | nextRecord
  | nextFile
  | exit
  | back (v : Value)

/-- A program at work. -/
abbrev Running := ExceptT Jump (StateT World Act)

namespace Running

/-- An action on the machine. -/
def act {α : Type} (a : Act α) : Running α := ExceptT.lift (StateT.lift a)

/-- Some text. -/
def ofText (s : String) : Raw := s.toList

/-! ### Variables -/

/-- The cell of a name. -/
def cell? (name : Raw) : Running (Option Cell) := do
  let w ← get
  match w.locals.bind (·.lookup name) with
  | some c => return some c
  | none => return w.globals.lookup name

/-- A cell for a name. -/
def setCell (name : Raw) (c : Cell) : Running Unit := modify fun w =>
  match w.locals with
  | some ls =>
    if (ls.lookup name).isSome then { w with locals := some ((name, c) :: ls.filter (·.1 != name)) }
    else { w with globals := (name, c) :: w.globals.filter (·.1 != name) }
  | none => { w with globals := (name, c) :: w.globals.filter (·.1 != name) }

/-- The value of a variable that every program has. -/
def setting (name : String) : Running Value := do
  match (← get).globals.lookup name.toList with
  | some (.scalar v) => return v
  | _ => return .unset

/-- The same as text. -/
def settingText (name : String) : Running Raw := return (← setting name).shown (raw "%.6g")

/-- Sets a variable that every program has. -/
def setSetting (name : String) (v : Value) : Running Unit := modify fun w =>
  let key := name.toList
  { w with globals := (key, .scalar v) :: w.globals.filter (·.1 != key) }

/-- A value as text. -/
def shown (v : Value) : Running Raw := do
  match v with
  | .number x =>
    match wholeText? x with
    | some s => return s
    | none => return numberText (← settingText "CONVFMT") x
  | v => return v.shown []

/-- The number of the array of a name. -/
def tableOf (name : Raw) : Running Nat := do
  match ← cell? name with
  | some (.table n) => return n
  | some (.open_ n) =>
    setCell name (.table n)
    return n
  | _ =>
    let w ← get
    set { w with fresh := w.fresh + 1 }
    setCell name (.table w.fresh)
    return w.fresh

/-- An array. -/
def table (n : Nat) : Running Table := return ((← get).tables.lookup n).getD {}

/-- Sets an array. -/
def setTable (n : Nat) (t : Table) : Running Unit :=
  modify fun w => { w with tables := (n, t) :: w.tables.filter (·.1 != n) }

/-! ### Output -/

/-- Writes what waits. -/
def flush : Running Unit := do
  let w ← get
  if !w.pending.isEmpty then
    set { w with pending := [], waiting := 0 }
    act (say w.pending.reverse.flatten)

/-- Output on the standard output. -/
def put (s : Raw) : Running Unit := do
  modify fun w => { w with pending := s :: w.pending, waiting := w.waiting + s.length }
  if 4096 ≤ (← get).waiting then flush

/-- A fault ends the program. -/
def fault {α : Type} (s : Raw) : Running α := do
  let name ← settingText "FILENAME"
  let fnr ← settingText "FNR"
  let nr ← settingText "NR"
  flush
  act (grumble (raw "run time error: " ++ s ++ raw "\n\tFILENAME=\"" ++ name ++ raw "\" FNR=" ++ fnr ++
    raw " NR=" ++ nr))
  act (Act.exit 2)

/-- Runs a script by a shell of some name: what it prints, if that is taken, and its status. -/
def runScript (shell_ script input : Raw) (givesInput takesOutput : Bool) : Running (Raw × Nat) := do
  let launcher := (← get).launcher
  act (do
    let s ← shell
    let p ← fresh
    let q ← fresh
    if givesInput then
      setPipe q { front := if input.isEmpty then [] else [(0, input)], closed := some 0 }
      install 0 { place := .pipe q, readable := true }
    if takesOutput then
      setPipe p {}
      install 1 { place := .pipe p, writable := true }
    let result ← launcher.spawn [shell_, raw "-c", script]
    setShell fun _ => s
    let m ← get
    let pipe := (m.pipes.lookup p).getD {}
    set { m with pipes := m.pipes.filter fun x => x.1 != p && x.1 != q }
    let out := ((pipe.front ++ pipe.back.reverse).map (·.2)).flatten
    let status := match result with
      | .ok (.exited n) => n
      | .ok (.killed n) => 256 + n
      | .error _ => 127
    return (out, status))

/-- The channel of a path or a script, opened where it is not open yet. -/
def channel (key path : Raw) (how : Opening) (isCommand : Bool) : Running Channel := do
  match (← get).channels.lookup key with
  | some c => return c
  | none =>
    let c : Channel ←
      if isCommand then do
        flush
        pure (.command [])
      else if path == raw "/dev/stdout" || path == ['-'] then pure .standard
      else if path == raw "/dev/stderr" then pure (.stream 2)
      else do
        match ← act (openPath path how) with
        | .ok f =>
          let number := 2000000 + (← get).fresh
          modify fun w => { w with fresh := w.fresh + 1 }
          act (install number f)
          pure (.stream number)
        | .error f =>
          flush
          act (giveUp 2 (raw "cannot open \"" ++ path ++ raw "\" for output (" ++ f.message ++ [')']))
    modify fun w => { w with channels := (key, c) :: w.channels }
    return c

/-- Output to a channel. -/
def putTo (key path : Raw) (how : Opening) (isCommand : Bool) (s : Raw) : Running Unit := do
  match ← channel key path how isCommand with
  | .standard => put s
  | .stream n =>
    let _ ← act (write n s)
  | .command pieces =>
    modify fun w => { w with channels := (key, .command (s :: pieces)) :: w.channels.filter (·.1 != key) }

/-- The end of a channel, and the status of its script. -/
def finish : Channel → (script : Raw) → Running Nat
  | .command pieces, script => do
    return (← runScript (raw "/bin/sh") script pieces.reverse.flatten true false).2
  | .stream n, _ => do
    if n != 2 then act (Act.close n)
    return 0
  | .standard, _ => return 0

/-! ### Input -/

/-- More bytes of a source. -/
def Source.more (s : Source) : Running Source := do
  match s.stream with
  | none => return { s with ended := true }
  | some n =>
    match ← act (readChunk n 65536) with
    | .ok [] => return { s with ended := true }
    | .ok bytes => return { s with buffer := s.buffer ++ bytes }
    | .error f =>
      flush
      act (giveUp 2 (raw "read error (" ++ f.message ++ [')']))

/-- Everything that a source has left. The number bounds the pieces. -/
def Source.all : Nat → Source → Running Source
  | 0, s => return s
  | n + 1, s => do
    if s.ended then return s else Source.all n (← Source.more s)

/-- The bytes up to a sign, and the source behind it. The number bounds the pieces. -/
def Source.upTo (sign : Char) : Nat → Source → Running (Option Raw × Source)
  | 0, s => return (none, s)
  | n + 1, s => do
    let line := s.buffer.takeWhile (· != sign)
    match s.buffer.drop line.length with
    | _ :: rest => return (some line, { s with buffer := rest })
    | [] =>
      if s.ended then
        return (if s.buffer.isEmpty then none else some s.buffer, { s with buffer := [] })
      else Source.upTo sign n (← Source.more s)

/-- How many pieces are read at most. -/
def pieceLimit : Nat := 100000

/-- How many characters stand in front of a part of a text; all of them if it is not there. -/
def lengthBefore (part : Raw) : Raw → Nat
  | [] => 0
  | c :: rest => if part.isPrefixOf (c :: rest) then 0 else lengthBefore part rest + 1

/-- The next record of a source. -/
def Source.record (s : Source) : Running (Option Raw × Source) := do
  match ← settingText "RS" with
  | [c] => Source.upTo c pieceLimit s
  | [] => do
    let s ← Source.all pieceLimit s
    let text := s.buffer.dropWhile (· == '\n')
    if text.isEmpty then return (none, { s with buffer := [] })
    let length := lengthBefore (raw "\n\n") text
    let record := text.take length
    let rest := (text.drop length).dropWhile (· == '\n')
    return (some (if record.getLast? == some '\n' then record.dropLast else record),
      { s with buffer := rest })
  | pattern =>
    let s ← Source.all pieceLimit s
    if s.buffer.isEmpty then return (none, s)
    match readPattern pattern with
    | .error _ => return (some s.buffer, { s with buffer := [] })
    | .ok e =>
      match e.find? {} (units s.buffer) 0 (fun m => m.first < m.last) with
      | none => return (some s.buffer, { s with buffer := [] })
      | some m => return (some (s.buffer.take m.first), { s with buffer := s.buffer.drop m.last })

/-! ### Fields -/

/-- Words with blanks between them. -/
def words (s : Raw) : List Raw :=
  let isBlank (c : Char) : Bool := c == ' ' || c == '\t' || c == '\n'
  (s.splitBy fun a b => isBlank a == isBlank b).filter fun w => !(w.head?.any isBlank)

/-- The parts of a text between matches. The number bounds them. -/
def partsBetween (e : Expression) (s : List Raw.Unit) : Nat → (start : Nat) → List Raw
  | 0, _ => []
  | n + 1, start =>
    let bytes (us : List Raw.Unit) : Raw := us.flatMap (·.bytes)
    match e.find? {} s start (fun m => m.first < m.last) with
    | none => [bytes (s.drop start)]
    | some m => bytes (Expression.between s start m.first) :: partsBetween e s n m.last

/-- What separates fields. -/
inductive Separator
  | blanks
  | nothing
  | sign (c : Char)
  | pattern (e : Expression)

/-- The separator that a text means. -/
def separator (s : Raw) : Running Separator := do
  match s with
  | [' '] => return .blanks
  | [] => return .nothing
  | [c] => return .sign c
  | s =>
    match readPattern s with
    | .ok e => return .pattern e
    | .error why => badPattern s why
where
  /-- The text is no pattern. -/
  badPattern (s why : Raw) : Running Separator := do
    flush
    act (giveUp 2 (raw "line 1: regular expression compile failed (" ++ why ++ raw ")\n" ++ s))

/-- The parts of a text. -/
def parts (sep : Separator) (lines : Bool) (s : Raw) : List Raw :=
  if s.isEmpty then []
  else match sep with
    | .blanks => words s
    | .nothing => s.map fun c => [c]
    | .sign c => if lines then s.splitOnP fun d => d == c || d == '\n' else s.splitOnP (· == c)
    | .pattern e =>
      if lines then (s.splitOnP (· == '\n')).flatMap fun l => partsBetween e (units l) (l.length + 1) 0
      else partsBetween e (units s) (s.length + 1) 0

/-- A new record. -/
def setRecord (s : Raw) : Running Unit := do
  let lines := (← settingText "RS").isEmpty
  let fs ← settingText "FS"
  let fields := parts (← separator fs) lines s
  modify fun w => { w with record := s, fields := fields.map .outside }

/-- The record as its fields make it. -/
def joined (fields : List Value) : Running Unit := do
  let ofs ← settingText "OFS"
  let texts ← fields.mapM shown
  modify fun w => { w with record := joinWith ofs texts, fields }

/-- A value for a field. -/
def setField (index : Int) (v : Value) : Running Unit := do
  if index < 0 then fault (raw "negative field index $" ++ ofInt index)
  let i := index.toNat
  if i == 0 then setRecord (← shown v)
  else
    let fields := (← get).fields
    let fields := fields ++ List.replicate (i - fields.length) (.outside [])
    joined (fields.set (i - 1) v)

/-- The value of a field. -/
def field (index : Int) : Running Value := do
  if index < 0 then fault (raw "negative field index $" ++ ofInt index)
  let w ← get
  match index.toNat with
  | 0 => return .outside w.record
  | i + 1 => return (w.fields[i]?).getD .unset

/-- A value for a variable. -/
def setVariable (name : Raw) (v : Value) : Running Unit := do
  if name == raw "NF" then
    let n := whole v.toNumber
    if n < 0 then fault (raw "negative value assigned to NF")
    let n := n.toNat
    let fields := (← get).fields
    joined (fields.take n ++ List.replicate (n - fields.length) (.outside []))
  else setCell name (.scalar v)

/-- The value of a variable. -/
def variable_ (name : Raw) : Running Value := do
  if name == raw "NF" then return .ofNat (← get).fields.length
  match ← cell? name with
  | some (.scalar v) => return v
  | some (.table _) => fault (raw "illegal reference to array " ++ name)
  | _ => return .unset

/-- The value at a place. -/
def load : Spot → Running Value
  | .name s => variable_ s
  | .element number s => return (← table number).value s
  | .field index => field index

/-- A value for a place. -/
def store (spot : Spot) (v : Value) : Running Unit := do
  match spot with
  | .name s => setVariable s v
  | .element number s =>
    let (t, _) := (← table number).touch true s
    setTable number (t.put s v)
  | .field index => setField index v

/-! ### Files of arguments -/

/-- A variable with its value, if that is what an argument is. -/
def assigned? (arg : Raw) : Option (Raw × Raw) :=
  let name := arg.takeWhile isNameChar
  match arg.drop name.length with
  | '=' :: value => if name.isEmpty || name.head?.any Char.isDigit then none else some (name, value)
  | _ => none

/-- The next file of the arguments. The number bounds them. -/
def nextInput : Nat → Running (Option Source)
  | 0 => return none
  | n + 1 => do
    let w ← get
    let count := (whole (← setting "ARGC").toNumber).toNat
    if count ≤ w.next then
      if w.opened then return none
      modify fun w => { w with opened := true }
      return some { stream := some 0 }
    set { w with next := w.next + 1 }
    let args ← table (← tableOf (raw "ARGV"))
    let arg ← shown (args.value (.index w.next))
    if arg.isEmpty then nextInput n
    else match assigned? arg with
      | some (name, value) =>
        setVariable name (.outside (unescaped (value.length + 1) value))
        nextInput n
      | none =>
        modify fun w => { w with opened := true }
        setSetting "FILENAME" (.outside arg)
        setSetting "FNR" (.number 0.0)
        if arg == ['-'] || arg == raw "/dev/stdin" then return some { stream := some 0 }
        match ← act (openPath arg .read) with
        | .ok f =>
          let number := 2000000 + (← get).fresh
          modify fun w => { w with fresh := w.fresh + 1 }
          act (install number f)
          return some { stream := some number }
        | .error f =>
          flush
          act (giveUp 2 (raw "cannot open \"" ++ arg ++ raw "\" (" ++ f.message ++ [')']))

/-- One more record was read. -/
def count (ofFile : Bool) : Running Unit := do
  setSetting "NR" (.number ((← setting "NR").toNumber + 1.0))
  if ofFile then setSetting "FNR" (.number ((← setting "FNR").toNumber + 1.0))

/-- The next record of the input. The number bounds the files. -/
def nextRecord : Nat → Running (Option Raw)
  | 0 => return none
  | n + 1 => do
    let source ← match (← get).input with
      | some s => pure (some s)
      | none => nextInput 10000
    match source with
    | none => return none
    | some s =>
      let (record, s) ← Source.record s
      match record with
      | some r =>
        modify fun w => { w with input := some s }
        count true
        return some r
      | none =>
        if let some number := s.stream then
          if number != 0 then act (Act.close number)
        modify fun w => { w with input := none }
        nextRecord n

end Running

end DocAudit.Shell.Awk
