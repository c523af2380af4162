import DocAudit.Shell.Options

/-!
# Bytes put for others

## Contents

* `Written`, `Element`: lists of bytes as they are written
* `Transliteration`: what is done with each byte
* `tr`: the tool
-/

namespace DocAudit.Shell.Tool

open Text Act

/-- A byte of a written list, and whether a backslash stood before it. -/
structure Written where
  byte : Char
  escaped : Bool
  deriving DecidableEq, Repr

/-- The bytes of a written list, and warnings. -/
def Written.read : Nat → Raw → List Written × List Raw
  | 0, _ => ([], [])
  | _, [] => ([], [])
  | n + 1, '\\' :: rest =>
    match rest with
    | [] =>
      ([⟨'\\', false⟩], [raw "warning: an unescaped backslash at end of string is not portable"])
    | c :: r =>
      let isOctal (c : Char) : Bool := '0' ≤ c && c ≤ '7'
      if isOctal c then
        let digits := rest.takeWhile isOctal |>.take 3
        let value (ds : Raw) : Nat := ds.foldl (fun n d => 8 * n + (d.toNat - 48)) 0
        let (used, warning) :=
          if 255 < value digits then
            (digits.take 2, [raw "warning: the ambiguous octal escape \\" ++ digits ++
              raw " is being\n\tinterpreted as the 2-byte sequence \\0" ++ digits.take 2 ++ raw ", " ++
              digits.drop 2])
          else (digits, [])
        let (more, warnings) := read n (rest.drop used.length)
        (⟨Char.ofNat (value used), true⟩ :: more, warning ++ warnings)
      else
        let byte := match c with
          | 'a' => '\x07'
          | 'b' => '\x08'
          | 'f' => '\x0c'
          | 'n' => '\n'
          | 'r' => '\r'
          | 't' => '\t'
          | 'v' => '\x0b'
          | c => c
        let (more, warnings) := read n r
        (⟨byte, true⟩ :: more, warnings)
  | n + 1, c :: r =>
    let (more, warnings) := read n r
    (⟨c, false⟩ :: more, warnings)

/-- An element of a list of bytes. -/
inductive Element
  | byte (c : Char)
  | range (first last : Char)
  | class (name : String)
  | same (c : Char)
  /-- A byte so many times; nothing for as often as is needed. -/
  | times (c : Char) (count : Option Nat)
  deriving DecidableEq, Repr

namespace Element

/-- A class of bytes. -/
def inClass? (name : String) : Option (Char → Bool) :=
  let low (c : Char) : Bool := c.toNat < 128
  match name with
  | "alnum" => some fun c => low c && c.isAlphanum
  | "alpha" => some fun c => low c && c.isAlpha
  | "blank" => some fun c => c == ' ' || c == '\t'
  | "cntrl" => some fun c => c.toNat < 32 || c.toNat == 127
  | "digit" => some fun c => low c && c.isDigit
  | "graph" => some fun c => 32 < c.toNat && c.toNat < 127
  | "lower" => some fun c => low c && c.isLower
  | "print" => some fun c => 32 ≤ c.toNat && c.toNat < 127
  | "punct" => some fun c => 32 < c.toNat && c.toNat < 127 && !c.isAlphanum
  | "space" => some Raw.isSpace
  | "upper" => some fun c => low c && c.isUpper
  | "xdigit" => some fun c => c.isDigit || ('a' ≤ c && c ≤ 'f') || ('A' ≤ c && c ≤ 'F')
  | _ => none

/-- All bytes. -/
def allBytes : Raw := (List.range 256).map Char.ofNat

/-- The bytes of an element. -/
def bytes : Element → Raw
  | .byte c => [c]
  | .range first last => allBytes.filter fun c => first ≤ c && c ≤ last
  | .class name => allBytes.filter ((inClass? name).getD fun _ => false)
  | .same c => [c]
  | .times c count => List.replicate (count.getD 0) c

/-- A byte as it is shown in a complaint. -/
def shown (c : Char) : Raw :=
  if 32 ≤ c.toNat && c.toNat < 127 then [c] else Quoted.octal c

/-- What an element in brackets means, and what follows it; nothing where the bracket stands for itself. -/
def bracketed? (ws : List Written) : Except Raw (Option (Element × List Written)) :=
  match ws with
  | open_ :: sign :: rest =>
    if open_ != ⟨'[', false⟩ then .ok none
    else
      let named? : Option (Raw × List Written) :=
        if sign == ⟨':', false⟩ || sign == ⟨'=', false⟩ then closing sign rest else none
      match named? with
      | some (name, after) =>
        let repeats := starAndDigits rest
        if sign.byte == ':' then
          if name.isEmpty then .error (raw "missing character class name '[::]'")
          else if (inClass? (String.ofList name)).isSome then
            .ok (some (.class (String.ofList name), after))
          else if repeats then times (sign :: rest)
          else .error (raw "invalid character class " ++ Quoted.between name)
        else match name with
          | [] => .error (raw "missing equivalence class character '[==]'")
          | [c] => .ok (some (.same c, after))
          | name =>
            if repeats then times (sign :: rest)
            else .error (name ++ raw ": equivalence class operand must be a single character")
      | none => times (sign :: rest)
  | _ => .ok none
where
  /-- The bytes up to a sign and a closing bracket. -/
  closing (sign : Written) : List Written → Option (Raw × List Written)
    | a :: b :: rest =>
      if a == sign && b == ⟨']', false⟩ then some ([], rest)
      else (closing sign (b :: rest)).map fun (name, after) => (a.byte :: name, after)
    | _ => none
  /-- The element goes on like one that is repeated. -/
  starAndDigits (rest : List Written) : Bool :=
    match rest with
    | star :: more =>
      star == ⟨'*', false⟩ && (more.dropWhile fun w => w.byte.isDigit && !w.escaped).head? == some ⟨']',
        false⟩
    | [] => false
  /-- A byte that is repeated. -/
  times : List Written → Except Raw (Option (Element × List Written))
    | c :: star :: rest =>
      if star != ⟨'*', false⟩ then .ok none
      else
        let digits := (rest.takeWhile (· != ⟨']', false⟩)).map (·.byte)
        match rest.drop digits.length with
        | [] => .ok none
        | _ :: after =>
          if digits.isEmpty then .ok (some (.times c.byte none, after))
          else
            let base := if digits.head? == some '0' then 8 else 10
            if digits.all fun d => d.isDigit && d.toNat - 48 < base then
              let n := digits.foldl (fun n d => base * n + (d.toNat - 48)) 0
              .ok (some (.times c.byte (if n == 0 then none else some n), after))
            else .error (raw "invalid repeat count " ++ Quoted.between digits ++ raw " in [c*n] construct")
    | _ => .ok none

/-- The elements of a written list. The number bounds them. -/
def readAll : Nat → List Written → Except Raw (List Element)
  | 0, _ => .ok []
  | _, [] => .ok []
  | n + 1, w :: rest => do
    match ← if rest.length < 2 then pure none else bracketed? (w :: rest) with
    | some (e, after) => return e :: (← readAll n after)
    | none =>
      match rest with
      | dash :: last :: after =>
        if dash == ⟨'-', false⟩ then
          if last.byte < w.byte then
            throw (raw "range-endpoints of '" ++ shown w.byte ++ ['-'] ++ shown last.byte ++
              raw "' are in reverse collating sequence order")
          return .range w.byte last.byte :: (← readAll n after)
        else return .byte w.byte :: (← readAll n rest)
      | rest => return .byte w.byte :: (← readAll n rest)

/-- The element is the class of upper or lower case. -/
def isCase : Element → Bool
  | .class name => name == "upper" || name == "lower"
  | _ => false

/-- The element is a class of another kind. -/
def isOtherClass : Element → Bool
  | .class name => name != "upper" && name != "lower"
  | _ => false

/-- The bytes of elements, where a byte that is repeated as often as is needed fills up to a number. Bytes of
a class of upper or lower case come with it, the first of them with a mark. -/
def expanded (fill : Nat) (es : List Element) : List (Char × Option (String × Bool)) :=
  es.flatMap fun e => match e with
    | .class name =>
      if e.isCase then e.bytes.zipIdx.map fun (c, i) => (c, some (name, i == 0))
      else e.bytes.map fun c => (c, none)
    | .times c none => List.replicate fill (c, none)
    | e => e.bytes.map fun c => (c, none)

end Element

/-- What is done with bytes. -/
structure Transliteration where
  /-- Pairs of bytes, of which the first one becomes the second one; the last pair counts. -/
  pairs : List (Char × Char) := []
  deleted : Raw := []
  squeezed : Raw := []

namespace Transliteration

/-- The pairs of two lists. Classes of upper and lower case stand for each other. The number bounds the
bytes. -/
def pairsOf : Nat → List (Char × Option (String × Bool)) → List (Char × Option (String × Bool)) →
    Except Raw (List (Char × Char))
  | 0, _, _ => .ok []
  | _, [], [] => .ok []
  | _, [], (_, some (_, true)) :: _ => .error misaligned
  | _, [], _ => .ok []
  | _, _, [] => .ok []
  | n + 1, (a, classA) :: as, (b, classB) :: bs => do
    match classB with
    | some (to_, true) =>
      match classA with
      | some (of_, true) =>
        let pairs : List (Char × Char) :=
          if of_ == "lower" && to_ == "upper" then
            (Element.bytes (.class "lower")).map fun c => (c, c.toUpper)
          else if of_ == "upper" && to_ == "lower" then
            (Element.bytes (.class "upper")).map fun c => (c, c.toLower)
          else []
        let rest (l : List (Char × Option (String × Bool))) : List (Char × Option (String × Bool)) :=
          l.dropWhile fun (_, k) => k.any fun (_, first) => !first
        return pairs ++ (← pairsOf n (rest as) (rest bs))
      | _ => throw misaligned
    | _ => return (a, b) :: (← pairsOf n as bs)
where
  /-- The complaint about classes that do not stand for each other. -/
  misaligned : Raw := raw "misaligned [:upper:] and/or [:lower:] construct"

/-- The bytes after all changes. -/
def apply (v : Transliteration) (s : Raw) : Raw :=
  let table : Array (Option Char) := (List.range 256).toArray.map fun n =>
    let c := Char.ofNat n
    if v.deleted.contains c then none
    else some (((v.pairs.reverse.find? (·.1 == c)).map (·.2)).getD c)
  let squeeze : Array Bool := (List.range 256).toArray.map fun n => v.squeezed.contains (Char.ofNat n)
  let step : (Raw × Option Char) → Char → (Raw × Option Char) := fun (out, last) c =>
    match table.getD c.toNat none with
    | none => (out, last)
    | some d => if last == some d && squeeze.getD d.toNat false then (out, last) else (d :: out, some d)
  (s.foldl step ([], none)).1.reverse

end Transliteration

/-- Puts bytes for others, and deletes or squeezes them. -/
def tr : Tool := fun args => do
  let (keys, operands) ← optionsOf "c/complement C d/delete s/squeeze-repeats t/truncate-set1" 1 true args
    ([] : List String) fun keys key _ => return (if key == "C" then "c" else key) :: keys
  let complement := keys.contains "c"
  let delete := keys.contains "d"
  let squeeze := keys.contains "s"
  let least := if delete == squeeze then 2 else 1
  let most := if delete && !squeeze then 1 else 2
  let explain (s : String) : Act Unit := do
    let _ ← complain 0 (raw s)
  match operands with
  | [] => missingOperand
  | [only] =>
    if least == 2 then
      grumble (raw "missing operand after " ++ Quoted.between only)
      explain (if squeeze then "Two strings must be given when both deleting and squeezing repeats."
        else "Two strings must be given when translating.")
      hint 1
  | _ => pure ()
  if let extra :: _ := operands.drop most then
    grumble (raw "extra operand " ++ Quoted.between extra)
    if operands.length == 2 then
      explain "Only one string may be given when deleting without squeezing repeats."
    hint 1
  let read (s : Raw) : Act (List Element) := do
    let (ws, warnings) := Written.read (s.length + 1) s
    for w in warnings do grumble w
    match Element.readAll (ws.length + 1) ws with
    | .ok es => return es
    | .error message => giveUp 1 message
  let first ← read (operands.headD [])
  let second? ← match operands[1]? with
    | some s => pure (some (← read s))
    | none => pure none
  let endless (e : Element) : Bool := e matches .times _ none
  if first.any endless then giveUp 1 (raw "the [c*] repeat construct may not appear in string1")
  let own := (Element.expanded 0 first).map (·.1)
  let chosen : List (Char × Option (String × Bool)) :=
    if complement then (Element.allBytes.filter fun c => !own.contains c).map fun c => (c, none)
    else Element.expanded 0 first
  let chosenBytes := chosen.map (·.1)
  let exchanging := second?.isSome && !delete
  let v : Transliteration ← match second? with
    | none => pure (if delete then { deleted := chosenBytes } else { squeezed := chosenBytes })
    | some second => do
      let counted (es : List Element) : Nat := (Element.expanded 0 es).length
      if 1 < second.countP endless then
        giveUp 1 (raw "only one [c*] repeat construct may appear in string2")
      let fill := chosen.length - counted second
      let target := Element.expanded fill second
      if exchanging then
        if second.any (fun e => e matches .same _) then
          giveUp 1 (raw "[=c=] expressions may not appear in string2 when translating")
        if second.any (·.isOtherClass) then
          giveUp 1 (raw ("when translating, the only character classes that may appear in\n" ++
            "string2 are 'upper' and 'lower'"))
        let size := chosen.length + target.length + 1
        let target ←
          if chosen.length ≤ target.length || keys.contains "t" then pure target
          else match target.getLast? with
            | none => giveUp 1 (raw "when not truncating set1, string2 must be non-empty")
            | some (last, none) => pure (target ++
              List.replicate (chosen.length - target.length) (last, none))
            | some (_, some _) =>
              match Transliteration.pairsOf size chosen target with
              | .error message => giveUp 1 message
              | .ok _ => pure target
        let pairs ← match Transliteration.pairsOf size chosen target with
          | .ok pairs => pure pairs
          | .error message => giveUp 1 message
        let isClass (e : Element) : Bool := e matches .class _
        if complement && first.any isClass then
          let same := (target.map (·.1)).eraseDups.length ≤ 1 && target.length == chosen.length
          if !same then
            giveUp 1 (raw ("when translating with complemented character classes,\n" ++
              "string2 must map all characters in the domain to one"))
        pure { pairs, squeezed := if squeeze then target.map (·.1) else [] }
      else
        if second.any endless then
          giveUp 1 (raw "the [c*] construct may appear in string2 only when translating")
        pure { deleted := chosenBytes, squeezed := target.map (·.1) }
  match ← readAll 0 with
  | .ok s =>
    say (v.apply s)
    return 0
  | .error f => giveUp 1 (raw "read error: " ++ f.message)

end DocAudit.Shell.Tool
