import DocAudit.Shell.Source

/-!
# Reading scripts

Words, signs and commands are read from a source in one pass. What a word holds depends on the quotes and
braces around each character; what a word means depends on where it stands; and a here-document is read
at the end of the line that announces it.

## Contents

* `Draft`: a word under way
* `Surroundings`: what a character stands in
* `readToken` and the commands made of tokens
* `Script.next`: the next command of a text

## Termination

The readers call each other; a number bounds the depth of the calls. It is chosen so that each character
of the text allows for several of them.
-/

namespace DocAudit.Shell

open Text

/-! ## Characters -/

/-- Characters that start a name. -/
def startsName (c : Char) : Bool := c.isAlpha || c == '_'

/-- Characters of names. -/
def isNameChar (c : Char) : Bool := c.isAlphanum || c == '_'

/-- The text is a name. -/
def isName (s : Raw) : Bool := (s.head?.any startsName) && s.all isNameChar

/-- The names of special values, one character each. -/
def isSpecialName (c : Char) : Bool := "?$!-*@#".toList.contains c

/-- Characters that end a word. -/
def endsWord (c : Char) : Bool := " \t\n;&|<>()".toList.contains c

/-! ## Words under way -/

/-- A word under way: its parts and the characters of the part that goes on, the last one first. -/
structure Draft where
  parts : List Part := []
  text : Raw := []
  quoted : Bool := false
  /-- Some of the word was quoted. -/
  marked : Bool := false

namespace Draft

/-- The part that goes on is finished. -/
def flush (d : Draft) : Draft :=
  if d.text.isEmpty then d
  else { d with parts := .text d.text.reverse d.quoted :: d.parts, text := [] }

/-- One more character. -/
def add (d : Draft) (c : Char) (quoted : Bool) : Draft :=
  if d.quoted == quoted then { d with text := c :: d.text }
  else { d.flush with text := [c], quoted }

/-- One more part. -/
def push (d : Draft) (p : Part) : Draft := let d := d.flush; { d with parts := p :: d.parts }

/-- More parts. -/
def append (d : Draft) (ps : Word) : Draft := let d := d.flush; { d with parts := ps.reverse ++ d.parts }

/-- A quoted piece: it is there even when it is empty, unless it is all parameters and nothing else. -/
def quote (d : Draft) (ps : Word) : Draft :=
  let d := match ps with
    | [.value ['@'] .plain _] => d.append ps
    | _ => d.append (.text [] true :: ps)
  { d with marked := true }

/-- The finished word. -/
def word (d : Draft) : Word := d.flush.parts.reverse

end Draft

/-- What stands around a character that is quoted. -/
inductive Quotation
  /-- Double quotes. -/
  | quotes
  /-- Braces within double quotes or a here-document. -/
  | braces
  | document
  /-- The parentheses of an arithmetic expression, with so many open ones within. -/
  | sum (depth : Nat)
  deriving DecidableEq, Repr

/-- What a character stands in: a quotation, perhaps in braces, perhaps in a here-document. -/
structure Surroundings where
  quotation : Quotation
  inBraces : Bool := false
  document : Option Expected := none
  deriving DecidableEq, Repr

/-- What braces make of a value, before the word in them is read. -/
inductive UseMark
  | plain
  | length
  | otherwise (emptyToo : Bool)
  | assigned (emptyToo : Bool)
  | instead (emptyToo : Bool)
  | demanded (emptyToo : Bool)
  | without (atStart longest : Bool)
  /-- Two dots in front of nothing. -/
  | present
  | malformed
  deriving DecidableEq, Repr

/-- The use of a value, with the word that belongs to it. -/
def UseMark.use (m : UseMark) (w : Word) : ValueUse :=
  match m with
  | .plain => .plain
  | .length => .length
  | .otherwise emptyToo => .otherwise emptyToo w
  | .assigned emptyToo => .assigned emptyToo w
  | .instead emptyToo => .instead emptyToo w
  | .demanded emptyToo => .demanded emptyToo w
  | .without atStart longest => .without atStart longest w
  | .present => .plain
  | .malformed => .malformed

/-- Names of commands that no function can have. -/
def isSpecialCommand (name : Raw) : Bool :=
  (["break", ":", "continue", ".", "eval", "exec", "exit", "export", "local", "readonly", "return", "set",
    "shift", "times", "trap", "unset"].map String.toList).contains name

/-- An assignment in front of a command. -/
def assignment? (w : Word) : Option (Raw × Word) :=
  match w with
  | .text s false :: rest =>
    match s.dropWhile isNameChar with
    | '=' :: value =>
      if s.head?.any startsName then
        some (s.takeWhile isNameChar, if value.isEmpty then rest else .text value false :: rest)
      else none
    | _ => none
  | _ => none

/-- The characters of a word that ends a here-document. -/
def markText (w : Word) : Raw :=
  w.flatMap fun
    | .text s _ => s
    | _ => []

namespace Reading

/-- The character ends a here-document if its line is the mark; the tabs in front are dropped if they are
to be. -/
def atMark? (e : Expected) : Reading Bool := do
  let s ← get
  let s := onward false s s.rest
  let rest := if e.stripTabs then s.rest.dropWhile (· == .char '\t') else s.rest
  let line := rest.take e.mark.length
  let after := rest.drop e.mark.length
  if line == e.mark.map .char && (after.isEmpty || after.head? == some (.char '\n')) then
    set { s with rest := after.drop 1, line := s.line + 1 }
    return true
  else
    set { s with rest }
    return false

/-- The characters up to a single quote. -/
def singleQuoted : (size : Nat) → Raw → Reading Raw
  | 0, _ => fail .unterminatedQuote
  | n + 1, soFar => do
    match ← next with
    | none => fail .unterminatedQuote
    | some '\'' => return soFar.reverse
    | some c =>
      if c == '\n' then countLine
      singleQuoted n (c :: soFar)

/-- The text between backquotes: backslashes in front of some characters are dropped. -/
def backquoted (quoted : Bool) : (size : Nat) → Raw → Reading Raw
  | 0, _ => fail .unterminatedOutput
  | n + 1, soFar => do
    match ← nextJoined with
    | none => fail .unterminatedOutput
    | some '`' => return soFar.reverse
    | some '\\' =>
      match ← next with
      | none => fail .unterminatedOutput
      | some c =>
        if c == '\\' || c == '`' || c == '$' || (quoted && c == '"') then backquoted quoted n (c :: soFar)
        else backquoted quoted n (c :: '\\' :: soFar)
    | some c =>
      if c == '\n' then countLine
      backquoted quoted n (c :: soFar)

/-- The lines of a here-document into which nothing is put. -/
def literalLines (e : Expected) : (size : Nat) → Raw → Reading Raw
  | 0, soFar => return soFar.reverse
  | n + 1, soFar => do
    if soFar.head?.all (· == '\n') then
      if ← atMark? e then return soFar.reverse
    match ← next with
    | none => return soFar.reverse
    | some c =>
      if c == '\n' then countLine
      literalLines e n (c :: soFar)

/-- The rest of a name, which ends before the character that is given back. -/
def nameChars (p : Char → Bool) : (size : Nat) → Raw → Reading (Raw × Option Char)
  | 0, soFar => return (soFar.reverse, none)
  | n + 1, soFar => do
    match ← nextJoined with
    | some c => if p c then nameChars p n (c :: soFar) else return (soFar.reverse, some c)
    | none => return (soFar.reverse, none)

/-- The rest of a line is skipped. -/
def comment : (size : Nat) → Reading Unit
  | 0 => return
  | n + 1 => do
    match ← next with
    | none => return
    | some '\n' => unread (some '\n')
    | some _ => comment n

/-- What follows a name in braces, of which the first character has been read. -/
def useMark (c : Option Char) : Reading UseMark := do
  let byLetter (emptyToo : Bool) (c : Option Char) : UseMark :=
    match c with
    | some '\x7D' => if emptyToo then .present else .plain
    | some '-' => .otherwise emptyToo
    | some '+' => .instead emptyToo
    | some '?' => .demanded emptyToo
    | some '=' => .assigned emptyToo
    | _ => .malformed
  match c with
  | some ':' => return byLetter true (← nextJoined)
  | some '#' =>
    let d ← nextJoined
    if d == some '#' then return .without true true
    unread d
    return .without true false
  | some '%' =>
    let d ← nextJoined
    if d == some '%' then return .without false true
    unread d
    return .without false false
  | c => return byLetter false c

/-- The name in braces, and what is made of its value. The number bounds the length of the name. -/
def braced (size : Nat) : Reading (Raw × UseMark) := do
  let named (c : Char) : Reading (Raw × Option Char) :=
    if startsName c then nameChars isNameChar size [c] else nameChars Char.isDigit size [c]
  let malformed (name : Raw) (c : Option Char) : Reading (Raw × UseMark) := do
    unread c
    return (name, .malformed)
  let measured (name : Raw) (c : Option Char) : Reading (Raw × UseMark) := do
    unread c
    return (name, if c == some '\x7D' then .length else .malformed)
  match ← nextJoined with
  | none => malformed [] none
  | some '\x7D' => malformed [] (some '\x7D')
  | some '#' =>
    match ← nextJoined with
    | some c =>
      if isNameChar c then
        let (name, after) ← named c
        measured name after
      else
        let after ← nextJoined
        if c == '\x7D' || after != some '\x7D' then
          unread after
          return (['#'], ← useMark (some c))
        else if isSpecialName c then measured [c] after
        else malformed [] after
    | none => malformed ['#'] none
  | some c =>
    if isNameChar c then
      let (name, after) ← named c
      return (name, ← useMark after)
    else if isSpecialName c then return ([c], ← useMark (← nextJoined))
    else malformed [] (← nextJoined)

end Reading

open Reading

/-- How a list of commands can end. -/
inductive ListPlace
  /-- It is a whole line. -/
  | line
  /-- It has a command at least. -/
  | inside
  /-- It may be empty. -/
  | perhapsEmpty
  deriving DecidableEq, Repr

/-- A redirection with the word behind it. -/
def redirectOf (stream : Nat) (mark : RedirectMark) (w : Word) (quoted : Bool) : Reading Redirect :=
  match mark with
  | .file how => return .file stream how w
  | .copy => return .copy stream w
  | .document stripTabs => do
    let s ← get
    let e : Expected := { number := s.numbers, mark := markText w, literal := quoted, stripTabs }
    set { s with numbers := s.numbers + 1, expected := s.expected ++ [e] }
    return .pending stream e.number

mutual

/-- The characters of a word that are not quoted, in braces or up to what ends the word, which is given
back. -/
def plainChars : Nat → (inBraces : Bool) → Option Expected → Option Char → Draft →
    Reading (Draft × Option Char)
  | 0, _, _, _, _ => misplaced .endOfFile
  | n + 1, inBraces, document, c, d => do
    let goOn (d : Draft) : Reading (Draft × Option Char) := do
      plainChars n inBraces document (← nextJoined) d
    match c with
    | none => if inBraces then fail (.missing ['\x7D']) else return (d, none)
    | some '\\' =>
      match ← next with
      | none => goOn { d.add '\\' true with marked := true }
      | some e => goOn { d.add e true with marked := true }
    | some '\'' =>
      let s ← singleQuoted ((← get).rest.length + 1) []
      goOn (d.quote [.text s true])
    | some '"' => goOn (d.quote (← quotedChars n { quotation := .quotes, inBraces, document } {}))
    | some '`' =>
      if (← get).wants.endMark then goOn (d.add '`' false)
      else goOn (d.push (.output (← backquotes n false) false))
    | some '$' => goOn (← substitution n none document d)
    | some '\x7D' => if inBraces then return (d, c) else goOn (d.add '\x7D' false)
    | some c =>
      if !inBraces && endsWord c then return (d, some c)
      else if c == '\n' then
        countLine
        match document with
        | some e => if ← atMark? e then fail (.missing ['\x7D']) else goOn (d.add c false)
        | none => goOn (d.add c false)
      else goOn (d.add c false)

/-- The parts of a quotation up to its end. -/
def quotedChars : Nat → Surroundings → Draft → Reading Word
  | 0, _, _ => misplaced .endOfFile
  | n + 1, at_, d => do
    let goOn (d : Draft) : Reading Word := quotedChars n at_ d
    let atEnd : Reading Word :=
      match at_.quotation with
      | .document => return d.word
      | .sum _ => fail (.missing "))".toList)
      | _ => fail (if at_.document.isSome then .missing ['\x7D'] else .unterminatedQuote)
    match ← nextJoined with
    | none => atEnd
    | some '\n' =>
      countLine
      match at_.document with
      | some e =>
        if ← atMark? e then
          if at_.quotation == .document then return (d.add '\n' true).word else atEnd
        else goOn (d.add '\n' true)
      | none => goOn (d.add '\n' true)
    | some '\\' =>
      match ← next with
      | none => goOn (d.add '\\' true)
      | some c =>
        let inBraces := at_.inBraces || at_.quotation == .braces
        let kept := c != '\\' && c != '`' && c != '$' &&
          (c != '"' || (at_.document.isSome && !inBraces)) && (c != '\x7D' || !inBraces)
        goOn (if kept then (d.add '\\' true).add c true else d.add c true)
    | some '"' =>
      match at_.quotation with
      | .quotes => return d.word
      | .braces => goOn (d.append (← quotedChars n { at_ with quotation := .quotes, inBraces := true } {}))
      | _ => goOn (d.add '"' true)
    | some '`' => goOn (d.push (.output (← backquotes n true) true))
    | some '$' => goOn (← substitution n (some at_) at_.document d)
    | some '\x7D' =>
      if at_.quotation == .braces then return d.word else goOn (d.add '\x7D' true)
    | some c =>
      match at_.quotation, c with
      | .sum depth, '(' => quotedChars n { at_ with quotation := .sum (depth + 1) } (d.add c true)
      | .sum (depth + 1), ')' => quotedChars n { at_ with quotation := .sum depth } (d.add c true)
      | .sum 0, ')' =>
        let e ← nextJoined
        if e == some ')' then return d.word
        unread e
        goOn (d.add c true)
      | _, _ => goOn (d.add c true)

/-- What a dollar sign announces, put to a draft. -/
def substitution : Nat → Option Surroundings → Option Expected → Draft → Reading Draft
  | 0, _, _, _ => misplaced .endOfFile
  | n + 1, around, document, d => do
    let quoted := around.isSome
    let c ← nextJoined
    if (← get).wants.endMark || !(c.any fun c => c == '(' || c == '\x7B' || isNameChar c || isSpecialName c)
    then
      unread c
      return d.add '$' quoted
    else match c with
      | some '(' =>
        let e ← nextJoined
        if e == some '(' then
          return d.push (.sum (← quotedChars n { quotation := .sum 0, document } {}) quoted)
        else
          unread e
          return d.push (.output (← parenthesized n) quoted)
      | some '\x7B' =>
        let (name, mark) ← braced ((← get).rest.length + 1)
        if mark == .plain then return d.push (.value name .plain quoted)
        else
          let trims := match mark with
            | .without _ _ => true
            | _ => false
          let w ←
            if quoted && !trims then
              quotedChars n { quotation := .braces, inBraces := true, document } {}
            else
              let (inner, _) ← plainChars n true document (← nextJoined) {}
              pure inner.word
          return d.push (.value name (mark.use w) quoted)
      | some c =>
        if startsName c then
          let (name, after) ← nameChars isNameChar ((← get).rest.length + 1) [c]
          unread after
          return d.push (.value name .plain quoted)
        else return d.push (.value [c] .plain quoted)
      | none => return d

/-- The script between parentheses, of which the first one has been read. -/
def parenthesized : Nat → Reading Script
  | 0 => misplaced .endOfFile
  | n + 1 => do
    let expected := (← get).expected
    modify fun s => { s with expected := [], wants := {} }
    let script ← commandList n .perhapsEmpty none
    let t ← readToken n
    if !t.isSign ")" then misplaced t (some (signName [')']))
    modify fun s => { s with expected }
    return script.getD .nothing

/-- The script between backquotes, of which the first one has been read. It is read as a text of its own. -/
def backquotes : Nat → (quoted : Bool) → Reading Script
  | 0, _ => misplaced .endOfFile
  | n + 1, quoted => do
    let inner ← backquoted quoted ((← get).rest.length + 1) []
    let outer ← get
    set { outer with rest := inner.map .char, line := 1, expected := [], wants := {} }
    let script ← commandList n .perhapsEmpty none
    modify fun s => { outer with documents := s.documents, numbers := s.numbers }
    return script.getD .nothing

/-- The next token as it stands in the text. -/
def rawToken : Nat → Reading Token
  | 0 => misplaced .endOfFile
  | n + 1 => do
    if (← get).again then
      modify fun s => { s with again := false }
      return (← get).last
    let done (t : Token) : Reading Token := do
      modify fun s => { s with last := t }
      return t
    let sign (one two : String) (c : Char) : Reading Token := do
      let d ← nextJoined
      if d == some c then done (.sign two.toList)
      else
        unread d
        done (.sign one.toList)
    match ← nextJoined with
    | none => done .endOfFile
    | some ' ' => rawToken n
    | some '\t' => rawToken n
    | some '#' =>
      comment ((← get).rest.length + 1)
      rawToken n
    | some '\n' =>
      countLine
      done .newline
    | some '&' => sign "&" "&&" '&'
    | some '|' => sign "|" "||" '|'
    | some ';' => sign ";" ";;" ';'
    | some '(' => done (.sign ['('])
    | some ')' => done (.sign [')'])
    | c =>
      let (d, c) ← plainChars n false none c {}
      let stream? : Option (Option Nat) := match d.word with
        | [] => some none
        | [.text [c] false] => if c.isDigit then some (some (c.toNat - 48)) else none
        | _ => none
      match c, d.marked, stream? with
      | some '<', false, some stream =>
        let file (how : Opening) : Reading Token := done (.redirect (stream.getD 0) (.file how))
        match ← nextJoined with
        | some '<' =>
          let e ← nextJoined
          if e != some '-' then unread e
          done (.redirect (stream.getD 0) (.document (e == some '-')))
        | some '&' => done (.redirect (stream.getD 0) .copy)
        | some '>' => file .both
        | e =>
          unread e
          file .read
      | some '>', false, some stream =>
        let file (how : Opening) : Reading Token := done (.redirect (stream.getD 1) (.file how))
        match ← nextJoined with
        | some '>' => file .append
        | some '|' => file .overwrite
        | some '&' => done (.redirect (stream.getD 1) .copy)
        | e =>
          unread e
          file .create
      | c, _, _ =>
        unread c
        done (.word d.word d.marked)

/-- The here-documents that the line has announced. -/
def readDocuments : Nat → Reading Unit
  | 0 => misplaced .endOfFile
  | n + 1 => do
    let s ← get
    match s.expected with
    | [] => return
    | e :: rest =>
      set { s with expected := rest }
      let body ←
        if e.literal then
          let lines ← literalLines e ((← get).rest.length + 1) []
          pure [Part.text lines true]
        else if ← atMark? e then pure []
        else quotedChars n { quotation := .document, document := some e } {}
      modify fun s => { s with documents := (e.number, body) :: s.documents }
      readDocuments n

/-- The next token that is no line feed. -/
def afterBreaks : Nat → Token → Reading Token
  | 0, _ => misplaced .endOfFile
  | n + 1, t => do
    match t with
    | .newline =>
      readDocuments n
      modify fun s => { s with wants := {} }
      afterBreaks n (← rawToken n)
    | t => return t

/-- The next token, where some words are reserved or aliases if the place asks for it. -/
def tokenWith : Nat → Wants → Reading Token
  | 0, _ => misplaced .endOfFile
  | n + 1, wants => do
    let first ← rawToken n
    let t ← if wants.noBreaks then afterBreaks n first else pure first
    let s ← get
    let wants : Wants :=
      { noBreaks := wants.noBreaks, reserved := wants.reserved || s.wants.reserved
        aliases := wants.aliases || s.wants.aliases, endMark := wants.endMark }
    set { s with wants := {} }
    match t with
    | .word w false =>
      match plainText? w with
      | none => return t
      | some text =>
        if wants.reserved && reservedWords.contains text then
          modify fun s => { s with last := .reserved text }
          return .reserved text
        match if wants.aliases && !s.busy.contains text then s.aliases.lookup text else none with
        | some value =>
          let goesOn := value.getLast?.any fun c => c == ' ' || c == '\t'
          if !value.isEmpty then
            modify fun s => { s with
              busy := text :: s.busy
              rest := value.map .char ++ .aliasEnd text goesOn :: s.rest }
          tokenWith n wants
        | none => return t
    | t => return t

/-- The next token. -/
def readToken : Nat → Reading Token
  | 0 => misplaced .endOfFile
  | n + 1 => do tokenWith n (← get).wants

/-- A list of commands; nothing where there is none. -/
def commandList : Nat → ListPlace → Option Script → Reading (Option Script)
  | 0, _, _ => misplaced .endOfFile
  | n + 1, place, soFar => do
    let inLine := place == .line
    modify fun s => { s with wants := { noBreaks := !inLine, reserved := true, aliases := true } }
    let t ← readToken n
    match t with
    | .newline =>
      readDocuments n
      return some (soFar.getD .nothing)
    | .endOfFile =>
      readDocuments n
      modify fun s => { s with again := true, last := .endOfFile }
      return soFar
    | t =>
      modify fun s => { s with again := true }
      if place == .perhapsEmpty && t.endsList then return soFar
      let place := if inLine then .line else .perhapsEmpty
      let command ← andOr n
      let t ← readToken n
      let command ← if t.isSign "&" then pure (.background (← get).line command) else pure command
      let all := match soFar with
        | none => command
        | some before => .seq before command
      match t with
      | .endOfFile =>
        readDocuments n
        modify fun s => { s with again := true, last := .endOfFile }
        return some all
      | .newline =>
        modify fun s => { s with again := true }
        commandList n place (some all)
      | t =>
        if t.isSign "&" || t.isSign ";" then commandList n place (some all)
        else if inLine then misplaced t
        else
          modify fun s => { s with again := true }
          return some all

/-- Pipelines of which each depends on the ones before it. -/
def andOr : Nat → Reading Script
  | 0 => misplaced .endOfFile
  | n + 1 => do moreAndOr n (← pipeline n)

/-- The pipelines after those that were read already. -/
def moreAndOr : Nat → Script → Reading Script
  | 0, _ => misplaced .endOfFile
  | n + 1, first => do
    let t ← readToken n
    let wanted : Wants := { noBreaks := true, reserved := true, aliases := true }
    if t.isSign "&&" then
      modify fun s => { s with wants := wanted }
      moreAndOr n (.both first (← pipeline n))
    else if t.isSign "||" then
      modify fun s => { s with wants := wanted }
      moreAndOr n (.either first (← pipeline n))
    else
      modify fun s => { s with again := true }
      return first

/-- Commands that feed each other, perhaps negated. -/
def pipeline : Nat → Reading Script
  | 0 => misplaced .endOfFile
  | n + 1 => do
    let t ← readToken n
    let negated := t.isReserved "!"
    if negated then modify fun s => { s with wants := { reserved := true, aliases := true } }
    else modify fun s => { s with again := true }
    let body ← commands n
    return if negated then .negated body else body

/-- Commands that feed each other. -/
def commands : Nat → Reading Script
  | 0 => misplaced .endOfFile
  | n + 1 => do
    let first ← command n
    let t ← readToken n
    if t.isSign "|" then
      modify fun s => { s with wants := { noBreaks := true, reserved := true, aliases := true } }
      return .pipe first (← commands n)
    else
      modify fun s => { s with again := true }
      return first

/-- A list of commands inside of a command. -/
def inner : Nat → Reading Script
  | 0 => misplaced .endOfFile
  | n + 1 => return (← commandList n .inside none).getD .nothing

/-- The next token is the reserved word. -/
def expectReserved : Nat → String → Reading Unit
  | 0, _ => misplaced .endOfFile
  | n + 1, s => do
    let t ← readToken n
    if !t.isReserved s then misplaced t (some (signName s.toList))

/-- The branches of a condition after its first test. -/
def branches : Nat → Reading (Script × Script)
  | 0 => misplaced .endOfFile
  | n + 1 => do
    expectReserved n "then"
    let yes ← inner n
    let t ← readToken n
    if t.isReserved "elif" then
      let test ← inner n
      let (second, no) ← branches n
      return (yes, .cond test second no)
    else if t.isReserved "else" then return (yes, ← inner n)
    else
      modify fun s => { s with again := true }
      return (yes, .nothing)

/-- Words up to a token that is none, which is the last one then. -/
def wordRun : Nat → List Word → Reading (List Word)
  | 0, _ => misplaced .endOfFile
  | n + 1, soFar => do
    match ← readToken n with
    | .word w _ => wordRun n (w :: soFar)
    | _ => return soFar.reverse

/-- Patterns with bars between them, of which the first token has been read. -/
def patterns : Nat → Token → List Word → Reading (List Word)
  | 0, _, _ => misplaced .endOfFile
  | n + 1, t, soFar => do
    let w : Word := match t with
      | .word w _ => w
      | .reserved s => [.text s false]
      | _ => []
    let t ← readToken n
    if t.isSign "|" then patterns n (← readToken n) (w :: soFar)
    else if t.isSign ")" then return (w :: soFar).reverse
    else misplaced t (some (signName [')']))

/-- The branches of a choice. -/
def choices : Nat → Reading Choices
  | 0 => misplaced .endOfFile
  | n + 1 => do
    let wanted : Wants := { noBreaks := true, reserved := true }
    modify fun s => { s with wants := wanted }
    let t ← readToken n
    if t.isReserved "esac" then return .none
    let ps ← patterns n (← if t.isSign "(" then readToken n else pure t) []
    let body := (← commandList n .perhapsEmpty none).getD .nothing
    modify fun s => { s with wants := wanted }
    let t ← readToken n
    if t.isReserved "esac" then return .more ps body .none
    else if t.isSign ";;" then return .more ps body (← choices n)
    else misplaced t (some (signName ";;".toList))

/-- The redirections behind a command. -/
def redirects : Nat → Wants → List Redirect → Reading (List Redirect)
  | 0, _, _ => misplaced .endOfFile
  | n + 1, wants, soFar => do
    modify fun s => { s with wants }
    match ← readToken n with
    | .redirect stream mark => redirects n {} ((← redirectTarget n stream mark) :: soFar)
    | _ =>
      modify fun s => { s with again := true }
      return soFar.reverse

/-- The word behind a redirection sign. -/
def redirectTarget : Nat → Nat → RedirectMark → Reading Redirect
  | 0, _, _ => misplaced .endOfFile
  | n + 1, stream, mark => do
    let isDocument := match mark with
      | .document _ => true
      | _ => false
    if isDocument then modify fun s => { s with wants := { endMark := true } }
    match ← readToken n with
    | .word w quoted => redirectOf stream mark w quoted
    | t => misplaced t

/-- The parts of a simple command. -/
def simpleCommand : Nat → (line : Nat) → (started : Bool) → List (Raw × Word) → List Word →
    List Redirect → Reading Script
  | 0, _, _, _, _, _ => misplaced .endOfFile
  | n + 1, line, started, assigned, words, reds => do
    modify fun s => { s with wants := { aliases := !started } }
    let t ← readToken n
    let finish : Reading Script := do
      modify fun s => { s with again := true }
      return .simple line assigned.reverse words.reverse reds.reverse
    match t with
    | .word w _ =>
      match if started then none else assignment? w with
      | some a => simpleCommand n line false (a :: assigned) words reds
      | none => simpleCommand n line true assigned (w :: words) reds
    | .redirect stream mark =>
      let r ← redirectTarget n stream mark
      simpleCommand n line started assigned words (r :: reds)
    | t =>
      match t.isSign "(", words, assigned, reds with
      | true, [w], [], [] =>
        let t ← readToken n
        if !t.isSign ")" then misplaced t (some (signName [')']))
        match plainText? w with
        | some name =>
          if !isName name || isSpecialCommand name then fail .badFunctionName
          modify fun s => { s with wants := { noBreaks := true, reserved := true, aliases := true } }
          return .define name (← command n)
        | none => fail .badFunctionName
      | _, _, _, _ => finish

/-- One command. -/
def command : Nat → Reading Script
  | 0 => misplaced .endOfFile
  | n + 1 => do
    let line := (← get).line
    let t ← readToken n
    let withRedirects (body : Script) : Reading Script := do
      match body, ← redirects n { reserved := true, aliases := true } [] with
      | .enclosed line body _, reds => return .enclosed line body reds
      | body, [] => return body
      | body, reds => return .redirected line body reds
    let closed (word : String) (body : Script) : Reading Script := do
      expectReserved n word
      withRedirects body
    match t with
    | .word _ _ =>
      modify fun s => { s with again := true }
      simpleCommand n (← get).line false [] [] []
    | .redirect _ _ =>
      modify fun s => { s with again := true }
      simpleCommand n (← get).line false [] [] []
    | .sign ['('] =>
      let body ← inner n
      let t ← readToken n
      if !t.isSign ")" then misplaced t (some (signName [')']))
      withRedirects (.enclosed line body [])
    | .reserved s =>
      match String.ofList s with
      | "if" =>
        let test ← inner n
        let (yes, no) ← branches n
        closed "fi" (.cond test yes no)
      | "while" =>
        let test ← inner n
        expectReserved n "do"
        closed "done" (.loop false test (← inner n))
      | "until" =>
        let test ← inner n
        expectReserved n "do"
        closed "done" (.loop true test (← inner n))
      | "for" =>
        let name ← match ← readToken n with
          | .word w false => match (plainText? w).filter isName with
            | some name => pure name
            | none => fail .badLoopVariable
          | _ => fail .badLoopVariable
        let wanted : Wants := { noBreaks := true, reserved := true, aliases := true }
        modify fun s => { s with wants := wanted }
        let t ← readToken n
        let words ←
          if t.isReserved "in" then
            let words ← wordRun n []
            let last := (← get).last
            if !(last matches .newline) && !last.isSign ";" then misplaced last
            pure words
          else
            if !t.isSign ";" then modify fun s => { s with again := true }
            pure [[.value ['@'] .plain true]]
        modify fun s => { s with wants := wanted }
        expectReserved n "do"
        closed "done" (.each line name words (← inner n))
      | "case" =>
        let subject ← match ← readToken n with
          | .word w _ => pure w
          | t => misplaced t (some (raw "word"))
        modify fun s => { s with wants := { noBreaks := true, reserved := true, aliases := true } }
        expectReserved n "in"
        withRedirects (.choose line subject (← choices n))
      | "\x7B" =>
        let body ← inner n
        closed "\x7D" body
      | _ => misplaced t
    | t => misplaced t

end

/-- The next command of a source, and whether the source ends with it; nothing where the source has no
command left. -/
def Script.next (s : Source) : Except Misread (Option (Script × Bool) × Source) := do
  let size := 16 * (s.rest.length + totalOf (s.aliases.map (·.2.length))) + 50000
  let (script, s) ←
    (commandList size .line none).run { s with again := false, wants := {}, expected := [], documents := [] }
  let documents := s.documents.foldl (fun ds _ => ds.map fun (n, w) =>
    (n, wordWithDocuments ds w)) s.documents
  match script with
  | none => return (none, s)
  | some script =>
    let script := if s.numbers == 0 then script else script.withDocuments documents
    return (some (script, s.again && (s.last matches .endOfFile)), s)

end DocAudit.Shell
