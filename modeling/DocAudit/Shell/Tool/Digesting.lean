import DocAudit.Shell.Digest
import DocAudit.Shell.Tool.Removing
import DocAudit.Shell.Tool.Selecting

/-!
# Digests of files

## Contents

* `Method`: a way of making digests, with its name
* `Digesting`, `digesting`: digests written down, and files compared with those that were
* `cksum`, `sumTool`: sums of bytes
-/

namespace DocAudit.Shell.Tool

open Text Act

/-! ## Methods -/

/-- A way of making digests. -/
structure Method where
  /-- The name that stands before digests with a mark. -/
  label : Raw
  /-- The number of bytes. -/
  size : Nat
  digest : List Nat → List Nat

namespace Method

/-- The methods by the words that choose them. -/
def all : List (Raw × Method) := [
  (raw "md5", ⟨raw "MD5", 16, Digest.md5⟩),
  (raw "sha1", ⟨raw "SHA1", 20, Digest.sha1⟩),
  (raw "sha224", ⟨raw "SHA224", 28, Digest.sha2 Digest.sha224⟩),
  (raw "sha256", ⟨raw "SHA256", 32, Digest.sha2 Digest.sha256⟩),
  (raw "sha384", ⟨raw "SHA384", 48, Digest.sha2 Digest.sha384⟩),
  (raw "sha512", ⟨raw "SHA512", 64, Digest.sha2 Digest.sha512⟩)]

/-- The digest of bytes in hexadecimal digits. -/
def of (m : Method) (s : Raw) : Raw := Digest.hexadecimal (m.digest (s.map Char.toNat))

end Method

/-! ## Digests written down -/

/-- The characters that a name in a line cannot have. -/
def isAwkward (c : Char) : Bool := c == '\\' || c == '\n' || c == '\r'

/-- A name as it can stand in a line, with a mark in front if it was changed. -/
def inLine (name : Raw) : Raw × Raw :=
  if name.any isAwkward then
    (['\\'], name.flatMap fun c =>
      if c == '\\' then raw "\\\\" else if c == '\n' then raw "\\n" else if c == '\r' then raw "\\r" else [c])
  else ([], name)

/-- The name that was changed to stand in a line. -/
def outOfLine : Raw → Option Raw
  | [] => some []
  | '\\' :: 'n' :: rest => (outOfLine rest).map ('\n' :: ·)
  | '\\' :: 'r' :: rest => (outOfLine rest).map ('\r' :: ·)
  | '\\' :: '\\' :: rest => (outOfLine rest).map ('\\' :: ·)
  | c :: rest => if c == '\\' then none else (outOfLine rest).map (c :: ·)

/-- How digests are made and compared. -/
structure Digesting where
  /-- The method stands before the name. -/
  tagged : Bool := false
  binary : Option Bool := none
  ending : Char := '\n'
  check : Bool := false
  quiet : Bool := false
  silent : Bool := false
  strict : Bool := false
  missing : Bool := false
  warn : Bool := false
  deriving Repr

namespace Digesting

/-- A line with a digest. -/
def line (v : Digesting) (m : Method) (name digest : Raw) : Raw :=
  let (mark, shown) := if v.ending == '\n' then inLine name else ([], name)
  mark ++ (if v.tagged then m.label ++ raw " (" ++ shown ++ raw ") = " ++ digest
    else digest ++ [' ', if v.binary == some true then '*' else ' '] ++ shown) ++ [v.ending]

/-- What is said against options that do not go together. -/
def conflict? (v : Digesting) : Option Raw :=
  let onlyChecks (word : String) : Raw :=
    raw "the --" ++ raw word ++ raw " option is meaningful only when verifying checksums"
  if v.tagged && v.binary == some false then some (raw "--tag does not support --text mode")
  else if v.ending != '\n' && v.check then
    some (raw "the --zero option is not supported when verifying checksums")
  else if v.tagged && v.check then some (raw "the --tag option is meaningless when verifying checksums")
  else if v.binary.isSome && v.check then
    some (raw "the --binary and --text options are meaningless when verifying checksums")
  else if v.check then none
  else if v.missing then some (onlyChecks "ignore-missing")
  else if v.silent then some (onlyChecks "status")
  else if v.warn then some (onlyChecks "warn")
  else if v.quiet then some (onlyChecks "quiet")
  else if v.strict then some (onlyChecks "strict")
  else none

end Digesting

/-! ## Digests read again -/

/-- A digest, and the name of the file to which it belongs. -/
structure Pledge where
  method : Method
  digest : Raw
  name : Raw
  /-- The digest comes first, and the name stands behind one blank alone or behind one and a mark. -/
  single : Option Bool := none

namespace Pledge

/-- A blank in a line. -/
def isBlank (c : Char) : Bool := c == ' ' || c == '\t'

/-- All characters are hexadecimal digits, and there are as many as the method makes. -/
def isDigest (m : Method) (s : Raw) : Bool :=
  s.length == 2 * m.size && s.all fun c => c.isDigit || ('a' ≤ c.toLower && c.toLower ≤ 'f')

/-- A line in which the method stands before the name. -/
def ofTagged (m : Method) (marked : Bool) (s : Raw) : Option Pledge := do
  if !m.label.isPrefixOf s then none
  let s := s.drop m.label.length
  let s := if s.head? == some ' ' then s.drop 1 else s
  if s.head? != some '(' then none
  let s := s.drop 1
  let digest := (s.reverse.takeWhile (· != ')')).reverse
  let name := s.take (s.length - digest.length - 1)
  if digest.length == s.length then none
  let digest := digest.dropWhile isBlank
  if digest.head? != some '=' then none
  let digest := (digest.drop 1).dropWhile isBlank
  if !isDigest m digest then none
  let name ← if marked then outOfLine name else some name
  return { method := m, digest, name }

/-- A line in which the digest comes first. -/
def ofPlain (m : Method) (marked : Bool) (known : Option Bool) (s : Raw) : Option Pledge := do
  let digest := s.take (2 * m.size)
  let rest := s.drop (2 * m.size)
  if rest.length < 2 || !rest.head?.any isBlank || !isDigest m digest then none
  let rest := rest.drop 1
  let single := rest.length == 1 || !(rest.head? == some ' ' || rest.head? == some '*')
  if known == some false && single then none
  let single := known.getD single
  let name := if single then rest else rest.drop 1
  let name ← if marked then outOfLine name else some name
  return { method := m, digest, name, single := some single }

/-- The digest in a line. Without a method the line has to tell it. `known` tells how names stand in the lines
before. -/
def ofLine (m : Option Method) (known : Option Bool) (s : Raw) : Option Pledge :=
  let s := s.dropWhile isBlank
  let marked := s.head? == some '\\'
  let s := if marked then s.drop 1 else s
  match m with
  | some m => (ofTagged m marked s).or (ofPlain m marked known s)
  | none => (Method.all.map (·.2)).findSome? fun m => ofTagged m marked s

end Pledge

/-- What comparing has found so far. -/
structure Tally where
  sound : Nat := 0
  malformed : Nat := 0
  unread : Nat := 0
  different : Nat := 0
  matched : Bool := false
  /-- How the first name stands tells how the others have to stand. -/
  single : Option Bool := none

/-- A number with a word that stands for one or more of it. -/
def counted (n : Nat) (one many : String) : Raw := ofNat n ++ raw (if n == 1 then one else many)

/-- Compares a file with its digest. -/
def keepsPledge (v : Digesting) (p : Pledge) (t : Tally) : Act Tally := do
  let t := { t with sound := t.sound + 1 }
  let (mark, shown) := inLine p.name
  let report (s : String) : Act Unit := do
    if !v.silent then say (mark ++ shown ++ raw ": " ++ raw s ++ ['\n'])
  match ← content p.name with
  | .error f =>
    if v.missing && f == .noEntry then return t
    fileTrouble p.name f
    report "FAILED open or read"
    return { t with unread := t.unread + 1 }
  | .ok s =>
    let same := p.method.of s == p.digest.map Char.toLower
    if !same then report "FAILED" else if !v.quiet then report "OK"
    return { t with matched := t.matched || same, different := t.different + (if same then 0 else 1) }

/-- Compares the files of a list with their digests. -/
def keepsPledges (v : Digesting) (m : Option Method) (file : Raw) : Act Bool := do
  let name := if file == ['-'] then raw "standard input" else file
  match ← content file with
  | .error .isDir =>
    grumble (Quoted.ifNeeded name ++ raw ": read error")
    return false
  | .error f =>
    fileTrouble file f
    return false
  | .ok s =>
    let mut t : Tally := {}
    for (line, i) in (recordsOf '\n' s).zipIdx do
      if line.head? == some '#' then continue
      let line := if line.getLast? == some '\r' then line.dropLast else line
      if line.isEmpty then continue
      match Pledge.ofLine m t.single line with
      | none =>
        t := { t with malformed := t.malformed + 1 }
        if v.warn then
          let label := match m with
            | some m => m.label ++ raw " "
            | none => []
          grumble (Quoted.ifNeeded name ++ raw ": " ++ ofNat (i + 1) ++ raw ": improperly formatted " ++
            label ++
            raw "checksum line")
      | some p =>
        t ← keepsPledge v p { t with single := t.single.or p.single }
    if t.sound == 0 then
      grumble (Quoted.ifNeeded name ++ raw ": no properly formatted checksum lines found")
    else if !v.silent then
      if t.malformed != 0 then
        grumble (raw "WARNING: " ++
          counted t.malformed " line is improperly formatted" " lines are improperly formatted")
      if t.unread != 0 then
        grumble (raw "WARNING: " ++
          counted t.unread " listed file could not be read" " listed files could not be read")
      if t.different != 0 then
        grumble (raw "WARNING: " ++
          counted t.different " computed checksum did NOT match" " computed checksums did NOT match")
      if v.missing && !t.matched then grumble (Quoted.ifNeeded name ++ raw ": no file was verified")
    return t.sound != 0 && t.matched && t.different == 0 && t.unread == 0 && (!v.strict || t.malformed == 0)

/-- Digests of files, or files compared with their digests. -/
def digesting (m : Method) : Tool := fun args => do
  let (v, files) ← options
    "b/binary c/check /ignore-missing /quiet /status /strict /tag t/text w/warn z/zero" args ({} : Digesting)
    fun v key _ => do
      match key with
      | "b" => return { v with binary := some true }
      | "t" => return { v with binary := some false }
      | "c" => return { v with check := true }
      | "ignore-missing" => return { v with missing := true }
      | "quiet" => return { v with quiet := true, silent := false, warn := false }
      | "status" => return { v with silent := true, quiet := false, warn := false }
      | "w" => return { v with warn := true, silent := false, quiet := false }
      | "strict" => return { v with strict := true }
      | "tag" => return { v with tagged := true, binary := some true }
      | _ => return { v with ending := '\x00' }
  if let some s := v.conflict? then misuse 1 s
  let mut status := 0
  for file in (if files.isEmpty then [['-']] else files) do
    if v.check then
      if !(← keepsPledges v (some m) file) then status := 1
    else match ← contentOr file with
      | some s => say (v.line m file (m.of s))
      | none => status := 1
  return status

/-! ## Sums -/

/-- The number of blocks that bytes fill. -/
def blocksOf (size : Nat) (s : Raw) : Nat := (s.length + size - 1) / size

/-- A line with a sum that is turned. -/
def rotatingLine (s : Raw) : Raw :=
  Raw.padLeft '0' 5 (ofNat (Digest.rotatingSum (s.map Char.toNat))) ++ [' '] ++
    Raw.padLeft ' ' 5 (ofNat (blocksOf 1024 s))

/-- A line with a plain sum. -/
def plainLine (s : Raw) : Raw :=
  ofNat (Digest.plainSum (s.map Char.toNat)) ++ [' '] ++ ofNat (blocksOf 512 s)

/-- A line with what is left of a division, and the number of bytes. -/
def crcLine (s : Raw) : Raw := ofNat (Digest.crc (s.map Char.toNat)) ++ [' '] ++ ofNat s.length

/-- A line for each file, which names it if it was an operand. -/
def summing (line : Raw → Raw) (ending : Char) (files : List Raw) : Act Nat := do
  let mut status := 0
  for file in (if files.isEmpty then [['-']] else files) do
    match ← contentOr file with
    | some s => say (line s ++ (if files.isEmpty then [] else ' ' :: file) ++ [ending])
    | none => status := 1
  return status

/-- Sums of bytes and numbers of blocks. -/
def sumTool : Tool := fun args => do
  let (plain, files) ← options "r s/sysv" args false fun _ key _ => return key == "s"
  summing (if plain then plainLine else rotatingLine) '\n' files

/-- Sums that tell whether files were changed, by a method that can be chosen. -/
def cksum : Tool := fun args => do
  let words := raw "bsd" :: raw "sysv" :: raw "crc" :: Method.all.map (·.1)
  let ((v, chosen), files) ← options
    "a/algorithm= c/check /debug /ignore-missing /quiet /status /strict /tag /untagged w/warn z/zero" args
    (({ tagged := true } : Digesting), (none : Option Raw))
    fun (v, chosen) key value => do
      match key with
      | "a" =>
        if words.contains value then return (v, some value)
        else badArgument value "--algorithm" (words.map String.ofList)
      | "c" => return ({ v with check := true }, chosen)
      | "ignore-missing" => return ({ v with missing := true }, chosen)
      | "quiet" => return ({ v with quiet := true, silent := false, warn := false }, chosen)
      | "status" => return ({ v with silent := true, quiet := false, warn := false }, chosen)
      | "w" => return ({ v with warn := true, silent := false, quiet := false }, chosen)
      | "strict" => return ({ v with strict := true }, chosen)
      | "tag" => return ({ v with tagged := true }, chosen)
      | "untagged" => return ({ v with tagged := false }, chosen)
      | "z" => return ({ v with ending := '\x00' }, chosen)
      | _ => return (v, chosen)
  let method := chosen.bind fun c => Method.all.lookup c
  if let some s := { v with tagged := false }.conflict? then misuse 1 s
  if v.check then
    let mut status := 0
    for file in (if files.isEmpty then [['-']] else files) do
      if !(← keepsPledges v method file) then status := 1
    return status
  match method with
  | some m =>
    let mut status := 0
    for file in (if files.isEmpty then [['-']] else files) do
      match ← contentOr file with
      | some s => say (v.line m file (m.of s))
      | none => status := 1
    return status
  | none =>
    let line := if chosen == some (raw "bsd") then rotatingLine
      else if chosen == some (raw "sysv") then plainLine else crcLine
    summing line v.ending files

end DocAudit.Shell.Tool
