import DocAudit.Shell.Tool.Naming

/-!
# Copying, moving and linking

The three tools find the place for each of their operands in the same way: the last operand is a name for
the only other one, or a directory for all of them.

## Contents

* `Placing`, `placesOf`: from where, to where
* `cp`, `mv`, `ln`: the tools
* `link`, `unlink`: the same for single files, without more ado
-/

namespace DocAudit.Shell.Tool

open Text Act

/-! ## Places -/

/-- How the place for operands is found. -/
structure Placing where
  /-- The directory into which everything goes. -/
  into : Option Raw := none
  /-- The last operand is a name in any case. -/
  exact : Bool := false
  /-- Links are not followed to find out whether there is a directory. -/
  linkless : Bool := false
  deriving Repr

/-- There is a directory at the path. -/
def isDirAt (path : Raw) (followLast : Bool := true) : Act Bool := do
  match ← stat path followLast with
  | .ok (_, .dir) => return true
  | _ => return false

/-- The operands with their places, and whether these are inside of a directory. -/
def placesOf (p : Placing) (operands : List Raw) : Act (List (Raw × Raw) × Bool) := do
  let inside (dir : Raw) (sources : List Raw) : List (Raw × Raw) × Bool :=
    (sources.map fun s => (s, under dir (lastName s)), true)
  if operands.isEmpty then misuse 1 (raw "missing file operand")
  match p.into with
  | some dir =>
    match ← stat dir with
    | .ok (_, .dir) => return inside dir operands
    | .ok _ =>
      giveUp 1 (raw "target directory " ++ Quoted.always dir ++ raw ": " ++ FileFault.notDir.message)
    | .error f => giveUp 1 (raw "target directory " ++ Quoted.always dir ++ raw ": " ++ f.message)
  | none =>
    match operands with
    | [only] =>
      if (← shell).name == raw "ln" && !p.exact then return inside ['.'] operands
      misuse 1 (raw "missing destination file operand after " ++ Quoted.always only)
    | [source, target] =>
      if p.exact then return ([(source, target)], false)
      if ← isDirAt target (!p.linkless) then return inside target [source]
      return ([(source, target)], false)
    | operands =>
      if p.exact then misuse 1 (raw "extra operand " ++ Quoted.always ((operands[2]?).getD []))
      let target := operands.getLastD []
      match ← stat target with
      | .ok (_, .dir) => return inside target operands.dropLast
      | .ok _ => giveUp 1 (raw "target " ++ Quoted.always target ++ raw ": " ++ FileFault.notDir.message)
      | .error f => giveUp 1 (raw "target " ++ Quoted.always target ++ raw ": " ++ f.message)

/-! ## What is there already -/

/-- What is done with something that is in the way. -/
inductive Overwriting
  | always
  | ask
  | never
  /-- Only what is older is replaced. -/
  | older
  deriving DecidableEq, Repr

/-- How a copy of what is in the way is named. -/
structure Backup where
  numbered : Bool := false
  suffix : Raw := ['~']
  deriving Repr

/-- The name of such a copy. -/
def Backup.name (b : Backup) (path : Raw) : Act Raw := do
  if !b.numbered then return path ++ b.suffix
  let t ← tree
  let place := (← shell).place
  let free := (List.range 1000).find? fun n =>
    (Disk.stat? t place (path ++ raw ".~" ++ ofNat (n + 1) ++ raw "~") false).isNone
  return path ++ raw ".~" ++ ofNat (free.getD 0 + 1) ++ raw "~"

/-- What is in the way gets another name. -/
def Backup.make (b : Backup) (path : Raw) : Act Raw := do
  let copy ← b.name path
  match ← locate path false, ← locate copy false with
  | .ok old, .ok new =>
    let _ ← change fun t => .ok (Disk.move (Disk.erase t new) old new)
  | _, _ => pure ()
  return copy

/-- The kind of copies that an option asks for. -/
def Backup.ofOption (value : Raw) (b : Option Backup) : Act (Option Backup) := do
  let b := b.getD {}
  match String.ofList value with
  | "" => return some b
  | "none" => return none
  | "off" => return none
  | "numbered" => return some { b with numbered := true }
  | "t" => return some { b with numbered := true }
  | "simple" => return some { b with numbered := false }
  | "never" => return some { b with numbered := false }
  | "existing" => return some b
  | "nil" => return some b
  | _ => badArgument value "backup type" ["none off", "simple never", "existing nil", "numbered t"]

/-! ## Copies -/

/-- How files are copied. -/
structure Copying where
  placing : Placing := {}
  recursive : Bool := false
  /-- Links are followed always or never; otherwise they are, unless directories are copied. -/
  follow : Option Bool := none
  followOperands : Bool := false
  overwriting : Overwriting := .always
  force : Bool := false
  removing : Bool := false
  verbose : Bool := false
  keeping : Bool := false
  links : Option Bool := none
  withParents : Bool := false
  contents : Bool := true
  backup : Option Backup := none
  deriving Repr

/-- A file of its own at a place, with permissions. -/
def putEntry (names : List Text) (entry : Entry) (mode : Option Nat) : Act (Option FileFault) := do
  match ← change fun t => Disk.add t names entry with
  | some f => return some f
  | none => match mode with
    | some m => change fun t => .ok (Disk.setMode t names m)
    | none => return none

/-- Why a new thing cannot be made at a path that ends in a slash or leads nowhere. -/
def newPlace (path : Raw) : Act (Except FileFault (List Text)) := do
  match ← locate (withoutSlashes path) false with
  | .error f => return .error f
  | .ok names =>
    if path.getLast? == some '/' then
      match ← stat path false with
      | .error .noEntry => return .error .notDir
      | _ => return .ok names
    return .ok names

/-- The first names of a path agree with another one. -/
def isWithin (outer inner : List Text) : Bool := outer.isPrefixOf inner

/-- A directory that would be copied into itself. -/
def copiesItself (source target : Raw) : Act Bool := do
  grumble (raw "cannot copy a directory, " ++ Quoted.always source ++ raw ", into itself, " ++
    Quoted.always target)
  return false

/-- Copies from and to paths; the first argument is the directory that was made first. -/
abbrev Copier := List Text → (source target : Raw) → Act Bool

/-- Names in a directory are copied into another one. -/
def copyChildren (copy : Copier) (names top : List Text) (source target : Raw) (children : List Raw) :
    Act Bool := do
  let mut good := true
  for child in children do
    if names ++ [Raw.text child] != top then
      if !(← copy top (under source child) (under target child)) then good := false
  return good

/-- The place of a new file; a link that leads nowhere is followed or not. -/
def newFilePlace (target : Raw) (followLast : Bool) : Act (Except FileFault (List Text)) := do
  match ← newPlace target with
  | .error f => return .error f
  | .ok there =>
    match ← locate target followLast with
    | .ok names => return .ok names
    | .error _ => return .ok there

/-- A new thing like another one. -/
def createCopy (v : Copying) (copy : Copier) (top : Option (List Text)) (source target : Raw)
    (names : List Text) (node : Node) (report : Act Unit) : Act Bool := do
  let mask := (← shell).mask
  let old := Disk.mode (← tree) names
  let mode := if v.keeping then old else old &&& (0o777 - mask % 0o1000)
  match node with
  | .dir =>
    let children := Disk.list (← tree) names
    match ← locate (withoutSlashes target) false with
    | .error f =>
      cannot "cannot create directory" target f
      return false
    | .ok there =>
      match ← putEntry there .dir (if mode == 0o755 then none else some mode) with
      | some f =>
        cannot "cannot create directory" target f
        return false
      | none =>
        report
        let good ← copyChildren copy names (top.getD there) source target children
        if isWithin names there && top.isNone then return ← copiesItself source target
        return good && !isWithin names there
  | _ =>
    let kind := match v.links, node with
      | some true, _ => "cannot create symbolic link"
      | some false, _ => "cannot create hard link"
      | none, .link _ => "cannot create symbolic link"
      | none, _ => "cannot create regular file"
    let failed (f : FileFault) : Act Bool := do
      if v.links.isSome then
        grumble (raw kind ++ raw " " ++ Quoted.always target ++ raw " to " ++ Quoted.always source ++
          raw ": " ++
          f.message)
      else cannot kind target f
      return false
    let isLink : Bool := match node with
      | .link _ => true
      | _ => false
    match ← newFilePlace target (v.links.isNone && !isLink) with
    | .error f => failed f
    | .ok there =>
      let entry : Entry ← match v.links, node with
        | some true, _ => pure (.link (Raw.text source))
        | _, .link t => pure (.link (Raw.text t))
        | _, .file s => pure (.file (Raw.bytes (if v.contents then s else [])))
        | _, _ =>
          match ← content source false with
          | .ok s => pure (.file (Raw.bytes s))
          | .error _ => pure (.file [])
      let isFile : Bool := match entry with
        | .file _ => true
        | _ => false
      match ← putEntry there entry (if isFile && mode != 0o644 then some mode else none) with
      | some f => failed f
      | none =>
        report
        return true

/-- Copies what is at a path. `top` tells that it is an operand, and the number bounds how deep it is. -/
def copyTree (v : Copying) : Nat → (top : Option (List Text)) → (source target : Raw) → Act Bool
  | 0, _, _, _ => return false
  | n + 1, top, source, target => do
    let copy : Copier := fun top source target => copyTree v n (some top) source target
    let followsLast := match v.follow with
      | some f => f || (v.followOperands && top.isNone)
      | none => !v.recursive || (v.followOperands && top.isNone)
    let say_ (more : Raw) : Act Unit := do
      if v.verbose then say (Quoted.always source ++ raw " -> " ++ Quoted.always target ++ more ++ ['\n'])
    match ← stat source followsLast with
    | .error f =>
      cannot "cannot stat" source f
      return false
    | .ok (names, node) =>
      if node == .dir && !v.recursive then
        grumble (raw "-r not specified; omitting directory " ++ Quoted.always source)
        return false
      let isLink : Bool := match node with
        | .link _ => true
        | _ => false
      match ← stat target (!isLink) with
      | .error f =>
        if f != .noEntry && f != .tooManyLinks then
          cannot "cannot stat" target f
          return false
        let dangling : Bool := match ← stat target false with
          | .ok _ => true
          | .error _ => false
        if dangling && !isLink && !v.removing && node != .dir then
          grumble (raw "not writing through dangling symlink " ++ Quoted.always target)
          return false
        createCopy v copy top source target names node (say_ [])
      | .ok (there, old) =>
        if there == names && !(v.force && v.backup.isSome) then
          if node == .dir then
            return ← copiesItself source target
          grumble (Quoted.always source ++ raw " and " ++ Quoted.always target ++ raw " are the same file")
          return false
        if node == .dir && old != .dir then
          grumble (raw "cannot overwrite non-directory " ++ Quoted.always target ++ raw " with directory " ++
            Quoted.always source)
          return false
        if node != .dir && old == .dir then
          grumble (raw "cannot overwrite directory " ++ Quoted.always target ++ raw " with non-directory")
          return false
        if node == .dir then
          if isWithin names there then return ← copiesItself source target
          copyChildren copy names (top.getD there) source target (Disk.list (← tree) names)
        else
          match v.overwriting with
          | .never => return true
          | .older => return true
          | .ask =>
            if !(← ask (raw "overwrite " ++ Quoted.always target ++ raw "? ")) then return false
          | .always => pure ()
          match v.backup with
          | some b =>
            let saved ← b.make target
            createCopy v copy top source target names node (say_ (raw " (backup: " ++ Quoted.always saved ++
              raw ")"))
          | none =>
            if isLink || v.removing || v.links.isSome then
              if v.links.isSome && !(v.force || v.removing) then
                let kind := if v.links == some true then "symbolic link " else "hard link "
                grumble (raw "cannot create " ++ raw kind ++ Quoted.always target ++ raw " to " ++
                  Quoted.always source ++ raw ": " ++ FileFault.exists.message)
                return false
              let _ ← change fun t => .ok (Disk.erase t there)
              createCopy v copy top source target names node (say_ [])
            else match node, old with
              | .file content, .file _ =>
                say_ []
                if v.contents then
                  let _ ← change fun t => Disk.setContent t there content
                if v.keeping then
                  let mode := Disk.mode (← tree) names
                  let _ ← change fun t => .ok (Disk.setMode t there mode)
                return true
              | _, .device _ =>
                say_ []
                return true
              | .device _, .file _ =>
                say_ []
                match ← content source false with
                | .ok s =>
                  let _ ← change fun t => Disk.setContent t there s
                  return true
                | .error f =>
                  cannot "error reading" source f
                  return false
              | _, _ => return true

/-- Copies files and directories. -/
def cp : Tool := fun args => do
  let (v, operands) ← options ("a/archive /attributes-only b /backup% /copy-contents /debug d " ++
      "L/dereference f/force H i/interactive l/link n/no-clobber P/no-dereference /no-preserve= " ++
      "T/no-target-directory x/one-file-system /parents /path p /preserve% r/recursive R " ++
      "/remove-destination /reflink% /sparse= /strip-trailing-slashes S/suffix= s/symbolic-link " ++
      "t/target-directory= u /update% v/verbose Z /context%")
      args ({} : Copying) fun v key value => do
    match key with
    | "a" => return { v with recursive := true, follow := some false, keeping := true }
    | "attributes-only" => return { v with contents := false }
    | "b" => return { v with backup := some (v.backup.getD {}) }
    | "backup" => return { v with backup := ← Backup.ofOption value v.backup }
    | "S" => return { v with backup := some { v.backup.getD {} with suffix := value } }
    | "d" => return { v with follow := some false }
    | "L" => return { v with follow := some true }
    | "P" => return { v with follow := some false }
    | "H" => return { v with followOperands := true }
    | "f" => return { v with force := true }
    | "i" => return { v with overwriting := .ask }
    | "n" => return { v with overwriting := .never }
    | "u" => return { v with overwriting := .older }
    | "update" =>
      match String.ofList value with
      | "all" => return { v with overwriting := .always }
      | "none" => return { v with overwriting := .never }
      | _ => return { v with overwriting := .older }
    | "l" => return { v with links := some false }
    | "s" => return { v with links := some true }
    | "T" => return { v with placing := { v.placing with exact := true } }
    | "t" => return { v with placing := { v.placing with into := some value } }
    | "parents" => return { v with withParents := true }
    | "p" => return { v with keeping := true }
    | "preserve" => return { v with keeping := true }
    | "r" => return { v with recursive := true }
    | "R" => return { v with recursive := true }
    | "remove-destination" => return { v with removing := true }
    | "v" => return { v with verbose := true }
    | _ => return v
  if (args.takeWhile (· != raw "--")).any fun a => a == raw "--no-clobber" ||
      (match a with | '-' :: c :: r => c != '-' && (c :: r).contains 'n' | _ => false) then
    if v.overwriting == .never then
      grumble (raw "warning: behavior of -n is non-portable and may change in future; " ++
        raw "use --update=none instead")
  let (places, inside) ← placesOf v.placing operands
  if v.withParents && !inside then
    misuse 1 (raw "with --parents, the destination must be a directory")
  let mut status := 0
  let mut seen : List (List Text) := []
  for (source, target) in places do
    let place ← stat source
    let again : Bool := match place with
      | .ok (names, .file _) => inside && seen.contains names
      | _ => false
    if again then
      grumble (raw "warning: source file " ++ Quoted.always source ++ raw " specified more than once")
    else
      if let .ok (names, _) := place then seen := names :: seen
      let target ← if v.withParents then do
          let dir := target.take (target.length - (lastName source).length)
          let target := under dir source
          let names := (splitAt '/' target).filter (!·.isEmpty)
          let _ ← makeDirs false (← newDirMode) target [] names.dropLast
          pure target
        else pure target
      if !(← copyTree v depthLimit none source target) then status := 1
  return status

/-! ## Moves -/

/-- How files are moved. -/
structure Moving where
  placing : Placing := {}
  overwriting : Overwriting := .always
  verbose : Bool := false
  backup : Option Backup := none
  deriving Repr

/-- Moves what is at a path. -/
def moveTo (v : Moving) (source target : Raw) : Act Bool := do
  match ← stat source false with
  | .error f =>
    cannot "cannot stat" source f
    return false
  | .ok (names, node) =>
    let moveFault (f : FileFault) : Act Bool := do
      grumble (raw "cannot move " ++ Quoted.always source ++ raw " to " ++ Quoted.always target ++ raw ": " ++
        f.message)
      return false
    let name := lastName source
    if name == ['.'] || name == ['.', '.'] || names.isEmpty then return ← moveFault .busy
    let target' := if node == .dir then withoutSlashes target else target
    let place : Except FileFault (List Text) ← if node == .dir then locate target' false else newPlace target
    let existing ← stat target' false
    let real ← stat source
    match existing with
    | .ok (there, old) =>
      let same : Bool := there == names || (match node, real with
        | .link _, .ok (led, _) => led == there
        | _, _ => false)
      if same then
        grumble (Quoted.always source ++ raw " and " ++ Quoted.always target ++ raw " are the same file")
        return false
      if node == .dir && old != .dir then
        grumble (raw "cannot overwrite non-directory " ++ Quoted.always target ++ raw " with directory " ++
          Quoted.always source)
        return false
      if node != .dir && old == .dir then
        grumble (raw "cannot overwrite directory " ++ Quoted.always target ++ raw " with non-directory")
        return false
      if isWithin names there then
        grumble (raw "cannot move " ++ Quoted.always source ++ raw " to a subdirectory of itself, " ++
          Quoted.always target)
        return false
      match v.overwriting with
      | .never =>
        grumble (raw "not replacing " ++ Quoted.always target)
        return false
      | .older => return true
      | .ask =>
        if !(← ask (raw "overwrite " ++ Quoted.always target ++ raw "? ")) then return false
      | .always => pure ()
      if old == .dir && !(Disk.list (← tree) there).isEmpty && v.backup.isNone then
        cannot "cannot overwrite" target .notEmpty
        return false
      let more ← match v.backup with
        | some b => pure (raw " (backup: " ++ Quoted.always (← b.make target) ++ raw ")")
        | none => do
          let _ ← change fun t => .ok (Disk.erase t there)
          pure []
      let _ ← change fun t => .ok (Disk.move t names there)
      report more
      return true
    | .error f =>
      if target.isEmpty then
        if node == .dir then return ← moveFault .busy
        grumble (raw "cannot overwrite directory " ++ Quoted.always target ++ raw " with non-directory")
        return false
      if f != .noEntry then
        if f == .notDir || f == .tooManyLinks || f == .nameTooLong then
          if f == .notDir && !(target.getLast? == some '/') then
            cannot "cannot stat" target f
            return false
        return ← moveFault f
      match place with
      | .error f => moveFault f
      | .ok there =>
        if isWithin names there then
          grumble (raw "cannot move " ++ Quoted.always source ++ raw " to a subdirectory of itself, " ++
            Quoted.always target)
          return false
        match Disk.node? (← tree) there.dropLast with
        | some .dir =>
          let _ ← change fun t => .ok (Disk.move t names there)
          report []
          return true
        | some _ => moveFault .notDir
        | none => moveFault .noEntry
where
  /-- What was done is told. -/
  report (more : Raw) : Act Unit := do
    if v.verbose then
      say (raw "renamed " ++ Quoted.always source ++ raw " -> " ++ Quoted.always target ++ more ++ ['\n'])

/-- Moves files and directories. -/
def mv : Tool := fun args => do
  let (v, operands) ← options ("/backup% b Z/context f/force i/interactive n/no-clobber /no-copy " ++
      "T/no-target-directory /strip-trailing-slashes S/suffix= t/target-directory= u /update% v/verbose " ++
      "/debug")
      args ({} : Moving) fun v key value => do
    match key with
    | "backup" => return { v with backup := ← Backup.ofOption value v.backup }
    | "b" => return { v with backup := some (v.backup.getD {}) }
    | "S" => return { v with backup := some { v.backup.getD {} with suffix := value } }
    | "f" => return { v with overwriting := .always }
    | "i" => return { v with overwriting := .ask }
    | "n" => return { v with overwriting := .never }
    | "u" => return { v with overwriting := .older }
    | "update" => return { v with overwriting := if value == raw "all" then .always else .older }
    | "T" => return { v with placing := { v.placing with exact := true } }
    | "t" => return { v with placing := { v.placing with into := some value } }
    | "v" => return { v with verbose := true }
    | _ => return v
  let (places, _) ← placesOf v.placing operands
  let mut status := 0
  for (source, target) in places do
    if !(← moveTo v source target) then status := 1
  return status

/-! ## Links -/

/-- How links are made. -/
structure Linking where
  placing : Placing := {}
  symbolic : Bool := false
  relative : Bool := false
  force : Bool := false
  asking : Bool := false
  verbose : Bool := false
  followed : Bool := false
  backup : Option Backup := none
  deriving Repr

/-- Makes a link. -/
def linkTo (v : Linking) (source target : Raw) : Act Bool := do
  let kind := if v.symbolic then "symbolic link" else "hard link"
  let linkFault (f : FileFault) : Act Bool := do
    grumble (raw "failed to create " ++ raw kind ++ raw " " ++ Quoted.always target ++
      (if source.isEmpty && v.symbolic then raw " -> " ++ Quoted.always source
        else if !v.symbolic && f != .exists then raw " => " ++ Quoted.always source else []) ++
      raw ": " ++ f.message)
    return false
  let origin ← if v.symbolic then pure (.ok ([], .program)) else stat source v.followed
  match origin with
  | .error f =>
    cannot "failed to access" source f
    return false
  | .ok (names, node) =>
    if node == .dir then
      grumble (Quoted.ifNeeded source ++ raw ": hard link not allowed for directory")
      return false
    if source.isEmpty then return ← linkFault .noEntry
    let mut more : Raw := []
    match ← stat target false with
    | .ok (there, old) =>
      if v.force || v.asking || v.backup.isSome then
        let led ← locate (if source.head? == some '/' then source
          else target.take (target.length - (lastName target).length) ++ source)
        let same : Bool := if v.symbolic then (match led with | .ok led => led == there | .error _ => false)
          else there == names
        if same && v.backup.isNone then
          grumble (Quoted.always source ++ raw " and " ++ Quoted.always target ++ raw " are the same file")
          return false
        if old == .dir then
          grumble (Quoted.ifNeeded target ++ raw ": cannot overwrite directory")
          return false
        if v.asking then
          if !(← ask (raw "replace " ++ Quoted.always target ++ raw "? ")) then return false
        match v.backup with
        | some b => more := raw " ~ " ++ Quoted.always (← b.make target)
        | none =>
          let _ ← change fun t => .ok (Disk.erase t there)
      else return ← linkFault .exists
    | .error .noEntry => pure ()
    | .error f => return ← linkFault f
    match ← newPlace target with
    | .error f => linkFault f
    | .ok there =>
      let text ← if v.symbolic && v.relative then
          match ← locate source with
          | .ok led => pure (pathBetween there.dropLast led)
          | .error _ => pure source
        else pure source
      let entry : Entry := if v.symbolic then .link (Raw.text text) else match node with
        | .file s => .file (Raw.bytes s)
        | .link s => .link (Raw.text s)
        | _ => .file []
      let mode := Disk.mode (← tree) names
      match ← putEntry there entry (if v.symbolic || mode == 0o644 then none else some mode) with
      | some f => linkFault f
      | none =>
        if v.verbose then
          let arrow := if v.symbolic then " -> " else " => "
          say ((if more.isEmpty then [] else more.drop 3 ++ raw " ~ ") ++ Quoted.always target ++ raw arrow ++
            Quoted.always text ++ ['\n'])
        return true

/-- Makes links. -/
def ln : Tool := fun args => do
  let (v, operands) ← options ("/backup% b d/directory F f/force i/interactive S/suffix= " ++
      "t/target-directory= L/logical n/no-dereference P/physical r/relative s/symbolic " ++
      "T/no-target-directory v/verbose")
      args ({} : Linking) fun v key value => do
    match key with
    | "backup" => return { v with backup := ← Backup.ofOption value v.backup }
    | "b" => return { v with backup := some (v.backup.getD {}) }
    | "S" => return { v with backup := some { v.backup.getD {} with suffix := value } }
    | "f" => return { v with force := true, asking := false }
    | "i" => return { v with force := false, asking := true }
    | "L" => return { v with followed := true }
    | "P" => return { v with followed := false }
    | "n" => return { v with placing := { v.placing with linkless := true } }
    | "r" => return { v with relative := true }
    | "s" => return { v with symbolic := true }
    | "t" => return { v with placing := { v.placing with into := some value } }
    | "T" => return { v with placing := { v.placing with exact := true } }
    | "v" => return { v with verbose := true }
    | _ => return v
  if v.relative && !v.symbolic then giveUp 1 (raw "cannot do --relative without --symbolic")
  let (places, _) ← placesOf v.placing operands
  let mut status := 0
  for (source, target) in places do
    if !(← linkTo v source target) then status := 1
  return status

/-- Makes one link that is not symbolic. -/
def link : Tool := fun args => do
  let (_, operands) ← options "" args () fun s _ _ => return s
  match operands with
  | [] => missingOperand
  | [a] => missingOperandAfter a
  | [a, b] =>
    let made ← stat a false
    let taken ← stat b false
    let place ← newPlace b
    let failed (f : FileFault) : Act Nat := do
      grumble (raw "cannot create link " ++ Quoted.always b ++ raw " to " ++ Quoted.always a ++ raw ": " ++
        f.message)
      return 1
    match made, taken, place with
    | .error f, _, _ => failed f
    | _, .ok _, _ => failed .exists
    | _, _, .error f => failed f
    | .ok (_, .dir), _, _ => failed .notPermitted
    | .ok (_, node), .error _, .ok there =>
      let entry : Entry := match node with
        | .file s => .file (Raw.bytes s)
        | .link s => .link (Raw.text s)
        | _ => .file []
      match ← putEntry there entry none with
      | some f => failed f
      | none => return 0
  | _ :: _ :: c :: _ => extraOperand c

/-- Removes one file. -/
def unlink : Tool := fun args => do
  let (_, operands) ← options "" args () fun s _ _ => return s
  match operands with
  | [] => missingOperand
  | [a] =>
    match ← stat a false with
    | .error f =>
      cannot "cannot unlink" a f
      return 1
    | .ok (_, .dir) =>
      cannot "cannot unlink" a .isDir
      return 1
    | .ok (names, _) =>
      let _ ← change fun t => .ok (Disk.erase t names)
      return 0
  | _ :: b :: _ => extraOperand b

end DocAudit.Shell.Tool
