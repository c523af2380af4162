import DocAudit.Shell.Arithmetic
import DocAudit.Shell.Pattern

/-!
# Expansion of words

Words become fields: values and outputs are put in, fields are cut at the separators that stand in parts
that are not quoted, and wild cards are replaced by the names of files.

## Contents

* `Atom`, `Piece`: what words become first
* `Splitting`: how pieces are cut into fields
* `Expander.parts`: the pieces of the parts of a word
* `matchingPaths`: the files that a pattern stands for
* `expandWords`, `expandText`, `expandPattern`: fields, a text, or a pattern
-/

namespace DocAudit.Shell

open Text

/-! ## Atoms and fields -/

/-- A character of a word after expansion, or the mark that there were quotes. -/
inductive Atom
  | char (c : Char) (quoted : Bool)
  | mark
  deriving DecidableEq, Repr

/-- Where a piece may be cut. -/
inductive Cutting
  /-- Nowhere. -/
  | never
  /-- At separators. -/
  | atSeparators
  /-- Only between the parameters of the shell. -/
  | atParameters
  deriving DecidableEq, Repr

/-- A piece of a word, in which the zero character stands between parameters. -/
structure Piece where
  atoms : List Atom
  cutting : Cutting
  deriving Repr

/-- A text as atoms. -/
def atomsOf (quoted : Bool) (s : Raw) : List Atom := s.map fun c => .char c quoted

/-- The text of atoms. -/
def textOf (atoms : List Atom) : Raw :=
  atoms.filterMap fun
    | .char c _ => some c
    | .mark => none

/-- The atoms as a pattern, in which quoted characters stand for themselves. -/
def patternOf (atoms : List Atom) : Raw :=
  atoms.flatMap fun
    | .char c true => ['\\', c]
    | .char c false => [c]
    | .mark => []

/-- The separators of fields when nothing else is said. -/
def usualSeparators : Raw := [' ', '\t', '\n']

/-- Fields under way: the finished ones and the atoms of the one that goes on, the last ones first. -/
structure Splitting where
  finished : List (List Atom) := []
  current : List Atom := []
  /-- A blank separator has just been passed. -/
  passing : Bool := false
  /-- The piece at work, or the one before it, is cut only between parameters. -/
  parameters : Bool := false
  /-- How many fields there may be besides those that are finished; nothing when any number is. -/
  left : Option Nat := none
  /-- So many atoms of the last field are kept, unless something other than a blank follows. -/
  kept : Option Nat := none

namespace Splitting

/-- An atom that belongs to the field. -/
def keep (s : Splitting) (a : Atom) : Splitting := { s with current := a :: s.current }

/-- One atom of a piece that can be cut. -/
def step (separators : Raw) (after : Bool) (s : Splitting) (a : Atom) : Splitting :=
  let c : Option Char := match a with
    | .char c _ => some c
    | .mark => none
  let ends := c.any fun c => c == '\x00' || separators.contains c
  let blank := ends && c.any fun c => c == '\x00' || usualSeparators.contains c
  if s.left == some 0 then
    if blank then
      if s.kept.isNone then { s with kept := some s.current.length }.keep a else s.keep a
    else
      let s := if ends && s.passing then s else { s with kept := none }
      { s.keep a with passing := false }
  else if s.passing && blank then { s with current := [] }
  else if s.passing && ends then { s with current := [], passing := false }
  else
    let s := if s.passing then { s with current := [] } else s
    if ends then
      let s := if after || s.parameters then s else { s with passing := blank }
      if s.current.isEmpty && s.passing then { s with passing := false }
      else if s.left == some 1 then
        { s with left := some 0, kept := some s.current.length }.keep a
      else { s with
        finished := s.current.reverse :: s.finished
        current := []
        left := s.left.map (· - 1) }
    else { s.keep a with passing := false }

/-- One piece. -/
def put (separators : Raw) (s : Splitting) (p : Piece) : Splitting :=
  match p.cutting with
  | .never => { s with current := p.atoms.reverse ++ s.current }
  | .atSeparators =>
    p.atoms.foldl (step separators s.parameters) { s with passing := false, parameters := false }
  | .atParameters =>
    p.atoms.foldl (step [] s.parameters) { s with passing := false, parameters := true }

/-- All fields. -/
def fields (s : Splitting) : List (List Atom) :=
  if s.parameters then (s.current.reverse :: s.finished).reverse
  else
    let last := match s.kept with
      | some n => s.current.reverse.take n
      | none => s.current.reverse
    if last.isEmpty then s.finished.reverse else (last :: s.finished).reverse

end Splitting

/-- The fields of pieces. A number may bound how many there are. -/
def splitPieces (separators : Raw) (most : Option Nat) (ps : List Piece) : List (List Atom) :=
  (ps.foldl (Splitting.put separators) { left := most }).fields

/-! ## Values -/

/-- The letters of settings in the order in which they are shown. -/
def modeLetters : Raw := "efIimnsxvVECabup".toList

/-- A value as a piece. -/
def valuePiece (quoted : Bool) (v : Raw) : Piece :=
  { atoms := atomsOf quoted v, cutting := if quoted then .never else .atSeparators }

/-- What the special names and the parameters stand for. -/
def specialValue? (s : Session) (name : Raw) : Option (Option Raw) :=
  match String.ofList name with
  | "?" => some (some (ofNat s.status))
  | "$" => some (some (ofNat s.known))
  | "#" => some (some (ofNat s.params.length))
  | "!" => some (s.background.map ofNat)
  | "-" => some (some (modeLetters.filter fun c => s.modes.contains [c]))
  | _ =>
    if name.all Char.isDigit then
      match (Raw.nat? name).getD 0 with
      | 0 => some (some s.name)
      | n + 1 => some s.params[n]?
    else none

/-- The separators of fields. -/
def separators : Act Raw := return (← Act.value? (raw "IFS")).getD usualSeparators

/-- The parameters as atoms, and where they may be cut. -/
def parameterAtoms (all quoted fields : Bool) : Act (List Atom × Cutting) := do
  let s ← Act.shell
  let between : Raw ←
    if fields && (all || !quoted) then pure ['\x00']
    else match ← Act.value? (raw "IFS") with
      | some ifs => pure (ifs.take 1)
      | none => pure [' ']
  let cutting : Cutting :=
    if quoted then (if all && fields && !s.params.isEmpty then .atParameters else .never) else .atSeparators
  let between := atomsOf quoted between
  return (List.intercalate between (s.params.map (atomsOf quoted)), cutting)

/-- A text without the longest or the shortest part at one of its ends that matches a pattern. -/
def trimmed (atStart longest : Bool) (pattern s : Raw) : Raw :=
  let signs := Pattern.read pattern
  let cuts := (List.range (s.length + 1)).filter fun n =>
    Pattern.accepts signs (if atStart then s.take n else s.drop n)
  match if longest == atStart then cuts.getLast? else cuts.head? with
  | some n => if atStart then s.drop n else s.take n
  | none => s

/-- The home directory of a user; of the one at work when there is no name. -/
def homeOf (name : Raw) : Act (Option Raw) := do
  if name.isEmpty then Act.value? (raw "HOME")
  else return if name == raw "root" then some (raw "/root") else none

/-- How a word is expanded. -/
structure Manner where
  /-- Its fields may be cut. -/
  fields : Bool := true
  /-- It stands in braces, where its own blanks are separators. -/
  inBraces : Bool := false
  /-- A tilde at its start is a home directory. -/
  tilde : Bool := true
  /-- So is a tilde behind a colon. -/
  colons : Bool := false
  deriving DecidableEq, Repr

/-- Pieces of a text that is not quoted. -/
def literalPiece (manner : Manner) (s : Raw) : Piece :=
  { atoms := atomsOf false s, cutting := if manner.inBraces then .atSeparators else .never }

/-- The pieces of a text that is not quoted, where a home directory may stand for a tilde. `open_` tells that
more follows, so that a name that goes on to the end is not known. The number bounds the length. -/
def tildePieces (manner : Manner) (open_ : Bool) : Nat → Raw → Act (List Piece)
  | 0, s => return [literalPiece manner s]
  | n + 1, s => do
    let behindColon (s : Raw) : Act (List Piece) := do
      if manner.colons then
        let first := s.takeWhile (· != ':')
        match s.drop first.length with
        | [] => return [literalPiece manner s]
        | _ :: rest =>
          return literalPiece manner (first ++ [':']) :: (← tildePieces manner open_ n rest)
      else return [literalPiece manner s]
    match s with
    | '~' :: r =>
      let name := r.takeWhile fun c => c != '/' && !(c == ':' && manner.colons)
      let rest := r.drop name.length
      let home? ← if rest.isEmpty && open_ then pure none else homeOf name
      match home? with
      | some home => return { atoms := atomsOf true home, cutting := .never } :: (← behindColon rest)
      | none => behindColon s
    | s => behindColon s

/-! ## Parts -/

/-- What expansion needs to know of the rest of a shell: what a script prints. -/
structure Expander where
  printed : Script → Act Raw

namespace Expander

/-- The value of a name as a piece. -/
def found (manner : Manner) (name : Raw) (quoted : Bool) : Act (Option Piece) := do
  if name == ['@'] || name == ['*'] then
    let (atoms, cutting) ← parameterAtoms (name == ['@']) quoted manner.fields
    return some { atoms, cutting }
  else
    let v ← match specialValue? (← Act.shell) name with
      | some v => pure v
      | none => Act.value? name
    return v.map (valuePiece quoted)

/-- A value that counts as one. -/
def given? (emptyToo : Bool) (p : Option Piece) : Option Piece :=
  p.filter fun p => !(emptyToo && p.atoms.isEmpty)

/-- The complaint about a name without a value. -/
def unset {α : Type} (name message : Raw) : Act α := Act.fault (name ++ raw ": " ++ message)

/-- The same where the shell insists on values. -/
def unsetIfAsked (name : Raw) (p : List Piece) : Act (List Piece) := do
  if ← Act.isOn "u" then unset name (raw "parameter not set") else return p

mutual

/-- The pieces of a part. `first` tells that it stands at the start of its word, `open_` that another part
follows. -/
def part (d : Expander) (manner : Manner) (first open_ : Bool) : Part → Act (List Piece)
  | .text s quoted => do
    if quoted then
      return [{ atoms := if s.isEmpty then [.mark] else atomsOf true s, cutting := .never }]
    else if manner.tilde && (first || manner.colons) then
      if first then tildePieces manner open_ (s.length + 1) s
      else
        let start := s.takeWhile (· != ':')
        match s.drop start.length with
        | [] => return [literalPiece manner s]
        | _ :: rest =>
          return literalPiece manner (start ++ [':']) ::
            (← tildePieces manner open_ (s.length + 1) rest)
    else return [literalPiece manner s]
  | .output script quoted => do
    let v ← d.printed script
    return [valuePiece quoted v]
  | .sum expression quoted => do
    let pieces ← parts d { fields := false, tilde := false } false expression
    let v ← Arithmetic.value (textOf (pieces.flatMap (·.atoms)))
    return [valuePiece quoted (ofInt v)]
  | .value name use quoted => value d manner name quoted use

/-- The pieces of a value that is used in some way. -/
def value (d : Expander) (manner : Manner) (name : Raw) (quoted : Bool) : ValueUse → Act (List Piece)
  | .malformed => Act.fault (raw "Bad substitution")
  | .plain => do
    match ← found manner name quoted with
    | some p => return [p]
    | none => unsetIfAsked name []
  | .length => do
    match ← found { manner with fields := false } name quoted with
    | some p => return [valuePiece quoted (ofNat (textOf p.atoms).length)]
    | none => unsetIfAsked name [valuePiece quoted ['0']]
  | .otherwise emptyToo w => do
    match given? emptyToo (← found manner name quoted) with
    | some p => return [p]
    | none => parts d { manner with inBraces := !quoted, tilde := !quoted } true w
  | .instead emptyToo w => do
    match given? emptyToo (← found manner name quoted) with
    | some _ => parts d { manner with inBraces := !quoted, tilde := !quoted } true w
    | none => return []
  | .assigned emptyToo w => do
    match given? emptyToo (← found manner name quoted) with
    | some p => return [p]
    | none =>
      let pieces ← parts d { fields := false, tilde := !quoted } true w
      let v := textOf (pieces.flatMap (·.atoms))
      if !isName name then Act.fault (name ++ raw ": bad variable name")
      Act.assign name v
      return [valuePiece quoted v]
  | .demanded emptyToo w => do
    match given? emptyToo (← found manner name quoted) with
    | some p => return [p]
    | none =>
      let pieces ← parts d { fields := false, tilde := !quoted } true w
      unset name
        (if !w.isEmpty then textOf (pieces.flatMap (·.atoms))
        else if emptyToo then raw "parameter not set or null" else raw "parameter not set")
  | .without atStart longest w => do
    match ← found { manner with fields := false } name quoted with
    | none => unsetIfAsked name []
    | some p =>
      let pieces ← parts d { fields := false } true w
      let v := trimmed atStart longest (patternOf (pieces.flatMap (·.atoms))) (textOf p.atoms)
      return [valuePiece quoted v]

/-- The pieces of parts that follow each other. -/
def parts (d : Expander) (manner : Manner) (first : Bool) : List Part → Act (List Piece)
  | [] => return []
  | p :: rest => do
    let pieces ← part d manner first (!rest.isEmpty) p
    return pieces ++ (← parts d manner false rest)

end

end Expander

/-! ## Names of files -/

/-- The part of a pattern up to a slash that follows something wild, and what stands behind that slash;
nothing where the pattern ends first. -/
def wildComponent : (wild : Bool) → (soFar : Raw) → Raw → Raw × Option Raw
  | _, soFar, [] => (soFar.reverse, none)
  | wild, soFar, '/' :: r =>
    if wild then (soFar.reverse, some r) else wildComponent false ('/' :: soFar) r
  | wild, soFar, '\\' :: c :: r =>
    if c == '/' then
      if wild then (soFar.reverse, some r) else wildComponent false ('/' :: soFar) r
    else wildComponent wild (c :: '\\' :: soFar) r
  | wild, soFar, c :: r =>
    wildComponent (wild || c == '*' || c == '?' || (c == '[' && Pattern.isWild (c :: r.takeWhile (· != '/'))))
      (c :: soFar) r

/-- The paths that the pattern stands for, of which a part has been found already. The number bounds the
slashes. -/
def pathsBelow (t : FileTree) (cwd : List Text) : Nat → (found pattern : Raw) → List Raw
  | 0, _, _ => []
  | n + 1, found, pattern =>
    let (component, rest) := wildComponent false [] pattern
    let last := (component.reverse.takeWhile (· != '/')).reverse
    let before := component.take (component.length - last.length)
    if !Pattern.isWild last then
      let path := found ++ Pattern.unescape pattern
      if (Disk.stat? t cwd path false).isSome then [path] else []
    else
      let dir := found ++ Pattern.unescape before
      match Disk.stat t cwd (if dir.isEmpty then ['.'] else dir) with
      | .ok (names, .dir) =>
        let hidden := (Pattern.unescape last).head? == some '.'
        let signs := Pattern.read last
        let own := ([['.'], ['.', '.']] ++ Disk.list t names).filter fun name =>
          (hidden || name.head? != some '.') && Pattern.accepts signs name
        match rest with
        | none => own.map (dir ++ ·)
        | some rest => own.flatMap fun name => pathsBelow t cwd n (dir ++ name ++ ['/']) rest
      | _ => []

/-- The paths that a pattern stands for, in the order of their bytes. -/
def matchingPaths (t : FileTree) (cwd : List Text) (pattern : Raw) : List Raw :=
  (pathsBelow t cwd (pattern.length + 1) [] pattern).mergeSort le

/-- A field as texts: the files that it stands for, or itself. -/
def fieldTexts (field : List Atom) : Act (List Raw) := do
  let pattern := patternOf field
  if (← Act.isOn "f") || !Pattern.isWild pattern then return [textOf field]
  let m ← get
  match matchingPaths m.tree m.shell.place pattern with
  | [] => return [textOf field]
  | paths => return paths

/-! ## Words -/

/-- The fields of a word. -/
def expandWord (d : Expander) (w : Word) : Act (List Raw) := do
  let pieces ← d.parts {} true w
  let fields := splitPieces (← separators) none pieces
  return (← fields.mapM fieldTexts).flatten

/-- The fields of words. -/
def expandWords (d : Expander) (ws : List Word) : Act (List Raw) := do
  return (← ws.mapM (expandWord d)).flatten

/-- The text of a word that stands where no fields are made. -/
def expandText (d : Expander) (w : Word) : Act Raw := do
  return textOf ((← d.parts { fields := false } true w).flatMap (·.atoms))

/-- The text of a word that is assigned. -/
def expandAssigned (d : Expander) (w : Word) : Act Raw := do
  return textOf ((← d.parts { fields := false, colons := true } true w).flatMap (·.atoms))

/-- The pattern that a word stands for. -/
def expandPattern (d : Expander) (w : Word) : Act Raw := do
  return patternOf ((← d.parts { fields := false } true w).flatMap (·.atoms))

end DocAudit.Shell
