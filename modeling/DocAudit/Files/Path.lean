import DocAudit.Text.Basic

/-!
# Paths

A path is a root and a list of names. Reading a path drops empty names and single dots; two dots stay,
because only the files tell what they mean.

## Contents

* `Path.ofText`, `Path.text`
* `Path.name`, `Path.suffix`, `Path.parent`
* `Path.join`, `Path.relativeTo?`, `Path.collapse`
* `Path.le`: the order of the lists of components, which is not the order of the texts
-/

namespace DocAudit

open Text

/-- A path. The root is empty, one slash or two. -/
structure Path where
  root : Text
  names : List Text
  deriving DecidableEq, Repr, Inhabited

namespace Path

/-- The root at the start of a text: two slashes count only when no third follows. -/
def rootOf : Text → Text
  | '/' :: '/' :: '/' :: _ => ['/']
  | '/' :: '/' :: _ => ['/', '/']
  | '/' :: _ => ['/']
  | _ => []

/-- The path that a text names. -/
def ofText (s : Text) : Path where
  root := rootOf s
  names := (splitAt '/' s).filter fun name => !name.isEmpty && name != ['.']

/-- The text of a path; the empty path is a dot. -/
def text (p : Path) : Text :=
  if p.root.isEmpty && p.names.isEmpty then ['.'] else p.root ++ joinWith ['/'] p.names

/-- The path starts at a root. -/
def isAbsolute (p : Path) : Bool := !p.root.isEmpty

/-- The last name, empty when there is none. -/
def name (p : Path) : Text := p.names.getLastD []

/-- A name in front of its last dot, and from the dot on. A dot at either end does not count. -/
def suffixOf (name : Text) : Text :=
  let tail := (name.reverse.takeWhile (· != '.')).reverse
  if tail.length + 1 < name.length && !tail.isEmpty then '.' :: tail else []

/-- The part of the last name from its last dot on. -/
def suffix (p : Path) : Text := suffixOf p.name

/-- The path without its last name. -/
def parent (p : Path) : Path := { p with names := p.names.dropLast }

/-- The path `q`, starting from `p` unless it has a root of its own. -/
def join (p q : Path) : Path :=
  if q.isAbsolute then q else { p with names := p.names ++ q.names }

/-- The components: the root, when there is one, and the names. -/
def components (p : Path) : List Text := if p.isAbsolute then p.root :: p.names else p.names

/-- The path from `base` to `p`, when `base` is a beginning of `p`. -/
def relativeTo? (p base : Path) : Option Path :=
  if base.components.isPrefixOf p.components && (base.isAbsolute || !p.isAbsolute) then
    some { root := [], names := p.names.drop base.names.length }
  else none

/-- The text of the path from `base` to `p`, or of `p` itself when `base` is no beginning of it. -/
def relativeText (p base : Path) : Text := ((p.relativeTo? base).getD p).text

/-- One name more, where two dots take the last name away. -/
def collapseStep (names : List Text) (name : Text) : List Text :=
  if name = ['.', '.'] then names.dropLast else names ++ [name]

/-- The names of an absolute path after all steps upwards were taken. -/
def collapse (p : Path) : Path where
  root := ['/']
  names := p.names.foldl collapseStep []

/-- The order of two lists of components. -/
def leComponents : List Text → List Text → Bool
  | [], _ => true
  | _ :: _, [] => false
  | a :: s, b :: t => if a = b then leComponents s t else le a b

/-- The order of paths. -/
def le (p q : Path) : Bool := leComponents p.components q.components

end Path

end DocAudit
