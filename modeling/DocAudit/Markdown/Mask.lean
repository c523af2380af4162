import DocAudit.Markdown.Fence
import DocAudit.Markdown.Frontmatter

/-!
# Prose

The lines of a text that are prose: neither frontmatter nor fenced.

## Contents

* `proseMask`: for every line, whether it is something else
* `Prose`: the lines, with nothing in the place of a line that is no prose
-/

namespace DocAudit

/-- For every line, whether it belongs to the frontmatter or is fenced. -/
def proseMask (ls : List Text) : List Bool :=
  let start := (Frontmatter.split ls).2
  List.replicate start true ++ Fence.fenced none (ls.drop start)

/-- Lines of a text; those that are no prose are hidden. -/
abbrev Prose := List (Option Text)

namespace Prose

/-- The lines of a text, those hidden that the mask marks. -/
def ofLines (ls : List Text) : Prose :=
  List.zipWith (fun line masked => if masked then none else some line) ls (proseMask ls)

/-- The visible lines with their numbers, of which the first is `n`. -/
def numberedFrom (n : Nat) : Prose → List (Nat × Text)
  | [] => []
  | none :: rest => numberedFrom (n + 1) rest
  | some line :: rest => (n, line) :: numberedFrom (n + 1) rest

/-- The visible lines with their numbers, counted from one. -/
def numbered (p : Prose) : List (Nat × Text) := numberedFrom 1 p

end Prose

end DocAudit
