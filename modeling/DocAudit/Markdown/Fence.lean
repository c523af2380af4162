import DocAudit.Text.Blank

/-!
# Fences

A fenced block opens on a line whose trimmed text starts with three or more backticks or tildes, and
closes on a line with the same character, at least as many times, and nothing after it. A longer
fence can therefore hold shorter ones.

## Contents

* `Fence`, `Fence.opening?`, `Fence.closes`
* `Fence.step`: one line of the scan that everything else rests on; `Fence.fenced`: all of it
-/

namespace DocAudit

/-- The two characters that fences are made of. -/
inductive FenceMark
  | backtick
  | tilde
  deriving DecidableEq, Repr

/-- The character of a mark. -/
def FenceMark.char : FenceMark → Char
  | .backtick => '`'
  | .tilde => '~'

/-- An open fence: its mark, how often the mark stands at its start, and the trimmed text after it. -/
structure Fence where
  mark : FenceMark
  size : Nat
  info : Text
  deriving DecidableEq, Repr

namespace Fence

open Text

/-- The fence as it was written, without its info text. -/
def text (f : Fence) : Text := List.replicate f.size f.mark.char

/-- The run of marks at the start of a trimmed line and the rest, when the run has three or more. -/
def run? (line : Text) : Option (FenceMark × Nat × Text) :=
  let trimmed := strip line
  let mark? : Option FenceMark := match trimmed with
    | '`' :: _ => some .backtick
    | '~' :: _ => some .tilde
    | _ => none
  match mark? with
  | none => none
  | some mark =>
    let size := (trimmed.takeWhile (· == mark.char)).length
    let rest := trimmed.dropWhile (· == mark.char)
    if 3 ≤ size && !rest.contains '\n' then some (mark, size, rest) else none

/-- The fence that the line opens where none is open. The text after backticks has no backtick. -/
def opening? (line : Text) : Option Fence :=
  match run? line with
  | none => none
  | some (mark, size, rest) =>
    if mark = .backtick && rest.contains '`' then none
    else some { mark, size, info := strip rest }

/-- The line closes the fence. -/
def closes (f : Fence) (line : Text) : Bool :=
  match run? line with
  | none => false
  | some (mark, size, rest) => mark == f.mark && f.size ≤ size && isBlankText rest

/-- One line of the scan: the fence that is open after it, and whether the line is itself an opening
or closing fence. -/
def step (fence : Option Fence) (line : Text) : Option Fence × Bool :=
  match fence with
  | none => match opening? line with
    | none => (none, false)
    | some f => (some f, true)
  | some f => if f.closes line then (none, true) else (some f, false)

/-- The fence that is open after all the lines. -/
def after (fence : Option Fence) (ls : List Text) : Option Fence :=
  ls.foldl (fun f line => (step f line).1) fence

/-- For every line, whether it is fenced: inside a block, or the fence of one. -/
def fenced : Option Fence → List Text → List Bool
  | _, [] => []
  | f, line :: rest =>
    let (next, isFence) := step f line
    (f.isSome || isFence) :: fenced next rest

/-- There is one answer for every line. -/
@[simp] theorem length_fenced (f : Option Fence) (ls : List Text) :
    (fenced f ls).length = ls.length := by
  induction ls generalizing f with
  | nil => rfl
  | cons line rest ih => simp [fenced, ih]

/-- **Scanning on after some lines starts from the fence that they leave open.** -/
theorem fenced_append (f : Option Fence) (xs ys : List Text) :
    fenced f (xs ++ ys) = fenced f xs ++ fenced (after f xs) ys := by
  induction xs generalizing f with
  | nil => rfl
  | cons line rest ih => simp [fenced, after, ih]

end Fence

end DocAudit
