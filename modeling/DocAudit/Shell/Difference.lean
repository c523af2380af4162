import DocAudit.Shell.Raw

/-!
# Differences of texts

Two lists of lines differ by few lines: those that are in the one and have no counterpart in the other. They
are found by two searches, from the start and from the end, that meet where the fewest lines are passed.

## Contents

* `Difference.middle`, `Difference.marks`: the lines without counterparts
* `Difference.settled`: marks moved to where lines of the same text end
* `Change`, `Difference.changes`: the changes that lead from one text to the other
-/

namespace DocAudit.Shell

/-- A change: lines from a place on are replaced by others. Places are numbers of lines before it. -/
structure Change where
  first : Nat
  second : Nat
  deleted : Nat
  inserted : Nat
  deriving DecidableEq, Repr

namespace Difference

/-- The part of two lists that is compared: from one place to another one in each of them. -/
structure Area where
  xFrom : Nat
  xTo : Nat
  yFrom : Nat
  yTo : Nat
  deriving Repr

/-- How far along diagonals a search has come. Diagonals are numbered by the difference of the places. -/
structure Front where
  reached : Array Int
  least : Int
  greatest : Int

/-- How far a diagonal has been followed. -/
def Front.at_ (f : Front) (offset d : Int) : Int := f.reached.getD (d + offset).toNat 0

/-- A diagonal has been followed so far. -/
def Front.put (f : Front) (offset d value : Int) : Front :=
  { f with reached := f.reached.setIfInBounds (d + offset).toNat value }

/-- Equal elements from two places on. The first number bounds them. -/
def runForward (xs ys : Array Nat) (a : Area) : Nat → (x y : Int) → Int
  | 0, x, _ => x
  | n + 1, x, y =>
    if 0 ≤ x && 0 ≤ y && x < a.xTo && y < a.yTo && xs[x.toNat]? == ys[y.toNat]? then
      runForward xs ys a n (x + 1) (y + 1)
    else x

/-- Equal elements before two places. The first number bounds them. -/
def runBackward (xs ys : Array Nat) (a : Area) : Nat → (x y : Int) → Int
  | 0, x, _ => x
  | n + 1, x, y =>
    if (a.xFrom : Int) < x && (a.yFrom : Int) < y && xs[(x - 1).toNat]? == ys[(y - 1).toNat]? then
      runBackward xs ys a n (x - 1) (y - 1)
    else x

/-- One more step of the search from the start on the diagonals that are left; the place where it meets the
other search, if it does. -/
def stepForward (xs ys : Array Nat) (a : Area) (offset : Int) (odd : Bool) (back : Front) :
    List Int → Front → Front × Option (Nat × Nat)
  | [], f => (f, none)
  | d :: ds, f =>
    let low := f.at_ offset (d - 1)
    let high := f.at_ offset (d + 1)
    let x := if low < high then high else low + 1
    let x := runForward xs ys a (xs.size + 1) x (x - d)
    let f := f.put offset d x
    if odd && back.least ≤ d && d ≤ back.greatest && back.at_ offset d ≤ x then
      (f, some (x.toNat, (x - d).toNat))
    else stepForward xs ys a offset odd back ds f

/-- The same for the search from the end. -/
def stepBackward (xs ys : Array Nat) (a : Area) (offset : Int) (odd : Bool) (forth : Front) :
    List Int → Front → Front × Option (Nat × Nat)
  | [], f => (f, none)
  | d :: ds, f =>
    let low := f.at_ offset (d - 1)
    let high := f.at_ offset (d + 1)
    let x := if low < high then low else high - 1
    let x := runBackward xs ys a (xs.size + 1) x (x - d)
    let f := f.put offset d x
    if !odd && forth.least ≤ d && d ≤ forth.greatest && x ≤ forth.at_ offset d then
      (f, some (x.toNat, (x - d).toNat))
    else stepBackward xs ys a offset odd forth ds f

/-- Every second diagonal from the greatest to the least. -/
def diagonals (least greatest : Int) : List Int :=
  (List.range ((greatest - least).toNat / 2 + 1)).map fun (i : Nat) => greatest - 2 * (i : Int)

/-- A front with one more diagonal on each side, or one less where there are no more. -/
def Front.widened (f : Front) (offset least greatest : Int) (unknown : Int) : Front :=
  let f := if least < f.least then { f.put offset (f.least - 2) unknown with least := f.least - 1 }
    else { f with least := f.least + 1 }
  if f.greatest < greatest then { f.put offset (f.greatest + 2) unknown with greatest := f.greatest + 1 }
  else { f with greatest := f.greatest - 1 }

/-- The place where two searches meet. The first number bounds the steps. -/
def meet (xs ys : Array Nat) (a : Area) (offset : Int) (odd : Bool) : Nat → (forth back : Front) → Nat × Nat
  | 0, _, _ => (a.xFrom, a.yFrom)
  | n + 1, forth, back =>
    let least := (a.xFrom : Int) - a.yTo
    let greatest := (a.xTo : Int) - a.yFrom
    let forth := forth.widened offset least greatest (-1)
    match stepForward xs ys a offset odd back (diagonals forth.least forth.greatest) forth with
    | (_, some place) => place
    | (forth, none) =>
      let back := back.widened offset least greatest (xs.size + ys.size + 2 : Nat)
      match stepBackward xs ys a offset odd forth (diagonals back.least back.greatest) back with
      | (_, some place) => place
      | (back, none) => meet xs ys a offset odd n forth back

/-- A place in the middle of a shortest way through an area. -/
def middle (xs ys : Array Nat) (a : Area) : Nat × Nat :=
  let offset : Int := (ys.size + 3 : Nat)
  let size := xs.size + ys.size + 8
  let start := (a.xFrom : Int) - a.yFrom
  let finish := (a.xTo : Int) - a.yTo
  let forth : Front := { reached := (Array.replicate size (0 : Int)), least := start, greatest := start }
  let back : Front := { reached := (Array.replicate size (0 : Int)), least := finish, greatest := finish }
  meet xs ys a offset ((start - finish) % 2 != 0) size (forth.put offset start a.xFrom)
    (back.put offset finish a.xTo)

/-- The places of elements without counterparts in an area, in each list. The first number bounds how often
the area is divided. -/
def unmatched (xs ys : Array Nat) : Nat → Area → List Nat × List Nat
  | 0, a => ((List.range' a.xFrom (a.xTo - a.xFrom)), (List.range' a.yFrom (a.yTo - a.yFrom)))
  | n + 1, a =>
    let x := (runForward xs ys a (xs.size + 1) a.xFrom a.yFrom).toNat
    let a := { a with xFrom := x, yFrom := a.yFrom + (x - a.xFrom) }
    let x := (runBackward xs ys a (xs.size + 1) a.xTo a.yTo).toNat
    let a := { a with xTo := x, yTo := a.yTo - (a.xTo - x) }
    if a.xFrom == a.xTo then ([], List.range' a.yFrom (a.yTo - a.yFrom))
    else if a.yFrom == a.yTo then (List.range' a.xFrom (a.xTo - a.xFrom), [])
    else
      let (x, y) := middle xs ys a
      let (firstX, firstY) := unmatched xs ys n { a with xTo := x, yTo := y }
      let (secondX, secondY) := unmatched xs ys n { a with xFrom := x, yFrom := y }
      (firstX ++ secondX, firstY ++ secondY)

/-- Marks for the elements at places. -/
def marked (size : Nat) (places : List Nat) : Array Bool :=
  places.foldl (fun marks i => marks.setIfInBounds i true) (Array.replicate size false)

/-- Marks for the elements of two lists that have no counterparts. -/
def marks (xs ys : Array Nat) : Array Bool × Array Bool :=
  let known (zs : Array Nat) (z : Nat) : Bool := zs.contains z
  let keptX := (xs.toList.zipIdx.filter fun (x, _) => known ys x)
  let keptY := (ys.toList.zipIdx.filter fun (y, _) => known xs y)
  let lostX := (xs.toList.zipIdx.filter fun (x, _) => !known ys x).map (·.2)
  let lostY := (ys.toList.zipIdx.filter fun (y, _) => !known xs y).map (·.2)
  let as := (keptX.map (·.1)).toArray
  let bs := (keptY.map (·.1)).toArray
  let whole : Area := { xFrom := 0, xTo := as.size, yFrom := 0, yTo := bs.size }
  let (dx, dy) := unmatched as bs (as.size + bs.size + 2) whole
  let placesX := keptX.toArray
  let placesY := keptY.toArray
  let real (ps : Array (Nat × Nat)) (i : Nat) : Nat := (ps[i]?.map (·.2)).getD 0
  (marked xs.size (lostX ++ dx.map (real placesX)), marked ys.size (lostY ++ dy.map (real placesY)))

/-! ## Marks moved -/

/-- A run of marked elements that is moved: its start and end, the place in the other list, and the last end
at which there is a run in the other list, too. -/
structure Run where
  marks : Array Bool
  start : Nat
  stop : Nat
  other : Nat
  fitting : Nat

/-- The mark before a place. -/
def markBefore (marks : Array Bool) (i : Nat) : Bool := i != 0 && marks.getD (i - 1) false

/-- The place of the first mark that is missing, from a place on. The first number bounds the steps. -/
def skipMarks (marks : Array Bool) : Nat → Nat → Nat
  | 0, i => i
  | n + 1, i => if marks.getD i false then skipMarks marks n (i + 1) else i

/-- The same towards the start. -/
def skipMarksBack (marks : Array Bool) : Nat → Nat → Nat
  | 0, i => i
  | n + 1, i => if markBefore marks i then skipMarksBack marks n (i - 1) else i

/-- The place in the other list before the one that is left, and before marks there. -/
def otherBack (other : Array Bool) (j : Nat) : Nat :=
  let j := j - 1
  if other.getD j false then skipMarksBack other other.size j - 1 else j

/-- A run moved towards the start as long as the element before it equals its last one. -/
def moveBack (xs : Array Nat) (other : Array Bool) : Nat → Run → Run
  | 0, r => r
  | n + 1, r =>
    if r.start != 0 && xs[r.start - 1]? == xs[r.stop - 1]? then
      let marks := (r.marks.setIfInBounds (r.start - 1) true).setIfInBounds (r.stop - 1) false
      let start := skipMarksBack marks marks.size (r.start - 1)
      moveBack xs other n { r with marks, start, stop := r.stop - 1, other := otherBack other r.other }
    else r

/-- A run moved towards the end as long as the element behind it equals its first one. -/
def moveOn (xs : Array Nat) (other : Array Bool) : Nat → Run → Run
  | 0, r => r
  | n + 1, r =>
    if r.stop < xs.size && xs[r.start]? == xs[r.stop]? then
      let marks := (r.marks.setIfInBounds r.start false).setIfInBounds r.stop true
      let stop := skipMarks marks (marks.size + 1) (r.stop + 1)
      let next := r.other + 1
      let after := skipMarks other (other.size + 1) next
      let fitting := if after == next then r.fitting else stop
      moveOn xs other n { r with marks, stop, fitting, start := r.start + 1, other := after }
    else r

/-- A run moved to and fro until it grows no more. -/
def moved (xs : Array Nat) (other : Array Bool) : Nat → Run → Run
  | 0, r => r
  | n + 1, r =>
    let length := r.stop - r.start
    let r := moveBack xs other (xs.size + 1) r
    let r := { r with fitting := if markBefore other r.other then r.stop else xs.size }
    let r := moveOn xs other (xs.size + 1) r
    if r.stop - r.start == length then r else moved xs other n r

/-- A run moved back to where there is one in the other list. -/
def fitted (other : Array Bool) : Nat → Run → Run
  | 0, r => r
  | n + 1, r =>
    if r.fitting < r.stop then
      fitted other n { r with
        marks := (r.marks.setIfInBounds (r.start - 1) true).setIfInBounds (r.stop - 1) false
        start := r.start - 1
        stop := r.stop - 1
        other := otherBack other r.other }
    else r

/-- The marks of a list with all runs moved as far to the end as they can be, or to where there is a run in
the other list. The number bounds the steps. -/
def settledFrom (xs : Array Nat) (other : Array Bool) : Nat → (marks : Array Bool) → (i j : Nat) → Array Bool
  | 0, marks, _, _ => marks
  | n + 1, marks, i, j =>
    if xs.size ≤ i then marks
    else if !marks.getD i false then
      settledFrom xs other n marks (i + 1) (skipMarks other (other.size + 1) j + 1)
    else
      let stop := skipMarks marks (marks.size + 1) i
      let r := moved xs other (xs.size + 1)
        { marks, start := i, stop, other := skipMarks other (other.size + 1) j, fitting := xs.size }
      let r := fitted other (xs.size + 1) r
      settledFrom xs other n r.marks r.stop r.other

/-- Marks of both lists with their runs moved. -/
def settled (xs ys : Array Nat) (dx dy : Array Bool) : Array Bool × Array Bool :=
  let dx := settledFrom xs dy (2 * xs.size + 2) dx 0 0
  (dx, settledFrom ys dx (2 * ys.size + 2) dy 0 0)

/-! ## Changes -/

/-- The changes that marks tell. The first number bounds the lines. -/
def changesFrom (dx dy : Array Bool) : Nat → (i j : Nat) → List Change
  | 0, _, _ => []
  | n + 1, i, j =>
    if dx.size ≤ i && dy.size ≤ j then []
    else
      let iEnd := skipMarks dx (dx.size + 1) i
      let jEnd := skipMarks dy (dy.size + 1) j
      if i < iEnd || j < jEnd then
        let change : Change := { first := i, second := j, deleted := iEnd - i, inserted := jEnd - j }
        change :: changesFrom dx dy n iEnd jEnd
      else changesFrom dx dy n (i + 1) (j + 1)

/-- How many elements two lists begin with in common. -/
def common : List Nat → List Nat → Nat
  | x :: xs, y :: ys => if x == y then common xs ys + 1 else 0
  | _, _ => 0

/-- The changes that lead from one list to another one. So many elements next to the changes are compared
together with them, of those at the ends that are the same in the first two lists. -/
def changes (horizon : Nat) (exactX exactY xs ys : List Nat) : List Change :=
  let start := common exactX exactY - horizon
  let restX := exactX.drop start
  let restY := exactY.drop start
  let end_ := common restX.reverse restY.reverse - horizon
  let body (zs : List Nat) : Array Nat := ((zs.drop start).take (zs.length - start - end_)).toArray
  let bx := body xs
  let by_ := body ys
  let (dx, dy) := marks bx by_
  let (dx, dy) := settled bx by_ dx dy
  (changesFrom dx dy (bx.size + by_.size + 1) 0 0).map fun c =>
    { c with first := c.first + start, second := c.second + start }

end Difference

end DocAudit.Shell
