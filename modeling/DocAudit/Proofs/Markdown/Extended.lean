import DocAudit.Proofs.Markdown.Blocks
import DocAudit.Proofs.Markdown.Pass
import DocAudit.Proofs.Text.Lines

/-!
# Extended texts

A heading outside of fences starts everything anew: no fence is open, no directives wait, and what comes
belongs to a section of its own. So a text can be appended to a document at a heading, and the sections of
both stay what they were, except that lines behind have greater numbers.

Lines between two markers in front of a text without frontmatter are its frontmatter, whatever stands in them:
no fence is opened there, and no heading or directive is read. So the document of the text stays what it was,
with greater numbers of lines.

## Contents

* `RawBlock.shift`, `CodeBlock.shift`, `Section.shift`: the same with greater numbers
* `RawBlock.scan_add`, `Document.outline_add`: numbers of lines only move along
* `Document.outline_append`, `Document.firstTitle?_append`: the scans start anew at a heading
* `Pass.upTo_append`: a reader who never looks back starts anew as well
* `Document.read_append`: **the document of two texts is made of the documents of both**
* `Frontmatter.framed`, `Frontmatter.split_framed`: lines between two markers
* `proseMask_framed_append`, `Document.read_framed_append`: what is prose, and what is read
* `Document.read_prefaced`: **the document of a text with frontmatter in front of it**
-/

namespace DocAudit

open Text

/-! ## Greater numbers -/

/-- The block with a line number greater by `k`. -/
def RawBlock.shift (k : Nat) (raw : RawBlock) : RawBlock := { raw with startLine := raw.startLine + k }

/-- The block with a line number greater by `k`. -/
def CodeBlock.shift (k : Nat) (b : CodeBlock) : CodeBlock := { b with startLine := b.startLine + k }

/-- The section with a line number greater by `k`. -/
def Section.shift (k : Nat) (s : Section) : Section := { s with startLine := s.startLine + k }

namespace RawBlock

/-- A scan that starts at a greater number finds the same, with greater numbers. -/
theorem scan_add (fence : Option Fence) (pending : Annotations) (n k : Nat) (ls : List Text) :
    scan fence pending (n + k) ls =
      ((scan fence pending n ls).1, (scan fence pending n ls).2.map (shift k)) := by
  induction ls generalizing fence pending n with
  | nil => rfl
  | cons line rest ih =>
    have hrest : ∀ fence pending, scan fence pending (n + k + 1) rest =
        ((scan fence pending (n + 1) rest).1, (scan fence pending (n + 1) rest).2.map (shift k)) :=
      fun fence pending => by rw [Nat.add_right_comm]; exact ih fence pending (n + 1)
    rcases Fence.line_cases fence line with
      ⟨f, rfl, h⟩ | ⟨f, rfl, h⟩ | ⟨f, rfl, h⟩ | ⟨rfl, h⟩
    · rw [scan_inside _ _ _ h, scan_inside _ _ _ h, hrest]
    · rw [scan_closing _ _ _ h, scan_closing _ _ _ h, hrest]
    · rw [scan_opening _ _ _ h, scan_opening _ _ _ h, hrest]
      rfl
    · rw [scan_outside _ _ _ h, scan_outside _ _ _ h, hrest]

end RawBlock

namespace CodeBlock

theorem attach_shift (k : Nat) (raws : List RawBlock) :
    attach (raws.map (RawBlock.shift k)) = (attach raws).map (shift k) :=
  attach_moved (· + k) raws

end CodeBlock

namespace Section

theorem raws_shift (k : Nat) (s : Section) : (s.shift k).raws = s.raws.map (RawBlock.shift k) := by
  have hstart : (s.shift k).startLine + 1 = s.startLine + 1 + k := Nat.add_right_comm _ _ _
  rw [raws, hstart, RawBlock.scan_add]
  rfl

/-- **The blocks of a section do not depend on its number.** -/
theorem blocks_shift (k : Nat) (s : Section) :
    (s.shift k).blocks = s.blocks.map (CodeBlock.shift k) := by
  rw [blocks_eq, raws_shift, CodeBlock.attach_shift, blocks_eq]

end Section

namespace Document

/-- An outline that starts at a greater number is the same, with greater numbers. -/
theorem outline_add (fence : Option Fence) (n k : Nat) (ls : List Text) :
    outline fence (n + k) ls = ((outline fence n ls).1, (outline fence n ls).2.map (Section.shift k)) := by
  induction ls generalizing fence n with
  | nil => rfl
  | cons line rest ih =>
    rw [outline_cons, outline_cons, Nat.add_right_comm, ih]
    split <;> rfl

theorem le_startLine {fence : Option Fence} {n : Nat} {ls : List Text} {s : Section}
    (h : s ∈ (outline fence n ls).2) : n ≤ s.startLine := by
  rw [← Nat.zero_add n, outline_add, List.mem_map] at h
  obtain ⟨s', -, rfl⟩ := h
  exact Nat.le_add_left n s'.startLine

/-! ## At a heading -/

variable {heading : Text}

/-- A heading has no lines before it. -/
theorem fst_outline_heading (h : isHeading heading = true) (n : Nat) (rest : List Text) :
    (outline none n (heading :: rest)).1 = [] := by
  rw [outline_cons, Fence.step_outside (Fence.opening?_of_isHeading h), if_pos (by simp [h])]

/-- **The sections start anew at a heading outside of fences.** -/
theorem outline_append (h : isHeading heading = true) {fence : Option Fence} {xs : List Text}
    (hclosed : Fence.after fence xs = none) (n : Nat) (rest : List Text) :
    outline fence n (xs ++ heading :: rest) =
      ((outline fence n xs).1,
        (outline fence n xs).2 ++ (outline none (n + xs.length) (heading :: rest)).2) := by
  induction xs generalizing fence n with
  | nil =>
    obtain rfl : fence = none := hclosed
    rw [List.nil_append, List.length_nil, Nat.add_zero]
    exact Prod.ext (fst_outline_heading h n rest) rfl
  | cons line xs ih =>
    rw [Fence.after_cons] at hclosed
    rw [List.cons_append, outline_cons, outline_cons, ih hclosed, List.length_cons, Nat.add_assoc n 1,
      Nat.add_comm 1]
    split <;> rfl

/-- The first title is that of the lines before, or else of those behind. -/
theorem firstTitle?_append (fence : Option Fence) (xs ys : List Text) :
    firstTitle? fence (xs ++ ys) =
      (firstTitle? fence xs).or (firstTitle? (Fence.after fence xs) ys) := by
  induction xs generalizing fence with
  | nil => rfl
  | cons line xs ih =>
    rw [List.cons_append, firstTitle?_cons, firstTitle?_cons, ih, Fence.after_cons]
    split <;> rfl

end Document

/-! ## Two texts -/

/-- The lines `ys` start with a heading, and behind the lines `xs`, whose body is not changed by them, no
fence is open. -/
structure StartsAnew (xs ys : List Text) : Prop where
  heading : ys.head?.any isHeading = true
  closed : fenceAt xs xs.length = none
  split_eq : Frontmatter.split (xs ++ ys) = Frontmatter.split xs

namespace StartsAnew

variable {xs ys : List Text}

theorem exists_heading (h : StartsAnew xs ys) :
    ∃ line rest, ys = line :: rest ∧ isHeading line = true := by
  have hheading := h.heading
  cases ys with
  | nil => cases hheading
  | cons line rest => exact ⟨line, rest, rfl, hheading⟩

/-- The lines behind have no frontmatter. -/
theorem split_right (h : StartsAnew xs ys) : Frontmatter.split ys = (none, 0) := by
  obtain ⟨line, rest, rfl, hheading⟩ := h.exists_heading
  exact Frontmatter.split_heading hheading rest

/-- The body of all lines is that of the first ones and the lines behind. -/
theorem drop_append (h : StartsAnew xs ys) :
    (xs ++ ys).drop (Frontmatter.split (xs ++ ys)).2 = xs.drop (Frontmatter.split xs).2 ++ ys := by
  rw [h.split_eq, List.drop_append_of_le_length (Frontmatter.split_le xs)]

theorem after_body (h : StartsAnew xs ys) :
    Fence.after none (xs.drop (Frontmatter.split xs).2) = none := by
  have hclosed := h.closed
  rwa [fenceAt, List.take_length] at hclosed

/-- The sections of the lines behind keep everything but their numbers. -/
theorem outline_eq (h : StartsAnew xs ys) :
    Document.outline none ((Frontmatter.split (xs ++ ys)).2 + 1)
        ((xs ++ ys).drop (Frontmatter.split (xs ++ ys)).2) =
      ((Document.outline none ((Frontmatter.split xs).2 + 1) (xs.drop (Frontmatter.split xs).2)).1,
        (Document.outline none ((Frontmatter.split xs).2 + 1) (xs.drop (Frontmatter.split xs).2)).2 ++
          (Document.outline none 1 ys).2.map (Section.shift xs.length)) := by
  obtain ⟨line, rest, rfl, hheading⟩ := h.exists_heading
  have hstart : (Frontmatter.split xs).2 + 1 + (xs.drop (Frontmatter.split xs).2).length =
      1 + xs.length := by
    have hle := Frontmatter.split_le xs
    rw [List.length_drop]
    omega
  rw [h.drop_append, h.split_eq, Document.outline_append hheading h.after_body, hstart,
    Document.outline_add none 1]

theorem firstTitle?_eq (h : StartsAnew xs ys) :
    Document.firstTitle? none ((xs ++ ys).drop (Frontmatter.split (xs ++ ys)).2) =
      (Document.firstTitle? none (xs.drop (Frontmatter.split xs).2)).or
        (Document.firstTitle? none ys) := by
  rw [h.drop_append, Document.firstTitle?_append, h.after_body]

end StartsAnew

/-! ## One pass over both -/

theorem filedUnder_append (c : Nat) (ss ts : List Section) :
    filedUnder c (ss ++ ts) = filedUnder c ss ++ filedUnder (c + ss.length) ts := by
  induction ss generalizing c with
  | nil => rfl
  | cons s rest ih =>
    rw [List.cons_append, filedUnder, filedUnder, ih, List.append_assoc, List.length_cons,
      Nat.add_assoc c 1, Nat.add_comm 1]

/-- With greater numbers of lines and of headings, the same is filed. -/
theorem filedUnder_shift (c m k : Nat) (ss : List Section) :
    filedUnder (c + m) (ss.map (Section.shift k)) =
      (filedUnder c ss).map fun (c, raw) => (c + m, raw.shift k) := by
  induction ss generalizing c with
  | nil => rfl
  | cons s rest ih =>
    rw [List.map_cons, filedUnder, filedUnder, Nat.add_right_comm, ih, List.map_append,
      Section.raws_shift, List.map_map, List.map_map]
    rfl

/-- **A reader who never looks back starts anew at a heading.** The headings behind have greater places,
and the blocks behind are filed under as much greater numbers as there are headings before. -/
theorem Pass.upTo_append {xs ys : List Text} (h : StartsAnew xs ys) :
    ∃ q qx qy, upTo (xs ++ ys) (xs ++ ys).length = some q ∧ upTo xs xs.length = some qx ∧
      upTo ys ys.length = some qy ∧ q.title = qx.title.or qy.title ∧
      q.headings = qx.headings ++ qy.headings.map (fun (i, name) => (i + xs.length, name)) ∧
      q.filed = qx.filed ++
        qy.filed.map fun (c, raw) => (c + qx.headings.length, raw.shift xs.length) := by
  obtain ⟨q, hq, -⟩ := exists_upTo (xs ++ ys) (xs ++ ys).length
  obtain ⟨qx, hqx, -⟩ := exists_upTo xs xs.length
  obtain ⟨qy, hqy, -⟩ := exists_upTo ys ys.length
  obtain ⟨htitle, hheadings, hfiled⟩ := upTo_length hq
  obtain ⟨htitleX, hheadingsX, hfiledX⟩ := upTo_length hqx
  obtain ⟨htitleY, hheadingsY, hfiledY⟩ := upTo_length hqy
  rw [h.split_right, List.drop_zero] at htitleY hheadingsY hfiledY
  refine ⟨q, qx, qy, hq, hqx, hqy, ?_, ?_, ?_⟩
  · rw [htitle, h.firstTitle?_eq, htitleX, htitleY]
  · rw [hheadings, h.outline_eq, hheadingsX, hheadingsY, List.map_append, List.map_map, List.map_map]
    refine congrArg (_ ++ ·) (List.map_congr_left fun s hs => Prod.ext ?_ rfl)
    have hpos := Document.le_startLine hs
    show s.startLine + xs.length - 1 = s.startLine - 1 + xs.length
    omega
  · have hbefore : (Document.outline none 1 ys).1 = [] := by
      obtain ⟨line, rest, rfl, hheading⟩ := h.exists_heading
      exact Document.fst_outline_heading hheading 1 rest
    have hfiledY' : qy.filed = filedUnder 1 (Document.outline none 1 ys).2 := by
      rw [hfiledY, filedFrom, Nat.zero_add, hbefore]
      rfl
    rw [hfiled, filedFrom, h.outline_eq, filedUnder_append, ← List.append_assoc, hfiledY', hfiledX,
      filedFrom, h.split_eq, hheadingsX, List.length_map, Nat.zero_add, filedUnder_shift]

namespace Document

/--
**The document of two texts is made of the documents of both.**

Behind a line feed, and where no fence is open, a text that starts with a heading brings its own sections,
with everything that they had; only the numbers of lines are greater. The title is the first of both, and
the frontmatter that of the first text.
-/
theorem read_append {path : Path} {a b : Text} {da : Document} (hend : EndsLine a)
    (hstart : StartsAnew (lines a) (lines b)) (hread : Document.read path a = .ok da) :
    ∃ db, Document.read path b = .ok db ∧
      Document.read path (a ++ b) = .ok
        { path, title := da.title.or db.title,
          sections := da.sections ++ db.sections.map (Section.shift da.lineCount),
          lineCount := da.lineCount + db.lineCount, frontmatter := da.frontmatter } ∧
      (∀ s ∈ db.sections, (s.shift da.lineCount).content = s.content ∧
        (s.shift da.lineCount).blocks = s.blocks.map (CodeBlock.shift da.lineCount)) ∧
      -- in one pass, the blocks behind are filed under as many headings more as there are before
      ∃ q qa qb, Pass.upTo (lines (a ++ b)) (lines (a ++ b)).length = some q ∧
        Pass.upTo (lines a) (lines a).length = some qa ∧
        Pass.upTo (lines b) (lines b).length = some qb ∧
        q.filed = qa.filed ++
          qb.filed.map fun (c, raw) => (c + da.sections.length, raw.shift da.lineCount) := by
  obtain ⟨q, qa, qb, hq, hqa, hqb, -, -, hfiled⟩ := Pass.upTo_append hstart
  obtain ⟨-, hheadings, -⟩ := Pass.eq_of_read hread hqa
  have hlines := lines_append hend b
  obtain ⟨record, hrecord, rfl⟩ := read_ok_iff.mp hread
  have hrecordB : (Frontmatter.split (lines b)).1.mapM Frontmatter.read = .ok none := by
    rw [hstart.split_right]
    rfl
  refine ⟨_, read_ok_iff.mpr ⟨none, hrecordB, rfl⟩, ?_, fun s _ => ⟨rfl, s.blocks_shift _⟩,
    q, qa, qb, hlines ▸ hq, hqa, hqb, ?_⟩
  · refine read_ok_iff.mpr ⟨record, by rw [hlines, hstart.split_eq, hrecord], ?_⟩
    rw [hlines, hstart.firstTitle?_eq, hstart.outline_eq, List.length_append, hstart.split_right,
      List.drop_zero]
  · rw [hfiled, hheadings, List.length_map]

/-- A text with frontmatter, in which a directive waits at the end. -/
def waitingText : Text := "---\nk: v\n---\n# Guide\n## Use\n<!-- pave:run -->\n".toList

/-- The directive is not that of the block in the text behind. -/
theorem read_append_waiting :
    let behind : Text := "## More\n```\nx\n```\n".toList
    (EndsLine waitingText ∧ StartsAnew (lines waitingText) (lines behind)) ∧
      ∃ d s, Document.read (Path.ofText "guide.md".toList) (waitingText ++ behind) = .ok d ∧
        d.title = some "Guide".toList ∧ d.frontmatter = some [("k".toList, "v".toList)] ∧
        d.lineCount = 10 ∧ d.sections.map (·.startLine) = [5, 7] ∧ d.sections[1]? = some s ∧
        s.blocks.map (fun b => (b.startLine, b.executable)) = [(8, false)] := by
  intro behind
  have hend : EndsLine waitingText := by decide +kernel
  have hlines : lines waitingText = ["---".toList, "k: v".toList, "---".toList, "# Guide".toList,
      "## Use".toList, "<!-- pave:run -->".toList] :=
    (congrArg lines String.toList_ofList).trans (by decide +kernel)
  have hbehind : lines behind = ["## More".toList, "```".toList, "x".toList, "```".toList] := by decide +kernel
  have hstart : StartsAnew (lines waitingText) (lines behind) := by
    rw [hlines, hbehind]
    exact ⟨by decide +kernel, by decide +kernel, by decide +kernel⟩
  have hrecord : (Frontmatter.split (lines waitingText)).1.mapM Frontmatter.read =
      .ok (some [("k".toList, "v".toList)]) := by
    rw [hlines]
    decide +kernel
  obtain ⟨da, hread⟩ : ∃ da, Document.read (Path.ofText "guide.md".toList) waitingText = .ok da :=
    ⟨_, read_ok_iff.mpr ⟨_, hrecord, rfl⟩⟩
  have ha : da.title = some "Guide".toList ∧ da.frontmatter = some [("k".toList, "v".toList)] ∧
      da.lineCount = 6 ∧ da.sections.map (·.startLine) = [5] := by
    obtain ⟨htitle, hsections, hcount, hfrontmatter⟩ := parts_of_read hread
    have hown := Except.ok.inj (hfrontmatter.symm.trans hrecord)
    rw [htitle, hsections, hcount, hown, hlines]
    decide +kernel
  obtain ⟨db, hreadB, hboth, hblocks, -⟩ := read_append hend hstart hread
  have hb : ∃ s, db.sections = [s] ∧ s.startLine = 1 ∧ db.lineCount = 4 ∧
      s.blocks.map (fun b => (b.startLine, b.executable)) = [(2, false)] := by
    obtain ⟨-, hsections, hcount, -⟩ := parts_of_read hreadB
    refine ⟨⟨"More".toList, 1, ["```".toList, "x".toList, "```".toList]⟩, ?_, rfl, ?_, by decide +kernel⟩
    · rw [hsections, hbehind]
      decide +kernel
    · rw [hcount, hbehind]
      decide +kernel
  obtain ⟨htitle, hfrontmatter, hcount, hsections⟩ := ha
  obtain ⟨s, hsection, hnumber, hcountB, hs⟩ := hb
  have hblocks := (hblocks s (by rw [hsection]; exact List.mem_singleton_self s)).2
  obtain ⟨sa, hsa, hsaNumber⟩ := List.map_eq_singleton_iff.mp hsections
  rw [hsa, hsection, hcount, hcountB] at hboth
  refine ⟨⟨hend, hstart⟩, _, s.shift 6, hboth, ?_, hfrontmatter, rfl, ?_, rfl, ?_⟩
  · rw [htitle]
    rfl
  · show [sa.startLine, s.startLine + 6] = [5, 7]
    rw [hsaNumber, hnumber]
  · obtain ⟨b, hb, hbs⟩ := List.map_eq_singleton_iff.mp hs
    rw [hcount] at hblocks
    obtain ⟨hbNumber, hbRun⟩ := Prod.mk.inj hbs
    rw [hblocks, hb]
    show [(b.startLine + 6, b.executable)] = [(8, false)]
    rw [hbNumber, hbRun]

end Document

/-! ## Frontmatter in front of a text -/

namespace Frontmatter

/-- The line that stands before and behind the lines of a frontmatter. -/
def marker : Text := "---".toList

/-- The lines of a frontmatter between two markers. -/
def framed (front : List Text) : List Text := marker :: (front ++ [marker])

@[simp] theorem length_framed (front : List Text) : (framed front).length = front.length + 2 := by
  simp [framed]

theorem isMarker_marker : isMarker marker = true := by decide

/-- Lines that are no markers stand before the first marker. -/
theorem untilMarker_append_marker {front : List Text} (h : ∀ line ∈ front, strip line ≠ marker) :
    untilMarker (front ++ [marker]) = some (front, front.length + 1) := by
  induction front with
  | nil => rfl
  | cons line front ih =>
    obtain ⟨hline, hfront⟩ := List.forall_mem_cons.mp h
    rw [List.cons_append, untilMarker_cons, if_neg fun hmarker => hline (isMarker_iff.mp hmarker), ih hfront]
    rfl

/-- **Lines between two markers are the frontmatter, when none of them is a marker.** -/
theorem split_framed {front : List Text} (h : ∀ line ∈ front, strip line ≠ marker) (rest : List Text) :
    split (framed front ++ rest) = (some front, front.length + 2) := by
  have hsplit : split (framed front) = (some front, front.length + 2) := by
    have hnil : ∀ line ∈ ([] : List Text), isBlankText line = true := by simp
    have hhead := split_blank_append hnil (isBlankText_of_isMarker isMarker_marker) (front ++ [marker])
    rw [if_pos isMarker_marker, untilMarker_append_marker h] at hhead
    refine hhead.trans (Prod.ext rfl ?_)
    show 0 + 1 + (front.length + 1) = front.length + 2
    omega
  exact split_append hsplit rest

end Frontmatter

open Frontmatter

variable {front : List Text} {t : Text}

/-- The lines of the frontmatter stand in front of those of the text. -/
theorem lines_framed_append (h : ∀ line ∈ front, IsUnbroken line) (t : Text) :
    lines (endLines (framed front) ++ t) = framed front ++ lines t := by
  have hend : EndsLine (endLines (framed front)) := by
    refine .inr ?_
    rw [framed, ← List.cons_append, endLines, List.flatMap_append, List.flatMap_singleton, ← List.append_assoc,
      List.getLast?_concat]
  have hunbroken : ∀ line ∈ framed front, IsUnbroken line := by
    intro line hline
    rw [framed, List.mem_cons, List.mem_append, List.mem_singleton] at hline
    rcases hline with rfl | hline | rfl
    · decide
    · exact h line hline
    · decide
  rw [lines_append hend, lines_endLines hunbroken]

/-- None of the lines of the frontmatter is prose. -/
theorem proseMask_framed_append (h : ∀ line ∈ front, strip line ≠ marker) {ls : List Text}
    (hnone : (split ls).1 = none) :
    proseMask (framed front ++ ls) = List.replicate (front.length + 2) true ++ proseMask ls := by
  have hdrop : (framed front ++ ls).drop (front.length + 2) = ls := List.drop_left' (length_framed front)
  simp only [proseMask, split_framed h, split_eq_none hnone, hdrop, List.drop_zero, List.replicate_zero,
    List.nil_append]

namespace Document

/-- The document of a text without frontmatter. -/
theorem read_of_split_eq_none {path : Path} (hnone : (split (lines t)).1 = none) :
    Document.read path t = .ok
      { path, title := firstTitle? none (lines t), sections := (outline none 1 (lines t)).2,
        lineCount := (lines t).length, frontmatter := none } := by
  refine read_ok_iff.mpr ⟨none, by rw [hnone]; rfl, ?_⟩
  rw [split_eq_none hnone]
  rfl

/-- The frontmatter is read, and then what stands behind it, from its first line on. -/
theorem read_framed_append {path : Path} (hlines : ∀ line ∈ front, IsUnbroken line)
    (hfront : ∀ line ∈ front, strip line ≠ marker) (t : Text) :
    Document.read path (endLines (framed front) ++ t) = (Frontmatter.read front).map fun record =>
      { path, title := firstTitle? none (lines t),
        sections := (outline none 1 (lines t)).2.map (Section.shift (front.length + 2)),
        lineCount := (lines t).length + (front.length + 2), frontmatter := some record } := by
  have hdrop : (framed front ++ lines t).drop (front.length + 2) = lines t := List.drop_left' (length_framed front)
  have hshift := outline_add none 1 (front.length + 2) (lines t)
  unfold Document.read
  simp only [lines_framed_append hlines, split_framed hfront, hdrop, Nat.add_comm (front.length + 2) 1, hshift,
    List.length_append, length_framed, Nat.add_comm (front.length + 2) (lines t).length]
  cases hrecord : Frontmatter.read front with
  | error fault =>
    simp only [Option.mapM_some, hrecord]
    rfl
  | ok record =>
    simp only [Option.mapM_some, hrecord]
    rfl

/--
**Frontmatter in front of a text changes nothing but the numbers of lines.**

The text has no frontmatter of its own, and the lines in front of it, of which none is a marker, stand between
two markers. When they are read as a record, this is the frontmatter of the whole, and else there is no document
and the fault is theirs. Title and sections are those of the text: a section and its blocks have what they had,
with greater numbers. What was prose still is, and nothing in front of it.
-/
theorem read_prefaced (path : Path) (hlines : ∀ line ∈ front, IsUnbroken line)
    (hfront : ∀ line ∈ front, strip line ≠ marker) (hnone : (split (lines t)).1 = none) :
    let whole := endLines (framed front) ++ t
    let k := front.length + 2
    ∃ d, Document.read path t = .ok d ∧ d.frontmatter = none ∧
      Document.read path whole = (Frontmatter.read front).map (fun record =>
        { path, title := d.title, sections := d.sections.map (Section.shift k), lineCount := d.lineCount + k,
          frontmatter := some record }) ∧
      (∀ s ∈ d.sections, (s.shift k).name = s.name ∧ (s.shift k).content = s.content ∧
        (s.shift k).blocks = s.blocks.map (CodeBlock.shift k)) ∧
      proseMask (lines whole) = List.replicate k true ++ proseMask (lines t) := by
  intro whole k
  refine ⟨_, read_of_split_eq_none hnone, rfl, read_framed_append hlines hfront t, fun s _ => ?_, ?_⟩
  · exact ⟨rfl, rfl, s.blocks_shift k⟩
  · rw [lines_framed_append hlines, proseMask_framed_append hfront hnone]

/-- Lines with a fence that is not closed, a heading and a directive, which are no table but hold a value. -/
def crowded : List Text := ["```", "## Setup", "<!-- pave:run -->", "owner: docs"].map String.toList

/-- None of that is read in the text behind, and its block has a greater number. -/
theorem read_prefaced_crowded :
    let behind : Text := "# Guide\n## Use\n```\nx\n```\n".toList
    ((∀ line ∈ crowded, IsUnbroken line) ∧ (∀ line ∈ crowded, strip line ≠ marker) ∧
      (split (lines behind)).1 = none) ∧
    ∃ d s, Document.read (Path.ofText "guide.md".toList) (endLines (framed crowded) ++ behind) = .ok d ∧
      d.title = some "Guide".toList ∧ d.sections = [s] ∧ s.name = "Use".toList ∧ s.startLine = 8 ∧
      s.blocks.map (fun b => (b.startLine, b.executable)) = [(9, false)] ∧ d.lineCount = 11 ∧
      (d.frontmatter.bind (·.get? "owner".toList)) = some "docs".toList ∧
      proseMask (lines (endLines (framed crowded) ++ behind)) =
        [true, true, true, true, true, true, false, false, true, true, true] := by
  intro behind
  have hlines : ∀ line ∈ crowded, IsUnbroken line := by decide +kernel
  have hfront : ∀ line ∈ crowded, strip line ≠ marker := by decide +kernel
  have hbehind : lines behind = ["# Guide", "## Use", "```", "x", "```"].map String.toList := by decide +kernel
  have hnone : (split (lines behind)).1 = none := by
    rw [hbehind]
    decide +kernel
  have hrecord : Frontmatter.read crowded =
      .ok [("<!-- pave".toList, "run -->".toList), ("owner".toList, "docs".toList)] := by decide +kernel
  obtain ⟨d, hd, -, hwhole, hblocks, hmask⟩ :=
    read_prefaced (Path.ofText "guide.md".toList) hlines hfront hnone
  obtain ⟨htitle, hsections, hcount, -⟩ := parts_of_read hd
  have hd' : d.title = some "Guide".toList ∧ d.lineCount = 5 ∧
      d.sections = [⟨"Use".toList, 2, ["```".toList, "x".toList, "```".toList]⟩] := by
    rw [htitle, hsections, hcount, hbehind]
    decide +kernel
  obtain ⟨htitle, hcount, hsections⟩ := hd'
  rw [hrecord] at hwhole
  refine ⟨⟨hlines, hfront, hnone⟩, _, _, hwhole, htitle, congrArg (List.map _) hsections, rfl, rfl, ?_,
    congrArg (· + 6) hcount, rfl, ?_⟩
  · rw [(hblocks _ (hsections ▸ List.mem_singleton_self _)).2.2]
    decide +kernel
  · rw [hmask, hbehind]
    decide +kernel

end Document

end DocAudit
