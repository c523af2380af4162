import DocAudit.Lint.Outcome
import DocAudit.Proofs.Markdown.Frontmatter
import DocAudit.Proofs.Text.Lines

/-!
# Mended lines

Mending takes spaces and tabs from the ends of prose lines. A blank line may vanish with that: when
nothing is left of it, its line feed joins a carriage return before it, or it was the last line. So the
lines before and after do not stand at the same places.

## Contents

* `Mended`: the lines of a text before and after it was mended
* `Mended.visible_eq`, `Mended.masked_append`: what all such lines share
* `fixLine`: what mending does with a line
* `Tidied`: the lines of a text before and after exactly this was done with them
* `tidied_fixTrailing`, `mended_fixTrailing`: **mending a text gives such lines**
-/

namespace DocAudit

open Text

/-! ## Mended lines -/

/-- The lines of a text before and after it was mended. Masked lines stay as they are. The others keep
their trimmed text, and blank ones may vanish. -/
inductive Mended : List Bool → List Text → List Text → Prop
  | nil : Mended [] [] []
  | masked {mask : List Bool} {line : Text} {ls ls' : List Text} :
      Mended mask ls ls' → Mended (true :: mask) (line :: ls) (line :: ls')
  | trimmed {mask : List Bool} {line line' : Text} {ls ls' : List Text} :
      strip line' = strip line → Mended mask ls ls' → Mended (false :: mask) (line :: ls) (line' :: ls')
  | vanished {mask : List Bool} {line : Text} {ls ls' : List Text} :
      isBlankText line = true → Mended mask ls ls' → Mended (false :: mask) (line :: ls) ls'

namespace Mended

variable {mask : List Bool} {ls ls' : List Text}

/-- A line that stays as it is. -/
theorem same (b : Bool) (line : Text) (h : Mended mask ls ls') :
    Mended (b :: mask) (line :: ls) (line :: ls') := by
  cases b with
  | true => exact .masked h
  | false => exact .trimmed rfl h

/-- Nothing needs to be mended. -/
theorem refl : ∀ {mask : List Bool} {ls : List Text}, mask.length = ls.length → Mended mask ls ls
  | [], [], _ => .nil
  | b :: _, line :: _, h => same b line (refl (Nat.succ.inj h))

/-- No visible line is lost. -/
theorem visible_eq (h : Mended mask ls ls') : visible ls' = visible ls := by
  induction h with
  | nil => rfl
  | masked _ ih => simp only [visible, List.map_cons, List.filter_cons] at ih ⊢; rw [ih]
  | trimmed hline _ ih =>
    simp only [visible, List.map_cons, List.filter_cons] at ih ⊢
    rw [hline, ih]
  | vanished hblank _ ih => rw [visible_cons_of_blank hblank, ih]

/-- Masked lines at the start are the same. -/
theorem masked_append : ∀ {k : Nat} {ls ls' : List Text},
    Mended (List.replicate k true ++ mask) ls ls' →
      ∃ head tail tail', ls = head ++ tail ∧ ls' = head ++ tail' ∧ head.length = k ∧
        Mended mask tail tail'
  | 0, ls, ls', h => ⟨[], ls, ls', rfl, rfl, rfl, h⟩
  | k + 1, _, _, h => by
    rw [List.replicate_succ, List.cons_append] at h
    cases h with
    | @masked _ line _ _ h =>
      obtain ⟨head, tail, tail', rfl, rfl, hk, h⟩ := masked_append h
      exact ⟨line :: head, tail, tail', rfl, rfl, congrArg Nat.succ hk, h⟩

end Mended

/-! ## Mending -/

theorem isBlank_of_isSpaceOrTab {c : Char} (h : Lint.isSpaceOrTab c = true) : isBlank c = true := by
  rw [Lint.isSpaceOrTab, Bool.or_eq_true, beq_iff_eq, beq_iff_eq] at h
  rcases h with rfl | rfl <;> decide

/-- Mending takes spaces and tabs from the end of a line. -/
theorem exists_fixLine_append (masked : Bool) (line : Text) :
    ∃ blanks, line = fixLine masked line ++ blanks ∧ (∀ c ∈ blanks, Lint.isSpaceOrTab c = true) ∧
      (masked = true → blanks = []) := by
  cases masked with
  | true => exact ⟨[], (List.append_nil line).symm, by simp, fun _ => rfl⟩
  | false =>
    obtain ⟨blanks, hline, hblanks, -⟩ := exists_dropEnd_append Lint.isSpaceOrTab line
    exact ⟨blanks, hline, hblanks, fun h => by cases h⟩

theorem strip_fixLine (masked : Bool) (line : Text) : strip (fixLine masked line) = strip line := by
  obtain ⟨blanks, hline, hblanks, -⟩ := exists_fixLine_append masked line
  have hstrip : strip ([] ++ fixLine masked line ++ blanks) = strip (fixLine masked line) :=
    strip_blank_append _ (by simp) fun c hc => isBlank_of_isSpaceOrTab (hblanks c hc)
  rw [List.nil_append, ← hline] at hstrip
  exact hstrip.symm

theorem isUnbroken_fixLine (masked : Bool) {line : Text} (h : IsUnbroken line) :
    IsUnbroken (fixLine masked line) := by
  obtain ⟨blanks, hline, -, -⟩ := exists_fixLine_append masked line
  rw [hline, isUnbroken_append] at h
  exact h.1

/-- Nothing is left of blank lines only. -/
theorem isBlankText_of_fixLine_eq_nil {masked : Bool} {line : Text} (h : fixLine masked line = []) :
    isBlankText line = true := by
  obtain ⟨blanks, hline, hblanks, -⟩ := exists_fixLine_append masked line
  rw [h, List.nil_append] at hline
  rw [hline]
  exact List.all_eq_true.mpr fun c hc => isBlank_of_isSpaceOrTab (hblanks c hc)

/-- A line of which nothing is left was prose. -/
theorem eq_false_of_fixLine_eq_nil {masked : Bool} {line : Text} (h : fixLine masked line = [])
    (hne : line ≠ []) : masked = false := by
  rw [Bool.eq_false_iff]
  rintro rfl
  exact hne h

/-- The lines of a text before and after it was mended, with what mending leaves of each line. A line of
which nothing is left may vanish. -/
inductive Tidied : List Bool → List Text → List Text → Prop
  | nil : Tidied [] [] []
  | masked {mask : List Bool} {line : Text} {ls ls' : List Text} :
      Tidied mask ls ls' → Tidied (true :: mask) (line :: ls) (line :: ls')
  | kept {mask : List Bool} {line : Text} {ls ls' : List Text} :
      Tidied mask ls ls' → Tidied (false :: mask) (line :: ls) (fixLine false line :: ls')
  | vanished {mask : List Bool} {line : Text} {ls ls' : List Text} :
      fixLine false line = [] → Tidied mask ls ls' → Tidied (false :: mask) (line :: ls) ls'

/-- Such lines are mended lines. -/
theorem Tidied.mended {mask : List Bool} {ls ls' : List Text} (h : Tidied mask ls ls') : Mended mask ls ls' := by
  induction h with
  | nil => exact .nil
  | masked _ ih => exact .masked ih
  | kept _ ih => exact .trimmed (strip_fixLine false _) ih
  | vanished hline _ ih => exact .vanished (isBlankText_of_fixLine_eq_nil hline) ih

/-- Terminated lines, of which those that are not masked are mended. -/
def mendLines (mask : List Bool) (ls : List (Text × Text)) : List (Text × Text) :=
  List.zipWith (fun masked (line, ending) => (fixLine masked line, ending)) mask ls

/-- The line stands mended in front of mended lines. -/
theorem tidied_fixLine {mask : List Bool} {ls ls' : List Text} (masked : Bool) (line : Text)
    (h : Tidied mask ls ls') : Tidied (masked :: mask) (line :: ls) (fixLine masked line :: ls') := by
  cases masked with
  | true => exact .masked h
  | false => exact .kept h

section Cut

variable {mask : List Bool} {ls : List Text} {masked : Bool} {line ending rest : Text}

/-- A line in front of a mended text. When a carriage return meets a line feed, they are one
terminator, and the text goes on behind both. -/
theorem tidied_line (hline : IsUnbroken line) (hending : IsTerminator ending)
    (hrest : Tidied mask ls (lines rest))
    (hfeed : ∀ more, ending = ['\r'] → rest = '\n' :: more → Tidied mask ls (lines more)) :
    Tidied (masked :: mask) (line :: ls) (lines (fixLine masked line ++ (ending ++ rest))) := by
  have hfixed := isUnbroken_fixLine masked hline
  by_cases hjoin : ending = ['\r'] ∧ rest.head? = some '\n'
  · obtain ⟨rfl, hhead⟩ := hjoin
    obtain ⟨more, rfl⟩ := List.head?_eq_some_iff.mp hhead
    have hlines : terminated (fixLine masked line ++ (['\r', '\n'] ++ more)) =
        (fixLine masked line, ['\r', '\n']) :: terminated more :=
      terminated_append hfixed (Or.inl rfl) (by simp)
    show Tidied _ _ ((terminated (_ ++ (['\r', '\n'] ++ more))).map (·.1))
    rw [hlines]
    exact tidied_fixLine masked line (hfeed more rfl rfl)
  · have hlines := terminated_append hfixed hending fun he hhead => hjoin ⟨he, hhead⟩
    rw [lines, hlines]
    exact tidied_fixLine masked line hrest

/-- A last line without a terminator. -/
theorem tidied_lastLine (hline : IsUnbroken line) (hne : line ≠ []) :
    Tidied [masked] [line] (lines (fixLine masked line)) := by
  by_cases hnil : fixLine masked line = []
  · obtain rfl := eq_false_of_fixLine_eq_nil hnil hne
    rw [hnil]
    exact .vanished hnil .nil
  · rw [lines, terminated_of_isUnbroken (isUnbroken_fixLine masked hline) hnil]
    exact tidied_fixLine masked line .nil

/-- A mended text that starts with a line feed where there was none has lost a blank line, of which
only this line feed is left. -/
theorem tidied_feed {more text : Text} (hline : IsUnbroken line) (hending : IsTerminator ending)
    (hrest : Tidied mask ls (lines rest)) (hhead : (line ++ (ending ++ text)).head? ≠ some '\n')
    (hfeed : fixLine masked line ++ (ending ++ rest) = '\n' :: more) :
    Tidied (masked :: mask) (line :: ls) (lines more) := by
  have hnil : fixLine masked line = [] := by
    cases hfixed : fixLine masked line with
    | nil => rfl
    | cons c fixed =>
      have hunbroken := isUnbroken_fixLine masked hline
      rw [hfixed] at hfeed hunbroken
      cases hfeed
      exact absurd (isUnbroken_cons.mp hunbroken).1 (by decide)
  rw [hnil, List.nil_append] at hfeed
  obtain rfl : ending = ['\n'] := by
    rcases hending with rfl | ⟨c, -, rfl⟩
    · cases hfeed
    · cases hfeed
      rfl
  cases hfeed
  have hne : line ≠ [] := by
    rintro rfl
    exact hhead rfl
  obtain rfl := eq_false_of_fixLine_eq_nil hnil hne
  exact .vanished hnil hrest

end Cut

/-- **The lines of a mended text are mended lines.** So are those behind a line feed at its start, when
there was none before it was mended: behind a carriage return this line feed ends no line. -/
theorem tidied_mendLines {ls : List (Text × Text)} (hcut : IsCut ls) :
    ∀ {mask : List Bool}, mask.length = ls.length →
      Tidied mask (ls.map (·.1)) (lines (unterminated (mendLines mask ls))) ∧
        ((unterminated ls).head? ≠ some '\n' →
          ∀ more, unterminated (mendLines mask ls) = '\n' :: more →
            Tidied mask (ls.map (·.1)) (lines more)) := by
  induction hcut with
  | nil =>
    intro mask hmask
    rw [List.eq_nil_of_length_eq_zero hmask]
    exact ⟨.nil, fun _ more h => by cases h⟩
  | @last line hline hne =>
    intro mask hmask
    obtain ⟨masked, rfl⟩ := List.length_eq_one_iff.mp hmask
    have htext : unterminated (mendLines [masked] [(line, [])]) = fixLine masked line := by
      rw [mendLines, List.zipWith_cons_cons, unterminated_cons]
      simp [unterminated]
    rw [htext]
    refine ⟨tidied_lastLine hline hne, fun _ more hmore => ?_⟩
    have hfixed := isUnbroken_fixLine masked hline
    rw [hmore] at hfixed
    exact absurd (isUnbroken_cons.mp hfixed).1 (by decide)
  | @cons line ending rest hline hending hreturn _ ih =>
    intro mask hmask
    obtain ⟨masked, mask, rfl⟩ := List.exists_cons_of_length_eq_add_one hmask
    obtain ⟨hrest, hfeed⟩ := ih (Nat.succ.inj hmask)
    rw [mendLines, List.zipWith_cons_cons, unterminated_cons, unterminated_cons, List.map_cons]
    exact ⟨tidied_line hline hending hrest fun more he => hfeed (hreturn he) more,
      fun hhead more => tidied_feed hline hending hrest hhead⟩

/-- The mask answers for every line. -/
theorem length_proseMask (ls : List Text) : (proseMask ls).length = ls.length := by
  rw [proseMask, List.length_append, List.length_replicate, Fence.length_fenced, List.length_drop,
    Nat.add_sub_cancel' (Frontmatter.split_le ls)]

/-- **Mending a text does with each line what it should.** -/
theorem tidied_fixTrailing (text : Text) :
    Tidied (proseMask (lines text)) (lines text) (lines (fixTrailing text)) := by
  have hmask : (proseMask (lines text)).length = (terminated text).length := by
    rw [length_proseMask, lines, List.length_map]
  exact (tidied_mendLines (isCut_terminated text) hmask).1

/-- **Mending a text gives mended lines.** -/
theorem mended_fixTrailing (text : Text) :
    Mended (proseMask (lines text)) (lines text) (lines (fixTrailing text)) := (tidied_fixTrailing text).mended

end DocAudit
