import DocAudit.Proofs.Lint.Hidden
import DocAudit.Proofs.Lint.Reading
import DocAudit.Proofs.Text.Joined

/-!
# Mended prose

Mending leaves no spaces and tabs at the ends of prose lines, and takes nothing else from them. The prose of a
mended text is that of the text without these blanks, so nothing is left to be mended, and its lines show the
same links and references.

## Contents

* `Trims`, `IsTrimmed`: a text of which nothing was taken but spaces and tabs at the ends of prose lines
* `isTrimmed_fixTrailing`: **a mended text is such a text**
* `Prose.Tidied`, `Prose.tidied_ofLines`: **the prose of a mended text**
* `Prose.Tidied.length_trailingSpaces`: nothing is left to be mended
* `Lint.Leaves`, `Lint.scan_append_blanks`: blanks at the end of a line show nothing
* `Prose.Tidied.links_eq`, `Prose.Tidied.codeRefs_eq`: **the links and references are the same**
-/

namespace DocAudit

open Text

/-! ## What mending takes from a text -/

/-- Lines with their terminators, of which some lost spaces and tabs at their ends. Masked lines did not. -/
inductive Trims : List Bool → List (Text × Text) → List (Text × Text) → Prop
  | nil : Trims [] [] []
  | masked {mask : List Bool} {line : Text × Text} {ls ls' : List (Text × Text)} :
      Trims mask ls ls' → Trims (true :: mask) (line :: ls) (line :: ls')
  | prose {mask : List Bool} {line blanks ending : Text} {ls ls' : List (Text × Text)} :
      (∀ c ∈ blanks, c = ' ' ∨ c = '\t') → Trims mask ls ls' →
      Trims (false :: mask) ((line ++ blanks, ending) :: ls) ((line, ending) :: ls')

/-- A text of which nothing was taken but spaces and tabs at the ends of lines outside of frontmatter and
fences. -/
def IsTrimmed (text text' : Text) : Prop :=
  ∃ ls, Trims (proseMask (lines text)) (terminated text) ls ∧ text' = unterminated ls

theorem trims_mendLines : ∀ {mask : List Bool} {ls : List (Text × Text)}, mask.length = ls.length →
    Trims mask ls (mendLines mask ls)
  | [], [], _ => .nil
  | true :: _, (_, _) :: _, h => .masked (trims_mendLines (Nat.succ.inj h))
  | false :: mask, (line, ending) :: ls, h => by
    obtain ⟨blanks, hline, hblanks, -⟩ := exists_fixLine_append false line
    have hchars : ∀ c ∈ blanks, c = ' ' ∨ c = '\t' := by
      intro c hc
      have hspace := hblanks c hc
      rwa [Lint.isSpaceOrTab, Bool.or_eq_true, beq_iff_eq, beq_iff_eq] at hspace
    have hrest : Trims (false :: mask) ((fixLine false line ++ blanks, ending) :: ls)
        ((fixLine false line, ending) :: mendLines mask ls) :=
      .prose hchars (trims_mendLines (Nat.succ.inj h))
    rw [← hline] at hrest
    exact hrest

theorem Trims.refl : ∀ {mask : List Bool} {ls : List (Text × Text)}, mask.length = ls.length → Trims mask ls ls
  | [], [], _ => .nil
  | true :: _, _ :: _, h => .masked (refl (Nat.succ.inj h))
  | false :: mask, (line, ending) :: ls, h => by
    have hrest : Trims (false :: mask) ((line ++ [], ending) :: ls) ((line, ending) :: ls) :=
      .prose (by simp) (refl (Nat.succ.inj h))
    rw [List.append_nil] at hrest
    exact hrest

theorem length_proseMask_lines (text : Text) : (proseMask (lines text)).length = (terminated text).length := by
  rw [length_proseMask, lines, List.length_map]

/-- Nothing needs to be taken. -/
theorem IsTrimmed.refl (text : Text) : IsTrimmed text text :=
  ⟨terminated text, .refl (length_proseMask_lines text), (unterminated_terminated text).symm⟩

/-- **Mending takes nothing else from a text.** -/
theorem isTrimmed_fixTrailing (text : Text) : IsTrimmed text (fixTrailing text) :=
  ⟨mendLines (proseMask (lines text)) (terminated text), trims_mendLines (length_proseMask_lines text), rfl⟩

/-! ## The prose of a mended text -/

namespace Prose

/-- Lines, with nothing in the place of those that are masked. -/
def under (mask : List Bool) (ls : List Text) : Prose :=
  List.zipWith (fun line masked => if masked then none else some line) ls mask

/-- Prose before and after it was mended. A line of which nothing is left may vanish. -/
inductive Tidied : Prose → Prose → Prop
  | nil : Tidied [] []
  | hidden {p p' : Prose} : Tidied p p' → Tidied (none :: p) (none :: p')
  | kept {line : Text} {p p' : Prose} : Tidied p p' → Tidied (some line :: p) (some (fixLine false line) :: p')
  | vanished {line : Text} {p p' : Prose} : fixLine false line = [] → Tidied p p' → Tidied (some line :: p) p'

end Prose

/-- The fences among mended lines are the same, and so is the prose between them. -/
theorem Tidied.under_fenced {fence : Option Fence} {ls ls' : List Text}
    (h : Tidied (Fence.fenced fence ls) ls ls') :
    Prose.Tidied (.under (Fence.fenced fence ls) ls) (.under (Fence.fenced fence ls') ls') := by
  induction ls generalizing fence ls' with
  | nil =>
    cases h
    exact .nil
  | cons line rest ih =>
    rw [Fence.fenced_cons] at h ⊢
    cases hmasked : fence.isSome || (Fence.step fence line).2 with
    | true =>
      rw [hmasked] at h
      cases h with
      | masked h =>
        rw [Fence.fenced_cons, hmasked]
        exact .hidden (ih h)
    | false =>
      -- the line stands outside of fences, and so does what is left of it
      obtain ⟨rfl, hopens⟩ := Fence.fenced_eq_false_iff.mp hmasked
      rw [hmasked, Fence.step_outside hopens] at h
      rw [Fence.step_outside hopens]
      cases h with
      | kept h =>
        have hopens' := (Fence.opening?_congr (strip_fixLine false line)).trans hopens
        rw [Fence.fenced_cons, Fence.step_outside hopens']
        exact .kept (ih h)
      | vanished hline h => exact .vanished hline (ih h)

/-- Masked lines at the start are the same. -/
theorem Tidied.under_append {mask mask' : List Bool} : ∀ {k : Nat} {ls ls' : List Text},
    Tidied (List.replicate k true ++ mask) ls ls' →
      (Tidied mask (ls.drop k) (ls'.drop k) →
        Prose.Tidied (.under mask (ls.drop k)) (.under mask' (ls'.drop k))) →
      Prose.Tidied (.under (List.replicate k true ++ mask) ls) (.under (List.replicate k true ++ mask') ls')
  | 0, _, _, h, hrest => hrest h
  | k + 1, _, _, h, hrest => by
    rw [List.replicate_succ, List.cons_append] at h ⊢
    cases h with
    | masked h => exact .hidden (under_append h hrest)

/-- **The prose of a mended text.** -/
theorem Prose.tidied_ofLines (text : Text) :
    Tidied (ofLines (lines text)) (ofLines (lines (fixTrailing text))) := by
  have htidied := tidied_fixTrailing text
  have hsplit := htidied.mended.split_eq.1
  show Tidied (under _ _) (under (proseMask _) _)
  unfold proseMask at htidied ⊢
  rw [hsplit]
  exact htidied.under_append Tidied.under_fenced

namespace Prose

/-- The visible lines. -/
def visible (p : Prose) : List Text := p.filterMap id

theorem map_snd_numberedFrom (n : Nat) (p : Prose) : (numberedFrom n p).map (·.2) = p.visible := by
  induction p generalizing n with
  | nil => rfl
  | cons line? rest ih =>
    cases line? with
    | none => exact ih (n + 1)
    | some line => exact congrArg (line :: ·) (ih (n + 1))

/-- The lines that end in a space or a tab are counted among the visible ones. -/
theorem length_trailingSpaces (p : Prose) :
    (Lint.trailingSpaces p).length = p.visible.countP Lint.hasTrailingSpace := by
  unfold Lint.trailingSpaces numbered
  rw [List.length_map, ← List.countP_eq_length_filter, ← map_snd_numberedFrom 1 p, List.countP_map]
  rfl

theorem hasTrailingSpace_fixLine (line : Text) : Lint.hasTrailingSpace (fixLine false line) = false := by
  obtain ⟨-, -, -, hlast⟩ := exists_dropEnd_append Lint.isSpaceOrTab line
  show (dropEnd Lint.isSpaceOrTab line).getLast?.any Lint.isSpaceOrTab = false
  cases hc : (dropEnd Lint.isSpaceOrTab line).getLast? with
  | none => rfl
  | some c => exact hlast c hc

namespace Tidied

variable {p p' : Prose}

/-- **Nothing is left to be mended.** -/
theorem length_trailingSpaces (h : Tidied p p') : (Lint.trailingSpaces p').length = 0 := by
  rw [Prose.length_trailingSpaces, List.countP_eq_zero]
  induction h with
  | nil =>
    intro line hline
    cases hline
  | hidden _ ih => exact ih
  | kept _ ih =>
    intro line hline
    rcases List.mem_cons.mp hline with rfl | hline
    · rw [hasTrailingSpace_fixLine]
      exact Bool.false_ne_true
    · exact ih line hline
  | vanished _ _ ih => exact ih

/-- What the lines show is the same, if blanks at their ends show nothing. -/
theorem parts_eq {α : Type} {parts : Text → List α} (hnil : parts [] = [])
    (hparts : ∀ line, parts (fixLine false line) = parts line) (h : Tidied p p') :
    p'.visible.flatMap parts = p.visible.flatMap parts := by
  induction h with
  | nil => rfl
  | hidden _ ih => exact ih
  | @kept line p p' _ ih =>
    show (fixLine false line :: p'.visible).flatMap parts = (line :: p.visible).flatMap parts
    rw [List.flatMap_cons, List.flatMap_cons, hparts, ih]
  | @vanished line p p' hline _ ih =>
    have hnone : parts line = [] := by rw [← hparts line, hline, hnil]
    show p'.visible.flatMap parts = (line :: p.visible).flatMap parts
    rw [List.flatMap_cons, hnone, List.nil_append, ih]

end Tidied

end Prose

/-! ## Links and references -/

namespace Lint

/-- A recogniser for which blanks at the end of a text belong to the rest. -/
def Leaves {α : Type} (at? : Text → Option (α × Text)) : Prop :=
  ∀ blanks : Text, (∀ c ∈ blanks, isSpaceOrTab c = true) →
    ∀ s, at? (s ++ blanks) = (at? s).map fun r => (r.1, r.2 ++ blanks)

theorem scan_nil {α : Type} (at? : Text → Option (α × Text)) : scan at? [] = [] := by rw [scan]

theorem scan_cons {α : Type} (at? : Text → Option (α × Text)) (c : Char) (r : Text) :
    scan at? (c :: r) =
      match at? (c :: r) with
      | none => scan at? r
      | some found => if found.2.length ≤ r.length then found.1 :: scan at? found.2 else [found.1] := by
  rw [scan]
  cases at? (c :: r) with
  | none => rfl
  | some found => rfl

section Blanks

variable {blanks : Text} (hblanks : ∀ c ∈ blanks, isSpaceOrTab c = true)

include hblanks

/-- There is no sign among the blanks at which a text is cut. -/
theorem cut_append_blanks (sep : Char) (hsep : isSpaceOrTab sep = false) (s : Text) :
    cut sep (s ++ blanks) = (cut sep s).map fun r => (r.1, r.2 ++ blanks) := by
  induction s with
  | nil =>
    have hmem : sep ∉ blanks := by
      intro h
      rw [hblanks sep h] at hsep
      cases hsep
    exact cut_eq_none hmem
  | cons c s ih =>
    rw [List.cons_append, cut, cut, ih]
    split
    · rfl
    · rw [Option.map_map, Option.map_map]
      rfl

/-- Nothing is recognised among blanks. -/
theorem scan_blanks {α : Type} {at? : Text → Option (α × Text)} (h : Leaves at?) (hnil : at? [] = none) :
    scan at? blanks = [] := by
  induction blanks with
  | nil => exact scan_nil at?
  | cons c blanks ih =>
    have hat := h (c :: blanks) hblanks []
    rw [List.nil_append, hnil] at hat
    rw [scan_cons, hat]
    exact ih fun c hc => hblanks c (List.mem_cons_of_mem _ hc)

/-- One step of a scan does the same with blanks at the end of the text. -/
theorem scan_cons_append_blanks {α : Type} {at? : Text → Option (α × Text)} (h : Leaves at?) (c : Char)
    (r : Text) :
    scan at? (c :: (r ++ blanks)) =
      match at? (c :: r) with
      | none => scan at? (r ++ blanks)
      | some found =>
        if found.2.length ≤ r.length then found.1 :: scan at? (found.2 ++ blanks) else [found.1] := by
  have hat := h blanks hblanks (c :: r)
  rw [List.cons_append] at hat
  rw [scan_cons, hat]
  cases at? (c :: r) with
  | none => rfl
  | some found => simp only [Option.map_some, List.length_append, Nat.add_le_add_iff_right]

/-- **Blanks at the end of a text show nothing.** -/
theorem scan_append_blanks {α : Type} {at? : Text → Option (α × Text)} (h : Leaves at?) (hnil : at? [] = none)
    (s : Text) : scan at? (s ++ blanks) = scan at? s := by
  fun_induction scan at? s with
  | case1 => exact scan_blanks hblanks h hnil
  | case2 c r hat ih =>
    rw [List.cons_append, scan_cons_append_blanks hblanks h, hat]
    exact ih
  | case3 c r a rest hat hle ih =>
    rw [List.cons_append, scan_cons_append_blanks hblanks h, hat]
    exact (if_pos hle).trans (congrArg (a :: ·) ih)
  | case4 c r a rest hat hle =>
    rw [List.cons_append, scan_cons_append_blanks hblanks h, hat]
    exact if_neg hle

end Blanks

/-- A recogniser of a sign and what follows it. -/
theorem leaves_of_sign {α : Type} {at? : Text → Option (α × Text)} (sign : Char)
    (hsign : isSpaceOrTab sign = false) (hother : ∀ c r, c ≠ sign → at? (c :: r) = none) (hnil : at? [] = none)
    (hbehind : Leaves fun r => at? (sign :: r)) : Leaves at? := by
  intro blanks hblanks s
  cases s with
  | nil =>
    rw [List.nil_append, hnil]
    cases blanks with
    | nil => exact hnil
    | cons c blanks =>
      refine hother c blanks fun hc => ?_
      have hc' := hblanks c List.mem_cons_self
      rw [hc, hsign] at hc'
      cases hc'
  | cons c r =>
    by_cases hc : c = sign
    · rw [hc]
      exact hbehind blanks hblanks r
    · rw [List.cons_append, hother c _ hc, hother c _ hc]
      rfl

theorem leaves_parenthesised : Leaves parenthesised? := by
  refine leaves_of_sign '(' rfl (fun c r hc => ?_) rfl fun blanks hblanks r => ?_
  · unfold parenthesised?
    split
    · next h => exact absurd (List.cons.inj h).1 hc
    · rfl
  · simp only [parenthesised?, cut_append_blanks hblanks ')' rfl]
    cases cut ')' r with
    | none => rfl
    | some found =>
      simp only [Option.map_some]
      split <;> rfl

theorem leaves_link : Leaves Link.at? := by
  refine leaves_of_sign '[' rfl (fun c r hc => ?_) rfl fun blanks hblanks r => ?_
  · unfold Link.at?
    split
    · next h => exact absurd (List.cons.inj h).1 hc
    · rfl
  · simp only [Link.at?, cut_append_blanks hblanks ']' rfl]
    cases cut ']' r with
    | none => rfl
    | some found =>
      simp only [Option.map_some, leaves_parenthesised blanks hblanks found.2, Option.map_map]
      rfl

/-- A text that does not start with a backtick is read as a link. -/
theorem codeRefAt?_of_head? {s : Text} (h : s.head? ≠ some '`') :
    codeRefAt? s = (Link.at? s).bind fun found =>
      if namesCode found.1.target then some (found.1.target, found.2) else none := by
  unfold codeRefAt?
  split
  · exact absurd rfl h
  · cases Link.at? s <;> rfl

theorem leaves_codeRef : Leaves codeRefAt? := by
  intro blanks hblanks s
  by_cases hs : s.head? = some '`'
  · obtain ⟨r, rfl⟩ := List.head?_eq_some_iff.mp hs
    simp only [List.cons_append, codeRefAt?, cut_append_blanks hblanks '`' rfl]
    cases cut '`' r with
    | none => rfl
    | some found =>
      simp only [Option.map_some]
      split <;> rfl
  · have hs' : (s ++ blanks).head? ≠ some '`' := by
      cases s with
      | cons c r => exact hs
      | nil =>
        intro h
        exact absurd (hblanks '`' (List.mem_of_mem_head? h)) (by decide)
    rw [codeRefAt?_of_head? hs, codeRefAt?_of_head? hs', leaves_link blanks hblanks]
    cases Link.at? s with
    | none => rfl
    | some found =>
      simp only [Option.map_some, Option.bind_some]
      split <;> rfl

/-- **What is left of a line shows what the line shows.** -/
theorem scan_fixLine {α : Type} {at? : Text → Option (α × Text)} (h : Leaves at?) (hnil : at? [] = none)
    (line : Text) : scan at? (fixLine false line) = scan at? line := by
  obtain ⟨blanks, hline, hblanks, -⟩ := exists_fixLine_append false line
  have hscan := scan_append_blanks hblanks h hnil (fixLine false line)
  rw [← hline] at hscan
  exact hscan.symm

theorem links_fixLine (line : Text) : links (fixLine false line) = links line :=
  scan_fixLine leaves_link rfl line

theorem codeRefs_fixLine (line : Text) : codeRefs (fixLine false line) = codeRefs line :=
  scan_fixLine leaves_codeRef rfl line

end Lint

namespace Prose.Tidied

variable {p p' : Prose}

/-- **The prose of a mended text has the same links.** -/
theorem links_eq (h : Tidied p p') : p'.visible.flatMap Lint.links = p.visible.flatMap Lint.links :=
  h.parts_eq (Lint.scan_nil _) Lint.links_fixLine

/-- **The prose of a mended text has the same code references.** -/
theorem codeRefs_eq (h : Tidied p p') : p'.visible.flatMap Lint.codeRefs = p.visible.flatMap Lint.codeRefs :=
  h.parts_eq (Lint.scan_nil _) Lint.codeRefs_fixLine

end Prose.Tidied

end DocAudit
