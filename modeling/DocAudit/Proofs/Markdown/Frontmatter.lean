import DocAudit.Markdown.Frontmatter
import DocAudit.Proofs.Text.Strip

/-!
# Where the frontmatter ends

The frontmatter of a text is decided by the lines up to its second marker. What stands behind them does
not matter, and neither do blank lines and the white space around lines when there is no frontmatter.

## Contents

* `Frontmatter.split_le`: the frontmatter lies inside of the text
* `Frontmatter.split_append`, `Frontmatter.split_take`: the lines that decide
* `visible`, `Frontmatter.isSome_split_iff`: **there is a frontmatter when the first line that is not
  blank is a marker and there is another one**
-/

namespace DocAudit

open Text

/-! ## Blank lines -/

/-- The trimmed lines, those that are blank left out. -/
def visible (ls : List Text) : List Text := (ls.map strip).filter (!·.isEmpty)

theorem visible_cons_of_blank {line : Text} (h : isBlankText line = true) (ls : List Text) :
    visible (line :: ls) = visible ls := by
  rw [visible, List.map_cons, strip_eq_nil_iff.mpr h]
  rfl

theorem visible_cons_of_not_blank {line : Text} (h : isBlankText line = false) (ls : List Text) :
    visible (line :: ls) = strip line :: visible ls := by
  have hne : strip line ≠ [] := fun hnil => by simp [strip_eq_nil_iff.mp hnil] at h
  rw [visible, List.map_cons, List.filter_cons_of_pos (by simpa using hne)]
  rfl

theorem visible_blank_append : ∀ {blank : List Text}, (∀ line ∈ blank, isBlankText line = true) →
    ∀ ls : List Text, visible (blank ++ ls) = visible ls
  | [], _, _ => rfl
  | line :: blank, h, ls => by
    rw [List.cons_append, visible_cons_of_blank (h line List.mem_cons_self),
      visible_blank_append fun l hl => h l (List.mem_cons_of_mem line hl)]

namespace Frontmatter

/-! ## The second marker -/

theorem untilMarker_cons (line : Text) (rest : List Text) :
    untilMarker (line :: rest) =
      if isMarker line then some ([], 1)
      else (untilMarker rest).map fun (ls, n) => (line :: ls, n + 1) := rfl

theorem untilMarker_le : ∀ {ls inner : List Text} {n : Nat},
    untilMarker ls = some (inner, n) → n ≤ ls.length
  | [], _, _, h => nomatch h
  | line :: rest, inner, n, h => by
    rw [untilMarker_cons] at h
    split at h
    · cases h
      simp
    · obtain ⟨⟨inner', n'⟩, hr, he⟩ := Option.map_eq_some_iff.mp h
      cases he
      exact Nat.succ_le_succ (untilMarker_le hr)

/-- Lines behind the marker do not matter. -/
theorem untilMarker_append : ∀ {ls inner : List Text} {n : Nat},
    untilMarker ls = some (inner, n) → ∀ more, untilMarker (ls ++ more) = some (inner, n)
  | [], _, _, h, _ => nomatch h
  | line :: rest, inner, n, h, more => by
    rw [untilMarker_cons] at h
    rw [List.cons_append, untilMarker_cons]
    split at h
    · next hm => rw [if_pos hm, h]
    · next hm =>
      obtain ⟨⟨inner', n'⟩, hr, he⟩ := Option.map_eq_some_iff.mp h
      rw [if_neg hm, untilMarker_append hr more, Option.map_some, he]

/-- The lines up to the marker suffice to find it. -/
theorem untilMarker_take : ∀ {ls inner : List Text} {n : Nat},
    untilMarker ls = some (inner, n) → untilMarker (ls.take n) = some (inner, n)
  | [], _, _, h => nomatch h
  | line :: rest, inner, n, h => by
    rw [untilMarker_cons] at h
    split at h
    · next hm =>
      cases h
      rw [List.take_succ_cons, untilMarker_cons, if_pos hm]
    · next hm =>
      obtain ⟨⟨inner', n'⟩, hr, he⟩ := Option.map_eq_some_iff.mp h
      cases he
      rw [List.take_succ_cons, untilMarker_cons, if_neg hm, untilMarker_take hr]
      rfl

theorem isMarker_iff {line : Text} : isMarker line = true ↔ strip line = ['-', '-', '-'] := by
  rw [isMarker, beq_iff_eq]

/-- A marker is not blank. -/
theorem isBlankText_of_isMarker {line : Text} (h : isMarker line = true) :
    isBlankText line = false := by
  rw [Bool.eq_false_iff]
  intro hblank
  rw [← strip_eq_nil_iff, isMarker_iff.mp h] at hblank
  cases hblank

/-- There is a marker when a trimmed line is one. -/
theorem isSome_untilMarker_iff (ls : List Text) :
    (untilMarker ls).isSome = true ↔ ['-', '-', '-'] ∈ visible ls := by
  induction ls with
  | nil => exact ⟨nofun, nofun⟩
  | cons line rest ih =>
    rw [untilMarker_cons]
    cases hm : isMarker line with
    | true =>
      rw [visible_cons_of_not_blank (isBlankText_of_isMarker hm), isMarker_iff.mp hm]
      simp
    | false =>
      have hne : strip line ≠ ['-', '-', '-'] := fun he => by simp [isMarker_iff.mpr he] at hm
      rw [if_neg Bool.false_ne_true, Option.isSome_map, ih]
      cases hb : isBlankText line with
      | true => rw [visible_cons_of_blank hb]
      | false => rw [visible_cons_of_not_blank hb, List.mem_cons, or_iff_right hne.symm]

/-! ## The frontmatter -/

/-- The first line that is not blank decides whether there can be a frontmatter. -/
theorem split_blank_append {blank : List Text} {first : Text}
    (hblank : ∀ line ∈ blank, isBlankText line = true) (hfirst : isBlankText first = false)
    (rest : List Text) :
    split (blank ++ first :: rest) =
      if isMarker first then
        match untilMarker rest with
        | none => (none, 0)
        | some (inner, n) => (some inner, blank.length + 1 + n)
      else (none, 0) := by
  unfold split
  rewrite [List.takeWhile_append_of_pos hblank, List.dropWhile_append_of_pos hblank,
    List.takeWhile_cons, if_neg (by simp [hfirst]), List.dropWhile_cons, if_neg (by simp [hfirst]),
    List.append_nil]
  rfl

/-- A text either is blank, or a first line that is not blank comes behind blank ones. -/
theorem blank_or_first (ls : List Text) :
    (∀ line ∈ ls, isBlankText line = true) ∨
      ∃ blank first rest, ls = blank ++ first :: rest ∧
        (∀ line ∈ blank, isBlankText line = true) ∧ isBlankText first = false := by
  have hblank : ∀ line ∈ ls.takeWhile isBlankText, isBlankText line = true :=
    List.all_eq_true.mp List.all_takeWhile
  cases hd : ls.dropWhile isBlankText with
  | nil => exact Or.inl (List.dropWhile_eq_nil_iff.mp hd)
  | cons first rest =>
    have hnot := List.head?_dropWhile_not isBlankText ls
    rw [hd] at hnot
    refine Or.inr ⟨ls.takeWhile isBlankText, first, rest, ?_, hblank, by simpa using hnot⟩
    rw [← hd, List.takeWhile_append_dropWhile]

theorem split_of_blank {ls : List Text} (h : ∀ line ∈ ls, isBlankText line = true) :
    split ls = (none, 0) := by
  unfold split
  rw [List.dropWhile_eq_nil_iff.mpr h]

/-- The parts of a text with a frontmatter. -/
theorem split_eq_some {ls inner : List Text} {n : Nat} (h : split ls = (some inner, n)) :
    ∃ (blank : List Text) (first : Text) (rest : List Text) (m : Nat),
      ls = blank ++ first :: rest ∧ (∀ line ∈ blank, isBlankText line = true) ∧
        isMarker first = true ∧ untilMarker rest = some (inner, m) ∧ n = blank.length + 1 + m := by
  rcases blank_or_first ls with hblank | ⟨blank, first, rest, rfl, hblank, hfirst⟩
  · rw [split_of_blank hblank] at h
    cases h
  · rw [split_blank_append hblank hfirst] at h
    split at h
    · next hm =>
      split at h
      · cases h
      · next inner' m hu =>
        cases h
        exact ⟨blank, first, rest, m, rfl, hblank, hm, hu, rfl⟩
    · cases h

/-- Without a frontmatter, the body is everything. -/
theorem split_eq_none {ls : List Text} (h : (split ls).1 = none) : split ls = (none, 0) := by
  unfold split at h ⊢
  split
  · rfl
  · split
    · split
      · rfl
      · simp_all
    · rfl

/-- The body starts inside of the text. -/
theorem split_le (ls : List Text) : (split ls).2 ≤ ls.length := by
  cases hs : split ls with
  | mk inner n =>
    cases inner with
    | none =>
      rw [split_eq_none (by rw [hs])] at hs
      cases hs
      exact Nat.zero_le _
    | some inner =>
      obtain ⟨blank, first, rest, m, rfl, -, -, hu, rfl⟩ := split_eq_some hs
      have hm := untilMarker_le hu
      simp only [List.length_append, List.length_cons]
      omega

/-- **Lines behind the frontmatter do not matter.** -/
theorem split_append {ls inner : List Text} {n : Nat} (h : split ls = (some inner, n))
    (more : List Text) : split (ls ++ more) = (some inner, n) := by
  obtain ⟨blank, first, rest, m, rfl, hblank, hm, hu, rfl⟩ := split_eq_some h
  rw [List.append_assoc, List.cons_append,
    split_blank_append hblank (isBlankText_of_isMarker hm), if_pos hm, untilMarker_append hu]

/-- **The lines of the frontmatter suffice to find it.** -/
theorem split_take {ls inner : List Text} {n : Nat} (h : split ls = (some inner, n)) :
    split (ls.take n) = (some inner, n) := by
  obtain ⟨blank, first, rest, m, rfl, hblank, hm, hu, rfl⟩ := split_eq_some h
  have htake : (blank ++ first :: rest).take (blank.length + 1 + m) = blank ++ first :: rest.take m := by
    rw [Nat.add_assoc, List.take_length_add_append, Nat.add_comm 1, List.take_succ_cons]
  rw [htake, split_blank_append hblank (isBlankText_of_isMarker hm), if_pos hm, untilMarker_take hu]

/-- The lines that a frontmatter stands in suffice to find it, whatever stands behind them. -/
theorem split_of_le {front xs inner : List Text} {n : Nat} (h : split (front ++ xs) = (some inner, n))
    (hn : n ≤ front.length) (ys : List Text) : split (front ++ ys) = (some inner, n) := by
  have htake := split_take h
  rw [List.take_append_of_le_length hn] at htake
  have happend := split_append htake (front.drop n ++ ys)
  rwa [← List.append_assoc, List.take_append_drop] at happend

/-- Texts that begin in the same way have the same frontmatter when their bodies start in these lines. -/
theorem split_congr {front xs ys : List Text} (hx : (split (front ++ xs)).2 ≤ front.length)
    (hy : (split (front ++ ys)).2 ≤ front.length) : split (front ++ ys) = split (front ++ xs) := by
  cases hsplit : split (front ++ xs) with
  | mk inner? n =>
    cases inner? with
    | some inner => exact split_of_le hsplit (by simpa [hsplit] using hx) ys
    | none =>
      cases hsplit' : split (front ++ ys) with
      | mk inner? m =>
        cases inner? with
        | none =>
          have hn := split_eq_none (congrArg Prod.fst hsplit)
          have hm := split_eq_none (congrArg Prod.fst hsplit')
          rw [← hsplit, hn, ← hsplit', hm]
        | some inner =>
          rw [split_of_le hsplit' (by simpa [hsplit'] using hy) xs] at hsplit
          cases hsplit

/-- **There is a frontmatter when the first line that is not blank is a marker and there is another
one.** -/
theorem isSome_split_iff (ls : List Text) :
    (split ls).1.isSome = true ↔
      ∃ rest, visible ls = ['-', '-', '-'] :: rest ∧ ['-', '-', '-'] ∈ rest := by
  rcases blank_or_first ls with hblank | ⟨blank, first, rest, rfl, hblank, hfirst⟩
  · have hvisible := visible_blank_append hblank []
    rw [List.append_nil] at hvisible
    rw [split_of_blank hblank, hvisible]
    simp [visible]
  · rw [split_blank_append hblank hfirst, visible_blank_append hblank,
      visible_cons_of_not_blank hfirst]
    cases hm : isMarker first with
    | true =>
      have hrest := isSome_untilMarker_iff rest
      rw [isMarker_iff.mp hm, if_pos rfl]
      cases hu : untilMarker rest with
      | none =>
        rw [hu] at hrest
        simpa using hrest
      | some found =>
        rw [hu] at hrest
        simpa using hrest
    | false =>
      have hne : strip first ≠ ['-', '-', '-'] := fun he => by simp [isMarker_iff.mpr he] at hm
      simp [hne]

end Frontmatter

end DocAudit
