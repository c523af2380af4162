import DocAudit.Lint.Heading
import DocAudit.Proofs.Text.Strip

/-!
# Shapes of lines

What the recognisers of lines accept, told by how such a line is put together: signs in front of a heading,
a line of signs under one, and the mark of a list item.

## Contents

* `Lint.IsMarked`, `Lint.isMarked_iff`: one to six signs, with or without a blank behind them
* `Lint.IsUnderlining`, `Lint.isUnderline_iff`: a line of one sign only
* `Lint.HasListMark`, `Lint.isListItem_iff`: the mark of a list item
-/

namespace DocAudit.Lint

open Text

/-! ## Signs in front -/

/-- One to six signs and something else, or nothing. They are spaced when what follows is not anything but
a blank. -/
def IsMarked (spaced : Bool) (line : Text) : Prop :=
  ∃ (level : Nat) (rest : Text), line = List.replicate level '#' ++ rest ∧ 1 ≤ level ∧ level ≤ 6 ∧
    rest.head? ≠ some '#' ∧ (spaced = true ↔ ∀ c, rest.head? = some c → isBlank c = true)

/-- Signs are counted up to something else. -/
theorem signs_replicate (level : Nat) {rest : Text} (hrest : rest.head? ≠ some '#') :
    (List.replicate level '#' ++ rest).takeWhile (· == '#') = List.replicate level '#' ∧
      (List.replicate level '#' ++ rest).dropWhile (· == '#') = rest := by
  refine span_run (fun c hc => by rw [List.eq_of_mem_replicate hc]; rfl) fun c hc => ?_
  rw [beq_eq_false_iff_ne]
  rintro rfl
  exact hrest hc

theorem eq_signs_append (line : Text) :
    line = List.replicate (line.takeWhile (· == '#')).length '#' ++ line.dropWhile (· == '#') ∧
      (line.dropWhile (· == '#')).head? ≠ some '#' := by
  constructor
  · have hsigns : line.takeWhile (· == '#') =
        List.replicate (line.takeWhile (· == '#')).length '#' :=
      List.eq_replicate_iff.mpr ⟨rfl, fun c hc => by simpa using List.mem_takeWhile_imp hc⟩
    rw [← hsigns, List.takeWhile_append_dropWhile]
  · intro hhead
    have hnot := List.head?_dropWhile_not (· == '#') line
    rw [hhead] at hnot
    simp at hnot

theorem isSome_signCount?_iff {line : Text} :
    (signCount? line).isSome = true ↔
      1 ≤ (line.takeWhile (· == '#')).length ∧ (line.takeWhile (· == '#')).length ≤ 6 := by
  unfold signCount?
  simp only [Bool.and_eq_true, decide_eq_true_eq]
  split
  · next h => exact ⟨fun _ => h, fun _ => rfl⟩
  · next h => exact ⟨nofun, fun hbounds => absurd hbounds h⟩

theorem isSpaced_iff {line : Text} :
    isSpaced line = true ↔ ∀ c, (line.dropWhile (· == '#')).head? = some c → isBlank c = true := by
  unfold isSpaced
  cases line.dropWhile (· == '#') with
  | nil => exact ⟨fun _ => nofun, fun _ => rfl⟩
  | cons c rest =>
    constructor
    · intro h d hd
      cases hd
      exact h
    · exact fun h => h c rfl

/-- **The lines that are counted as marked, and which of them are spaced.** -/
theorem isMarked_iff {spaced : Bool} {line : Text} :
    IsMarked spaced line ↔ (signCount? line).isSome = true ∧ isSpaced line = spaced := by
  constructor
  · rintro ⟨level, rest, rfl, hone, hsix, hrest, hspaced⟩
    obtain ⟨htake, hdrop⟩ := signs_replicate level hrest
    refine ⟨isSome_signCount?_iff.mpr ?_, ?_⟩
    · rw [htake, List.length_replicate]
      exact ⟨hone, hsix⟩
    · rw [Bool.eq_iff_iff, isSpaced_iff, hdrop, hspaced]
  · rintro ⟨hcount, hspaced⟩
    obtain ⟨hone, hsix⟩ := isSome_signCount?_iff.mp hcount
    obtain ⟨hline, hhead⟩ := eq_signs_append line
    exact ⟨_, _, hline, hone, hsix, hhead, by rw [← hspaced, isSpaced_iff]⟩

/-! ## Signs under a line -/

/-- One of the two signs, once or more, and blanks behind it. -/
def IsUnderlining (line : Text) : Prop :=
  ∃ (sign : Char) (size : Nat) (blanks : Text), (sign = '=' ∨ sign = '-') ∧ 1 ≤ size ∧
    line = List.replicate size sign ++ blanks ∧ ∀ c ∈ blanks, isBlank c = true

/-- What is left of a run of a sign and the blanks behind it. -/
theorem stripEnd_replicate {sign : Char} {size : Nat} {blanks : Text} (hsign : isBlank sign = false)
    (hblanks : ∀ c ∈ blanks, isBlank c = true) :
    stripEnd (List.replicate size sign ++ blanks) = List.replicate size sign := by
  rw [stripEnd, dropEnd_append_of_pos _ hblanks, dropEnd_eq_self_iff]
  intro c hc
  rwa [List.eq_of_mem_replicate (List.mem_of_getLast? hc)]

theorem isUnderline_iff {line : Text} : isUnderline line = true ↔ IsUnderlining line := by
  have hsigns : isUnderline line = true ↔
      stripEnd line ≠ [] ∧ ((∀ c ∈ stripEnd line, c = '=') ∨ ∀ c ∈ stripEnd line, c = '-') := by
    simp [isUnderline]
  rw [hsigns]
  constructor
  · rintro ⟨hne, hall⟩
    obtain ⟨blanks, hline, hblanks, -⟩ := exists_dropEnd_append isBlank line
    have hsize : 1 ≤ (stripEnd line).length := List.length_pos_iff.mpr hne
    rcases hall with hall | hall
    · refine ⟨'=', _, blanks, .inl rfl, hsize, ?_, hblanks⟩
      rw [← List.eq_replicate_iff.mpr ⟨rfl, hall⟩]
      exact hline
    · refine ⟨'-', _, blanks, .inr rfl, hsize, ?_, hblanks⟩
      rw [← List.eq_replicate_iff.mpr ⟨rfl, hall⟩]
      exact hline
  · rintro ⟨sign, size, blanks, hsign, hsize, rfl, hblanks⟩
    have hnot : isBlank sign = false := by rcases hsign with rfl | rfl <;> decide
    rw [stripEnd_replicate hnot hblanks]
    refine ⟨fun hnil => ?_, ?_⟩
    · rw [List.replicate_eq_nil_iff] at hnil
      omega
    · rcases hsign with rfl | rfl
      · exact .inl fun c hc => List.eq_of_mem_replicate hc
      · exact .inr fun c hc => List.eq_of_mem_replicate hc

/-- A line with signs in front of it has none under another line. -/
theorem IsUnderlining.not_isMarked {spaced : Bool} {line : Text} (h : IsUnderlining line) :
    ¬ IsMarked spaced line := by
  obtain ⟨sign, size, blanks, hsign, hsize, rfl, -⟩ := h
  rintro ⟨level, rest, hline, hlevel, -⟩
  obtain ⟨size, rfl⟩ : ∃ n, size = n + 1 := ⟨size - 1, by omega⟩
  obtain ⟨level, rfl⟩ : ∃ n, level = n + 1 := ⟨level - 1, by omega⟩
  rw [List.replicate_succ, List.replicate_succ] at hline
  rw [(List.cons.inj hline).1] at hsign
  revert hsign
  decide

/-! ## List items -/

/-- A trimmed line with the mark of a list item and a blank: one of three signs, or digits with a sign
behind them. -/
def HasListMark (trimmed : Text) : Prop :=
  (∃ sign blank rest, trimmed = sign :: blank :: rest ∧ (sign = '-' ∨ sign = '*' ∨ sign = '+') ∧
    isBlank blank = true) ∨
  ∃ digits sign blank rest, trimmed = digits ++ sign :: blank :: rest ∧ digits ≠ [] ∧
    (∀ c ∈ digits, isDigit c = true) ∧ (sign = '.' ∨ sign = ')') ∧ isBlank blank = true

theorem isDigit_eq_false_of_sign {c : Char} (h : c = '-' ∨ c = '*' ∨ c = '+' ∨ c = '.' ∨ c = ')') :
    isDigit c = false := by
  rcases h with rfl | rfl | rfl | rfl | rfl <;> decide

/-- **The lines that are counted as list items.** -/
theorem isListItem_iff {trimmed : Text} : isListItem trimmed = true ↔ HasListMark trimmed := by
  cases trimmed with
  | nil =>
    refine ⟨nofun, ?_⟩
    rintro (⟨_, _, _, h, -⟩ | ⟨digits, _, _, _, h, -⟩)
    · cases h
    · cases digits <;> cases h
  | cons c r =>
    unfold isListItem
    simp only [Bool.or_eq_true, beq_iff_eq]
    split
    · next hsign =>
      have hmarks : c = '-' ∨ c = '*' ∨ c = '+' := by rwa [or_assoc] at hsign
      constructor
      · intro h
        obtain ⟨blank, hblank, hisBlank⟩ := (Option.any_eq_true _ _).mp h
        obtain ⟨rest, rfl⟩ := List.head?_eq_some_iff.mp hblank
        exact .inl ⟨c, blank, rest, rfl, hmarks, hisBlank⟩
      · rintro (⟨_, blank, rest, h, -, hblank⟩ | ⟨digits, _, _, _, h, hne, hdigits, -⟩)
        · cases h
          exact hblank
        · obtain ⟨d, digits, rfl⟩ := List.exists_cons_of_ne_nil hne
          obtain rfl := (List.cons.inj h).1
          have hnot := isDigit_eq_false_of_sign (c := c) (by tauto)
          rw [hdigits c List.mem_cons_self] at hnot
          cases hnot
    · next hsign =>
      constructor
      · intro h
        split at h
        · next mark blank rest hdrop =>
          simp only [Bool.and_eq_true, Bool.or_eq_true, beq_iff_eq] at h
          obtain ⟨⟨hdigit, hmark⟩, hblank⟩ := h
          refine .inr ⟨(c :: r).takeWhile isDigit, mark, blank, rest, ?_, ?_, ?_, hmark, hblank⟩
          · rw [← hdrop, List.takeWhile_append_dropWhile]
          · rw [List.takeWhile_cons_of_pos hdigit]
            exact List.cons_ne_nil _ _
          · exact fun d hd => List.mem_takeWhile_imp hd
        · cases h
      · rintro (⟨_, _, _, h, hmark, -⟩ | ⟨digits, sign, blank, rest, h, hne, hdigits, hmark, hblank⟩)
        · cases h
          exact absurd (by rwa [or_assoc]) hsign
        · have hdrop : (c :: r).dropWhile isDigit = sign :: blank :: rest := by
            rw [h]
            refine (span_run hdigits fun d hd => ?_).2
            cases hd
            exact isDigit_eq_false_of_sign (by tauto)
          obtain ⟨d, digits, rfl⟩ := List.exists_cons_of_ne_nil hne
          obtain rfl := (List.cons.inj h).1
          rw [hdrop]
          simp [hdigits c List.mem_cons_self, hmark, hblank]

end DocAudit.Lint
