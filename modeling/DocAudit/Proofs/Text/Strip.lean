import DocAudit.Text.Blank
import Mathlib.Data.List.DropRight

/-!
# Trimmed texts

Runs of characters of a class at the start and at the end of a text. Which texts trimming leaves as they
are, and what it leaves of white space around a text.

## Contents

* `span_run`: where a run ends
* `exists_dropEnd_append`: a text is cut before the run at its end
* `strip_eq_self_iff`: a text is trimmed when it neither starts nor ends with white space
* `strip_append`: trimmed texts, one behind the other, are trimmed
* `strip_eq_nil_iff`: only white space is trimmed to nothing
* `strip_blank_append`: white space around a text does not count
* `exists_strip_append`: a text is what trimming leaves of it, between white space
* `head?_words`: the first word of a text
-/

namespace DocAudit.Text

/-- A run of characters of a class ends before a character outside of the class. -/
theorem span_run {p : Char → Bool} {s t : Text} (hs : ∀ c ∈ s, p c = true)
    (ht : ∀ c, t.head? = some c → p c = false) :
    (s ++ t).takeWhile p = s ∧ (s ++ t).dropWhile p = t := by
  rw [List.takeWhile_append_of_pos hs, List.dropWhile_append_of_pos hs]
  cases t with
  | nil => simp
  | cons c t => simp [ht c rfl]

/-! ## Runs at the end -/

/-- Nothing is taken off a text that does not end with a character of the class. -/
theorem dropEnd_eq_self_iff {p : Char → Bool} {s : Text} :
    dropEnd p s = s ↔ ∀ c, s.getLast? = some c → p c = false := by
  show s.rdropWhile p = s ↔ _
  rw [List.rdropWhile_eq_self_iff]
  constructor
  · intro h c hc
    obtain ⟨front, rfl⟩ := List.getLast?_eq_some_iff.mp hc
    simpa using h
  · intro h hne
    simpa using h _ (List.getLast?_eq_some_getLast hne)

/-- A run at the end is taken off with what is taken off before it. -/
theorem dropEnd_append_of_pos {p : Char → Bool} (s : Text) {ending : Text}
    (h : ∀ c ∈ ending, p c = true) : dropEnd p (s ++ ending) = dropEnd p s := by
  rw [dropEnd, List.reverse_append,
    List.dropWhile_append_of_pos fun c hc => h c (List.mem_reverse.mp hc), dropEnd]

/-- **A text is cut before the run of characters of a class at its end.** -/
theorem exists_dropEnd_append (p : Char → Bool) (s : Text) :
    ∃ ending, s = dropEnd p s ++ ending ∧ (∀ c ∈ ending, p c = true) ∧
      ∀ c, (dropEnd p s).getLast? = some c → p c = false := by
  refine ⟨(s.reverse.takeWhile p).reverse, ?_, ?_, ?_⟩
  · rw [dropEnd, ← List.reverse_append, List.takeWhile_append_dropWhile, List.reverse_reverse]
  · exact fun c hc => List.all_eq_true.mp List.all_takeWhile c (List.mem_reverse.mp hc)
  · exact dropEnd_eq_self_iff.mp (List.rdropWhile_idempotent p s)

/-! ## Trimming -/

/-- **Trimming leaves a text that neither starts nor ends with white space.** -/
theorem strip_eq_self_iff {s : Text} :
    strip s = s ↔ (∀ c, s.head? = some c → isBlank c = false) ∧
      ∀ c, s.getLast? = some c → isBlank c = false := by
  have hstart : s.dropWhile isBlank = s ↔ ∀ c, s.head? = some c → isBlank c = false := by
    cases s with
    | nil => simp
    | cons c s => rw [List.dropWhile_eq_self_iff]; simp
  rw [← hstart, ← dropEnd_eq_self_iff]
  constructor
  · intro h
    have hdrop : s.dropWhile isBlank = s := by
      refine (List.dropWhile_suffix isBlank).eq_of_length_le ?_
      calc s.length = (strip s).length := by rw [h]
        _ ≤ (s.dropWhile isBlank).length := (List.rdropWhile_prefix isBlank _).length_le
    refine ⟨hdrop, ?_⟩
    rw [strip, trim, hdrop] at h
    exact h
  · rintro ⟨hdrop, hlast⟩
    rw [strip, trim, hdrop]
    exact hlast

theorem mem_of_mem_strip {c : Char} {s : Text} (h : c ∈ strip s) : c ∈ s := by
  have hdropped : c ∈ s.dropWhile isBlank :=
    List.mem_reverse.mp ((List.dropWhile_suffix isBlank).subset (List.mem_reverse.mp h))
  exact (List.dropWhile_suffix isBlank).subset hdropped

/-- **Trimming twice is trimming once.** -/
theorem strip_strip (s : Text) : strip (strip s) = strip s := by
  have hdrop : (strip s).dropWhile isBlank = strip s := by
    obtain ⟨rest, hrest⟩ : strip s <+: s.dropWhile isBlank := List.rdropWhile_prefix isBlank _
    cases hs : strip s with
    | nil => rfl
    | cons c r =>
      have hnot := List.head?_dropWhile_not isBlank s
      rw [← hrest, hs] at hnot
      rw [List.dropWhile_cons, if_neg (by simpa using hnot)]
  calc strip (strip s) = dropEnd isBlank (strip s) := by rw [strip, trim, hdrop]
    _ = strip s := List.rdropWhile_idempotent isBlank _

/-- **Trimmed texts, one behind the other, are trimmed.** -/
theorem strip_append {s t : Text} (hs : strip s = s) (ht : strip t = t) :
    strip (s ++ t) = s ++ t := by
  rw [strip_eq_self_iff] at hs ht ⊢
  constructor
  · intro c hc
    rw [List.head?_append, Option.or_eq_some_iff] at hc
    rcases hc with hc | ⟨-, hc⟩
    · exact hs.1 c hc
    · exact ht.1 c hc
  · intro c hc
    rw [List.getLast?_append, Option.or_eq_some_iff] at hc
    rcases hc with hc | ⟨-, hc⟩
    · exact ht.2 c hc
    · exact hs.2 c hc

/-- A text that starts and ends with characters that are not white space. -/
theorem strip_cons_concat {a b : Char} (s : Text) (ha : isBlank a = false) (hb : isBlank b = false) :
    strip (a :: (s ++ [b])) = a :: (s ++ [b]) := by
  rw [strip_eq_self_iff]
  constructor
  · intro c hc
    cases hc
    exact ha
  · intro c hc
    rw [← List.cons_append, List.getLast?_concat] at hc
    cases hc
    exact hb

/-- A trimmed text has something in it that is not white space, unless it is empty. -/
theorem isBlankText_eq_false {s : Text} (hne : s ≠ []) (hs : strip s = s) :
    isBlankText s = false := by
  obtain ⟨c, r, rfl⟩ := List.exists_cons_of_ne_nil hne
  rw [isBlankText, List.all_cons, (strip_eq_self_iff.mp hs).1 c rfl, Bool.false_and]

/-- Trimming leaves nothing of white space. -/
theorem strip_eq_nil_of_isBlankText {s : Text} (h : isBlankText s = true) : strip s = [] := by
  rw [strip, trim, List.dropWhile_eq_nil_iff.mpr (List.all_eq_true.mp h)]
  rfl

/-- Trimming leaves nothing of white space only. -/
theorem strip_eq_nil_iff {s : Text} : strip s = [] ↔ isBlankText s = true := by
  refine ⟨fun h => ?_, strip_eq_nil_of_isBlankText⟩
  have hall : ∀ c ∈ s.dropWhile isBlank, isBlank c = true := List.rdropWhile_eq_nil_iff.mp h
  cases hd : s.dropWhile isBlank with
  | nil => exact List.all_eq_true.mpr (List.dropWhile_eq_nil_iff.mp hd)
  | cons c r =>
    have hnot := List.head?_dropWhile_not isBlank s
    rw [hd] at hnot hall
    simp [hall c List.mem_cons_self] at hnot

/-- **White space around a text does not count.** -/
theorem strip_blank_append {before after : Text} (s : Text) (hb : ∀ c ∈ before, isBlank c = true)
    (ha : ∀ c ∈ after, isBlank c = true) : strip (before ++ s ++ after) = strip s := by
  rw [strip, trim, List.append_assoc, List.dropWhile_append_of_pos hb, List.dropWhile_append]
  split
  · next hempty =>
    rw [strip, trim, List.isEmpty_iff.mp hempty, List.dropWhile_eq_nil_iff.mpr ha]
  · exact dropEnd_append_of_pos _ ha

/-- **A text is what trimming leaves of it, between white space.** -/
theorem exists_strip_append (s : Text) :
    ∃ ending, s = s.takeWhile isBlank ++ strip s ++ ending ∧ ∀ c ∈ ending, isBlank c = true := by
  obtain ⟨ending, hcut, hending, -⟩ := exists_dropEnd_append isBlank (s.dropWhile isBlank)
  refine ⟨ending, ?_, hending⟩
  calc s = s.takeWhile isBlank ++ s.dropWhile isBlank := List.takeWhile_append_dropWhile.symm
    _ = s.takeWhile isBlank ++ (strip s ++ ending) := congrArg _ hcut
    _ = s.takeWhile isBlank ++ strip s ++ ending := (List.append_assoc _ _ _).symm

/-- What is left at the end of a text that is not blank. -/
theorem stripEnd_eq_nil_iff {s : Text} : stripEnd s = [] ↔ isBlankText s = true := by
  rw [isBlankText, List.all_eq_true]
  exact List.rdropWhile_eq_nil_iff

theorem stripEnd_ne_nil {s : Text} (h : isBlankText s = false) : stripEnd s ≠ [] := by
  rw [ne_eq, stripEnd_eq_nil_iff, h]
  exact Bool.false_ne_true

theorem mem_of_mem_stripEnd {c : Char} {s : Text} (h : c ∈ stripEnd s) : c ∈ s :=
  List.mem_reverse.mp ((List.dropWhile_suffix isBlank).subset (List.mem_reverse.mp h))

/-- Only what stands behind the last character that is not blank can be taken off. -/
theorem stripEnd_append_cons {c : Char} (s : Text) (hc : isBlank c = false) {t : Text} :
    stripEnd (s ++ c :: t) = s ++ c :: stripEnd t := by
  obtain ⟨ending, ht, hending, hlast⟩ := exists_dropEnd_append isBlank t
  have hkept : stripEnd (s ++ c :: stripEnd t) = s ++ c :: stripEnd t := by
    refine dropEnd_eq_self_iff.mpr fun b hb => ?_
    rw [List.getLast?_append_of_ne_nil _ (List.cons_ne_nil _ _), List.getLast?_cons] at hb
    obtain rfl := Option.some.inj hb
    cases hend : (stripEnd t).getLast? with
    | none => exact hc
    | some b => exact hlast b hend
  have hsplit : s ++ c :: t = (s ++ c :: stripEnd t) ++ ending := by
    conv_lhs => rw [ht]
    simp only [List.append_assoc, List.cons_append, stripEnd]
  rw [hsplit, stripEnd, dropEnd_append_of_pos _ hending]
  exact hkept

/-! ## Words -/

/-- The first word stands between white space. -/
theorem head?_words {before word rest : Text} (hbefore : ∀ c ∈ before, isBlank c = true) (hne : word ≠ [])
    (hword : ∀ c ∈ word, isBlank c = false) (hrest : ∀ c, rest.head? = some c → isBlank c = true) :
    (words (before ++ (word ++ rest))).head? = some word := by
  induction before with
  | nil =>
    obtain ⟨c, word, rfl⟩ := List.exists_cons_of_ne_nil hne
    obtain ⟨hc, hword⟩ := List.forall_mem_cons.mp hword
    obtain ⟨htake, -⟩ := span_run (p := (!isBlank ·)) (s := word) (t := rest)
      (fun b hb => by rw [hword b hb]; rfl) (fun b hb => by rw [hrest b hb]; rfl)
    rw [List.nil_append, List.cons_append, words]
    simp only [hc, htake, Bool.false_eq_true, if_false, List.head?_cons]
  | cons c before ih =>
    obtain ⟨hc, hbefore⟩ := List.forall_mem_cons.mp hbefore
    rw [List.cons_append, words, if_pos hc]
    exact ih hbefore

end DocAudit.Text
