import DocAudit.Proofs.Lint.Rerun
import DocAudit.Proofs.Lint.Shapes

/-!
# Styles of headings

The check of heading styles goes through the lines once. It remembers how the first marked line was spaced,
and whether a line was underlined, and it looks back at one line only. What it finds is told here by the
places of the lines, whatever order they come in: headings of both styles are found out at the later one, and
headings that are spaced differently at each one that is not as the first.

## Contents

* `Lint.MarkedAt`, `Lint.UnderlinedAt`: headings of both styles, by their places
* `Lint.StyleFault`: what stands against the heading at a place
* `Lint.HeadingStyle.Saw`: what the check remembers; `Lint.HeadingStyle.Saw.next`: one line
* `Lint.mem_inconsistentHeadings_iff`: **what is found, by the places**
* `lintText_inconsistentHeadings`: **nothing is found when the headings are in one style**
-/

namespace DocAudit

open Text

namespace Lint

variable {p : Prose} {i j k : Nat} {spaced : Bool} {line : Text} {m : Text}

/-! ## Headings by their places -/

/-- A visible line with signs in front of it stands at the place. -/
def MarkedAt (p : Prose) (spaced : Bool) (i : Nat) : Prop :=
  ∃ line, p[i]? = some (some line) ∧ IsMarked spaced line

/-- A line under which signs make a heading: neither blank nor a heading nor a list item. -/
def TakesUnderlining (line : Text) : Prop :=
  (∃ c ∈ line, isBlank c = false) ∧ line.head? ≠ some '#' ∧ ¬ HasListMark (strip line)

/-- A visible line of signs stands at the place, right under a visible line that can be a heading. -/
def UnderlinedAt (p : Prose) (i : Nat) : Prop :=
  ∃ j above line, i = j + 1 ∧ p[j]? = some (some above) ∧ p[i]? = some (some line) ∧
    TakesUnderlining above ∧ IsUnderlining line

/-- The first line with signs in front of it stands at the place. -/
def FirstMarkedAt (p : Prose) (spaced : Bool) (i : Nat) : Prop :=
  MarkedAt p spaced i ∧ ∀ j < i, ∀ b, ¬ MarkedAt p b j

/-- What stands against the heading at a place: an earlier heading of the other style, or the first marked
line, when it is spaced differently. -/
inductive StyleFault (p : Prose) (i : Nat) : Text → Prop
  | marked {spaced : Bool} {j : Nat} : MarkedAt p spaced i → j < i → UnderlinedAt p j →
    StyleFault p i mixedStyles
  | underlined {spaced : Bool} {j : Nat} : UnderlinedAt p i → j < i → MarkedAt p spaced j →
    StyleFault p i mixedStyles
  | blank {first : Bool} {j : Nat} : MarkedAt p (!first) i → FirstMarkedAt p first j →
    StyleFault p i (blankStyle first)

theorem markedAt_iff (hline : p[i]? = some (some line)) :
    MarkedAt p spaced i ↔ (signCount? line).isSome = true ∧ isSpaced line = spaced := by
  rw [← isMarked_iff]
  constructor
  · rintro ⟨line', hline', h⟩
    rw [hline] at hline'
    cases hline'
    exact h
  · exact fun h => ⟨line, hline, h⟩

/-- A line is spaced in one way. -/
theorem MarkedAt.unique {b : Bool} (h : MarkedAt p spaced i) (h' : MarkedAt p b i) : spaced = b := by
  obtain ⟨line, hline, h⟩ := h
  rw [← (isMarked_iff.mp h).2, ← ((markedAt_iff hline).mp h').2]

theorem MarkedAt.lt_length (h : MarkedAt p spaced i) : i < p.length := by
  obtain ⟨line, hline, -⟩ := h
  exact (List.getElem?_eq_some_iff.mp hline).1

theorem UnderlinedAt.lt_length (h : UnderlinedAt p i) : i < p.length := by
  obtain ⟨_, _, line, -, -, hline, -⟩ := h
  exact (List.getElem?_eq_some_iff.mp hline).1

theorem UnderlinedAt.not_markedAt (h : UnderlinedAt p i) : ¬ MarkedAt p spaced i := by
  obtain ⟨_, _, line, -, -, hline, -, hunder⟩ := h
  rintro ⟨line', hline', hmarked⟩
  rw [hline] at hline'
  cases hline'
  exact hunder.not_isMarked hmarked

/-- Among marked lines there is a first one. -/
theorem MarkedAt.exists_first (h : MarkedAt p spaced i) : ∃ b, ∃ j ≤ i, FirstMarkedAt p b j := by
  induction i using Nat.strongRecOn generalizing spaced with
  | ind i ih =>
    by_cases hfirst : ∃ j < i, ∃ b, MarkedAt p b j
    · obtain ⟨j, hj, b, hmarked⟩ := hfirst
      obtain ⟨b', j', hj', hfirst⟩ := ih j hj hmarked
      exact ⟨b', j', by omega, hfirst⟩
    · exact ⟨spaced, i, Nat.le_refl i, h, fun j hj b hb => hfirst ⟨j, hj, b, hb⟩⟩

theorem FirstMarkedAt.unique {b : Bool} (h : FirstMarkedAt p spaced i) (h' : FirstMarkedAt p b j) :
    i = j ∧ spaced = b := by
  have hij : i = j := by
    rcases Nat.lt_trichotomy i j with hlt | rfl | hlt
    · exact absurd h.1 (h'.2 i hlt spaced)
    · rfl
    · exact absurd h'.1 (h.2 j hlt b)
  subst hij
  exact ⟨rfl, h.1.unique h'.1⟩

/-- The first marked line comes before one that is spaced differently. -/
theorem FirstMarkedAt.lt_of_other (h : FirstMarkedAt p spaced j) (hother : MarkedAt p (!spaced) i) : j < i := by
  rcases Nat.lt_trichotomy j i with hlt | rfl | hlt
  · exact hlt
  · exact absurd (h.1.unique hother) (by simp)
  · exact absurd hother (h.2 i hlt _)

/-! ## One line of the check -/

/-- The line before the place, when it is visible. -/
def lineAbove (p : Prose) : Nat → Option Text
  | 0 => none
  | i + 1 => p[i]?.join

theorem canBeUnderlined_iff : canBeUnderlined line = true ↔ TakesUnderlining line := by
  unfold canBeUnderlined TakesUnderlining isBlankText
  rw [Bool.and_eq_true, Bool.and_eq_true, Bool.not_eq_true', Bool.not_eq_true', List.all_eq_false, bne_iff_ne,
    Bool.eq_false_iff, ne_eq (isListItem _), isListItem_iff]
  simp only [Bool.not_eq_true, and_assoc]

theorem underlinedAt_iff (hline : p[i]? = some (some line)) :
    UnderlinedAt p i ↔ (isUnderline line && (lineAbove p i).any canBeUnderlined) = true := by
  rw [Bool.and_eq_true, isUnderline_iff, Option.any_eq_true]
  simp only [canBeUnderlined_iff]
  constructor
  · rintro ⟨j, above, line', rfl, habove, hline', htakes, hunder⟩
    rw [hline] at hline'
    cases hline'
    exact ⟨hunder, above, by rw [lineAbove, habove]; rfl, htakes⟩
  · rintro ⟨hunder, above, habove, htakes⟩
    cases i with
    | zero => cases habove
    | succ j => exact ⟨j, above, line, rfl, Option.join_eq_some_iff.mp habove, hline, htakes, hunder⟩

namespace HeadingStyle

variable {style : HeadingStyle} {above : Option Text}

/-- The check remembers what stands before the place. -/
structure Saw (style : HeadingStyle) (p : Prose) (k : Nat) : Prop where
  spaced : ∀ b, style.spaced = some b ↔ ∃ j < k, FirstMarkedAt p b j
  underlined : style.underlined = true ↔ ∃ j < k, UnderlinedAt p j

theorem saw_nothing : Saw {} p 0 where
  spaced _ := ⟨nofun, fun ⟨_, hj, _⟩ => absurd hj (Nat.not_lt_zero _)⟩
  underlined := ⟨nofun, fun ⟨_, hj, _⟩ => absurd hj (Nat.not_lt_zero _)⟩

/-- The styles that were seen after one more line. -/
def next (style : HeadingStyle) (above : Option Text) : Option Text → HeadingStyle
  | none => style
  | some line =>
    if (signCount? line).isSome then { style with spaced := some (style.spaced.getD (isSpaced line)) }
    else if isUnderline line && above.any canBeUnderlined then { style with underlined := true }
    else style

/-- What is found in a marked line. -/
def markedFaults (style : HeadingStyle) (spaced : Bool) : List Text :=
  (match style.spaced with
    | none => []
    | some first => if first = spaced then [] else [blankStyle first]) ++
  if style.underlined then [mixedStyles] else []

/-- What is found in an underlined line. -/
def underlinedFaults (style : HeadingStyle) : List Text :=
  if style.spaced.isSome then [mixedStyles] else []

/-- What is found in one line. -/
def faults (style : HeadingStyle) (above : Option Text) : Option Text → List Text
  | none => []
  | some line =>
    if (signCount? line).isSome then style.markedFaults (isSpaced line)
    else if isUnderline line && above.any canBeUnderlined then style.underlinedFaults
    else []

/-- The check goes on behind a line with what it remembers of it. -/
theorem headingIssues_cons (style : HeadingStyle) (above : Option Text) (n : Nat) (line? : Option Text)
    (rest : Prose) :
    headingIssues style above n (line? :: rest) =
      (style.faults above line?).map (fun m => (n, m)) ++
        headingIssues (style.next above line?) line? (n + 1) rest := by
  cases line? with
  | none => rfl
  | some line =>
    unfold faults next
    rw [headingIssues]
    by_cases hmarked : (signCount? line).isSome = true
    · simp only [hmarked, if_true, markedFaults, List.map_append]
      congr 2
      · cases style.spaced with
        | none => rfl
        | some first =>
          simp only
          split <;> rfl
      · split <;> rfl
    · simp only [hmarked, Bool.false_eq_true, if_false]
      by_cases hunder : (isUnderline line && above.any canBeUnderlined) = true
      · simp only [hunder, if_true, underlinedFaults]
        split <;> rfl
      · simp only [hunder, Bool.false_eq_true, if_false]
        rfl

section Places

variable {line? : Option Text}

theorem next_of_markedAt (hline : p[k]? = some line?) (h : MarkedAt p spaced k) :
    style.next (lineAbove p k) line? = { style with spaced := some (style.spaced.getD spaced) } := by
  obtain ⟨line, hline', h⟩ := h
  obtain rfl : line? = some line := Option.some.inj (hline.symm.trans hline')
  obtain ⟨hcount, rfl⟩ := isMarked_iff.mp h
  exact if_pos hcount

theorem faults_of_markedAt (hline : p[k]? = some line?) (h : MarkedAt p spaced k) :
    style.faults (lineAbove p k) line? = style.markedFaults spaced := by
  obtain ⟨line, hline', h⟩ := h
  obtain rfl : line? = some line := Option.some.inj (hline.symm.trans hline')
  obtain ⟨hcount, rfl⟩ := isMarked_iff.mp h
  exact if_pos hcount

/-- A line of signs under a heading has no signs in front of it. -/
theorem of_underlinedAt (hline : p[k]? = some line?) (h : UnderlinedAt p k) :
    style.next (lineAbove p k) line? = { style with underlined := true } ∧
      style.faults (lineAbove p k) line? = style.underlinedFaults := by
  obtain ⟨line, rfl⟩ : ∃ line, line? = some line := by
    obtain ⟨_, _, line, -, -, hline', -⟩ := h
    exact ⟨line, Option.some.inj (hline.symm.trans hline')⟩
  have hcount : ¬ (signCount? line).isSome = true := fun hcount =>
    h.not_markedAt ((markedAt_iff hline).mpr ⟨hcount, rfl⟩)
  have hunder := (underlinedAt_iff hline).mp h
  exact ⟨(if_neg hcount).trans (if_pos hunder), (if_neg hcount).trans (if_pos hunder)⟩

theorem of_no_heading (hline : p[k]? = some line?) (hmarked : ∀ b, ¬ MarkedAt p b k)
    (hunder : ¬ UnderlinedAt p k) :
    style.next (lineAbove p k) line? = style ∧ style.faults (lineAbove p k) line? = [] := by
  cases line? with
  | none => exact ⟨rfl, rfl⟩
  | some line =>
    have hcount : ¬ (signCount? line).isSome = true := fun hcount =>
      hmarked _ ((markedAt_iff hline).mpr ⟨hcount, rfl⟩)
    have hnot := (underlinedAt_iff hline).not.mp hunder
    exact ⟨(if_neg hcount).trans (if_neg hnot), (if_neg hcount).trans (if_neg hnot)⟩

end Places

/-! ## What is remembered -/

/-- A marked line is the first one when none was seen. -/
theorem Saw.marked (h : Saw style p k) (hhere : MarkedAt p spaced k) :
    Saw { style with spaced := some (style.spaced.getD spaced) } p (k + 1) where
  spaced b := by
    rw [Nat.exists_lt_succ_right, ← h.spaced b]
    cases hseen : style.spaced with
    | none =>
      have hfirst : FirstMarkedAt p spaced k := by
        refine ⟨hhere, fun j hj b' hb' => ?_⟩
        obtain ⟨first, i, hi, hfirst⟩ := hb'.exists_first
        have hsome := (h.spaced first).mpr ⟨i, by omega, hfirst⟩
        rw [hseen] at hsome
        cases hsome
      constructor
      · rintro ⟨⟩
        exact .inr hfirst
      · rintro (⟨⟨⟩⟩ | hfirst')
        rw [(hfirst.unique hfirst').2]
        rfl
    | some first =>
      obtain ⟨j, hj, hfirst⟩ := (h.spaced first).mp hseen
      constructor
      · rintro ⟨⟩
        exact .inl rfl
      · rintro (⟨⟨⟩⟩ | hfirst')
        · rfl
        · exact absurd (hfirst.unique hfirst').1 (Nat.ne_of_lt hj)
  underlined := by
    rw [Nat.exists_lt_succ_right, ← h.underlined]
    exact ⟨.inl, fun hor => hor.resolve_right fun hunder => hunder.not_markedAt hhere⟩

theorem Saw.under (h : Saw style p k) (hhere : UnderlinedAt p k) :
    Saw { style with underlined := true } p (k + 1) where
  spaced b := by
    rw [Nat.exists_lt_succ_right, ← h.spaced b]
    exact ⟨.inl, fun hor => hor.resolve_right fun hfirst => hhere.not_markedAt hfirst.1⟩
  underlined := ⟨fun _ => ⟨k, Nat.lt_succ_self k, hhere⟩, fun _ => rfl⟩

/-- Where no heading stands, nothing is added to what was seen. -/
theorem Saw.skip (h : Saw style p k) (hmarked : ∀ b, ¬ MarkedAt p b k) (hunder : ¬ UnderlinedAt p k) :
    Saw style p (k + 1) where
  spaced b := by
    rw [h.spaced, Nat.exists_lt_succ_right]
    exact ⟨.inl, fun hor => hor.resolve_right fun hfirst => hmarked b hfirst.1⟩
  underlined := by
    rw [h.underlined, Nat.exists_lt_succ_right]
    exact ⟨.inl, fun hor => hor.resolve_right hunder⟩

/-- **One line: what the check remembers is again what stands before the next one.** -/
theorem Saw.next {line? : Option Text} (h : Saw style p k) (hline : p[k]? = some line?) :
    Saw (style.next (lineAbove p k) line?) p (k + 1) := by
  by_cases hmarked : ∃ b, MarkedAt p b k
  · obtain ⟨b, hhere⟩ := hmarked
    rw [next_of_markedAt hline hhere]
    exact h.marked hhere
  · have hnone : ∀ b, ¬ MarkedAt p b k := fun b hb => hmarked ⟨b, hb⟩
    by_cases hunder : UnderlinedAt p k
    · rw [(of_underlinedAt hline hunder).1]
      exact h.under hunder
    · rw [(of_no_heading hline hnone hunder).1]
      exact h.skip hnone hunder

/-! ## What is found -/

/-- Against a marked line stand an underlined one before it, and the first marked line. -/
theorem Saw.mem_markedFaults_iff (h : Saw style p k) (hhere : MarkedAt p spaced k) :
    m ∈ style.markedFaults spaced ↔ StyleFault p k m := by
  rw [markedFaults, List.mem_append]
  constructor
  · rintro (hblank | hmixed)
    · cases hseen : style.spaced with
      | none =>
        rw [hseen] at hblank
        cases hblank
      | some first =>
        obtain ⟨j, -, hfirst⟩ := (h.spaced first).mp hseen
        rw [hseen] at hblank
        by_cases hsame : first = spaced
        · simp only [if_pos hsame] at hblank
          cases hblank
        · simp only [if_neg hsame, List.mem_singleton] at hblank
          subst hblank
          refine .blank ?_ hfirst
          rwa [← Bool.eq_not.mpr (Ne.symm hsame)]
    · split at hmixed
      · next hseen =>
        obtain rfl := List.mem_singleton.mp hmixed
        obtain ⟨j, hj, hunder⟩ := h.underlined.mp hseen
        exact .marked hhere hj hunder
      · cases hmixed
  · rintro (⟨-, hj, hunder⟩ | ⟨hunder, -, -⟩ | ⟨hother, hfirst⟩)
    · right
      rw [if_pos (h.underlined.mpr ⟨_, hj, hunder⟩)]
      exact List.mem_singleton_self _
    · exact absurd hhere hunder.not_markedAt
    · left
      obtain rfl := hhere.unique hother
      rw [(h.spaced _).mpr ⟨_, hfirst.lt_of_other hother, hfirst⟩]
      simp

/-- Against an underlined line stands a marked one before it. -/
theorem Saw.mem_underlinedFaults_iff (h : Saw style p k) (hhere : UnderlinedAt p k) :
    m ∈ style.underlinedFaults ↔ StyleFault p k m := by
  unfold underlinedFaults
  constructor
  · intro hmixed
    split at hmixed
    · next hseen =>
      obtain rfl := List.mem_singleton.mp hmixed
      obtain ⟨first, hfirst⟩ := Option.isSome_iff_exists.mp hseen
      obtain ⟨j, hj, hfirst⟩ := (h.spaced first).mp hfirst
      exact .underlined hhere hj hfirst.1
    · cases hmixed
  · rintro (⟨hmarked, -, -⟩ | ⟨-, hj, hmarked⟩ | ⟨hmarked, -⟩)
    · exact absurd hmarked hhere.not_markedAt
    · obtain ⟨first, i, hi, hfirst⟩ := hmarked.exists_first
      rw [(h.spaced first).mpr ⟨i, by omega, hfirst⟩]
      exact List.mem_singleton_self _
    · exact absurd hmarked hhere.not_markedAt

/-- **What is found in a line is what stands against it.** -/
theorem Saw.mem_faults_iff {line? : Option Text} (h : Saw style p k) (hline : p[k]? = some line?) :
    m ∈ style.faults (lineAbove p k) line? ↔ StyleFault p k m := by
  by_cases hmarked : ∃ b, MarkedAt p b k
  · obtain ⟨b, hhere⟩ := hmarked
    rw [faults_of_markedAt hline hhere]
    exact h.mem_markedFaults_iff hhere
  · have hnone : ∀ b, ¬ MarkedAt p b k := fun b hb => hmarked ⟨b, hb⟩
    by_cases hunder : UnderlinedAt p k
    · rw [(of_underlinedAt hline hunder).2]
      exact h.mem_underlinedFaults_iff hunder
    · rw [(of_no_heading hline hnone hunder).2]
      refine ⟨nofun, ?_⟩
      rintro (⟨hmarked, -, -⟩ | ⟨hat, -, -⟩ | ⟨hmarked, -⟩)
      · exact absurd hmarked (hnone _)
      · exact absurd hat hunder
      · exact absurd hmarked (hnone _)

end HeadingStyle

/-! ## The whole check -/

theorem StyleFault.lt_length (h : StyleFault p i m) : i < p.length := by
  rcases h with ⟨hmarked, -, -⟩ | ⟨hunder, -, -⟩ | ⟨hmarked, -⟩
  · exact hmarked.lt_length
  · exact hunder.lt_length
  · exact hmarked.lt_length

/-- From any line on, with what was seen before it. -/
theorem mem_headingIssues_iff {style : HeadingStyle} {rest : Prose} {n : Nat} (hrest : p.drop k = rest)
    (h : style.Saw p k) :
    (n, m) ∈ headingIssues style (lineAbove p k) (k + 1) rest ↔
      ∃ i, k ≤ i ∧ n = i + 1 ∧ StyleFault p i m := by
  induction rest generalizing k style with
  | nil =>
    refine ⟨nofun, ?_⟩
    rintro ⟨i, hi, -, hfault⟩
    have hlength := List.drop_eq_nil_iff.mp hrest
    have hlt := hfault.lt_length
    omega
  | cons line? rest ih =>
    obtain ⟨hline, hnext⟩ := Prose.of_drop_eq_cons hrest
    have habove : lineAbove p (k + 1) = line? := by rw [lineAbove, hline]; rfl
    have hlater := ih hnext (h.next hline)
    rw [habove] at hlater
    rw [HeadingStyle.headingIssues_cons, List.mem_append, hlater, List.mem_map]
    simp only [Prod.mk.injEq, h.mem_faults_iff hline]
    constructor
    · rintro (⟨m', hfault, rfl, rfl⟩ | ⟨i, hi, hn, hfault⟩)
      · exact ⟨k, Nat.le_refl k, rfl, hfault⟩
      · exact ⟨i, by omega, hn, hfault⟩
    · rintro ⟨i, hi, rfl, hfault⟩
      rcases Nat.eq_or_lt_of_le hi with rfl | hlt
      · exact .inl ⟨m, hfault, rfl, rfl⟩
      · exact .inr ⟨i, hlt, rfl, hfault⟩

/-- **What is found is what stands against a heading, and it is found in its line.** -/
theorem mem_inconsistentHeadings_iff {n : Nat} :
    (n, m) ∈ inconsistentHeadings p ↔ ∃ i, n = i + 1 ∧ StyleFault p i m := by
  have hdrop : p.drop 0 = p := rfl
  refine (mem_headingIssues_iff hdrop HeadingStyle.saw_nothing).trans ?_
  simp

/-- Headings of both styles are found out at the later one of them. -/
theorem MarkedAt.mixed (h : MarkedAt p spaced i) (h' : UnderlinedAt p j) :
    StyleFault p (max i j) mixedStyles := by
  rcases Nat.lt_trichotomy i j with hlt | rfl | hlt
  · rw [Nat.max_eq_right (Nat.le_of_lt hlt)]
    exact .underlined h' hlt h
  · exact absurd h h'.not_markedAt
  · rw [Nat.max_eq_left (Nat.le_of_lt hlt)]
    exact .marked h hlt h'

/-- **Nothing stands against headings that are all of one style and equally spaced.** -/
theorem forall_not_styleFault_iff :
    (∀ i m, ¬ StyleFault p i m) ↔
      (∀ i j b b', MarkedAt p b i → MarkedAt p b' j → b = b') ∧
        ¬ ((∃ i b, MarkedAt p b i) ∧ ∃ j, UnderlinedAt p j) := by
  constructor
  · intro h
    constructor
    · intro i j b b' hi hj
      obtain ⟨first, k, -, hfirst⟩ := hi.exists_first
      have hsame : ∀ {i : Nat} {b : Bool}, MarkedAt p b i → b = first := by
        intro i b hb
        by_contra hne
        rw [Bool.eq_not.mpr hne] at hb
        exact h i _ (.blank hb hfirst)
      rw [hsame hi, hsame hj]
    · rintro ⟨⟨i, b, hmarked⟩, j, hunder⟩
      exact h _ _ (hmarked.mixed hunder)
  · rintro ⟨hsame, hone⟩ i m (⟨hmarked, -, hunder⟩ | ⟨hunder, -, hmarked⟩ | ⟨hmarked, hfirst⟩)
    · exact hone ⟨⟨_, _, hmarked⟩, _, hunder⟩
    · exact hone ⟨⟨_, _, hmarked⟩, _, hunder⟩
    · exact absurd (hsame _ _ _ _ hmarked hfirst.1) (by simp)

end Lint

/-! ## The check of a text -/

open Lint

/--
**Headings are consistent when they are all of one style and equally spaced.**

The check always comes to an end. It reports an issue for every fault of a heading and no other one, so it
reports nothing just when all marked lines are spaced alike and there is no underlined line beside them. With
both there is an issue about mixed styles at the later of the two, whichever of them that is.
-/
theorem lintText_inconsistentHeadings (fix : Bool) (s : LintScope) (text : Text) :
    ∃ outcome, lintText [.inconsistentHeadings] fix s text = .ok outcome ∧
      (∀ issue, issue ∈ outcome.issues ↔ ∃ i m, StyleFault (Prose.ofLines (lines text)) i m ∧
        issue = { line := i + 1, rule := .inconsistentHeadings, message := m }) ∧
      (outcome.issues = [] ↔
        (∀ i j b b', MarkedAt (Prose.ofLines (lines text)) b i →
          MarkedAt (Prose.ofLines (lines text)) b' j → b = b') ∧
        ¬ ((∃ i b, MarkedAt (Prose.ofLines (lines text)) b i) ∧
          ∃ j, UnderlinedAt (Prose.ofLines (lines text)) j)) ∧
      ∀ i j b, MarkedAt (Prose.ofLines (lines text)) b i → UnderlinedAt (Prose.ofLines (lines text)) j →
        { line := max i j + 1, rule := .inconsistentHeadings, message := mixedStyles } ∈ outcome.issues := by
  refine ⟨_, lintText_single (r := .inconsistentHeadings) nofun rfl, ?_⟩
  have hissues : ∀ issue : Issue,
      issue ∈ ((inconsistentHeadings (Prose.ofLines (lines text))).map fun found =>
        { line := found.1, rule := .inconsistentHeadings, message := found.2 }).mergeSort
          (fun a b => a.line ≤ b.line) ↔
        ∃ i m, StyleFault (Prose.ofLines (lines text)) i m ∧
          issue = { line := i + 1, rule := .inconsistentHeadings, message := m } := by
    intro issue
    rw [List.mem_mergeSort, List.mem_map]
    constructor
    · rintro ⟨⟨n, m⟩, hmem, rfl⟩
      obtain ⟨i, rfl, hfault⟩ := mem_inconsistentHeadings_iff.mp hmem
      exact ⟨i, m, hfault, rfl⟩
    · rintro ⟨i, m, hfault, rfl⟩
      exact ⟨(i + 1, m), mem_inconsistentHeadings_iff.mpr ⟨i, rfl, hfault⟩, rfl⟩
  refine ⟨hissues, ?_, fun i j b hmarked hunder => (hissues _).mpr ⟨_, _, hmarked.mixed hunder, rfl⟩⟩
  rw [← forall_not_styleFault_iff, List.eq_nil_iff_forall_not_mem]
  constructor
  · exact fun h i m hfault => h _ ((hissues _).mpr ⟨i, m, hfault, rfl⟩)
  · intro h issue hissue
    obtain ⟨i, m, hfault, -⟩ := (hissues issue).mp hissue
    exact h i m hfault

/-- A heading with a line under it, before or behind one with a sign in front of it. -/
def bothStyles (underlinedFirst : Bool) : Text :=
  (if underlinedFirst then "Setup\n-----\n# Use\n" else "# Use\nSetup\n-----\n").toList

theorem ofLines_bothStyles : ∀ underlinedFirst, Prose.ofLines (lines (bothStyles underlinedFirst)) =
    if underlinedFirst then [some "Setup".toList, some "-----".toList, some "# Use".toList]
    else [some "# Use".toList, some "Setup".toList, some "-----".toList] := by
  decide +kernel

/-- The issue about the two styles is in the third line, whichever of them comes first. -/
theorem lintText_inconsistentHeadings_mixed :
    (∃ outcome, lintText [.inconsistentHeadings] false (hidingScope []) (bothStyles true) = .ok outcome ∧
      { line := 3, rule := .inconsistentHeadings, message := mixedStyles } ∈ outcome.issues) ∧
    ∃ outcome, lintText [.inconsistentHeadings] false (hidingScope []) (bothStyles false) = .ok outcome ∧
      { line := 3, rule := .inconsistentHeadings, message := mixedStyles } ∈ outcome.issues := by
  have hmarked : IsMarked true "# Use".toList := isMarked_iff.mpr (by decide)
  have htakes : TakesUnderlining "Setup".toList := canBeUnderlined_iff.mp (by decide)
  have hunder : IsUnderlining "-----".toList := isUnderline_iff.mp (by decide)
  constructor
  · obtain ⟨outcome, houtcome, -, -, hmixed⟩ :=
      lintText_inconsistentHeadings false (hidingScope []) (bothStyles true)
    rw [ofLines_bothStyles] at hmixed
    exact ⟨outcome, houtcome, hmixed 2 1 true ⟨_, rfl, hmarked⟩ ⟨0, _, _, rfl, rfl, rfl, htakes, hunder⟩⟩
  · obtain ⟨outcome, houtcome, -, -, hmixed⟩ :=
      lintText_inconsistentHeadings false (hidingScope []) (bothStyles false)
    rw [ofLines_bothStyles] at hmixed
    exact ⟨outcome, houtcome, hmixed 0 2 true ⟨_, rfl, hmarked⟩ ⟨1, _, _, rfl, rfl, rfl, htakes, hunder⟩⟩

end DocAudit
