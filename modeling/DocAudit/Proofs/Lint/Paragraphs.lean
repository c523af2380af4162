import Mathlib.Algebra.GroupWithZero.Nat
import DocAudit.Proofs.Lint.Rerun
import DocAudit.Proofs.Lint.Shapes

/-!
# Paragraphs

The check of long paragraphs goes through the lines once, with the paragraph that goes on, and gives it away
at a line that breaks it and at the end of the text. Here a paragraph is a longest run of lines none of which
breaks it, and the check is shown to go through exactly these runs, in their order, and to count their words.

## Contents

* `Lint.Breaks`: the lines between paragraphs
* `Lint.IsParagraph`, `Lint.wordsIn`: longest runs of other lines, and their words
* `Lint.runs`, `Lint.mem_runs_iff`: **one pass finds the longest runs**
* `Lint.paragraphs_eq`: the paragraphs of the check are these runs
* `lintText_longParagraphs`: **one issue for each run with too many words, in their order**
-/

namespace DocAudit

open Text

namespace Lint

variable {p rest : Prose} {line? : Option Text} {start start' stop k : Nat} {started : Option Nat}

/-! ## Longest runs -/

/-- A line between paragraphs: hidden, blank, a heading or a list item. -/
def Breaks : Option Text → Prop
  | none => True
  | some line => (∀ c ∈ line, isBlank c = true) ∨ (strip line).head? = some '#' ∨ HasListMark (strip line)

theorem breaksParagraph_iff : breaksParagraph line? = true ↔ Breaks line? := by
  cases line? with
  | none => exact ⟨fun _ => trivial, fun _ => rfl⟩
  | some line =>
    have hblank : (strip line).isEmpty = true ↔ ∀ c ∈ line, isBlank c = true := by
      rw [List.isEmpty_iff, strip_eq_nil_iff, isBlankText, List.all_eq_true]
    have hsign : ['#'].isPrefixOf (strip line) = true ↔ (strip line).head? = some '#' := by
      cases strip line with
      | nil => simp
      | cons c rest =>
        simp only [List.isPrefixOf_cons_cons, List.isPrefixOf_nil_left, Bool.and_true, beq_iff_eq, List.head?_cons,
          Option.some.injEq]
        exact eq_comm
    unfold breaksParagraph Breaks
    simp only [Bool.or_eq_true, hblank, hsign, isListItem_iff, or_assoc]

/-- The lines from `start` on, before `k`, break no paragraph, and the line before them does, if there is
one. -/
structure IsOpen (p : Prose) (start k : Nat) : Prop where
  lt : start < k
  inside : ∀ i, start ≤ i → i < k → ∃ line?, p[i]? = some line? ∧ ¬ Breaks line?
  first : ∀ i, start = i + 1 → ∃ line?, p[i]? = some line? ∧ Breaks line?

/-- A longest run of lines that break no paragraph: it starts at `start` and ends before `stop`. -/
structure IsParagraph (p : Prose) (start stop : Nat) : Prop extends IsOpen p start stop where
  last : ∀ line?, p[stop]? = some line? → Breaks line?

/-- The words in the lines from `start` on, before `stop`. -/
def wordsIn (p : Prose) (start stop : Nat) : Nat :=
  (((p.take stop).drop start).map fun line? => (words (line?.getD [])).length).sum

/-- A run that goes on has one start. -/
theorem IsOpen.unique (h : IsOpen p start k) (h' : IsOpen p start' k) : start = start' := by
  have hle : ∀ {a b : Nat}, IsOpen p a k → IsOpen p b k → b ≤ a := by
    intro a b ha hb
    by_contra hlt
    obtain ⟨line?, hline, hbreaks⟩ := hb.first (b - 1) (by omega)
    have hbk := hb.lt
    obtain ⟨line?', hline', hgoes⟩ := ha.inside (b - 1) (by omega) (by omega)
    rw [hline] at hline'
    cases hline'
    exact hgoes hbreaks
  exact Nat.le_antisymm (hle h' h) (hle h h')

theorem IsOpen.succ (h : IsOpen p start k) (hline : p[k]? = some line?) (hgoes : ¬ Breaks line?) :
    IsOpen p start (k + 1) where
  lt := Nat.lt_succ_of_lt h.lt
  inside i hi hik := by
    rcases Nat.eq_or_lt_of_le (Nat.le_of_lt_succ hik) with rfl | hlt
    · exact ⟨line?, hline, hgoes⟩
    · exact h.inside i hi hlt
  first := h.first

/-- A run up to a line goes on before it, unless it starts there. -/
theorem IsOpen.of_succ (h : IsOpen p start (k + 1)) : start = k ∨ IsOpen p start k := by
  rcases Nat.eq_or_lt_of_le (Nat.le_of_lt_succ h.lt) with rfl | hlt
  · exact .inl rfl
  · exact .inr ⟨hlt, fun i hi hik => h.inside i hi (Nat.lt_succ_of_lt hik), h.first⟩

/-- Every line that breaks no paragraph is in a run. -/
theorem exists_isOpen (hline : p[k]? = some line?) (hgoes : ¬ Breaks line?) :
    ∃ start, IsOpen p start (k + 1) := by
  induction k generalizing line? with
  | zero =>
    refine ⟨0, Nat.one_pos, fun i _ hi => ?_, nofun⟩
    obtain rfl := Nat.lt_one_iff.mp hi
    exact ⟨line?, hline, hgoes⟩
  | succ k ih =>
    have hk : k < p.length := by
      have hlt := (List.getElem?_eq_some_iff.mp hline).1
      omega
    by_cases hbefore : Breaks p[k]
    · refine ⟨k + 1, Nat.lt_succ_self _, fun i hi hik => ?_, fun i hi => ?_⟩
      · obtain rfl : i = k + 1 := by omega
        exact ⟨line?, hline, hgoes⟩
      · obtain rfl : k = i := by omega
        exact ⟨p[k], List.getElem?_eq_getElem hk, hbefore⟩
    · obtain ⟨start, hopen⟩ := ih (List.getElem?_eq_getElem hk) hbefore
      exact ⟨start, hopen.succ hline hgoes⟩

/-! ## One pass over the lines -/

/-- The runs of lines that break no paragraph, the first line at the place `k`; one may have started. -/
def runs (started : Option Nat) (k : Nat) : Prose → List (Nat × Nat)
  | [] => (started.map fun start => (start, k)).toList
  | line? :: rest =>
    if breaksParagraph line? then (started.map fun start => (start, k)).toList ++ runs none (k + 1) rest
    else runs (some (started.getD k)) (k + 1) rest

theorem runs_of_breaks (h : Breaks line?) : runs started k (line? :: rest) =
    (started.map fun start => (start, k)).toList ++ runs none (k + 1) rest :=
  if_pos (breaksParagraph_iff.mpr h)

theorem runs_of_not_breaks (h : ¬ Breaks line?) : runs started k (line? :: rest) =
    runs (some (started.getD k)) (k + 1) rest :=
  if_neg (breaksParagraph_iff.not.mpr h)

/-- The pass remembers the start of the run that goes on. -/
abbrev Remembers (started : Option Nat) (p : Prose) (k : Nat) : Prop :=
  ∀ start, started = some start ↔ IsOpen p start k

theorem remembers_nothing : Remembers none p 0 :=
  fun _ => ⟨nofun, fun h => absurd h.lt (Nat.not_lt_zero _)⟩

/-- **Behind a line that breaks a paragraph, none goes on.** -/
theorem remembers_of_breaks (hline : p[k]? = some line?) (hbreaks : Breaks line?) :
    Remembers none p (k + 1) := by
  refine fun start => ⟨nofun, fun h => ?_⟩
  obtain ⟨line?', hline', hgoes⟩ := h.inside k (Nat.le_of_lt_succ h.lt) (Nat.lt_succ_self k)
  rw [hline] at hline'
  cases hline'
  exact absurd hbreaks hgoes

/-- **Behind another line goes on what went on before it, or what starts there.** -/
theorem Remembers.next (h : Remembers started p k) (hline : p[k]? = some line?) (hgoes : ¬ Breaks line?) :
    Remembers (some (started.getD k)) p (k + 1) := by
  obtain ⟨start, hopen⟩ := exists_isOpen hline hgoes
  have hstart : started.getD k = start := by
    rcases hopen.of_succ with rfl | hbefore
    · cases hstarted : started with
      | none => rfl
      | some start' =>
        have hopen' := ((h start').mp hstarted).succ hline hgoes
        exact hopen'.unique hopen
    · rw [(h start).mpr hbefore]
      rfl
  intro start'
  rw [hstart]
  constructor
  · rintro ⟨⟩
    exact hopen
  · exact fun hopen' => congrArg some (hopen.unique hopen')

theorem Remembers.mem_toList_iff (h : Remembers started p k) :
    (start, stop) ∈ (started.map fun start => (start, k)).toList ↔ IsOpen p start k ∧ stop = k := by
  rw [← h start, Option.mem_toList, Option.map_eq_some_iff]
  constructor
  · rintro ⟨start', hstart', he⟩
    cases he
    exact ⟨hstart', rfl⟩
  · rintro ⟨hstart, rfl⟩
    exact ⟨start, hstart, rfl⟩

/-- **One pass finds the longest runs that end behind its start.** -/
theorem mem_runs_iff (hrest : p.drop k = rest) (h : Remembers started p k) :
    (start, stop) ∈ runs started k rest ↔ IsParagraph p start stop ∧ k ≤ stop := by
  induction rest generalizing k started with
  | nil =>
    have hlength : p.length ≤ k := List.drop_eq_nil_iff.mp hrest
    refine h.mem_toList_iff.trans ⟨?_, ?_⟩
    · rintro ⟨hopen, rfl⟩
      refine ⟨⟨hopen, fun line? hline => ?_⟩, Nat.le_refl _⟩
      rw [List.getElem?_eq_none hlength] at hline
      cases hline
    · rintro ⟨hpar, hle⟩
      obtain rfl : stop = k := by
        have hlt := hpar.lt
        obtain ⟨line?, hline, -⟩ := hpar.inside (stop - 1) (by omega) (by omega)
        have hlast := (List.getElem?_eq_some_iff.mp hline).1
        omega
      exact ⟨hpar.toIsOpen, rfl⟩
  | cons line? rest ih =>
    obtain ⟨hline, hnext⟩ := Prose.of_drop_eq_cons hrest
    by_cases hbreaks : Breaks line?
    · rw [runs_of_breaks hbreaks, List.mem_append, h.mem_toList_iff,
        ih hnext (remembers_of_breaks hline hbreaks)]
      constructor
      · rintro (⟨hopen, rfl⟩ | ⟨hpar, hle⟩)
        · refine ⟨⟨hopen, fun line?' hline' => ?_⟩, Nat.le_refl _⟩
          rw [hline] at hline'
          cases hline'
          exact hbreaks
        · exact ⟨hpar, by omega⟩
      · rintro ⟨hpar, hle⟩
        rcases Nat.eq_or_lt_of_le hle with rfl | hlt
        · exact .inl ⟨hpar.toIsOpen, rfl⟩
        · exact .inr ⟨hpar, hlt⟩
    · rw [runs_of_not_breaks hbreaks, ih hnext (h.next hline hbreaks)]
      constructor
      · rintro ⟨hpar, hle⟩
        exact ⟨hpar, by omega⟩
      · rintro ⟨hpar, hle⟩
        -- a longest run does not end before such a line
        rcases Nat.eq_or_lt_of_le hle with rfl | hlt
        · exact absurd (hpar.last line? hline) hbreaks
        · exact ⟨hpar, hlt⟩

/-- **One pass over all lines finds the longest runs.** -/
theorem mem_runs_from_start_iff : (start, stop) ∈ runs none 0 p ↔ IsParagraph p start stop := by
  have hdrop : p.drop 0 = p := rfl
  exact (mem_runs_iff hdrop remembers_nothing).trans (and_iff_left (Nat.zero_le stop))

/-- The runs are found one behind the other. -/
theorem le_of_mem_runs : ∀ {rest : Prose} {started : Option Nat} {k : Nat}, started.getD k ≤ k →
    ∀ r ∈ runs started k rest, started.getD k ≤ r.1
  | [], started, k, _, r, hr => by
    obtain ⟨start, rfl, rfl⟩ := Option.map_eq_some_iff.mp (Option.mem_toList.mp hr)
    exact Nat.le_refl _
  | line? :: rest, started, k, hstarted, r, hr => by
    by_cases hbreaks : Breaks line?
    · rw [runs_of_breaks hbreaks, List.mem_append] at hr
      rcases hr with hr | hr
      · obtain ⟨start, rfl, rfl⟩ := Option.map_eq_some_iff.mp (Option.mem_toList.mp hr)
        exact Nat.le_refl _
      · exact Nat.le_trans hstarted (Nat.le_of_succ_le (le_of_mem_runs (Nat.le_refl (k + 1)) r hr))
    · rw [runs_of_not_breaks hbreaks] at hr
      exact le_of_mem_runs (Nat.le_succ_of_le hstarted) r hr

theorem pairwise_runs : ∀ (rest : Prose) (started : Option Nat) (k : Nat),
    (runs started k rest).Pairwise (fun a b => a.2 < b.1)
  | [], started, k => by
    rw [runs]
    cases started <;> simp
  | line? :: rest, started, k => by
    by_cases hbreaks : Breaks line?
    · rw [runs_of_breaks hbreaks, List.pairwise_append]
      refine ⟨by cases started <;> simp, pairwise_runs rest none (k + 1), fun a ha b hb => ?_⟩
      obtain ⟨start, rfl, rfl⟩ := Option.map_eq_some_iff.mp (Option.mem_toList.mp ha)
      exact le_of_mem_runs (Nat.le_refl (k + 1)) b hb
    · rw [runs_of_not_breaks hbreaks]
      exact pairwise_runs rest _ (k + 1)

example : runs none 0 [some "a".toList, none, some "b".toList, some "c".toList, some "# d".toList,
    some "e".toList] = [(0, 1), (2, 4), (5, 6)] := by
  decide

/-! ## The paragraphs of the check -/

theorem wordsIn_self (p : Prose) (k : Nat) : wordsIn p k k = 0 := by
  rw [wordsIn, List.drop_eq_nil_iff.mpr (List.length_take_le k p)]
  rfl

/-- One more line has its words. -/
theorem wordsIn_succ (hline : p[k]? = some line?) (hle : start ≤ k) :
    wordsIn p start (k + 1) = wordsIn p start k + (words (line?.getD [])).length := by
  have hlength : start ≤ (p.take k).length := by
    have hlt := (List.getElem?_eq_some_iff.mp hline).1
    rw [List.length_take]
    omega
  rw [wordsIn, List.take_add_one, hline, List.drop_append_of_le_length hlength, List.map_append, List.sum_append,
    ← wordsIn]
  simp

/-- **The paragraphs of the check are the longest runs, with their words.** -/
theorem paragraphs_eq (started : Option Nat) (hrest : p.drop k = rest) (hstarted : started.getD k ≤ k) :
    paragraphs (started.map fun start => ⟨start + 1, wordsIn p start k⟩) (k + 1) rest =
      (runs started k rest).map fun (start, stop) => ⟨start + 1, wordsIn p start stop⟩ := by
  induction rest generalizing k started with
  | nil => cases started <;> rfl
  | cons line? rest ih =>
    obtain ⟨hline, hnext⟩ := Prose.of_drop_eq_cons hrest
    by_cases hbreaks : Breaks line?
    · rw [runs_of_breaks hbreaks, List.map_append, ← ih none hnext (Nat.le_refl (k + 1)), paragraphs,
        if_pos (breaksParagraph_iff.mpr hbreaks)]
      cases started <;> rfl
    · rw [runs_of_not_breaks hbreaks, ← ih _ hnext (Nat.le_succ_of_le hstarted), paragraphs,
        if_neg (breaksParagraph_iff.not.mpr hbreaks), Option.map_some, wordsIn_succ hline hstarted]
      cases started with
      | none => simp [wordsIn_self]
      | some start => rfl

/-- The issue about the lines of a paragraph. -/
def longParagraph (limit : Int) (p : Prose) (run : Nat × Nat) : Issue where
  line := run.1 + 1
  rule := .longParagraphs
  message := "long paragraph (".toList ++ ofNat (wordsIn p run.1 run.2) ++ " words, max ".toList ++
    ofInt limit ++ [')']

theorem longParagraphs_eq (limit : Int) (p : Prose) :
    ((longParagraphs limit p).map fun (line, message) => { line, rule := .longParagraphs, message }) =
      ((runs none 0 p).filter fun (start, stop) => limit < (wordsIn p start stop : Int)).map
        (longParagraph limit p) := by
  have hpars : paragraphs none 1 p =
      (runs none 0 p).map fun (start, stop) => ⟨start + 1, wordsIn p start stop⟩ :=
    paragraphs_eq (k := 0) none rfl (Nat.le_refl 0)
  rw [longParagraphs, hpars, List.filterMap_map, List.map_filterMap, ← List.filterMap_eq_map, List.filterMap_filter]
  refine List.filterMap_congr fun run _ => ?_
  simp only [Function.comp_apply, decide_eq_true_eq]
  split <;> rfl

end Lint

open Lint

/--
**There is one issue for each paragraph with too many words.**

The paragraphs are the longest runs of lines that break none, one behind the other, and the last one may end
with the text. The check always comes to an end. It reports those with more words than the limit allows, in
their order, each in its first line and with the number of its words, and it reports nothing else.
-/
theorem lintText_longParagraphs (fix : Bool) (s : LintScope) (text : Text) :
    ∃ pars : List (Nat × Nat), pars.Pairwise (fun a b => a.2 < b.1) ∧
      (∀ start stop, (start, stop) ∈ pars ↔ IsParagraph (Prose.ofLines (lines text)) start stop) ∧
      lintText [.longParagraphs] fix s text = .ok
        { issues := (pars.filter fun par =>
              s.maxParagraphWords < (wordsIn (Prose.ofLines (lines text)) par.1 par.2 : Int)).map
            (longParagraph s.maxParagraphWords (Prose.ofLines (lines text))) } := by
  refine ⟨runs none 0 (Prose.ofLines (lines text)), pairwise_runs _ none 0,
    fun _ _ => mem_runs_from_start_iff, ?_⟩
  rw [lintText_single (r := .longParagraphs) nofun rfl, longParagraphs_eq, List.mergeSort_of_pairwise]
  -- a paragraph ends behind its first line, and the next one starts behind its end
  rw [List.pairwise_map]
  refine List.Pairwise.sublist List.filter_sublist ?_
  refine (pairwise_runs _ none 0).imp_of_mem fun {a b} ha _ hab => ?_
  have hlt := (mem_runs_from_start_iff.mp ha).lt
  show decide (a.1 + 1 ≤ b.1 + 1) = true
  rw [decide_eq_true_eq]
  omega

end DocAudit
