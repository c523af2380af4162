import DocAudit.Proofs.Lint.Settled

/-!
# Mending and reporting

What is mended is what would be reported otherwise, and once it was mended neither is left. The other checks
report the same, in the same order, because issues are sorted by their lines in a stable way.

## Contents

* `IsStableSort`, `isStableSort_mergeSort`, `IsStableSort.unique`: **sorting by merging gives the only stable
  order**
* `LintRule.findings_eq_error`: why a check fails
* `LintRule.exists_mapM_filter`, `LintRule.mapM_filter_eq_error_iff`: some of the checks instead of all
* `lintText_fix`: **a run that mends, the run that reports, and both runs afterwards**
-/

namespace DocAudit

open Text

/-! ## Stable orders -/

section Sorting

variable {α : Type} {key : α → Nat} {l sorted : List α}

/-- The list is sorted by the keys, and for each key its members stand as they did. -/
structure IsStableSort (key : α → Nat) (l sorted : List α) : Prop where
  ordered : sorted.Pairwise (key · ≤ key ·)
  stable : ∀ k, sorted.filter (key · = k) = l.filter (key · = k)

/-- Sorting by merging is stable. -/
theorem isStableSort_mergeSort (key : α → Nat) (l : List α) :
    IsStableSort key l (l.mergeSort fun a b => key a ≤ key b) where
  ordered := by
    have hpairwise : (l.mergeSort fun a b => key a ≤ key b).Pairwise fun a b =>
        decide (key a ≤ key b) = true :=
      List.pairwise_mergeSort (fun a b c => by simpa using Nat.le_trans)
        (fun a b => by simpa using Nat.le_total (key a) (key b)) l
    simpa using hpairwise
  stable k := by
    have hsame : ((l.filter (key · = k)).Pairwise fun a b => decide (key a ≤ key b) = true) := by
      refine List.pairwise_of_forall_mem_list fun a ha b hb => ?_
      have hka : key a = k := by simpa using (List.mem_filter.mp ha).2
      have hkb : key b = k := by simpa using (List.mem_filter.mp hb).2
      simp [hka, hkb]
    have hsublist : (l.filter (key · = k)).Sublist (l.mergeSort fun a b => key a ≤ key b) :=
      List.sublist_mergeSort (fun a b c => by simpa using Nat.le_trans)
        (fun a b => by simpa using Nat.le_total (key a) (key b)) hsame List.filter_sublist
    have hfiltered := hsublist.filter (key · = k)
    rw [List.filter_filter] at hfiltered
    simp only [Bool.and_self] at hfiltered
    refine (hfiltered.eq_of_length ?_).symm
    exact (((List.mergeSort_perm l _).filter _).length_eq).symm

/-- Lists with the same members for every key have the same members. -/
theorem mem_iff_of_filter_eq {l' : List α} (h : ∀ k, l.filter (key · = k) = l'.filter (key · = k)) (a : α) :
    a ∈ l ↔ a ∈ l' := by
  have hfilter : ∀ l : List α, a ∈ l.filter (key · = key a) ↔ a ∈ l := fun l => by simp
  rw [← hfilter l, h, hfilter]

namespace IsStableSort

variable {sorted' : List α}

theorem mem_iff (h : IsStableSort key l sorted) (a : α) : a ∈ sorted ↔ a ∈ l :=
  mem_iff_of_filter_eq h.stable a

/-- **There is one stable order only.** -/
theorem unique (h : IsStableSort key l sorted) (h' : IsStableSort key l sorted') : sorted = sorted' := by
  have hsame : ∀ k, sorted.filter (key · = k) = sorted'.filter (key · = k) :=
    fun k => (h.stable k).trans (h'.stable k).symm
  have hordered := h.ordered
  have hordered' := h'.ordered
  clear h h'
  induction sorted generalizing sorted' with
  | nil =>
    refine (List.eq_nil_iff_forall_not_mem.mpr fun a ha => ?_).symm
    cases (mem_iff_of_filter_eq hsame a).mpr ha
  | cons a sorted ih =>
    have ha : a ∈ sorted' := (mem_iff_of_filter_eq hsame a).mp List.mem_cons_self
    cases sorted' with
    | nil => cases ha
    | cons b sorted' =>
      have hb : b ∈ a :: sorted := (mem_iff_of_filter_eq hsame b).mpr List.mem_cons_self
      obtain ⟨hleast, hrest⟩ := List.pairwise_cons.mp hordered
      obtain ⟨hleast', hrest'⟩ := List.pairwise_cons.mp hordered'
      have hkey : key a = key b := by
        refine Nat.le_antisymm ?_ ?_
        · rcases List.mem_cons.mp hb with rfl | hb
          · exact Nat.le_refl _
          · exact hleast b hb
        · rcases List.mem_cons.mp ha with rfl | ha
          · exact Nat.le_refl _
          · exact hleast' a ha
      -- `a` and `b` both come first among the members with their key
      obtain rfl : a = b := by
        have hfirst := hsame (key a)
        simp only [List.filter_cons, hkey, decide_true, if_true] at hfirst
        exact (List.cons.inj hfirst).1
      refine congrArg (a :: ·) (ih (fun k => ?_) hrest hrest')
      have hwhole := hsame k
      simp only [List.filter_cons] at hwhole
      split at hwhole
      · exact (List.cons.inj hwhole).2
      · exact hwhole

theorem eq_mergeSort (h : IsStableSort key l sorted) : sorted = l.mergeSort fun a b => key a ≤ key b :=
  h.unique (isStableSort_mergeSort key l)

/-- Members can be left out before or after. -/
theorem filter (h : IsStableSort key l sorted) (p : α → Bool) :
    IsStableSort key (l.filter p) (sorted.filter p) where
  ordered := h.ordered.sublist List.filter_sublist
  stable k := by
    rw [List.filter_comm, h.stable, List.filter_comm]

end IsStableSort

end Sorting

/-! ## Why a check fails -/

/-- The system refuses to follow a path. -/
def LintScope.Refuses (s : LintScope) (failure : Failure) : Prop :=
  ∃ path, s.tree.isOverlong s.cwd path = true ∧ failure = .nameTooLong path

namespace Lint

variable {s : LintScope} {failure : Failure}

theorem refuses_of_unlessOverlong {path : Path} {answer : Bool}
    (h : s.tree.unlessOverlong s.cwd path answer = .error failure) : s.Refuses failure := by
  unfold FileTree.unlessOverlong at h
  split at h
  · next hlong =>
    cases h
    exact ⟨path, hlong, rfl⟩
  · cases h

/-- A question about a path, and an answer that does not fail. -/
theorem refuses_of_bind {α : Type} {path : Path} {answer : Bool} {f : Bool → Outcome α}
    (h : s.tree.unlessOverlong s.cwd path answer >>= f = .error failure) (hf : ∀ there, f there ≠ .error failure) :
    s.Refuses failure := by
  rcases Outcome.bind_eq_error_iff.mp h with h | ⟨there, -, h⟩
  · exact refuses_of_unlessOverlong h
  · exact absurd h (hf there)

theorem linkFault?_eq_error {link : Link} (h : linkFault? s link = .error failure) : s.Refuses failure := by
  unfold linkFault? at h
  simp only at h
  repeat' split at h
  all_goals try cases h
  refine refuses_of_bind h fun there hthere => ?_
  split at hthere <;> cases hthere

theorem anchorFault?_eq_error {own : List Text} {link : Link} (h : anchorFault? s own link = .error failure) :
    s.Refuses failure := by
  unfold anchorFault? at h
  simp only at h
  split at h
  · cases h
  · split at h
    · cases h
    · split at h
      · cases h
      · split at h
        · split at h <;> cases h
        · refine refuses_of_bind h fun there hthere => ?_
          repeat' split at hthere
          all_goals cases hthere

theorem refFault?_eq_error {ref : Text} (h : refFault? s ref = .error failure) : s.Refuses failure := by
  unfold refFault? at h
  split at h
  · cases h
  · rcases Outcome.bind_eq_error_iff.mp h with h | ⟨there, -, h⟩
    · exact refuses_of_unlessOverlong h
    · split at h
      · cases h
      · refine refuses_of_bind h fun there hthere => ?_
        split at hthere <;> cases hthere

theorem exists_of_faultsOf_error {α : Type} {parts : Text → List α} {fault? : α → Outcome (Option Text)}
    {p : Prose} (h : faultsOf parts fault? p = .error failure) : ∃ part, fault? part = .error failure := by
  obtain ⟨⟨n, part⟩, -, h⟩ := Outcome.exists_of_filterMapM_error h
  refine ⟨part, ?_⟩
  cases hpart : fault? part with
  | error failure' =>
    simp only [hpart] at h
    cases h
    rfl
  | ok found =>
    simp only [hpart] at h
    cases h

end Lint

namespace LintRule

variable {r : LintRule} {s : LintScope} {p : Prose} {failure : Failure}

/-- A check fails because of a path only. -/
theorem refuses_of_findings (h : r.findings s p = .error failure) : s.Refuses failure := by
  cases r with
  | brokenInternalLinks =>
    obtain ⟨link, h⟩ := Lint.exists_of_faultsOf_error h
    exact Lint.linkFault?_eq_error h
  | deadAnchors =>
    obtain ⟨link, h⟩ := Lint.exists_of_faultsOf_error h
    exact Lint.anchorFault?_eq_error h
  | staleCodeRefs =>
    obtain ⟨ref, h⟩ := Lint.exists_of_faultsOf_error h
    exact Lint.refFault?_eq_error h
  | inconsistentHeadings => cases h
  | missingAltText => cases h
  | longParagraphs => cases h
  | duplicateHeadings => cases h
  | trailingWhitespace => cases h

/-! ## Some of the checks -/

/-- Each check reports under its own name. -/
theorem filter_issues {issues : List Issue} (h : r.issues s p = .ok issues) (keep : LintRule → Bool) :
    issues.filter (fun issue => keep issue.rule) = if keep r then issues else [] := by
  obtain ⟨found, -, rfl⟩ := Outcome.map_eq_ok_iff.mp h
  rw [List.filter_map]
  cases hkeep : keep r with
  | true => simp [Function.comp_def, hkeep]
  | false => simp [Function.comp_def, hkeep]

/-- What the checks find. -/
abbrev Find (s : LintScope) (p : Prose) (rules : List LintRule) (found : List (List Issue)) : Prop :=
  List.Forall₂ (fun r issues => LintRule.issues r s p = .ok issues) rules found

/-- Some of the checks find what the others do not report. -/
theorem Find.filter {rules : List LintRule} {found : List (List Issue)} (h : Find s p rules found)
    (keep : LintRule → Bool) : ∃ kept, Find s p (rules.filter keep) kept ∧
      kept.flatten = found.flatten.filter fun issue => keep issue.rule := by
  induction h with
  | nil => exact ⟨[], .nil, rfl⟩
  | @cons r issues rules found hr _ ih =>
    obtain ⟨kept, hkept, hflatten⟩ := ih
    rw [List.flatten_cons, List.filter_append, filter_issues hr, ← hflatten]
    cases hkeep : keep r with
    | true =>
      rw [List.filter_cons_of_pos hkeep]
      exact ⟨issues :: kept, .cons hr hkept, rfl⟩
    | false =>
      rw [List.filter_cons_of_neg (by simp [hkeep])]
      exact ⟨kept, hkept, rfl⟩

/-- The check of line ends reports every loose line. -/
theorem length_issues_trailingWhitespace {text : Text} {issues : List Issue}
    (h : LintRule.trailingWhitespace.issues s (Prose.ofLines (lines text)) = .ok issues) :
    issues.length = looseLines text := by
  obtain ⟨found, hfound, rfl⟩ := Outcome.map_eq_ok_iff.mp h
  cases hfound
  rw [List.length_map, Prose.length_trailingSpaces, looseLines]

/-- So there are as many such issues as loose lines, each time that this is checked. -/
theorem Find.length_filter {rules : List LintRule} {found : List (List Issue)} {text : Text}
    (h : Find s (Prose.ofLines (lines text)) rules found) :
    (found.flatten.filter (·.rule == .trailingWhitespace)).length =
      rules.count .trailingWhitespace * looseLines text := by
  induction h with
  | nil => simp
  | @cons r issues rules found hr _ ih =>
    rw [List.flatten_cons, List.filter_append, List.length_append, ih, List.count_cons, Nat.add_mul, Nat.add_comm,
      filter_issues hr (· == .trailingWhitespace)]
    cases hrule : r == .trailingWhitespace with
    | true =>
      obtain rfl := eq_of_beq hrule
      rw [if_pos rfl, if_pos rfl, length_issues_trailingWhitespace hr, Nat.one_mul]
    | false => simp

end LintRule

/-! ## Runs -/

section Runs

variable {rules : List LintRule} {fix : Bool} {s : LintScope} {text : Text}

/-- The checks that report. -/
def reporting (rules : List LintRule) (fix : Bool) : List LintRule :=
  rules.filter fun r => !(fix && r == .trailingWhitespace)

theorem reporting_cons (r : LintRule) (rules : List LintRule) : reporting (r :: rules) fix =
    if fix && r == .trailingWhitespace then reporting rules fix else r :: reporting rules fix := by
  unfold reporting
  rw [List.filter_cons]
  cases fix && r == .trailingWhitespace <;> rfl

theorem mendedCount_cons (r : LintRule) (rules : List LintRule) : mendedCount (r :: rules) fix text =
    (if fix && r == .trailingWhitespace then looseLines text else 0) + mendedCount rules fix text := by
  unfold mendedCount
  cases fix with
  | false => rfl
  | true =>
    rw [List.count_cons]
    cases r == .trailingWhitespace with
    | false => simp
    | true => simp [Nat.add_mul, Nat.add_comm]

/-- What a run gives. -/
theorem lintText_eq_ok_iff {outcome : LintOutcome} : lintText rules fix s text = .ok outcome ↔
    ∃ found, LintRule.Find s (Prose.ofLines (lines text)) (reporting rules fix) found ∧
      outcome = { issues := found.flatten.mergeSort fun a b => a.line ≤ b.line
                  fixedCount := mendedCount rules fix text
                  fixedText := if mendedCount rules fix text = 0 then none else some (fixTrailing text) } := by
  unfold mendedCount looseLines
  rw [← Prose.length_trailingSpaces]
  simp only [LintRule.Find, ← Outcome.mapM_eq_ok_iff]
  constructor
  · intro h
    obtain ⟨found, hfound, h⟩ := Outcome.bind_eq_ok_iff.mp h
    exact ⟨found, hfound, (Except.ok.inj h).symm⟩
  · rintro ⟨found, hfound, rfl⟩
    exact Outcome.bind_eq_ok_iff.mpr ⟨found, hfound, rfl⟩

/-- **A check reports what it finds, whatever other checks are made.** -/
theorem exists_findings {r : LintRule} (hr : r ∈ rules) (hmends : r ≠ .trailingWhitespace) {outcome : LintOutcome}
    (h : lintText rules fix s text = .ok outcome) :
    ∃ found, r.findings s (Prose.ofLines (lines text)) = .ok found ∧
      ∀ n message, { line := n, rule := r, message } ∈ outcome.issues ↔ (n, message) ∈ found := by
  obtain ⟨all, hall, rfl⟩ := lintText_eq_ok_iff.mp h
  have hall' := Outcome.mapM_eq_ok_iff.mpr hall
  have hreporting : r ∈ reporting rules fix := List.mem_filter.mpr ⟨hr, by simp [hmends]⟩
  obtain ⟨issues, hissues, hsome⟩ := Outcome.exists_of_mapM hall' hreporting
  obtain ⟨found, hfound, rfl⟩ := Outcome.map_eq_ok_iff.mp hsome
  refine ⟨found, hfound, fun n message => ((isStableSort_mergeSort Issue.line all.flatten).mem_iff _).trans ?_⟩
  rw [List.mem_flatten]
  constructor
  · rintro ⟨issues', hissues', hmem⟩
    obtain ⟨r', -, hfinds⟩ := Outcome.mem_of_mapM hall' hissues'
    obtain ⟨found', hfound', rfl⟩ := Outcome.map_eq_ok_iff.mp hfinds
    obtain ⟨q, hq, hissue⟩ := List.mem_map.mp hmem
    cases hissue
    obtain rfl := Except.ok.inj (hfound.symm.trans hfound')
    exact hq
  · intro hmem
    exact ⟨_, hissues, List.mem_map.mpr ⟨(n, message), hmem, rfl⟩⟩

/-- One check that mends nothing reports what it finds, in the order of the lines. -/
theorem lintText_single {r : LintRule} (hr : r ≠ .trailingWhitespace) {found : List (Nat × Text)}
    (h : r.findings s (Prose.ofLines (lines text)) = .ok found) : lintText [r] fix s text =
      .ok { issues := (found.map fun (line, message) => { line, rule := r, message }).mergeSort
              fun a b => a.line ≤ b.line } := by
  have hrule : (r == .trailingWhitespace) = false := beq_eq_false_iff_ne.mpr hr
  have hreported : reporting [r] fix = [r] := by simp [reporting, hrule]
  have hmended : mendedCount [r] fix text = 0 := by
    simp [mendedCount, List.count_eq_zero_of_not_mem (fun hmem => hr (List.mem_singleton.mp hmem).symm)]
  refine lintText_eq_ok_iff.mpr ⟨[found.map fun (line, message) => { line, rule := r, message }], ?_, ?_⟩
  · rw [hreported]
    exact .cons (Outcome.map_eq_ok_iff.mpr ⟨found, h, rfl⟩) .nil
  · rw [hmended, List.flatten_singleton, if_pos rfl]

/-- When a run gives nothing. -/
theorem lintText_eq_error_iff {failure : Failure} : lintText rules fix s text = .error failure ↔
    (reporting rules fix).mapM (·.issues s (Prose.ofLines (lines text))) = .error failure := by
  constructor
  · intro h
    rcases Outcome.bind_eq_error_iff.mp h with h | ⟨_, -, h⟩
    · exact h
    · cases h
  · intro h
    exact Outcome.bind_eq_error_iff.mpr (.inl h)

theorem reporting_false (rules : List LintRule) : reporting rules false = rules := by
  simp [reporting]

/-- A run that mends fails as the run that reports does. -/
theorem lintText_true_eq_error_iff {failure : Failure} :
    lintText rules true s text = .error failure ↔ lintText rules false s text = .error failure := by
  rw [lintText_eq_error_iff, lintText_eq_error_iff, reporting_false]
  refine Outcome.mapM_filter_eq_error_iff fun r hr => ?_
  obtain rfl : r = .trailingWhitespace := by simpa using hr
  exact ⟨_, rfl⟩

theorem exists_lintText_false {outcome : LintOutcome} (h : lintText rules true s text = .ok outcome) :
    ∃ report, lintText rules false s text = .ok report := by
  cases hreport : lintText rules false s text with
  | ok report => exact ⟨report, rfl⟩
  | error failure =>
    rw [lintText_true_eq_error_iff.mpr hreport] at h
    cases h

/-- A run fails because of a path only. -/
theorem refuses_of_lintText {failure : Failure} (h : lintText rules fix s text = .error failure) :
    s.Refuses failure := by
  obtain ⟨r, -, h⟩ := Outcome.exists_of_mapM_error (lintText_eq_error_iff.mp h)
  cases hfindings : r.findings s (Prose.ofLines (lines text)) with
  | error failure' =>
    rw [LintRule.issues, hfindings] at h
    cases h
    exact LintRule.refuses_of_findings hfindings
  | ok found =>
    rw [LintRule.issues, hfindings] at h
    cases h

/-- A run that mends counts what is reported otherwise, and reports the other issues in the same order. -/
theorem exists_lintText_true {report : LintOutcome} (h : lintText rules false s text = .ok report) :
    ∃ outcome, lintText rules true s text = .ok outcome ∧
      outcome.fixedCount = (report.issues.filter (·.rule = .trailingWhitespace)).length ∧
      outcome.issues = report.issues.filter (·.rule ≠ .trailingWhitespace) := by
  obtain ⟨found, hfound, rfl⟩ := lintText_eq_ok_iff.mp h
  rw [reporting_false] at hfound
  obtain ⟨kept, hkept, hflatten⟩ := hfound.filter fun r => !(true && r == .trailingWhitespace)
  refine ⟨_, lintText_eq_ok_iff.mpr ⟨kept, hkept, rfl⟩, ?_, ?_⟩
  · have hperm := List.mergeSort_perm found.flatten fun a b => a.line ≤ b.line
    exact (((hperm.filter (·.rule == .trailingWhitespace)).length_eq).trans hfound.length_filter).symm
  · have hsort := (isStableSort_mergeSort Issue.line found.flatten).filter fun issue =>
      !(true && issue.rule == .trailingWhitespace)
    rw [← hflatten] at hsort
    -- leaving issues out of what was sorted is the stable order of what is left, and there is only one
    rw [← hsort.eq_mergeSort]
    exact List.filter_congr fun issue _ => by rw [Bool.eq_iff_iff]; simp

/-- Where nothing is to be mended, no line end is reported. -/
theorem rule_ne_of_mem_issues {report : LintOutcome} (h : lintText rules false s text = .ok report)
    (hnone : mendedCount rules true text = 0) : ∀ issue ∈ report.issues, issue.rule ≠ .trailingWhitespace := by
  obtain ⟨outcome, hfix, hcount, -⟩ := exists_lintText_true h
  rw [(lintText_ok hfix).1, hnone, eq_comm, List.length_eq_zero_iff, List.filter_eq_nil_iff] at hcount
  intro issue hissue hrule
  exact hcount issue hissue (decide_eq_true hrule)

/-- Both runs on what is left of a text. -/
theorem exists_lintText_mendedText {outcome : LintOutcome} (h : lintText rules true s text = .ok outcome) :
    ∃ again check, lintText rules true s (mendedText rules true text) = .ok again ∧
      lintText rules false s (mendedText rules true text) = .ok check ∧
      again.fixedCount = 0 ∧ again.fixedText = none ∧
      ∀ issue ∈ check.issues, issue.rule ≠ .trailingWhitespace := by
  obtain ⟨again, hagain⟩ := exists_lintText (FileTree.SameKinds.refl s.tree)
    (sameParts_mendedText rules true text) ⟨outcome, h⟩
  obtain ⟨check, hcheck⟩ := exists_lintText_false hagain
  have hnone := mendedCount_mendedText rules true text
  obtain ⟨hcount, htext⟩ := lintText_ok hagain
  rw [hnone] at hcount
  rw [hnone, if_pos rfl] at htext
  exact ⟨again, check, hagain, hcheck, hcount, htext, rule_ne_of_mem_issues hcheck hnone⟩

/--
**A run that mends leaves nothing to be mended or reported, and reports the rest as it would be reported anyway.**

Both runs fail in the same way, because of a path that the system refuses to follow, or both come to an end.
Then as many lines are mended as are reported otherwise, and the other issues are the same in the same order. On
what is left of the text both runs come to an end again: nothing is mended, and no line end is reported.
-/
theorem lintText_fix (rules : List LintRule) (s : LintScope) (text : Text) :
    (∃ failure, lintText rules true s text = .error failure ∧ lintText rules false s text = .error failure ∧
      s.Refuses failure) ∨
    ∃ outcome report again check,
      lintText rules true s text = .ok outcome ∧ lintText rules false s text = .ok report ∧
      lintText rules true s (outcome.fixedText.getD text) = .ok again ∧
      lintText rules false s (outcome.fixedText.getD text) = .ok check ∧
      outcome.fixedCount = (report.issues.filter (·.rule = .trailingWhitespace)).length ∧
      outcome.issues = report.issues.filter (·.rule ≠ .trailingWhitespace) ∧
      again.fixedCount = 0 ∧ again.fixedText = none ∧
      ∀ issue ∈ check.issues, issue.rule ≠ .trailingWhitespace := by
  cases hreport : lintText rules false s text with
  | error failure =>
    exact .inl ⟨failure, lintText_true_eq_error_iff.mpr hreport, rfl, refuses_of_lintText hreport⟩
  | ok report =>
    obtain ⟨outcome, hfix, hcount, hissues⟩ := exists_lintText_true hreport
    obtain ⟨again, check, hagain, hcheck, hrest⟩ := exists_lintText_mendedText hfix
    have hleft : outcome.fixedText.getD text = mendedText rules true text := by
      rw [(lintText_ok hfix).2, mendedText]
      split <;> rfl
    rw [← hleft] at hagain hcheck
    exact .inr ⟨outcome, report, again, check, hfix, rfl, hagain, hcheck, hcount, hissues, hrest⟩

end Runs

end DocAudit
