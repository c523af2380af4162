import DocAudit.Validation.RuleSet

/-!
# What findings say

Every finding names the document that it is about and the rule that it comes from. For a pattern, a finding
is an error when the pattern is faulty by itself, and a warning when it covers no file.

## Contents

* `Rule.IsFound`: findings as rules make them
* `Rule.of_mem_findings`: **the document and the rule of a finding**
* `Rule.any_isError_patternFinding?`: patterns with errors
* `Rule.patternFinding?_eq_none_iff`: patterns without findings
* `Document.filter_findings`: **the findings of a name**
* `Document.countP_errors_set`: the errors about patterns
-/

namespace DocAudit

open Text

namespace Rule

/-- A finding as a rule makes it: it names the document and the rule, and it is as severe as it was made. -/
structure IsFound (rule : Rule) (d : Document) (x : Diagnostic) : Prop where
  file : x.file = d.path.text
  rule : x.rule = rule.name
  converted : x.converted = false

theorem isFound_of_patternFinding? {d : Document} {files : Option (List Text)} {line : Nat}
    {pattern : Text} {x : Diagnostic} (h : patternFinding? d files line pattern = some x) :
    (validatePaths files).IsFound d x := by
  unfold patternFinding? at h
  simp only at h
  split at h
  · rw [← Option.some.inj h]
    exact ⟨rfl, rfl, rfl⟩
  · split at h
    · rw [← Option.some.inj h]
      exact ⟨rfl, rfl, rfl⟩
    · split at h
      · cases h
      · split at h
        · cases h
        · rw [← Option.some.inj h]
          exact ⟨rfl, rfl, rfl⟩

/-- What a rule finds in a pattern is about the document, and comes from the rule for patterns. -/
theorem of_patternFinding? {d : Document} {files : Option (List Text)} {line : Nat} {pattern : Text}
    {x : Diagnostic} (h : patternFinding? d files line pattern = some x) :
    x.file = d.path.text ∧ x.rule = (validatePaths files).name :=
  ⟨(isFound_of_patternFinding? h).file, (isFound_of_patternFinding? h).rule⟩

/-- **Every finding of a rule is as the rule makes it.** -/
theorem isFound_of_mem_findings {rule : Rule} {d : Document} {x : Diagnostic}
    (h : x ∈ rule.findings d) : rule.IsFound d x := by
  cases rule with
  | validatePaths files =>
    obtain ⟨⟨line, pattern⟩, -, hx⟩ := List.mem_filterMap.mp h
    exact isFound_of_patternFinding? hx
  | _ =>
    -- each of the other rules finds one thing at most
    unfold findings at h
    simp only at h
    repeat' split at h
    all_goals simp only [List.not_mem_nil, List.mem_singleton] at h
    all_goals
      rw [h]
      exact ⟨rfl, rfl, rfl⟩

/-- **A finding names its document and its rule.** -/
theorem of_mem_findings {rule : Rule} {d : Document} {x : Diagnostic} (h : x ∈ rule.findings d) :
    x.file = d.path.text ∧ x.rule = rule.name :=
  ⟨(isFound_of_mem_findings h).file, (isFound_of_mem_findings h).rule⟩

/-- What rules find names the document. -/
theorem file_of_mem_findings {rules : List Rule} {d : Document} {x : Diagnostic}
    (h : x ∈ d.findings rules) : x.file = d.path.text := by
  obtain ⟨rule, -, hx⟩ := List.mem_flatMap.mp h
  exact (of_mem_findings hx).1

/-- What rules find has not been converted. -/
theorem converted_of_mem_findings {rules : List Rule} {d : Document} {x : Diagnostic}
    (h : x ∈ d.findings rules) : x.converted = false := by
  obtain ⟨rule, -, hx⟩ := List.mem_flatMap.mp h
  exact (isFound_of_mem_findings hx).converted

/-- **A pattern has an error when it is faulty by itself.** -/
theorem any_isError_patternFinding? (d : Document) (files : Option (List Text)) (line : Nat)
    (pattern : Text) : (patternFinding? d files line pattern).any (·.isError) =
      (PathPattern.isAbsolute pattern || (PathPattern.fault? pattern).isSome) := by
  unfold patternFinding?
  simp only
  cases PathPattern.isAbsolute pattern with
  | true => rfl
  | false =>
    cases PathPattern.fault? pattern with
    | some fault => rfl
    | none =>
      cases files with
      | none => rfl
      | some files =>
        simp only [Bool.false_eq_true, if_false]
        split <;> rfl

/-- **Nothing is found in a pattern that is well formed and covers one of the files, if any are given.** -/
theorem patternFinding?_eq_none_iff {d : Document} {files : Option (List Text)} {line : Nat}
    {pattern : Text} : patternFinding? d files line pattern = none ↔
      PathPattern.isAbsolute pattern = false ∧ PathPattern.fault? pattern = none ∧
        ∀ given, files = some given → ∃ file ∈ given, PathPattern.covers file pattern = true := by
  unfold patternFinding?
  simp only
  cases PathPattern.isAbsolute pattern with
  | true => exact iff_of_false (Option.some_ne_none _) fun h => Bool.noConfusion h.1
  | false =>
    cases PathPattern.fault? pattern with
    | some fault => exact iff_of_false (Option.some_ne_none _) fun h => Option.some_ne_none _ h.2.1
    | none =>
      cases files with
      | none => exact iff_of_true rfl ⟨rfl, rfl, fun _ h => nomatch h⟩
      | some files =>
        simp only [Bool.false_eq_true, if_false, ite_eq_left_iff, reduceCtorEq, imp_false, Classical.not_not,
          true_and, Option.some.injEq, forall_eq', List.any_eq_true]

/-- The rule for patterns is in force once when the options say so, whatever the kind of the document is. -/
theorem filter_set_name (o : RuleOptions) (files : List Text) (kind : DocumentKind) :
    (set o files kind).filter (·.name == "validate-paths".toList) =
      if o.validatePaths then [validatePaths (if o.warnEmptyPaths then some files else none)] else [] := by
  have hkind : (forKind o kind).filter (·.name == "validate-paths".toList) = [] := by
    unfold forKind
    cases kind <;> simp only <;> try split
    all_goals rfl
  have hverification : (if o.requireVerification then
      .requireSection "Verification".toList ::
        (if o.requireVerificationCommands then [.requireCommand "Verification".toList] else [])
      else []).filter (fun rule : Rule => rule.name == "validate-paths".toList) = [] := by
    cases o.requireVerification <;> cases o.requireVerificationCommands <;> rfl
  have hexamples : (if o.requireExamples then
      [.requireSection "Examples".toList, .requireCodeBlock "Examples".toList]
      else []).filter (fun rule : Rule => rule.name == "validate-paths".toList) = [] := by
    cases o.requireExamples <;> rfl
  have hlimit : [maxLines o.maxLines].filter (·.name == "validate-paths".toList) = [] := rfl
  unfold set forAll
  simp only [List.filter_append, hkind, hverification, hexamples, hlimit, List.append_nil]
  cases o.validatePaths <;> rfl

end Rule

/-- **The findings of a name are those of the rules of the name.** -/
theorem Document.filter_findings (d : Document) (rules : List Rule) (name : Text) :
    (d.findings rules).filter (·.rule == name) = d.findings (rules.filter (·.name == name)) := by
  unfold findings
  induction rules with
  | nil => rfl
  | cons rule rules ih =>
    rw [List.flatMap_cons, List.filter_append, ih, List.filter_cons]
    by_cases hname : (rule.name == name) = true
    · have hall : (rule.findings d).filter (·.rule == name) = rule.findings d :=
        List.filter_eq_self.mpr fun x hx => (Rule.of_mem_findings hx).2 ▸ hname
      rw [if_pos hname, hall, List.flatMap_cons]
    · have hnone : (rule.findings d).filter (·.rule == name) = [] :=
        List.filter_eq_nil_iff.mpr fun x hx => (Rule.of_mem_findings hx).2 ▸ hname
      rw [if_neg hname, hnone, List.nil_append]

namespace Document

/-- The findings about patterns. -/
theorem filter_findings_set {o : RuleOptions} (h : o.validatePaths = true) (d : Document)
    (files : List Text) (kind : DocumentKind) :
    (d.findings (Rule.set o files kind)).filter (·.rule == "validate-paths".toList) =
      (Rule.validatePaths (if o.warnEmptyPaths then some files else none)).findings d := by
  rw [filter_findings, Rule.filter_set_name, if_pos h]
  exact List.flatMap_singleton ..

/-- **There is one error about patterns for each pattern that is faulty by itself.** -/
theorem countP_errors_set {o : RuleOptions} (h : o.validatePaths = true) (d : Document)
    (files : List Text) (kind : DocumentKind) :
    (Diagnostic.errors (d.findings (Rule.set o files kind))).countP
        (·.rule == "validate-paths".toList) =
      d.patterns.countP fun q =>
        PathPattern.isAbsolute q.2 || (PathPattern.fault? q.2).isSome := by
  calc (Diagnostic.errors (d.findings (Rule.set o files kind))).countP
          (·.rule == "validate-paths".toList)
      = ((d.findings (Rule.set o files kind)).filter
          (·.rule == "validate-paths".toList)).countP (·.isError) := by
        unfold Diagnostic.errors
        rw [List.countP_filter, List.countP_filter]
        simp only [Bool.and_comm]
    _ = d.patterns.countP fun q =>
          PathPattern.isAbsolute q.2 || (PathPattern.fault? q.2).isSome := by
        rw [filter_findings_set h]
        show (d.patterns.filterMap _).countP Diagnostic.isError = _
        rw [List.countP_filterMap]
        refine List.countP_congr fun ⟨line, pattern⟩ _ => ?_
        show ((Rule.patternFinding? d _ line pattern).map Diagnostic.isError).getD false = true ↔ _
        rw [← Rule.any_isError_patternFinding? d (if o.warnEmptyPaths then some files else none) line]
        cases Rule.patternFinding? d (if o.warnEmptyPaths then some files else none) line pattern <;> rfl

end Document

end DocAudit
