import DocAudit.Command.Project
import DocAudit.Proofs.Validation.Findings

/-!
# What is required of a document

The rules that hold for a document are put together from the options and the kind of the document, and each
of them looks at the document by itself. A rule about what a section holds is silent when there is no such
section; another rule reports that. Here the requirements are told without rules, and all rules together
find an error when one of the requirements is not met.

## Contents

* `Document.Has`, `Document.IsFirst`: the sections of a name, and the first of them
* `Requirements`: what is required under given options of a document of a kind
* `Rule.errors_findings_eq_nil_iff`: when a rule finds no error
* `Document.errors_eq_nil_iff`: **there is no error when the requirements are met**
* `Document.warnings_eq`: **the warnings, one by one**
* `Document.pairwise_findings`: **the findings come in the order of rules and lines**
* `Project.findings_requirements`: **all of it, for a project**
-/

namespace DocAudit

open Text

/-! ## Sections of a name -/

namespace Document

variable {d : Document} {name : Text} {s : Section}

/-- The document has a section of the name, without regard to case. -/
def Has (d : Document) (name : Text) : Prop := ∃ s ∈ d.sections, fold s.name = fold name

/-- The section is the first of the name, without regard to case. -/
def IsFirst (d : Document) (name : Text) (s : Section) : Prop :=
  fold s.name = fold name ∧ ∃ before behind, d.sections = before ++ s :: behind ∧
    ∀ other ∈ before, fold other.name ≠ fold name

theorem find?_eq_some_iff : d.find? name = some s ↔ d.IsFirst name s := by
  unfold find? IsFirst
  rw [List.find?_eq_some_iff_append]
  simp only [beq_iff_eq, Bool.not_eq_eq_eq_not, Bool.not_true, beq_eq_false_iff_ne]

theorem isSome_find?_iff : (d.find? name).isSome = true ↔ d.Has name := by
  unfold find? Has
  rw [List.find?_isSome]
  simp only [beq_iff_eq]

/-- What holds of the first section, if there is one, holds of it when there is one. -/
theorem has_and_forall_iff {p : Section → Prop} :
    (d.Has name ∧ ∀ s, d.IsFirst name s → p s) ↔ ∃ s, d.IsFirst name s ∧ p s := by
  simp only [← isSome_find?_iff, ← find?_eq_some_iff, Option.isSome_iff_exists]
  constructor
  · rintro ⟨⟨s, hs⟩, h⟩
    exact ⟨s, hs, h s hs⟩
  · rintro ⟨s, hs, h⟩
    refine ⟨⟨s, hs⟩, fun s' hs' => ?_⟩
    rw [hs, Option.some.injEq] at hs'
    exact hs' ▸ h

end Document

/-! ## Requirements -/

/-- The section has a line that looks like a command, or a block that is run. -/
def Section.Runs (s : Section) : Prop :=
  (∃ line ∈ s.body, startsWithAny commandStarts (strip line) = true) ∨
    ∃ b ∈ s.blocks, b.executable = true

/-- The section names a state that a decision can be in. -/
def Section.NamesState (s : Section) : Prop := ∃ state ∈ decisionStates, state <:+: lower s.content

/-- The pattern is relative and well formed. -/
def IsGoodPattern (pattern : Text) : Prop :=
  PathPattern.isAbsolute pattern = false ∧ PathPattern.fault? pattern = none

instance (pattern : Text) : Decidable (IsGoodPattern pattern) := inferInstanceAs (Decidable (_ ∧ _))

/-- What is required of a document of the kind. -/
structure Requirements (o : RuleOptions) (kind : DocumentKind) (d : Document) : Prop where
  purpose : d.Has "Purpose".toList
  verification : o.requireVerification = true → d.Has "Verification".toList
  command : o.requireVerification = true → o.requireVerificationCommands = true →
    ∃ s, d.IsFirst "Verification".toList s ∧ s.Runs
  examples : o.requireExamples = true → ∃ s, d.IsFirst "Examples".toList s ∧ s.blocks ≠ []
  patterns : o.validatePaths = true → ∀ s, d.IsFirst pathsSection s →
    ∀ q ∈ s.patterns, IsGoodPattern q.2
  runbook : kind = .runbook → o.kinds.runbooks = true →
    d.Has "When to Use".toList ∧ d.Has "Steps".toList ∧ d.Has "Rollback".toList
  adr : kind = .adr → o.kinds.adrs = true →
    d.Has "Status".toList ∧ d.Has "Context".toList ∧ d.Has "Decision".toList ∧
      d.Has "Consequences".toList ∧ ∃ s, d.IsFirst "Status".toList s ∧ s.NamesState
  component : kind = .component → o.kinds.components = true →
    d.Has "Interface".toList ∨ d.Has "Configuration".toList

/-! ## Errors -/

namespace Rule

/-- What a rule asks of a document, as far as errors go. -/
def IsMet (d : Document) : Rule → Prop
  | .requireSection name => d.Has name
  | .requireOneOf names => ∃ name ∈ names, d.Has name
  | .maxLines _ => True
  | .requireCodeBlock inSection => ∀ s, d.IsFirst inSection s → s.blocks ≠ []
  | .requireCommand inSection => ∀ s, d.IsFirst inSection s → s.Runs
  | .requireDecisionState => ∀ s, d.IsFirst "Status".toList s → s.NamesState
  | .validatePaths _ => ∀ s, d.IsFirst pathsSection s → ∀ q ∈ s.patterns, IsGoodPattern q.2

end Rule

namespace Diagnostic

/-- A finding that is an error is missing when the condition for it is. -/
theorem errors_ite_eq_nil_iff {c : Prop} [Decidable c] {x : Diagnostic} (hx : x.isError = true) :
    errors (if c then [] else [x]) = [] ↔ c := by
  have hne : errors [x] ≠ [] := by
    rw [errors, List.filter_cons_of_pos hx]
    exact List.cons_ne_nil x _
  split
  · next hc => exact iff_of_true rfl hc
  · next hc => exact iff_of_false hne hc

theorem errors_flatMap_eq_nil_iff {α : Type} {l : List α} {f : α → List Diagnostic} :
    errors (l.flatMap f) = [] ↔ ∀ a ∈ l, errors (f a) = [] := by
  unfold errors
  rw [List.filter_flatMap, List.flatMap_eq_nil_iff]

end Diagnostic

section Errors

variable {d : Document}

/-- What is found in the first section of a name, and nothing without one. -/
theorem Document.errors_find?_eq_nil_iff {name : Text} {f : Section → List Diagnostic}
    {p : Section → Prop} (h : ∀ s, Diagnostic.errors (f s) = [] ↔ p s) :
    Diagnostic.errors (match d.find? name with
      | none => []
      | some s => f s) = [] ↔ ∀ s, d.IsFirst name s → p s := by
  simp only [← Document.find?_eq_some_iff]
  cases d.find? name with
  | none => exact iff_of_true rfl fun _ hs => nomatch hs
  | some s => simp only [h, Option.some.injEq, forall_eq']

theorem Section.runs_iff {s : Section} :
    (s.hasCommands || !s.executableBlocks.isEmpty) = true ↔ s.Runs := by
  unfold Section.hasCommands Section.executableBlocks Section.Runs
  rw [Bool.or_eq_true, List.any_eq_true, Bool.not_eq_true', List.isEmpty_eq_false_iff, ne_eq,
    List.filter_eq_nil_iff, Classical.not_forall]
  simp only [Classical.not_imp, Classical.not_not]

/-- The patterns of a document are those of the first section for them. -/
theorem Document.forall_mem_patterns_iff {p : Nat × Text → Prop} :
    (∀ q ∈ d.patterns, p q) ↔ ∀ s, d.IsFirst pathsSection s → ∀ q ∈ s.patterns, p q := by
  unfold Document.patterns
  simp only [← Document.find?_eq_some_iff]
  cases d.find? pathsSection with
  | none => exact iff_of_true (fun _ hq => nomatch hq) fun _ hs => nomatch hs
  | some s => simp only [Option.some.injEq, forall_eq']

/-- What is found in a good pattern is no error. -/
theorem isGoodPattern_iff {files : Option (List Text)} {line : Nat} {pattern : Text} :
    IsGoodPattern pattern ↔
      ∀ x, Rule.patternFinding? d files line pattern = some x → x.isError = false := by
  rw [← Option.any_eq_false, Rule.any_isError_patternFinding?, Bool.or_eq_false_iff,
    Option.isSome_eq_false_iff, Option.isNone_iff_eq_none]
  rfl

/-- **A rule finds no error when it is met.** -/
theorem Rule.errors_findings_eq_nil_iff (rule : Rule) :
    Diagnostic.errors (rule.findings d) = [] ↔ rule.IsMet d := by
  cases rule with
  | requireSection name =>
    exact (Diagnostic.errors_ite_eq_nil_iff rfl).trans Document.isSome_find?_iff
  | requireOneOf names =>
    refine (Diagnostic.errors_ite_eq_nil_iff rfl).trans ?_
    simp only [List.any_eq_true, Document.isSome_find?_iff]
    rfl
  | maxLines limit =>
    unfold findings
    simp only
    split <;> exact iff_of_true rfl trivial
  | requireCodeBlock inSection =>
    refine Document.errors_find?_eq_nil_iff fun s => ?_
    rw [← ite_not, Diagnostic.errors_ite_eq_nil_iff rfl, List.isEmpty_iff]
  | requireCommand inSection =>
    exact Document.errors_find?_eq_nil_iff fun s =>
      (Diagnostic.errors_ite_eq_nil_iff rfl).trans Section.runs_iff
  | requireDecisionState =>
    refine Document.errors_find?_eq_nil_iff fun s => (Diagnostic.errors_ite_eq_nil_iff rfl).trans ?_
    simp only [List.any_eq_true, hasInfix_iff]
    rfl
  | validatePaths files =>
    show Diagnostic.errors (d.patterns.filterMap fun q => patternFinding? d files q.1 q.2) = [] ↔
      ∀ s, d.IsFirst pathsSection s → ∀ q ∈ s.patterns, IsGoodPattern q.2
    rw [← Document.forall_mem_patterns_iff (p := fun q => IsGoodPattern q.2), Diagnostic.errors,
      List.filter_eq_nil_iff]
    simp only [List.mem_filterMap, Bool.not_eq_true]
    constructor
    · exact fun h q hq => isGoodPattern_iff.mpr fun x hx => h x ⟨q, hq, hx⟩
    · rintro h x ⟨q, hq, hx⟩
      exact isGoodPattern_iff.mp (h q hq) x hx

/-- Members of a list that is empty without the condition. -/
theorem forall_mem_ite_nil_iff {α : Type} {c : Prop} [Decidable c] {l : List α} {p : α → Prop} :
    (∀ a ∈ if c then l else [], p a) ↔ (c → ∀ a ∈ l, p a) := by
  split
  · next hc => simp only [hc, forall_const]
  · next hc => exact iff_of_true (fun _ ha => nomatch ha) fun h => absurd h hc

/-- What the rules for a runbook ask together. -/
theorem forall_mem_forKind_runbook_iff {o : RuleOptions} :
    (∀ rule ∈ Rule.forKind o .runbook, rule.IsMet d) ↔ (o.kinds.runbooks = true →
      d.Has "When to Use".toList ∧ d.Has "Steps".toList ∧ d.Has "Rollback".toList) := by
  refine forall_mem_ite_nil_iff.trans (imp_congr_right fun _ => ?_)
  simp only [List.map_cons, List.map_nil, List.forall_mem_cons, List.not_mem_nil, false_imp_iff,
    implies_true, and_true, Rule.IsMet]

/-- What the rules for a decision record ask together. -/
theorem forall_mem_forKind_adr_iff {o : RuleOptions} :
    (∀ rule ∈ Rule.forKind o .adr, rule.IsMet d) ↔ (o.kinds.adrs = true →
      d.Has "Status".toList ∧ d.Has "Context".toList ∧ d.Has "Decision".toList ∧
        d.Has "Consequences".toList ∧ ∃ s, d.IsFirst "Status".toList s ∧ s.NamesState) := by
  refine forall_mem_ite_nil_iff.trans (imp_congr_right fun _ => ?_)
  simp only [List.map_cons, List.map_nil, List.cons_append, List.nil_append, List.forall_mem_cons,
    List.not_mem_nil, false_imp_iff, implies_true, and_true, Rule.IsMet,
    ← Document.has_and_forall_iff]
  constructor
  · rintro ⟨hstatus, hcontext, hdecision, hconsequences, hstate⟩
    exact ⟨hstatus, hcontext, hdecision, hconsequences, hstatus, hstate⟩
  · rintro ⟨hstatus, hcontext, hdecision, hconsequences, -, hstate⟩
    exact ⟨hstatus, hcontext, hdecision, hconsequences, hstate⟩

/-- What the rules for a component ask together. -/
theorem forall_mem_forKind_component_iff {o : RuleOptions} :
    (∀ rule ∈ Rule.forKind o .component, rule.IsMet d) ↔ (o.kinds.components = true →
      d.Has "Interface".toList ∨ d.Has "Configuration".toList) := by
  refine forall_mem_ite_nil_iff.trans (imp_congr_right fun _ => ?_)
  rw [List.forall_mem_singleton]
  show (∃ name ∈ ["Interface".toList, "Configuration".toList], d.Has name) ↔ _
  simp only [List.mem_cons, List.not_mem_nil, or_false, exists_eq_or_imp, exists_eq_left]

/-- What the rules for every document ask together. -/
theorem forall_mem_forAll_iff {o : RuleOptions} {files : List Text} :
    (∀ rule ∈ Rule.forAll o files, rule.IsMet d) ↔
      d.Has "Purpose".toList ∧
      (o.requireVerification = true → d.Has "Verification".toList ∧
        (o.requireVerificationCommands = true →
          ∃ s, d.IsFirst "Verification".toList s ∧ s.Runs)) ∧
      (o.requireExamples = true → ∃ s, d.IsFirst "Examples".toList s ∧ s.blocks ≠ []) ∧
      (o.validatePaths = true → ∀ s, d.IsFirst pathsSection s →
        ∀ q ∈ s.patterns, IsGoodPattern q.2) := by
  simp only [Rule.forAll, List.forall_mem_append, List.forall_mem_cons, forall_mem_ite_nil_iff,
    List.not_mem_nil, false_imp_iff, implies_true, and_true, Rule.IsMet, ← Document.has_and_forall_iff,
    and_assoc]
  refine and_congr_right fun _ => and_congr_left fun _ => imp_congr_right fun _ => ?_
  exact and_congr_right fun hverification => imp_congr_right fun _ => (and_iff_right hverification).symm

/-- **The requirements are what all rules ask together.** -/
theorem requirements_iff {o : RuleOptions} (files : List Text) {kind : DocumentKind} :
    (∀ rule ∈ Rule.set o files kind, rule.IsMet d) ↔ Requirements o kind d := by
  rw [Rule.set, List.forall_mem_append, forall_mem_forAll_iff]
  constructor
  · rintro ⟨⟨hpurpose, hverification, hexamples, hpatterns⟩, hkind⟩
    refine ⟨hpurpose, fun hv => (hverification hv).1, fun hv => (hverification hv).2, hexamples, hpatterns,
      ?_, ?_, ?_⟩
    · rintro rfl
      exact forall_mem_forKind_runbook_iff.mp hkind
    · rintro rfl
      exact forall_mem_forKind_adr_iff.mp hkind
    · rintro rfl
      exact forall_mem_forKind_component_iff.mp hkind
  · intro h
    refine ⟨⟨h.purpose, fun hv => ⟨h.verification hv, h.command hv⟩, h.examples, h.patterns⟩, ?_⟩
    cases kind with
    | runbook => exact forall_mem_forKind_runbook_iff.mpr (h.runbook rfl)
    | adr => exact forall_mem_forKind_adr_iff.mpr (h.adr rfl)
    | component => exact forall_mem_forKind_component_iff.mpr (h.component rfl)
    | other => exact fun _ hrule => nomatch hrule

/-- **There is no error when the requirements are met.** -/
theorem Document.errors_eq_nil_iff {o : RuleOptions} {files : List Text} {kind : DocumentKind} :
    Diagnostic.errors (d.findings (Rule.set o files kind)) = [] ↔ Requirements o kind d := by
  unfold Document.findings
  rw [Diagnostic.errors_flatMap_eq_nil_iff, ← requirements_iff files]
  exact forall_congr' fun rule => forall_congr' fun _ => rule.errors_findings_eq_nil_iff

end Errors

/-! ## Warnings -/

/-- The warning about too many lines. -/
def Document.limitWarning (d : Document) (limit : Int) : Diagnostic where
  file := d.path.text
  line := some d.lineCount
  severity := .warning
  rule := (Rule.maxLines limit).name
  message := "Document exceeds ".toList ++ ofInt limit ++ " line limit (".toList ++ ofNat d.lineCount ++
    " lines)".toList
  hint := some "Consider splitting into smaller, focused documents".toList

/-- The warning about a pattern in a line that covers no file. -/
def Document.lostWarning (d : Document) (q : Nat × Text) : Diagnostic where
  file := d.path.text
  line := some q.1
  severity := .warning
  rule := "validate-paths".toList
  message := "path pattern ".toList ++ Rule.inQuotes q.2 ++ " matches no files".toList
  hint := some "Update the pattern or remove it if the code was moved".toList

/-- The pattern is relative and well formed, and covers none of the files. -/
def IsLost (files : List Text) (pattern : Text) : Prop :=
  IsGoodPattern pattern ∧ ∀ file ∈ files, PathPattern.covers file pattern = false

instance (files : List Text) (pattern : Text) : Decidable (IsLost files pattern) :=
  inferInstanceAs (Decidable (_ ∧ ∀ file ∈ files, _))

section Warnings

variable {d : Document}

namespace Rule

/-- The warning about a pattern, when its only fault is that it covers no file. -/
theorem warning_patternFinding? (files : List Text) (q : Nat × Text) :
    (patternFinding? d (some files) q.1 q.2).filter (!·.isError) =
      if IsLost files q.2 then some (d.lostWarning q) else none := by
  unfold patternFinding?
  simp only
  cases habsolute : PathPattern.isAbsolute q.2 with
  | true =>
    have hnot : ¬ IsLost files q.2 := fun h => by simp [h.1.1] at habsolute
    rw [if_neg hnot]
    rfl
  | false =>
    cases hfault : PathPattern.fault? q.2 with
    | some fault =>
      have hnot : ¬ IsLost files q.2 := fun h => by simp [h.1.2] at hfault
      rw [if_neg hnot]
      rfl
    | none =>
      have hlost : IsLost files q.2 ↔ ¬ (files.any (PathPattern.covers · q.2)) = true := by
        unfold IsLost IsGoodPattern
        rw [habsolute, hfault, Bool.not_eq_true, List.any_eq_false]
        simp only [true_and, Bool.not_eq_true]
      rw [if_neg Bool.false_ne_true]
      simp only [hlost, ite_not]
      split <;> rfl

/-- Without files, nothing in a pattern is a warning. -/
theorem warning_patternFinding?_none (q : Nat × Text) :
    (patternFinding? d none q.1 q.2).filter (!·.isError) = none := by
  unfold patternFinding?
  simp only
  cases PathPattern.isAbsolute q.2 with
  | true => rfl
  | false => cases PathPattern.fault? q.2 <;> rfl

/-- Whatever the rule finds is an error. -/
def FindsErrors : Rule → Prop
  | .maxLines _ | .validatePaths _ => False
  | _ => True

theorem warnings_findings_eq_nil {rule : Rule} (h : rule.FindsErrors) :
    Diagnostic.warnings (rule.findings d) = [] := by
  cases rule with
  | maxLines limit => exact h.elim
  | validatePaths files => exact h.elim
  | _ =>
    unfold findings
    simp only
    repeat' split
    all_goals rfl

theorem findsErrors_of_mem_forKind {o : RuleOptions} {kind : DocumentKind} :
    ∀ rule ∈ forKind o kind, rule.FindsErrors := by
  cases kind with
  | runbook => exact forall_mem_ite_nil_iff.mpr fun _ => by simp [FindsErrors]
  | adr => exact forall_mem_ite_nil_iff.mpr fun _ => by simp [FindsErrors]
  | component => exact forall_mem_ite_nil_iff.mpr fun _ => by simp [FindsErrors]
  | other => exact fun _ h => nomatch h

/-- The rule for the number of lines gives a warning when there are too many. -/
theorem warnings_findings_maxLines (limit : Int) :
    Diagnostic.warnings ((maxLines limit).findings d) =
      if limit < d.lineCount then [d.limitWarning limit] else [] := by
  unfold findings
  simp only [← Int.not_lt]
  rw [ite_not]
  split <;> rfl

/-- The rule for patterns gives a warning for each one that is lost. -/
theorem warnings_findings_validatePaths (files : Option (List Text)) :
    Diagnostic.warnings ((validatePaths files).findings d) =
      match files with
      | none => []
      | some files => (d.patterns.filter fun q => IsLost files q.2).map d.lostWarning := by
  show Diagnostic.warnings (d.patterns.filterMap fun q => patternFinding? d files q.1 q.2) = _
  rw [Diagnostic.warnings, List.filter_filterMap]
  cases files with
  | none =>
    simp only [warning_patternFinding?_none]
    exact List.filterMap_eq_nil_iff.mpr fun _ _ => rfl
  | some files =>
    simp only [warning_patternFinding?]
    rw [← List.filterMap_eq_map, List.filterMap_filter]
    simp only [decide_eq_true_eq, Function.comp_apply]

end Rule

/-- **The warnings are about too many lines and about lost patterns.** -/
theorem Document.warnings_eq {o : RuleOptions} {files : List Text} {kind : DocumentKind} :
    Diagnostic.warnings (d.findings (Rule.set o files kind)) =
      (if o.maxLines < d.lineCount then [d.limitWarning o.maxLines] else []) ++
        if o.validatePaths && o.warnEmptyPaths then
          (d.patterns.filter fun q => IsLost files q.2).map d.lostWarning
        else [] := by
  have hnone : ∀ {rules : List Rule}, (∀ rule ∈ rules, rule.FindsErrors) →
      rules.flatMap (fun rule => Diagnostic.warnings (rule.findings d)) = [] := fun h =>
    List.flatMap_eq_nil_iff.mpr fun rule hrule => Rule.warnings_findings_eq_nil (h rule hrule)
  have hverification : ∀ rule ∈ (if o.requireVerification then
      Rule.requireSection "Verification".toList ::
        (if o.requireVerificationCommands then [.requireCommand "Verification".toList] else [])
      else []), rule.FindsErrors := by
    cases o.requireVerification <;> cases o.requireVerificationCommands <;> simp [Rule.FindsErrors]
  have hexamples : ∀ rule ∈ (if o.requireExamples then
      [Rule.requireSection "Examples".toList, .requireCodeBlock "Examples".toList] else []),
      rule.FindsErrors := by
    cases o.requireExamples <;> simp [Rule.FindsErrors]
  unfold findings
  rw [Diagnostic.warnings, List.filter_flatMap]
  show (Rule.set o files kind).flatMap (fun rule => Diagnostic.warnings (rule.findings d)) = _
  rw [Rule.set, Rule.forAll, List.flatMap_append, List.flatMap_append, List.flatMap_append,
    List.flatMap_append, List.flatMap_append, hnone Rule.findsErrors_of_mem_forKind, hnone hverification,
    hnone hexamples, hnone (by simp [Rule.FindsErrors]), List.append_nil, List.nil_append, List.nil_append,
    List.nil_append, List.flatMap_singleton, Rule.warnings_findings_maxLines]
  congr 1
  cases o.validatePaths with
  | false => rfl
  | true =>
    rw [if_pos rfl, List.flatMap_singleton, Rule.warnings_findings_validatePaths]
    cases o.warnEmptyPaths <;> rfl

end Warnings

/-! ## Hints and order -/

/-- The finding has a hint with something in it. -/
def Diagnostic.HasHint (x : Diagnostic) : Prop := ∃ hint, x.hint = some hint ∧ hint ≠ []

/-- Both findings name a line, and that of the first is smaller. -/
def Diagnostic.IsAbove (x y : Diagnostic) : Prop := ∃ m n, x.line = some m ∧ y.line = some n ∧ m < n

/-- The patterns of lines are given in the order of the lines. -/
theorem pairwise_bulletPatterns (fence : Option Fence) (n : Nat) (ls : List Text) :
    (∀ q ∈ bulletPatterns fence n ls, n ≤ q.1) ∧
      (bulletPatterns fence n ls).Pairwise fun p q => p.1 < q.1 := by
  induction ls generalizing fence n with
  | nil => exact ⟨fun _ h => (nomatch h), List.Pairwise.nil⟩
  | cons line rest ih =>
    obtain ⟨hle, hpairwise⟩ := ih (Fence.step fence line).1 (n + 1)
    rw [bulletPatterns]
    simp only
    split
    · refine ⟨fun q hq => ?_, List.Pairwise.cons (fun q hq => hle q hq) hpairwise⟩
      rcases List.mem_cons.mp hq with rfl | hq
      · exact Nat.le_refl n
      · exact Nat.le_of_succ_le (hle q hq)
    · exact ⟨fun q hq => Nat.le_of_succ_le (hle q hq), hpairwise⟩

theorem Document.pairwise_patterns (d : Document) : d.patterns.Pairwise fun p q => p.1 < q.1 := by
  unfold Document.patterns
  split
  · exact List.Pairwise.nil
  · exact (pairwise_bulletPatterns _ _ _).2

namespace Rule

variable {d : Document}

theorem toList_ne_nil {s : String} (h : s ≠ "") : s.toList ≠ [] := mt String.toList_eq_nil_iff.mp h

/-- A finding about a pattern has a hint and names the line of the pattern. -/
theorem line_of_patternFinding? {files : Option (List Text)} {line : Nat} {pattern : Text}
    {x : Diagnostic} (h : patternFinding? d files line pattern = some x) :
    x.line = some line ∧ x.HasHint := by
  unfold patternFinding? at h
  simp only at h
  repeat' split at h
  all_goals try cases h
  all_goals exact ⟨rfl, _, rfl, toList_ne_nil (by decide)⟩

theorem sectionHint_ne_nil (name : Text) : sectionHint name ≠ [] := by
  unfold sectionHint
  repeat' split
  all_goals
    first
    | exact toList_ne_nil (by decide)
    | exact List.append_ne_nil_of_right_ne_nil _ (toList_ne_nil (by decide))

/-- **Every finding has a hint.** -/
theorem hasHint_of_mem_findings {rule : Rule} {x : Diagnostic} (h : x ∈ rule.findings d) : x.HasHint := by
  cases rule with
  | requireSection name =>
    unfold findings at h
    simp only at h
    split at h
    · cases h
    · rw [List.mem_singleton.mp h]
      exact ⟨_, rfl, sectionHint_ne_nil name⟩
  | validatePaths files =>
    obtain ⟨q, -, hx⟩ := List.mem_filterMap.mp h
    exact (line_of_patternFinding? hx).2
  | _ =>
    unfold findings at h
    simp only at h
    repeat' split at h
    all_goals simp only [List.not_mem_nil, List.mem_singleton] at h
    all_goals
      rw [h]
      refine ⟨_, rfl, ?_⟩
    all_goals
      first
      | exact toList_ne_nil (by decide)
      | exact List.append_ne_nil_of_left_ne_nil (toList_ne_nil (by decide)) _
      | exact List.append_ne_nil_of_right_ne_nil _ (toList_ne_nil (by decide))

/-- **What one rule finds stands in the order of lines.** -/
theorem pairwise_findings (rule : Rule) : (rule.findings d).Pairwise Diagnostic.IsAbove := by
  cases rule with
  | validatePaths files =>
    refine (d.pairwise_patterns.filterMap _ fun p q hpq x hx y hy => ?_)
    exact ⟨p.1, q.1, (line_of_patternFinding? hx).1, (line_of_patternFinding? hy).1, hpq⟩
  | _ =>
    unfold findings
    simp only
    repeat' split
    all_goals first | exact List.Pairwise.nil | exact List.pairwise_singleton _ _

theorem ite_sublist {α : Type} (c : Prop) [Decidable c] {l l' : List α} (h : l.Sublist l') :
    (if c then l else []).Sublist l' := by
  split
  · exact h
  · exact List.nil_sublist l'

/-- The rules that can come before the one for lines. -/
def beforeLimit : List Rule :=
  [.requireSection "Purpose".toList, .requireSection "Verification".toList,
    .requireCommand "Verification".toList, .requireSection "Examples".toList,
    .requireCodeBlock "Examples".toList]

/-- The rules that can come behind the one for lines, the files of the project left out. -/
def behindLimit (kind : DocumentKind) : List Rule :=
  .validatePaths none :: forKind { kinds := { runbooks := true, adrs := true, components := true } } kind

theorem forKind_sublist (o : RuleOptions) (kind : DocumentKind) :
    (forKind o kind).Sublist
      (forKind { kinds := { runbooks := true, adrs := true, components := true } } kind) := by
  cases kind with
  | other => exact List.Sublist.refl _
  | _ => exact ite_sublist _ (List.Sublist.refl _)

/-- Options leave rules out, but they bring no others. -/
theorem map_name_set_sublist (o : RuleOptions) (files : List Text) (kind : DocumentKind) :
    ((set o files kind).map name).Sublist
      (beforeLimit.map name ++ name (.maxLines o.maxLines) :: (behindLimit kind).map name) := by
  have hverification : (if o.requireVerification then
      requireSection "Verification".toList ::
        (if o.requireVerificationCommands then [requireCommand "Verification".toList] else [])
      else []).Sublist [requireSection "Verification".toList, requireCommand "Verification".toList] :=
    ite_sublist _ ((ite_sublist _ (List.Sublist.refl [_])).cons_cons _)
  have hexamples : (if o.requireExamples then
      [requireSection "Examples".toList, requireCodeBlock "Examples".toList] else []).Sublist
        [requireSection "Examples".toList, requireCodeBlock "Examples".toList] :=
    ite_sublist _ (List.Sublist.refl _)
  have hpatterns : ((if o.validatePaths then
      [validatePaths (if o.warnEmptyPaths then some files else none)] else []).map name).Sublist
        [name (.validatePaths none)] := by
    cases o.validatePaths
    · exact List.nil_sublist _
    · exact List.Sublist.refl _
  unfold set forAll
  simp only [List.map_append, List.append_assoc]
  exact (List.Sublist.refl [name (requireSection "Purpose".toList)]).append
    ((hverification.map name).append ((hexamples.map name).append
      ((List.Sublist.refl [name (maxLines o.maxLines)]).append
        (hpatterns.append ((forKind_sublist o kind).map name)))))

/-- **The rules for a kind of documents have different names.** -/
theorem nodup_names (o : RuleOptions) (files : List Text) (kind : DocumentKind) :
    ((set o files kind).map name).Nodup := by
  have hbeside : (beforeLimit.map name ++ (behindLimit kind).map name).Nodup ∧
      ∀ other ∈ beforeLimit.map name ++ (behindLimit kind).map name,
        ¬ "max-lines-".toList <+: other := by
    cases kind <;> decide +kernel
  refine (List.perm_middle.nodup_iff.mpr ?_).sublist (map_name_set_sublist o files kind)
  exact List.nodup_cons.mpr ⟨fun hmem => hbeside.2 _ hmem (List.prefix_append _ _), hbeside.1⟩

end Rule

/-- One finding comes before another: its rule comes before that of the other, or the rule is the same and
its line is smaller. -/
def Diagnostic.Precedes (names : List Text) (x y : Diagnostic) : Prop :=
  names.idxOf x.rule < names.idxOf y.rule ∨ x.rule = y.rule ∧ x.IsAbove y

/-- **The findings come in the order of rules and lines.** -/
theorem Document.pairwise_findings (d : Document) : ∀ {rules : List Rule}, (rules.map Rule.name).Nodup →
    (d.findings rules).Pairwise (Diagnostic.Precedes (rules.map Rule.name))
  | [], _ => List.Pairwise.nil
  | rule :: rules, h => by
    obtain ⟨hnew, hnodup⟩ := List.nodup_cons.mp h
    have hrule : ∀ {x}, x ∈ rule.findings d → x.rule = rule.name := fun hx =>
      (Rule.of_mem_findings hx).2
    -- behind the first rule, the place of a name is one more
    have hrest : ∀ {x}, x ∈ d.findings rules → ((rule :: rules).map Rule.name).idxOf x.rule =
        (rules.map Rule.name).idxOf x.rule + 1 := by
      intro x hx
      obtain ⟨other, hother, hx⟩ := List.mem_flatMap.mp hx
      have hne : rule.name ≠ x.rule := fun heq => hnew <| by
        rw [heq, (Rule.of_mem_findings hx).2]
        exact List.mem_map_of_mem hother
      rw [List.map_cons, List.idxOf_cons, beq_false_of_ne hne, cond_false]
    show (rule.findings d ++ d.findings rules).Pairwise _
    refine List.pairwise_append.mpr ⟨?_, ?_, ?_⟩
    · exact rule.pairwise_findings.imp_of_mem fun hx hy habove =>
        Or.inr ⟨(hrule hx).trans (hrule hy).symm, habove⟩
    · refine (pairwise_findings d hnodup).imp_of_mem fun hx hy hbefore => ?_
      unfold Diagnostic.Precedes
      rw [hrest hx, hrest hy]
      exact hbefore.imp_left Nat.succ_lt_succ
    · intro x hx y hy
      refine Or.inl ?_
      rw [hrest hy, hrule hx, List.map_cons, List.idxOf_cons_self]
      exact Nat.succ_pos _

/--
**What is found in a document, for a project and a kind.**

There is no error when the requirements are met. There is one warning about the number of lines when there
are more than allowed, and one for each pattern that is lost when the options ask for that. Every finding
has a hint and comes from a rule in force, and the findings come in the order of rules and lines.
-/
theorem Project.findings_requirements (p : Project) (kind : DocumentKind) (d : Document) :
    let o := p.config.rules
    let rules := Rule.set o p.files kind
    (Diagnostic.errors (d.findings rules) = [] ↔ Requirements o kind d) ∧
      Diagnostic.warnings (d.findings rules) =
        (if o.maxLines < d.lineCount then [d.limitWarning o.maxLines] else []) ++
          (if o.validatePaths && o.warnEmptyPaths then
            (d.patterns.filter fun q => IsLost p.files q.2).map d.lostWarning
          else []) ∧
      (∀ x ∈ d.findings rules, x.HasHint ∧ x.rule ∈ rules.map Rule.name) ∧
      (rules.map Rule.name).Nodup ∧
      (d.findings rules).Pairwise (Diagnostic.Precedes (rules.map Rule.name)) := by
  intro o rules
  have hnodup := Rule.nodup_names o p.files kind
  refine ⟨Document.errors_eq_nil_iff, Document.warnings_eq, fun x hx => ?_, hnodup,
    d.pairwise_findings hnodup⟩
  obtain ⟨rule, hrule, hx⟩ := List.mem_flatMap.mp hx
  refine ⟨Rule.hasHint_of_mem_findings hx, ?_⟩
  rw [(Rule.of_mem_findings hx).2]
  exact List.mem_map_of_mem hrule

end DocAudit
