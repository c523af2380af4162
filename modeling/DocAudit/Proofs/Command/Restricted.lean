import DocAudit.Proofs.Command.Gradual
import Mathlib

/-!
# Checks of the documents that changed

A check may go through all documents or through those among them that changed. The documents are picked by the
texts that are shown of their paths, and these texts are what the findings name, so the second check reports a
part of what the first one does.

## Contents

* `exists_filter_forall₂`: results for some members of a list
* `Project.findingsIn`, `Project.reportOn_errors`, `Project.reportOn_warnings`: a report, document by document
* `Project.IsPart`, `Project.isPart_reportOn`: the part of a report that is about some files
* `Project.runCheck_changed`: **a check of the documents that changed reports that part**
-/

namespace DocAudit

open Text

/-- Results for the members that are kept: what comes from these results is what comes from all of them and
belongs to a member that is kept. -/
theorem exists_filter_forall₂ {α β γ : Type} {R : α → β → Prop} {as : List α} {bs : List β}
    (h : List.Forall₂ R as bs) (keep : α → Bool) :
    ∃ bs', List.Forall₂ R (as.filter keep) bs' ∧
      ∀ (out : β → List γ) (keepOut : γ → Bool),
        (∀ a ∈ as, ∀ b, R a b → ∀ c ∈ out b, keepOut c = keep a) →
          bs'.flatMap out = (bs.flatMap out).filter keepOut := by
  induction h with
  | nil => exact ⟨[], .nil, fun _ _ _ => rfl⟩
  | @cons a b as bs hab _ ih =>
    obtain ⟨bs', hbs', hout⟩ := ih
    cases hkeep : keep a with
    | true =>
      refine ⟨b :: bs', ?_, fun out keepOut hsame => ?_⟩
      · rw [List.filter_cons_of_pos hkeep]
        exact .cons hab hbs'
      · have hall : (out b).filter keepOut = out b := List.filter_eq_self.mpr fun c hc =>
          (hsame a List.mem_cons_self b hab c hc).trans hkeep
        rw [List.flatMap_cons, List.flatMap_cons, List.filter_append, hall,
          hout out keepOut fun a ha => hsame a (List.mem_cons_of_mem _ ha)]
    | false =>
      refine ⟨bs', ?_, fun out keepOut hsame => ?_⟩
      · rw [List.filter_cons_of_neg (by rw [hkeep]; exact Bool.false_ne_true)]
        exact hbs'
      · have hnone : (out b).filter keepOut = [] := List.filter_eq_nil_iff.mpr fun c hc => by
          rw [hsame a List.mem_cons_self b hab c hc, hkeep]
          exact Bool.false_ne_true
        rw [List.flatMap_cons, List.filter_append, hnone, List.nil_append,
          hout out keepOut fun a ha => hsame a (List.mem_cons_of_mem _ ha)]

namespace Project

variable {p : Project} {gradual : Bool} {docs : List Path} {found : List (List Diagnostic)}

/-! ## Reports, document by document -/

/-- What is found in a document, as the mode has it. -/
def inMode (gradual : Bool) (ds : List Diagnostic) : List Diagnostic :=
  if gradual then ds.map Diagnostic.soften else ds

theorem reportOn_errors (p : Project) (gradual : Bool) (docs : List Path) (found : List (List Diagnostic)) :
    (p.reportOn gradual docs found).errors =
      found.flatMap fun ds => (Diagnostic.errors (inMode gradual ds)).map p.finding := by
  cases gradual with
  | false => exact List.map_flatMap ..
  | true =>
    show ((found.map (·.map Diagnostic.soften)).flatMap Diagnostic.errors).map p.finding = _
    rw [List.flatMap_map, List.map_flatMap]
    rfl

theorem reportOn_warnings (p : Project) (gradual : Bool) (docs : List Path) (found : List (List Diagnostic)) :
    (p.reportOn gradual docs found).warnings =
      found.flatMap fun ds => (Diagnostic.warnings (inMode gradual ds)).map p.finding := by
  cases gradual with
  | false => exact List.map_flatMap ..
  | true =>
    show ((found.map (·.map Diagnostic.soften)).flatMap Diagnostic.warnings).map p.finding = _
    rw [List.flatMap_map, List.map_flatMap]
    rfl

/-- Where a finding is does not depend on the mode. -/
theorem file_of_mem_inMode (hnamed : p.tree.IsNamed) {path : Path} (hpath : path.IsResolved)
    {ds : List Diagnostic} (h : p.IsCheckedAs path ds) {d : Diagnostic} (hd : d ∈ inMode gradual ds) :
    (p.finding d).file = p.config.shown path := by
  obtain ⟨kind, h⟩ := h
  have hfile : ∀ d ∈ ds, (p.finding d).file = p.config.shown path := fun d hd =>
    file_finding_of_check hnamed hpath h hd
  cases gradual with
  | false => exact hfile d hd
  | true =>
    obtain ⟨d, hmem, rfl⟩ := List.mem_map.mp hd
    rw [finding_soften]
    split
    · exact hfile d hmem
    · exact hfile d hmem

/-! ## The part of a report -/

/-- The documents that are shown as one of the files. -/
def isShownIn (p : Project) (files : List Text) (path : Path) : Bool := files.contains (p.config.shown path)

/-- The part of the report on some documents that is about the files: the errors and warnings that name one of
them, in their order, and the number of the documents that are shown as one of them. -/
structure IsPart (p : Project) (files : List Text) (docs : List Path) (full part : CheckReport) : Prop where
  errors : part.errors = full.errors.filter (files.contains ·.file)
  warnings : part.warnings = full.warnings.filter (files.contains ·.file)
  filesChecked : part.filesChecked = docs.countP (p.isShownIn files)
  gradual : part.gradual = full.gradual
  /-- In gradual mode these are the converted ones among the warnings that are left. -/
  wouldFail : part.wouldFail =
    if part.gradual then (part.warnings.countP (·.converted) : Int) else 0

/-- **A report on the documents that are shown as one of the files is that part.** -/
theorem isPart_reportOn (hnamed : p.tree.IsNamed) (hdocs : ∀ path ∈ docs, path.IsResolved)
    (h : List.Forall₂ p.IsCheckedAs docs found) (gradual : Bool) (files : List Text) :
    ∃ found', List.Forall₂ p.IsCheckedAs (docs.filter (p.isShownIn files)) found' ∧
      p.IsPart files docs (p.reportOn gradual docs found)
        (p.reportOn gradual (docs.filter (p.isShownIn files)) found') := by
  obtain ⟨found', hfound', hout⟩ := exists_filter_forall₂ (γ := Finding) h (p.isShownIn files)
  -- every finding in a document names it by the text that the document is picked by
  have hnames : ∀ select : List Diagnostic → List Diagnostic, (∀ ds, select ds ⊆ ds) →
      ∀ path ∈ docs, ∀ ds, p.IsCheckedAs path ds →
        ∀ f ∈ (select (inMode gradual ds)).map p.finding, files.contains f.file = p.isShownIn files path := by
    intro select hselect path hpath ds hds f hf
    obtain ⟨d, hd, rfl⟩ := List.mem_map.mp hf
    rw [file_of_mem_inMode hnamed (hdocs path hpath) hds (hselect _ hd)]
    rfl
  refine ⟨found', hfound', ?_, ?_, ?_, rfl, ?_⟩
  · rw [reportOn_errors, reportOn_errors]
    exact hout _ _ (hnames Diagnostic.errors fun ds => List.filter_subset_self ..)
  · rw [reportOn_warnings, reportOn_warnings]
    exact hout _ _ (hnames Diagnostic.warnings fun ds => List.filter_subset_self ..)
  · exact congrArg Int.ofNat List.countP_eq_length_filter.symm
  · cases gradual with
    | false => rfl
    | true =>
      have hsoftens := softens_reportOn (hfound'.imp fun _ _ => IsCheckedAs.isFoundIn)
      have hcount : (p.reportOn true (docs.filter (p.isShownIn files)) found').warnings.countP (·.converted) =
          (p.reportOn false (docs.filter (p.isShownIn files)) found').errors.length := by
        rw [List.countP_eq_length_filter, hsoftens.converted, List.length_map]
      rw [hsoftens.wouldFail, ← hcount]
      rfl

/-! ## The two checks -/

/-- The files that changed since the base, as git tells them. -/
def changedSince (git : Git) (base : Option Text) : Outcome (List Text) :=
  ask do Inquiry.changedFiles git (← Inquiry.baseRef git base)

theorem checkedDocs_all (git : Git) (o : CheckOptions) :
    p.checkedDocs git { o with changed := false } = p.discover o.paths := by
  unfold checkedDocs
  cases p.discover o.paths with
  | error failure => rfl
  | ok docs => rfl

theorem checkedDocs_changed {git : Git} {o : CheckOptions} {files : List Text}
    (hdocs : p.discover o.paths = .ok docs) (hfiles : changedSince git o.base = .ok files) :
    p.checkedDocs git { o with changed := true } = .ok (docs.filter (p.isShownIn files)) := by
  have hamong : p.changedAmong git o.base docs = .ok (docs.filter (p.isShownIn files)) :=
    Outcome.bind_eq_ok_iff.mpr ⟨files, hfiles, rfl⟩
  exact Outcome.bind_eq_ok_iff.mpr ⟨docs, hdocs, hamong⟩

/-- A check comes to an end with the report on what is found. -/
theorem runCheck_eq_ok_iff {git : Git} {today : Date} {o : CheckOptions} {r : CheckReport × Nat} :
    p.runCheck git today o = .ok r ↔ ∃ docs found, p.checkedDocs git o = .ok docs ∧
      List.Forall₂ p.IsCheckedAs docs found ∧
      p.resultOn (gradualActive p.config.rules o.strict o.gradual today) o.strict (docs, found) = r := by
  rw [runCheck_eq_map, Outcome.map_eq_ok_iff]
  constructor
  · rintro ⟨⟨docs, found⟩, hfound, hresult⟩
    obtain ⟨hdocs, hchecked⟩ := foundInAll_eq_ok_iff.mp hfound
    exact ⟨docs, found, hdocs, hchecked, hresult⟩
  · rintro ⟨docs, found, hdocs, hchecked, hresult⟩
    exact ⟨(docs, found), foundInAll_eq_ok_iff.mpr ⟨hdocs, hchecked⟩, hresult⟩

/-- A part of a report has errors or warnings only if the report has. -/
theorem IsPart.failed {files : List Text} {full part : CheckReport} (h : p.IsPart files docs full part)
    {strict : Bool} (hfailed : (!part.errors.isEmpty || (strict && !part.warnings.isEmpty)) = true) :
    (!full.errors.isEmpty || (strict && !full.warnings.isEmpty)) = true := by
  have hsome : ∀ {fs : List Finding} {q : Finding → Bool}, (!(fs.filter q).isEmpty) = true →
      (!fs.isEmpty) = true := by
    intro fs q hq
    cases fs with
    | nil => exact hq
    | cons f fs => rfl
  rw [h.errors, h.warnings, Bool.or_eq_true, Bool.and_eq_true] at hfailed
  rw [Bool.or_eq_true, Bool.and_eq_true]
  rcases hfailed with herrors | ⟨hstrict, hwarnings⟩
  · exact Or.inl (hsome herrors)
  · exact Or.inr ⟨hstrict, hsome hwarnings⟩

/--
**A check of the documents that changed reports the part of the whole check that is about the changed files.**

When the check of all documents comes to an end and git tells which files changed, the check of the documents
that changed comes to an end too. It fails only if the check of all documents does.
-/
theorem runCheck_changed (hnamed : p.tree.IsNamed) {git : Git} {today : Date} {o : CheckOptions}
    {full : CheckReport} {code : Nat} {files : List Text}
    (hfull : p.runCheck git today { o with changed := false } = .ok (full, code))
    (hfiles : changedSince git o.base = .ok files) :
    ∃ docs part code', p.discover o.paths = .ok docs ∧
      p.runCheck git today { o with changed := true } = .ok (part, code') ∧
      p.IsPart files docs full part ∧ (code' ≠ 0 → code ≠ 0) := by
  obtain ⟨docs, found, hdocs, hchecked, hresult⟩ := runCheck_eq_ok_iff.mp hfull
  rw [checkedDocs_all] at hdocs
  obtain ⟨found', hfound', hpart⟩ := isPart_reportOn hnamed (isResolved_of_discover hdocs) hchecked
    (gradualActive p.config.rules o.strict o.gradual today) files
  have hrun : p.runCheck git today { o with changed := true } =
      .ok (p.resultOn (gradualActive p.config.rules o.strict o.gradual today) o.strict
        (docs.filter (p.isShownIn files), found')) :=
    runCheck_eq_ok_iff.mpr ⟨_, _, checkedDocs_changed hdocs hfiles, hfound', rfl⟩
  cases hresult
  refine ⟨docs, _, _, hdocs, hrun, hpart, fun hcode => ?_⟩
  have hfailed := hpart.failed (by_contra fun hpassed => hcode (if_neg hpassed))
  show (if _ then 1 else 0) ≠ 0
  rw [if_pos hfailed]
  exact Nat.one_ne_zero

/-- A project with two documents that do not tell their purpose. -/
def aimless : Project :=
  inRoot [("a.md".toList, "# A\n".toList), ("b.md".toList, "# B\n".toList)]
    { requireVerification := false, requireExamples := false }

/-- One of the documents and a file that is none changed. -/
def aimlessGit : Git := fun _ => .ok { stdout := "docs/b.md\nsrc/b.py\n".toList }

/-- The check of both documents reports both, and the other one the second of them. -/
theorem runCheck_changed_aimless :
    let today : Date := { year := 2026, month := 1, day := 1, valid := by decide }
    let files := ["docs/b.md".toList, "src/b.py".toList]
    aimless.tree.IsNamed ∧ changedSince aimlessGit none = .ok files ∧
      ∃ full code docs part code', aimless.runCheck aimlessGit today {} = .ok (full, code) ∧
        full.errors.map (·.file) = ["docs/a.md".toList, "docs/b.md".toList] ∧
        aimless.discover [] = .ok docs ∧
        aimless.runCheck aimlessGit today { changed := true } = .ok (part, code') ∧
        aimless.IsPart files docs full part ∧ (code' ≠ 0 → code ≠ 0) := by
  intro today files
  let docs := ["/docs/a.md".toList, "/docs/b.md".toList].map Path.ofText
  have hnamed : aimless.tree.IsNamed := by decide +kernel
  have hchanged : changedSince aimlessGit none = .ok files := by decide +kernel
  have hdiscover : aimless.discover [] = .ok docs := by cbv
  have hnames : (docs.mapM fun path => (return (← aimless.check path).2 : Outcome _)).toOption.map
      (fun found => (aimless.reportOn false docs found).errors.map (·.file)) =
        some ["docs/a.md".toList, "docs/b.md".toList] := by decide +kernel
  cases hfound : docs.mapM fun path => (return (← aimless.check path).2 : Outcome (List Diagnostic)) with
  | error failure =>
    rw [hfound] at hnames
    cases hnames
  | ok found =>
    have hall : aimless.foundInAll aimlessGit { changed := false } = .ok (docs, found) := by
      unfold foundInAll
      rw [checkedDocs_all (o := {}), hdiscover]
      exact congrArg (· >>= fun found => .ok (docs, found)) hfound
    have hfull : aimless.runCheck aimlessGit today { changed := false } =
        .ok (aimless.resultOn false false (docs, found)) := by
      rw [runCheck_eq_map, hall]
      rfl
    rw [hfound] at hnames
    obtain ⟨docs', part, code', hdocs, hpart⟩ := runCheck_changed (o := {}) hnamed hfull hchanged
    exact ⟨hnamed, hchanged, _, _, docs', part, code', hfull, Option.some.inj hnames, hdocs, hpart⟩

end Project

end DocAudit
