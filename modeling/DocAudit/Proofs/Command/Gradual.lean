import DocAudit.Proofs.Command.Verdicts
import DocAudit.Proofs.Validation.Findings
import Mathlib

/-!
# Gradual mode

The same documents are checked with gradual mode and without it. The rules find the same things in each of
them; only how these are reported differs.

## Contents

* `Finding.softened`: an error as gradual mode reports it
* `Project.withGradual`: a project with other settings for gradual mode
* `Project.checkedDocs`, `Project.foundInAll`, `Project.reportOn`: what is checked, what is found there, and
  the report on it
* `Project.runCheck_eq_map`: **a check reports what is found in the documents that are checked**
* `Project.IsFoundIn`, `Project.foundInAll_eq_ok_iff`: what the rules find in each document, in their order
* `Project.Softens`, `Project.softens_reportOn`: what gradual mode makes of a report
* `Project.runCheck_withGradual`: **gradual mode turns the errors into warnings and changes nothing else**
-/

namespace DocAudit

open Text

/-- An error as gradual mode reports it. -/
def Finding.softened (f : Finding) : Finding :=
  { f with severity := Severity.warning.name, converted := true }

namespace Diagnostic

/-- What was an error becomes a converted warning, and a warning stays as it is. -/
theorem soften_eq (d : Diagnostic) :
    d.soften = if d.isError then { d with severity := .warning, converted := true } else d := rfl

theorem isError_soften (d : Diagnostic) : d.soften.isError = false := by
  rw [soften_eq]
  split
  · rfl
  · next h => exact Bool.eq_false_iff.mpr h

/-- Softened findings are warnings. -/
theorem warnings_map_soften (ds : List Diagnostic) : warnings (ds.map soften) = ds.map soften := by
  refine List.filter_eq_self.mpr fun d hd => ?_
  obtain ⟨d, -, rfl⟩ := List.mem_map.mp hd
  rw [isError_soften]
  rfl

/-- Of findings that were not converted, the errors are those that gradual mode converts. -/
theorem converted_soften {d : Diagnostic} (h : d.converted = false) : d.soften.converted = d.isError := by
  rw [soften_eq]
  split
  · next herror => rw [herror]
  · next herror => rw [h, Bool.eq_false_iff.mpr herror]

end Diagnostic

namespace Project

variable {p : Project}

/-- A softened error is reported as the error is, but for its severity and the mark. -/
theorem finding_soften (p : Project) (d : Diagnostic) :
    p.finding d.soften = if d.isError then (p.finding d).softened else p.finding d := by
  rw [Diagnostic.soften_eq]
  split
  · rfl
  · rfl

/-- Softened findings are selected by what is known of them before. -/
theorem filter_finding_soften {q : Finding → Bool} {r : Diagnostic → Bool} {ds : List Diagnostic}
    (h : ∀ d ∈ ds, q (p.finding d.soften) = r d) :
    ((ds.map Diagnostic.soften).map p.finding).filter q =
      (ds.filter r).map fun d => p.finding d.soften := by
  rw [List.map_map, List.filter_map]
  exact congrArg (List.map _) (List.filter_congr h)

/-- The converted ones among softened findings are the errors, in their order. -/
theorem filter_converted {ds : List Diagnostic} (h : ∀ d ∈ ds, d.converted = false) :
    ((ds.map Diagnostic.soften).map p.finding).filter (·.converted) =
      ((Diagnostic.errors ds).map p.finding).map Finding.softened := by
  rw [filter_finding_soften fun d hd => Diagnostic.converted_soften (h d hd), List.map_map]
  refine List.map_congr_left fun d hd => ?_
  rw [finding_soften, if_pos (List.mem_filter.mp hd).2]
  rfl

/-- The other ones are the warnings, in their order. -/
theorem filter_not_converted {ds : List Diagnostic} (h : ∀ d ∈ ds, d.converted = false) :
    ((ds.map Diagnostic.soften).map p.finding).filter (!·.converted) =
      (Diagnostic.warnings ds).map p.finding := by
  rw [filter_finding_soften fun d hd => congrArg not (Diagnostic.converted_soften (h d hd))]
  refine List.map_congr_left fun d hd => ?_
  rw [finding_soften, if_neg (by simpa using (List.mem_filter.mp hd).2)]

/-! ## The report on what is found -/

/-- The documents that are checked: the ones at the paths, or those among them that changed. -/
def checkedDocs (p : Project) (git : Git) (o : CheckOptions) : Outcome (List Path) := do
  let docs ← p.discover o.paths
  if o.changed then p.changedAmong git o.base docs else return docs

/-- The documents that are checked, and what the rules find wrong with each of them. -/
def foundInAll (p : Project) (git : Git) (o : CheckOptions) :
    Outcome (List Path × List (List Diagnostic)) := do
  let docs ← p.checkedDocs git o
  let found ← docs.mapM fun path => return (← p.check path).2
  return (docs, found)

/-- The report on what is found in documents. -/
def reportOn (p : Project) (gradual : Bool) (docs : List Path) (found : List (List Diagnostic)) :
    CheckReport :=
  let shown := if gradual then found.map (·.map Diagnostic.soften) else found
  { filesChecked := docs.length
    errors := (shown.flatMap Diagnostic.errors).map p.finding
    warnings := (shown.flatMap Diagnostic.warnings).map p.finding
    wouldFail := if gradual then (found.flatMap Diagnostic.errors).length else 0
    gradual }

/-- The report on what is found in documents, and the exit code. -/
def resultOn (p : Project) (gradual strict : Bool) (c : List Path × List (List Diagnostic)) :
    CheckReport × Nat :=
  let report := p.reportOn gradual c.1 c.2
  (report, if !report.errors.isEmpty || (strict && !report.warnings.isEmpty) then 1 else 0)

/-- **A check reports what is found in the documents that are checked.** -/
theorem runCheck_eq_map (git : Git) (today : Date) (o : CheckOptions) :
    p.runCheck git today o = (p.foundInAll git o).map
      (p.resultOn (gradualActive p.config.rules o.strict o.gradual today) o.strict) := by
  have hlast : ∀ (docs : List Path) (x : Outcome (List (List Diagnostic)))
      (result : List Path × List (List Diagnostic) → CheckReport × Nat),
      (x >>= fun found => .ok (result (docs, found))) =
        (x >>= fun found => .ok (docs, found)).map result := by
    intro docs x result
    cases x <;> rfl
  unfold runCheck foundInAll checkedDocs
  cases p.discover o.paths with
  | error failure => rfl
  | ok docs =>
    cases o.changed with
    | false => exact hlast docs _ (p.resultOn _ _)
    | true =>
      show Except.bind (p.changedAmong git o.base docs) _ =
        Except.map _ (Except.bind (p.changedAmong git o.base docs) _)
      cases p.changedAmong git o.base docs with
      | error failure => rfl
      | ok docs => exact hlast docs _ (p.resultOn _ _)

/-- What the rules find in a document, rule after rule. -/
def IsFoundIn (p : Project) (path : Path) (found : List Diagnostic) : Prop :=
  ∃ d kind, p.read path = .ok d ∧ found = (Rule.set p.config.rules p.files kind).flatMap (·.findings d)

theorem IsFoundIn.converted {path : Path} {found : List Diagnostic} (h : p.IsFoundIn path found) :
    ∀ d ∈ found, d.converted = false := by
  obtain ⟨document, kind, -, rfl⟩ := h
  exact fun d hd => Rule.converted_of_mem_findings hd

/-- What the rules find in a document that can be checked. -/
def IsCheckedAs (p : Project) (path : Path) (found : List Diagnostic) : Prop :=
  ∃ kind, p.check path = .ok (kind, found)

theorem IsCheckedAs.isFoundIn {path : Path} {ds : List Diagnostic} (h : p.IsCheckedAs path ds) :
    p.IsFoundIn path ds := by
  obtain ⟨kind, h⟩ := h
  obtain ⟨d, hread, -, -, -, hfound⟩ := check_eq_ok_iff.mp h
  exact ⟨d, kind, hread, hfound⟩

/-- The documents that are checked, with what is found in each of them. -/
theorem foundInAll_eq_ok_iff {git : Git} {o : CheckOptions} {docs : List Path}
    {found : List (List Diagnostic)} : p.foundInAll git o = .ok (docs, found) ↔
      p.checkedDocs git o = .ok docs ∧ List.Forall₂ p.IsCheckedAs docs found := by
  have hcheck : ∀ path ds, (do return (← p.check path).2 : Outcome (List Diagnostic)) = .ok ds ↔
      p.IsCheckedAs path ds := by
    intro path ds
    rw [Outcome.bind_eq_ok_iff]
    constructor
    · rintro ⟨⟨kind, ds'⟩, hc, h⟩
      cases h
      exact ⟨kind, hc⟩
    · rintro ⟨kind, hc⟩
      exact ⟨(kind, ds), hc, rfl⟩
  have hall : ∀ docs found, (docs.mapM fun path => (do return (← p.check path).2 : Outcome (List Diagnostic))) =
      .ok found ↔ List.Forall₂ p.IsCheckedAs docs found := by
    intro docs found
    rw [Outcome.mapM_eq_ok_iff]
    simp only [hcheck]
  unfold foundInAll
  simp only [Outcome.bind_eq_ok_iff, hall]
  constructor
  · rintro ⟨docs', hdocs, found', hfound, h⟩
    cases h
    exact ⟨hdocs, hfound⟩
  · rintro ⟨hdocs, hfound⟩
    exact ⟨docs, hdocs, found, hfound, rfl⟩

/-- Every document that is checked comes with what the rules find in it. -/
theorem forall₂_of_foundInAll {git : Git} {o : CheckOptions} {docs : List Path}
    {found : List (List Diagnostic)} (h : p.foundInAll git o = .ok (docs, found)) :
    List.Forall₂ p.IsFoundIn docs found :=
  (foundInAll_eq_ok_iff.mp h).2.imp fun _ _ => IsCheckedAs.isFoundIn

theorem exists_isFoundIn {docs : List Path} {found : List (List Diagnostic)}
    (h : List.Forall₂ p.IsFoundIn docs found) {ds : List Diagnostic} (hds : ds ∈ found) :
    ∃ path, p.IsFoundIn path ds := by
  induction h with
  | nil => cases hds
  | @cons path ds' _ _ hfound _ ih =>
    rcases List.mem_cons.mp hds with rfl | hds
    · exact ⟨path, hfound⟩
    · exact ih hds

/-! ## What gradual mode makes of a report -/

/-- The project with other settings for gradual mode. -/
def withGradual (p : Project) (gradual : Bool) (gradualUntil : Option Text) : Project :=
  { p with config := { p.config with rules := { p.config.rules with gradual, gradualUntil } } }

/-- The report of a check and what gradual mode makes of it: the errors become warnings, at the places where
the rules found them. -/
structure Softens (p : Project) (plain soft : CheckReport) : Prop where
  filesChecked : soft.filesChecked = plain.filesChecked
  errors : soft.errors = []
  wouldFail : soft.wouldFail = plain.errors.length
  /-- The converted warnings are the errors. -/
  converted : soft.warnings.filter (·.converted) = plain.errors.map Finding.softened
  /-- The other warnings are the warnings. -/
  others : soft.warnings.filter (!·.converted) = plain.warnings
  /-- In each document they stand in the order in which the rules found them. -/
  inOrder : ∃ docs found, plain.filesChecked = docs.length ∧ List.Forall₂ p.IsFoundIn docs found ∧
    plain.errors = found.flatMap (fun ds => (Diagnostic.errors ds).map p.finding) ∧
    plain.warnings = found.flatMap (fun ds => (Diagnostic.warnings ds).map p.finding) ∧
    soft.warnings = found.flatMap fun ds =>
      ds.map fun d => if d.isError then (p.finding d).softened else p.finding d

/-- **Two reports on the same findings, one of them in gradual mode.** -/
theorem softens_reportOn {docs : List Path} {found : List (List Diagnostic)}
    (h : List.Forall₂ p.IsFoundIn docs found) :
    p.Softens (p.reportOn false docs found) (p.reportOn true docs found) := by
  have hfresh : ∀ d ∈ found.flatten, d.converted = false := by
    intro d hd
    obtain ⟨ds, hds, hd⟩ := List.mem_flatten.mp hd
    obtain ⟨path, hfound⟩ := exists_isFoundIn h hds
    exact hfound.converted d hd
  have herrors : (p.reportOn false docs found).errors =
      (Diagnostic.errors found.flatten).map p.finding := by
    unfold Diagnostic.errors
    rw [List.filter_flatten]
    rfl
  have hwarnings : (p.reportOn false docs found).warnings =
      (Diagnostic.warnings found.flatten).map p.finding := by
    unfold Diagnostic.warnings
    rw [List.filter_flatten]
    rfl
  have hsoft : (p.reportOn true docs found).warnings =
      (found.flatten.map Diagnostic.soften).map p.finding := by
    rw [← Diagnostic.warnings_map_soften]
    unfold Diagnostic.warnings
    rw [List.map_flatten, List.filter_flatten]
    rfl
  refine ⟨rfl, ?_, ?_, ?_, ?_, docs, found, rfl, h, ?_, ?_, ?_⟩
  · show ((found.map (·.map Diagnostic.soften)).flatMap Diagnostic.errors).map p.finding = []
    rw [List.map_eq_nil_iff, List.flatMap_map, List.flatMap_eq_nil_iff]
    exact fun ds _ => Diagnostic.errors_map_soften ds
  · show ((found.flatMap Diagnostic.errors).length : Int) =
      ((found.flatMap Diagnostic.errors).map p.finding).length
    rw [List.length_map]
  · rw [hsoft, herrors, filter_converted hfresh]
  · rw [hsoft, hwarnings, filter_not_converted hfresh]
  · exact List.map_flatMap ..
  · exact List.map_flatMap ..
  · rw [hsoft, List.map_map, List.map_flatten]
    refine congrArg List.flatten (List.map_congr_left fun ds _ => List.map_congr_left fun d _ => ?_)
    exact p.finding_soften d

/-! ## The same check with gradual mode and without it -/

/--
**Gradual mode turns errors into warnings and changes nothing else.**

In strict mode the settings for gradual mode, the flag and the day make no difference. Outside of it, a check
in gradual mode fails when the check without it fails, for the same reason. When they give reports, the one
in gradual mode has no errors and the exit code 0, and says the same about every document.
-/
theorem runCheck_withGradual (p : Project) (git : Git) (o : CheckOptions) (setting flag : Bool)
    (gradualUntil : Option Text) (today today' : Date) :
    let p' := p.withGradual setting gradualUntil
    let o' := { o with gradual := flag }
    (o.strict = true → p'.runCheck git today' o' = p.runCheck git today o) ∧
    (o.strict = false → gradualActive p.config.rules false o.gradual today = false →
      gradualActive p'.config.rules false flag today' = true →
      (∀ failure, p'.runCheck git today' o' = .error failure ↔
        p.runCheck git today o = .error failure) ∧
      ∀ plain code soft code', p.runCheck git today o = .ok (plain, code) →
        p'.runCheck git today' o' = .ok (soft, code') → code' = 0 ∧ p.Softens plain soft) := by
  intro p' o'
  -- the rules do not look at the settings for gradual mode
  have hrun : p'.runCheck git today' o' = (p.foundInAll git o).map
      (p.resultOn (gradualActive p'.config.rules o.strict flag today') o.strict) :=
    runCheck_eq_map git today' o'
  rw [hrun, runCheck_eq_map]
  constructor
  · intro hstrict
    rw [hstrict]
    rfl
  · intro hstrict hplain hsoft
    rw [hstrict, hplain, hsoft]
    cases hfound : p.foundInAll git o with
    | error failure =>
      refine ⟨fun _ => Iff.rfl, ?_⟩
      rintro plain code soft code' hplain -
      cases hplain
    | ok c =>
      refine ⟨fun failure => ?_, ?_⟩
      · constructor
        · intro h
          cases h
        · intro h
          cases h
      · rintro plain code soft code' hplain hsoft
        cases hplain
        cases hsoft
        have hsoftens := softens_reportOn (forall₂_of_foundInAll hfound)
        refine ⟨?_, hsoftens⟩
        show (if !(p.reportOn true c.1 c.2).errors.isEmpty || _ then 1 else 0) = 0
        rw [hsoftens.errors]
        rfl

/-- A project with a runbook that does not tell its purpose, has too many lines and says nothing of what a
runbook is for: the rule in the middle finds a warning, the others find errors. -/
def hasty : Project :=
  inRoot [("a.md".toList, "# A\n## Purpose\n".toList),
      ("runbook.md".toList, "# B\n\n## Notes\n\nLong.\n".toList)]
    { maxLines := 4, requireVerification := false, requireExamples := false, kinds := { runbooks := true } }

/-- The four errors become warnings, and strict mode does not look at the flag. -/
theorem runCheck_withGradual_hasty :
    let today : Date := { year := 2026, month := 1, day := 1, valid := by decide }
    let git : Git := fun _ => .error []
    (gradualActive hasty.config.rules false false today = false ∧
      gradualActive (hasty.withGradual false none).config.rules false true today = true ∧
      ∃ plain code soft code',
        hasty.runCheck git today {} = .ok (plain, code) ∧
        (hasty.withGradual false none).runCheck git today { gradual := true } = .ok (soft, code') ∧
        plain.errors.length = 4 ∧ plain.warnings.length = 1 ∧
        code' = 0 ∧ hasty.Softens plain soft) ∧
    (hasty.withGradual true none).runCheck git today { strict := true, gradual := true } =
      hasty.runCheck git today { strict := true } := by
  intro today git
  let docs := ["/docs/a.md".toList, "/docs/runbook.md".toList].map Path.ofText
  have hdocs : hasty.checkedDocs git {} = .ok docs := by
    have hdiscover : hasty.discover [] = .ok docs := by cbv
    unfold checkedDocs
    rw [hdiscover]
    rfl
  have hcounts : (docs.mapM fun path => (return (← hasty.check path).2 : Outcome _)).toOption.map
      (fun found => ((found.flatMap Diagnostic.errors).length, (found.flatMap Diagnostic.warnings).length)) =
        some (4, 1) := by decide +kernel
  cases hfound : docs.mapM fun path => (return (← hasty.check path).2 : Outcome (List Diagnostic)) with
  | error failure =>
    rw [hfound] at hcounts
    cases hcounts
  | ok found =>
    have hall : hasty.foundInAll git {} = .ok (docs, found) := by
      unfold foundInAll
      rw [hdocs]
      exact congrArg (· >>= fun found => .ok (docs, found)) hfound
    have hplain : hasty.runCheck git today {} = .ok (hasty.resultOn false false (docs, found)) := by
      rw [runCheck_eq_map, hall]
      rfl
    have hsoft : (hasty.withGradual false none).runCheck git today { gradual := true } =
        .ok (hasty.resultOn true false (docs, found)) := by
      rw [runCheck_eq_map]
      exact congrArg (Except.map (hasty.resultOn true false)) hall
    obtain ⟨hcode, hsoftens⟩ :=
      ((runCheck_withGradual hasty git {} false true none today today).2 rfl rfl rfl).2 _ _ _ _ hplain hsoft
    rw [hfound] at hcounts
    have hcounts := Option.some.inj hcounts
    refine ⟨⟨rfl, rfl, _, _, _, _, hplain, hsoft, ?_, ?_, hcode, hsoftens⟩, ?_⟩
    · exact (List.length_map _).trans (congrArg Prod.fst hcounts)
    · exact (List.length_map _).trans (congrArg Prod.snd hcounts)
    · exact (runCheck_withGradual hasty git { strict := true } true true none today today).1 rfl

end Project

end DocAudit
