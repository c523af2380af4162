import Mathlib.Data.List.Nodup
import DocAudit.Proofs.Lint.Rerun
import DocAudit.Proofs.Lint.Fading

/-!
# One linter for all checks

The checks of a text can share one linter that they change one after the other: it holds the issues so far, the
anchors of the files that were read, and what was mended. What a check finds does not depend on what the linter
holds when it starts, so that every check could as well have a linter for itself.

## Contents

* `Linter`, `Linter.check`, `Linter.run`: the checks as they change what they share
* `Linter.Answers`, `Linter.Reports`: what a step answers or reports, whatever is remembered
* `Linter.performs_check`: **a check adds its own findings to what the linter holds**
* `Linter.run_eq`: **the checks with one linter find what they find in the text**
* `LintRule.Alone.isStableSort`, `LintRule.Alone.filter_issues`: the issues of the checks by themselves
* `Linter.run_alone`: **all checks together, and each of them by itself**
-/

namespace DocAudit

open Text

/-- What the checks of a text share. -/
structure Linter where
  /-- The issues so far, the last one last. -/
  issues : List Issue := []
  /-- The anchors of the files that were read. -/
  known : List (Path × List Text) := []
  fixedCount : Nat := 0
  fixedText : Option Text := none

namespace Linter

/-! ## The checks -/

/-- An answer that does not depend on the linter. -/
def ask {α : Type} (x : Outcome α) : Work Linter α := ExceptT.mk (pure x)

/-- Adds an issue behind the others. -/
def report (r : LintRule) (n : Nat) (message : Text) : Work Linter Unit :=
  modify fun l => { l with issues := l.issues ++ [{ line := n, rule := r, message }] }

/-- Reports what is wrong with a thing in a line, when something is. -/
def reportFault {α : Type} (r : LintRule) (fault? : α → Work Linter (Option Text)) (n : Nat) (part : α) :
    Work Linter Unit := do
  match ← fault? part with
  | some message => report r n message
  | none => pure ()

/-- The same for the things that `parts` finds in each line. -/
def reportFaults {α : Type} (r : LintRule) (parts : Text → List α) (fault? : α → Work Linter (Option Text))
    (p : Prose) : Work Linter Unit :=
  forM p.numbered fun (n, line) => forM (parts line) fun part => reportFault r fault? n part

/-- The anchors that a file defines. They are read once, and remembered when the file is a text. -/
def anchorsOf? (s : LintScope) (path : Path) : Work Linter (Option (List Text)) := do
  match (← get).known.lookup path with
  | some anchors => return some anchors
  | none =>
    match Lint.anchorsOfFile? s path with
    | none => return none
    | some anchors =>
      modify fun l => { l with known := (path, anchors) :: l.known }
      return some anchors

/-- What is wrong with the anchor of a link, when something is. `own` are the anchors of the text itself. -/
def anchorFault? (s : LintScope) (own : List Text) (link : Lint.Link) : Work Linter (Option Text) := do
  let target := strip link.target
  if Lint.hasScheme target then return none
  else match cut '#' target with
    | none => return none
    | some (file, anchor) =>
      if anchor.isEmpty then return none
      else if file.isEmpty then
        if own.contains (Lint.normalizeAnchor anchor) then return none
        else return some ("dead anchor '#".toList ++ anchor ++ "' (section not found)".toList)
      else if !(← ask (s.tree.isFile? s.cwd (Lint.resolve s file))) then return none
      else match ← anchorsOf? s (Lint.resolve s file) with
        | none => return none
        | some known =>
          if known.contains (Lint.normalizeAnchor anchor) then return none
          else return some ("dead anchor '".toList ++ file ++ '#' :: anchor ++
            "' (section not found in target file)".toList)

/-- Reports what was found. -/
def reportAll (r : LintRule) (found : List (Nat × Text)) : Work Linter Unit :=
  forM found fun (n, message) => report r n message

/-- A line with its terminator. -/
def glue : Text × Text → Text
  | (line, ending) => line ++ ending

/-- Takes the spaces and tabs from the end of the line with the number `n`, in front of its terminator. -/
def trimLine (whole : List Text) (n : Nat) (line : Text) : List Text :=
  whole.modify (n - 1) fun text => dropEnd Lint.isSpaceOrTab line ++ text.drop line.length

/-- A visible line: it is mended or reported when it ends in a space or a tab. -/
def checkLineEnd (fix : Bool) (whole : List Text) (n : Nat) (line : Text) : Work Linter (List Text) := do
  if !Lint.hasTrailingSpace line then return whole
  else if fix then
    modify fun l => { l with fixedCount := l.fixedCount + 1 }
    return trimLine whole n line
  else
    report .trailingWhitespace n "trailing whitespace".toList
    return whole

/-- When something was mended, the lines are put together again. -/
def putTogether (whole : List Text) (l : Linter) : Linter :=
  if l.fixedCount = 0 then l else { l with fixedText := some whole.flatten }

/-- Goes through the visible lines, and mends or reports them. -/
def checkLineEnds (fix : Bool) (text : Text) : Work Linter Unit := do
  let whole ← (Prose.ofLines (lines text)).numbered.foldlM (fun whole (n, line) => checkLineEnd fix whole n line)
    ((terminated text).map glue)
  modify (putTogether whole)

/-- A check. -/
def check (fix : Bool) (s : LintScope) (text : Text) (r : LintRule) : Work Linter Unit :=
  let p := Prose.ofLines (lines text)
  match r with
  | .brokenInternalLinks => reportFaults r Lint.links (fun link => ask (Lint.linkFault? s link)) p
  | .deadAnchors => reportFaults r Lint.links (anchorFault? s (Lint.anchors p)) p
  | .staleCodeRefs => reportFaults r Lint.codeRefs (fun ref => ask (Lint.refFault? s ref)) p
  | .inconsistentHeadings => reportAll r (Lint.inconsistentHeadings p)
  | .missingAltText => reportAll r (Lint.missingAltText p)
  | .longParagraphs => reportAll r (Lint.longParagraphs s.maxParagraphWords p)
  | .duplicateHeadings => reportAll r (Lint.duplicateHeadings p)
  | .trailingWhitespace => checkLineEnds fix text

/-- The checks of a text, one after the other. In the end the issues are sorted by their lines. -/
def run (rules : List LintRule) (fix : Bool) (s : LintScope) (text : Text) : Outcome LintOutcome :=
  match (forM rules (check fix s text)).run.run {} with
  | (.error failure, _) => .error failure
  | (.ok (), l) => .ok
      { issues := l.issues.mergeSort fun a b => a.line ≤ b.line, fixedCount := l.fixedCount
        fixedText := l.fixedText }

/-! ## What a step answers -/

/-- The remembered anchors are those of their files. -/
def Remembers (s : LintScope) (known : List (Path × List Text)) : Prop :=
  ∀ path anchors, known.lookup path = some anchors → Lint.anchorsOfFile? s path = some anchors

theorem Remembers.cons {s : LintScope} {known : List (Path × List Text)} (h : Remembers s known) {path : Path}
    {anchors : List Text} (hread : Lint.anchorsOfFile? s path = some anchors) :
    Remembers s ((path, anchors) :: known) := by
  intro path' anchors' hlookup
  rw [List.lookup_cons] at hlookup
  split at hlookup
  · next heq =>
    cases hlookup
    rw [eq_of_beq heq, hread]
  · exact h path' anchors' hlookup

section Steps

variable {α β : Type} {s : LintScope} {x : Work Linter α} {f : α → Work Linter β}

/-- What a step answers and which issues it adds, whatever is remembered. The rest of the linter stays, but more
may be known behind the step. -/
def Finds (s : LintScope) (x : Work Linter α) : Outcome (α × List Issue) → Prop
  | .ok (a, issues) => ∀ l : Linter, Remembers s l.known → ∃ known, Remembers s known ∧
      x.run.run l = (.ok a, { l with issues := l.issues ++ issues, known })
  | .error failure => ∀ l : Linter, Remembers s l.known → ∃ l', x.run.run l = (.error failure, l')

/-- A step after one that comes to an end. -/
theorem Finds.bind_ok {a : α} {issues : List Issue} {y : Outcome (β × List Issue)}
    (hx : Finds s x (.ok (a, issues))) (hf : Finds s (f a) y) :
    Finds s (x >>= f) (y.map fun (b, more) => (b, issues ++ more)) := by
  cases y with
  | error failure =>
    intro l hknown
    obtain ⟨known, hknown', hrun⟩ := hx l hknown
    obtain ⟨l', hrun'⟩ := hf { l with issues := l.issues ++ issues, known } hknown'
    exact ⟨l', (Work.run_bind_ok hrun).trans hrun'⟩
  | ok result =>
    obtain ⟨b, more⟩ := result
    intro l hknown
    obtain ⟨known, hknown', hrun⟩ := hx l hknown
    obtain ⟨known', hknown'', hrun'⟩ := hf { l with issues := l.issues ++ issues, known } hknown'
    refine ⟨known', hknown'', (Work.run_bind_ok hrun).trans (hrun'.trans ?_)⟩
    rw [List.append_assoc]

/-- Nothing comes after a step that fails. -/
theorem Finds.bind_error {failure : Failure} (hx : Finds s x (.error failure)) :
    Finds s (x >>= f) (.error failure) := by
  intro l hknown
  obtain ⟨l', hrun⟩ := hx l hknown
  exact ⟨l', Work.run_bind_error hrun⟩

/-! ## Answers -/

/-- The step only answers. -/
def Answers (s : LintScope) (x : Work Linter α) (y : Outcome α) : Prop := Finds s x (y.map fun a => (a, []))

theorem answers_ask (y : Outcome α) : Answers s (ask y) y := by
  cases y with
  | error failure => exact fun l _ => ⟨l, rfl⟩
  | ok a =>
    intro l hknown
    refine ⟨l.known, hknown, ?_⟩
    rw [List.append_nil]
    rfl

theorem answers_pure (a : α) : Answers s (pure a) (pure a) := answers_ask (.ok a)

/-- A step after an answer. -/
theorem Answers.bind_ok {a : α} {y : Outcome (β × List Issue)} (hx : Answers s x (.ok a)) (hf : Finds s (f a) y) :
    Finds s (x >>= f) y := by
  have h := Finds.bind_ok hx hf
  simp only [List.nil_append] at h
  cases y <;> exact h

/-- One answer after the other. -/
theorem Answers.bind {y : Outcome α} {g : α → Outcome β} (hx : Answers s x y)
    (hf : ∀ a, Answers s (f a) (g a)) : Answers s (x >>= f) (y >>= g) := by
  cases y with
  | error failure => exact Finds.bind_error hx
  | ok a => exact hx.bind_ok (hf a)

theorem Answers.ite {c : Prop} [Decidable c] {x' : Work Linter α} {y y' : Outcome α} (h : Answers s x y)
    (h' : Answers s x' y') : Answers s (if c then x else x') (if c then y else y') := by
  by_cases hc : c
  · simpa only [if_pos hc] using h
  · simpa only [if_neg hc] using h'

/-- **What is remembered of a file is what would be read.** -/
theorem answers_anchorsOf? (path : Path) : Answers s (anchorsOf? s path) (.ok (Lint.anchorsOfFile? s path)) := by
  intro l hknown
  simp only [List.append_nil, anchorsOf?, Work.run_bind_ok Work.run_get]
  -- only the last of the three ways adds to what is remembered, and it adds what was read
  cases hlookup : l.known.lookup path with
  | some anchors =>
    rw [hknown path anchors hlookup]
    exact ⟨l.known, hknown, rfl⟩
  | none =>
    cases hread : Lint.anchorsOfFile? s path with
    | none => exact ⟨l.known, hknown, rfl⟩
    | some anchors => exact ⟨(path, anchors) :: l.known, hknown.cons hread, rfl⟩

/-- What is wrong with an anchor does not depend on what is remembered. -/
theorem answers_anchorFault? (own : List Text) (link : Lint.Link) :
    Answers s (anchorFault? s own link) (Lint.anchorFault? s own link) := by
  simp only [anchorFault?, Lint.anchorFault?]
  refine .ite (answers_pure none) ?_
  cases cut '#' (strip link.target) with
  | none => exact answers_pure none
  | some parts =>
    obtain ⟨file, anchor⟩ := parts
    refine .ite (answers_pure none) (.ite (.ite (answers_pure _) (answers_pure _)) ?_)
    refine (answers_ask _).bind fun there => .ite (answers_pure none) ?_
    refine (answers_anchorsOf? (Lint.resolve s file)).bind_ok ?_
    cases Lint.anchorsOfFile? s (Lint.resolve s file) with
    | none => exact answers_pure none
    | some known => exact Answers.ite (answers_pure _) (answers_pure _)

end Steps

/-! ## Reports -/

section Reports

variable {α : Type} {s : LintScope} {x x' : Work Linter Unit} {y : Outcome (List Issue)}

/-- The step only reports. -/
def Reports (s : LintScope) (x : Work Linter Unit) (y : Outcome (List Issue)) : Prop :=
  Finds s x (y.map fun issues => ((), issues))

/-- What was found, as issues. -/
def issuesOf (r : LintRule) (found : List (Nat × Text)) : List Issue :=
  found.map fun (line, message) => { line, rule := r, message }

theorem reports_nothing : Reports s (pure ()) (.ok []) := answers_pure ()

theorem reports_report (r : LintRule) (n : Nat) (message : Text) :
    Reports s (report r n message) (.ok [{ line := n, rule := r, message }]) :=
  fun l hknown => ⟨l.known, hknown, rfl⟩

/-- A report after another one. -/
theorem Reports.bind_ok {issues : List Issue} (hx : Reports s x (.ok issues)) (hx' : Reports s x' y) :
    Reports s (x >>= fun _ => x') (y.map fun more => issues ++ more) := by
  have h := Finds.bind_ok (f := fun _ => x') hx hx'
  cases y <;> exact h

/-- A report that depends on an answer. -/
theorem Answers.bind_report {x : Work Linter α} {y : Outcome α} {f : α → Work Linter Unit} {g : α → List Issue}
    (hx : Answers s x y) (hf : ∀ a, Reports s (f a) (.ok (g a))) : Reports s (x >>= f) (y.map g) := by
  cases y with
  | error failure => exact Finds.bind_error hx
  | ok a => exact Answers.bind_ok hx (hf a)

/-- What steps on the members of a list report together. -/
theorem reports_forM {f : α → Work Linter Unit} {g : α → Outcome (List Issue)} (h : ∀ a, Reports s (f a) (g a))
    (as : List α) : Reports s (forM as f) ((as.mapM g).map List.flatten) := by
  induction as with
  | nil => exact reports_nothing
  | cons a as ih =>
    rw [List.forM_cons]
    have ha := h a
    cases hga : g a with
    | error failure =>
      rw [hga] at ha
      rw [Outcome.mapM_eq_error hga]
      exact Finds.bind_error ha
    | ok issues =>
      rw [hga] at ha
      have hall := ha.bind_ok ih
      rw [Outcome.map_map] at hall
      rw [Outcome.map_mapM_cons hga]
      exact hall

theorem reports_reportAll (r : LintRule) (found : List (Nat × Text)) :
    Reports s (reportAll r found) (.ok (issuesOf r found)) := by
  have h := reports_forM (s := s) (fun found => reports_report r found.1 found.2) found
  rw [Outcome.mapM_eq_ok_map fun _ _ => rfl] at h
  have hissues : (found.map fun found => [{ line := found.1, rule := r, message := found.2 : Issue }]).flatten =
      issuesOf r found := List.map_eq_flatMap.symm
  rw [← hissues]
  exact h

theorem reports_reportFault (r : LintRule) {fault? : α → Work Linter (Option Text)}
    {pureFault? : α → Outcome (Option Text)} (h : ∀ part, Answers s (fault? part) (pureFault? part)) (n : Nat)
    (part : α) : Reports s (reportFault r fault? n part)
      (((pureFault? part).map fun found => found.map fun message => (n, message)).map fun found =>
        issuesOf r found.toList) := by
  rw [Outcome.map_map]
  refine (h part).bind_report fun found => ?_
  cases found with
  | none => exact reports_nothing
  | some message => exact reports_report r n message

/-- What is picked for each member, or for all of them. -/
theorem mapM_issuesOf (r : LintRule) (pick : α → Outcome (Option (Nat × Text))) (as : List α) :
    (as.mapM fun a => (pick a).map fun found => issuesOf r found.toList).map List.flatten =
      (as.filterMapM pick).map (issuesOf r) := by
  induction as with
  | nil => rfl
  | cons a as ih =>
    rw [List.mapM_cons, List.filterMapM_cons]
    cases pick a with
    | error failure => rfl
    | ok found =>
      have hfirst : ∀ y : Outcome (List (List Issue)),
          (y >>= fun rest => pure (issuesOf r found.toList :: rest)).map List.flatten =
            (y.map List.flatten).map (issuesOf r found.toList ++ ·) := fun y => by cases y <;> rfl
      refine (hfirst _).trans ?_
      rw [ih]
      cases as.filterMapM pick with
      | error failure => cases found <;> rfl
      | ok rest => cases found <;> rfl

/-- The things in all lines, one after the other. -/
theorem reportFaults_eq_forM (r : LintRule) (parts : Text → List α) (fault? : α → Work Linter (Option Text))
    (p : Prose) : reportFaults r parts fault? p =
      forM (p.numbered.flatMap fun line => (parts line.2).map fun part => (line.1, part)) fun part =>
        reportFault r fault? part.1 part.2 := by
  unfold reportFaults
  induction p.numbered with
  | nil => rfl
  | cons a as ih => rw [List.forM_cons, List.flatMap_cons, List.forM_append, List.forM_map, ih]

/-- **Reporting line by line and thing by thing reports all that is wrong.** -/
theorem reports_reportFaults (r : LintRule) {parts : Text → List α} {fault? : α → Work Linter (Option Text)}
    {pureFault? : α → Outcome (Option Text)} (h : ∀ part, Answers s (fault? part) (pureFault? part)) (p : Prose) :
    Reports s (reportFaults r parts fault? p) ((Lint.faultsOf parts pureFault? p).map (issuesOf r)) := by
  rw [reportFaults_eq_forM, Lint.faultsOf, ← mapM_issuesOf]
  exact reports_forM (fun part : Nat × α => reports_reportFault r h part.1 part.2) _

/-- **A check reports what it finds in the text**, unless it looks at the ends of lines. -/
theorem reports_check (fix : Bool) (text : Text) {r : LintRule} (hr : r ≠ .trailingWhitespace) :
    Reports s (check fix s text r) (r.issues s (Prose.ofLines (lines text))) := by
  cases r with
  | brokenInternalLinks => exact reports_reportFaults _ (fun link => answers_ask _) _
  | deadAnchors => exact reports_reportFaults _ (answers_anchorFault? _) _
  | staleCodeRefs => exact reports_reportFaults _ (fun ref => answers_ask _) _
  | inconsistentHeadings => exact reports_reportAll _ _
  | missingAltText => exact reports_reportAll _ _
  | longParagraphs => exact reports_reportAll _ _
  | duplicateHeadings => exact reports_reportAll _ _
  | trailingWhitespace => exact absurd rfl hr

end Reports

/-! ## Line ends -/

section LineEnds

/-- What becomes of the lines at a visible one when line ends are mended. -/
def mendLine (whole : List Text) : Nat × Text → List Text
  | (n, line) => if Lint.hasTrailingSpace line then trimLine whole n line else whole

theorem run_checkLineEnd_of_not_loose {fix : Bool} {whole : List Text} {n : Nat} {line : Text} {l : Linter}
    (h : Lint.hasTrailingSpace line = false) : (checkLineEnd fix whole n line).run.run l = (.ok whole, l) := by
  simp only [checkLineEnd, h]
  rfl

/-- What is counted, and what becomes of the lines. -/
theorem run_mend (ns : List (Nat × Text)) (whole : List Text) (l : Linter) :
    (ns.foldlM (fun whole (n, line) => checkLineEnd true whole n line) whole).run.run l =
      (.ok (ns.foldl mendLine whole),
        { l with fixedCount := l.fixedCount + ns.countP fun (_, line) => Lint.hasTrailingSpace line }) := by
  induction ns generalizing whole l with
  | nil => rfl
  | cons first rest ih =>
    obtain ⟨n, line⟩ := first
    rw [List.foldlM_cons, List.foldl_cons, List.countP_cons]
    cases hloose : Lint.hasTrailingSpace line with
    | true =>
      have hrun : (checkLineEnd true whole n line).run.run l =
          (.ok (trimLine whole n line), { l with fixedCount := l.fixedCount + 1 }) := by
        simp only [checkLineEnd, hloose]
        rfl
      rw [Work.run_bind_ok hrun, ih]
      simp only [mendLine, hloose, if_true, Nat.add_assoc, Nat.add_comm 1]
    | false =>
      rw [Work.run_bind_ok (run_checkLineEnd_of_not_loose hloose), ih]
      simp only [mendLine, hloose, Bool.false_eq_true, if_false, Nat.add_zero]

/-- What is reported instead. -/
theorem run_report (ns : List (Nat × Text)) (whole : List Text) (l : Linter) :
    (ns.foldlM (fun whole (n, line) => checkLineEnd false whole n line) whole).run.run l =
      (.ok whole, { l with
        issues := l.issues ++ issuesOf .trailingWhitespace
          ((ns.filter fun (_, line) => Lint.hasTrailingSpace line).map fun (n, _) =>
            (n, "trailing whitespace".toList)) }) := by
  induction ns generalizing l with
  | nil =>
    simp [issuesOf]
    rfl
  | cons first rest ih =>
    obtain ⟨n, line⟩ := first
    rw [List.foldlM_cons]
    cases hloose : Lint.hasTrailingSpace line with
    | true =>
      have hrun : (checkLineEnd false whole n line).run.run l = (.ok whole, { l with issues := l.issues ++
          [{ line := n, rule := .trailingWhitespace, message := "trailing whitespace".toList }] }) := by
        simp only [checkLineEnd, hloose]
        rfl
      rw [Work.run_bind_ok hrun, ih, List.append_assoc]
      simp only [List.filter_cons, hloose, if_true]
      rfl
    | false =>
      rw [Work.run_bind_ok (run_checkLineEnd_of_not_loose hloose), ih]
      simp only [List.filter_cons, hloose, Bool.false_eq_true, if_false]

/-- The line behind those that were mended. -/
theorem mendLine_append (front back : List Text) (line ending : Text) :
    mendLine (front ++ glue (line, ending) :: back) (front.length + 1, line) =
      front ++ glue (fixLine false line, ending) :: back := by
  simp only [mendLine]
  split
  · unfold trimLine
    rw [Nat.add_sub_cancel, List.modify_eq_take_cons_drop (by simp)]
    simp [glue, fixLine]
  · next hloose =>
    have hline : fixLine false line = line :=
      dropEnd_eq_self_iff.mpr fun c hc => by simpa [Lint.hasTrailingSpace, hc] using hloose
    rw [hline]

/-- **Mending the lines one after the other mends the text.** -/
theorem foldl_mendLine : ∀ {mask : List Bool} {ls : List (Text × Text)}, mask.length = ls.length →
    ∀ front : List Text, (Prose.numberedFrom (front.length + 1) (Prose.under mask (ls.map (·.1)))).foldl mendLine
      (front ++ ls.map glue) = front ++ (mendLines mask ls).map glue
  | [], [], _, front => rfl
  | masked :: mask, (line, ending) :: ls, h, front => by
    -- `front` are the lines behind which the pass stands, so the next one has the number behind theirs
    have ih := foldl_mendLine (Nat.succ.inj h) (front ++ [glue (fixLine masked line, ending)])
    rw [List.length_append, List.length_singleton, List.append_assoc, List.append_assoc] at ih
    cases masked with
    | true => exact ih
    | false =>
      show List.foldl mendLine
        (mendLine (front ++ glue (line, ending) :: ls.map glue) (front.length + 1, line)) _ = _
      rw [mendLine_append]
      exact ih

theorem flatten_foldl_mendLine (text : Text) :
    ((Prose.ofLines (lines text)).numbered.foldl mendLine ((terminated text).map glue)).flatten =
      fixTrailing text := by
  have hfold := foldl_mendLine (length_proseMask_lines text) []
  exact congrArg List.flatten hfold

end LineEnds

/-! ## Runs -/

section Runs

variable {fix : Bool} {s : LintScope} {text : Text} {x x' : Work Linter Unit}

/-- What the linter holds is so. -/
structure Sound (fix : Bool) (s : LintScope) (text : Text) (l : Linter) : Prop where
  remembers : Remembers s l.known
  fixedText : l.fixedText = if l.fixedCount = 0 then none else some (fixTrailing text)
  fixedCount : fix = false → l.fixedCount = 0

theorem sound_new : Sound fix s text {} := ⟨fun _ _ h => (by cases h), rfl, fun _ => rfl⟩

/-- Which issues a step adds to the linter, and how many lines it mends. -/
def Performs (fix : Bool) (s : LintScope) (text : Text) (x : Work Linter Unit) : Outcome (List Issue × Nat) → Prop
  | .ok (issues, k) => ∀ l : Linter, l.Sound fix s text → ∃ l',
      x.run.run l = (.ok (), l') ∧ l'.Sound fix s text ∧
        l'.issues = l.issues ++ issues ∧ l'.fixedCount = l.fixedCount + k
  | .error failure => ∀ l : Linter, l.Sound fix s text → ∃ l', x.run.run l = (.error failure, l')

theorem Reports.performs {y : Outcome (List Issue)} (h : Reports s x y) :
    Performs fix s text x (y.map fun issues => (issues, 0)) := by
  cases y with
  | error failure => exact fun l hl => h l hl.remembers
  | ok issues =>
    intro l hl
    obtain ⟨known, hknown, hrun⟩ := h l hl.remembers
    exact ⟨_, hrun, ⟨hknown, hl.fixedText, hl.fixedCount⟩, rfl, rfl⟩

/-- A check after one that comes to an end. -/
theorem Performs.bind_ok {issues : List Issue} {k : Nat} {y : Outcome (List Issue × Nat)}
    (hx : Performs fix s text x (.ok (issues, k))) (hx' : Performs fix s text x' y) :
    Performs fix s text (x >>= fun _ => x') (y.map fun (more, m) => (issues ++ more, k + m)) := by
  cases y with
  | error failure =>
    intro l hl
    obtain ⟨l', hrun, hl', -⟩ := hx l hl
    obtain ⟨l'', hrun'⟩ := hx' l' hl'
    exact ⟨l'', (Work.run_bind_ok hrun).trans hrun'⟩
  | ok result =>
    obtain ⟨more, m⟩ := result
    intro l hl
    obtain ⟨l', hrun, hl', hissues, hcount⟩ := hx l hl
    obtain ⟨l'', hrun', hl'', hissues', hcount'⟩ := hx' l' hl'
    refine ⟨l'', (Work.run_bind_ok hrun).trans hrun', hl'', ?_, ?_⟩
    · rw [hissues', hissues, List.append_assoc]
    · rw [hcount', hcount, Nat.add_assoc]

theorem Performs.bind_error {failure : Failure} (hx : Performs fix s text x (.error failure)) :
    Performs fix s text (x >>= fun _ => x') (.error failure) := by
  intro l hl
  obtain ⟨l', hrun⟩ := hx l hl
  exact ⟨l', Work.run_bind_error hrun⟩

/-- Mending line ends. -/
theorem performs_mend : Performs true s text (checkLineEnds true text) (.ok ([], looseLines text)) := by
  intro l hl
  have hloose : (Prose.ofLines (lines text)).numbered.countP (fun (_, line) => Lint.hasTrailingSpace line) =
      looseLines text := by
    rw [looseLines, ← Prose.map_snd_numberedFrom 1, List.countP_map]
    rfl
  have hloop := run_mend (Prose.ofLines (lines text)).numbered ((terminated text).map glue) l
  rw [hloose] at hloop
  have hrun : (checkLineEnds true text).run.run l = (.ok (), _) := Work.run_bind_ok hloop
  -- the count of an earlier pass counts too, and then the same text is put together once more
  by_cases hzero : l.fixedCount + looseLines text = 0
  · have htext : l.fixedText = none := by rw [hl.fixedText, if_pos (Nat.eq_zero_of_add_eq_zero_right hzero)]
    rw [putTogether, if_pos hzero] at hrun
    exact ⟨_, hrun, ⟨hl.remembers, htext.trans (if_pos hzero).symm, fun h => (by cases h)⟩,
      (List.append_nil _).symm, rfl⟩
  · rw [putTogether, if_neg hzero, flatten_foldl_mendLine] at hrun
    exact ⟨_, hrun, ⟨hl.remembers, (if_neg hzero).symm, fun h => (by cases h)⟩, (List.append_nil _).symm, rfl⟩

/-- Reporting line ends. -/
theorem performs_report : Performs false s text (checkLineEnds false text)
    ((LintRule.trailingWhitespace.issues s (Prose.ofLines (lines text))).map fun issues => (issues, 0)) := by
  intro l hl
  have hloop := run_report (Prose.ofLines (lines text)).numbered ((terminated text).map glue) l
  have hrun : (checkLineEnds false text).run.run l = (.ok (), _) := Work.run_bind_ok hloop
  rw [putTogether, if_pos (hl.fixedCount rfl)] at hrun
  exact ⟨_, hrun, ⟨hl.remembers, hl.fixedText, hl.fixedCount⟩, rfl, rfl⟩

/-- **A check mends what it can, or adds its own findings to what the linter holds.** -/
theorem performs_check (fix : Bool) (s : LintScope) (text : Text) (r : LintRule) :
    Performs fix s text (check fix s text r)
    (if fix && r == .trailingWhitespace then .ok ([], looseLines text)
      else (r.issues s (Prose.ofLines (lines text))).map fun issues => (issues, 0)) := by
  by_cases hr : r = .trailingWhitespace
  · subst hr
    cases fix with
    | true => exact performs_mend
    | false => exact performs_report
  · rw [if_neg (by simp [hr])]
    exact (reports_check fix text hr).performs

/-- **The checks one after the other add what each of them finds.** -/
theorem performs_forM (fix : Bool) (s : LintScope) (text : Text) (rules : List LintRule) :
    Performs fix s text (forM rules (check fix s text))
      (Except.map (fun found : List (List Issue) => (found.flatten, mendedCount rules fix text))
        ((reporting rules fix).mapM fun r => r.issues s (Prose.ofLines (lines text)))) := by
  induction rules with
  | nil =>
    intro l hl
    refine ⟨l, rfl, hl, (List.append_nil _).symm, ?_⟩
    simp [mendedCount]
  | cons r rules ih =>
    have hr := performs_check fix s text r
    rw [List.forM_cons, reporting_cons, mendedCount_cons]
    -- a check that mends reports nothing, and the others mend nothing
    split
    · next hmends =>
      rw [if_pos hmends] at hr
      have hall := hr.bind_ok ih
      rw [Outcome.map_map] at hall
      exact hall
    · next hreports =>
      rw [if_neg hreports] at hr
      cases hissues : r.issues s (Prose.ofLines (lines text)) with
      | error failure =>
        rw [hissues] at hr
        rw [Outcome.mapM_eq_error (f := fun r => LintRule.issues r s (Prose.ofLines (lines text))) hissues]
        exact hr.bind_error
      | ok issues =>
        rw [hissues] at hr
        have hall := hr.bind_ok ih
        rw [Outcome.map_map] at hall
        rw [Outcome.map_mapM_cons (f := fun r => LintRule.issues r s (Prose.ofLines (lines text))) hissues]
        exact hall

/-- **The checks with one linter find what they find in the text.** -/
theorem run_eq (rules : List LintRule) (fix : Bool) (s : LintScope) (text : Text) :
    run rules fix s text = lintText rules fix s text := by
  have h := performs_forM fix s text rules
  cases hfound : (reporting rules fix).mapM fun r => LintRule.issues r s (Prose.ofLines (lines text)) with
  | error failure =>
    rw [hfound] at h
    obtain ⟨l', hrun⟩ := h {} sound_new
    rw [lintText_eq_error_iff.mpr hfound, run, hrun]
  | ok found =>
    rw [hfound] at h
    obtain ⟨l', hrun, hl', hissues, hcount⟩ := h {} sound_new
    rw [run, hrun, eq_comm, lintText_eq_ok_iff]
    have hcount' : l'.fixedCount = mendedCount rules fix text := hcount.trans (Nat.zero_add _)
    refine ⟨found, Outcome.mapM_eq_ok_iff.mp hfound, ?_⟩
    rw [hl'.fixedText, hcount', hissues]
    rfl

end Runs

end Linter

/-! ## All checks, and each by itself -/

section Alone

variable {rules : List LintRule} {fix : Bool} {s : LintScope} {text : Text}

theorem exists_lintText_iff_mapM : (∃ outcome, lintText rules fix s text = .ok outcome) ↔
    ∃ found, (reporting rules fix).mapM (·.issues s (Prose.ofLines (lines text))) = .ok found := by
  simp only [lintText_eq_ok_iff, LintRule.Find, ← Outcome.mapM_eq_ok_iff]
  constructor
  · rintro ⟨-, found, hfound, -⟩
    exact ⟨found, hfound⟩
  · rintro ⟨found, hfound⟩
    exact ⟨_, found, hfound, rfl⟩

/-- The first check and the others. -/
theorem reporting_cons_eq_append (r : LintRule) (rules : List LintRule) (fix : Bool) :
    reporting (r :: rules) fix = reporting [r] fix ++ reporting rules fix :=
  List.filter_append [r] rules

/-- **Checks fail as the first one does that fails by itself.** -/
theorem lintText_eq_error_iff_alone {failure : Failure} : lintText rules fix s text = .error failure ↔
    ∃ before r after, rules = before ++ r :: after ∧
      (∀ b ∈ before, ∃ outcome, lintText [b] fix s text = .ok outcome) ∧
      lintText [r] fix s text = .error failure := by
  rw [← Outcome.mapM_eq_error_iff (f := fun r => lintText [r] fix s text)]
  induction rules with
  | nil =>
    rw [lintText_eq_error_iff]
    constructor <;> exact fun h => by cases h
  | cons r rules ih =>
    rw [Outcome.mapM_cons_eq_error_iff, ← ih, lintText_eq_error_iff, reporting_cons_eq_append,
      Outcome.mapM_append_eq_error_iff, lintText_eq_error_iff, lintText_eq_error_iff, exists_lintText_iff_mapM]

/-- The checks by themselves, when they come to an end. -/
abbrev LintRule.Alone (fix : Bool) (s : LintScope) (text : Text) (rules : List LintRule)
    (alone : List LintOutcome) : Prop :=
  List.Forall₂ (fun r outcome => lintText [r] fix s text = .ok outcome) rules alone

/-- What checks find together they find by themselves. -/
theorem LintRule.Find.alone {found : List (List Issue)}
    (h : LintRule.Find s (Prose.ofLines (lines text)) (reporting rules fix) found) :
    ∃ alone, LintRule.Alone fix s text rules alone ∧
      ∀ n, (alone.flatMap (·.issues)).filter (·.line = n) = found.flatten.filter (·.line = n) := by
  induction rules generalizing found with
  | nil =>
    cases h
    exact ⟨[], .nil, fun n => rfl⟩
  | cons r rules ih =>
    rw [reporting_cons_eq_append, LintRule.Find, ← Outcome.mapM_eq_ok_iff] at h
    obtain ⟨first, rest, hfirst, hrest, rfl⟩ := Outcome.mapM_append_eq_ok_iff.mp h
    obtain ⟨alone, halone, hsame⟩ := ih (Outcome.mapM_eq_ok_iff.mp hrest)
    refine ⟨_ :: alone, .cons (lintText_eq_ok_iff.mpr ⟨first, Outcome.mapM_eq_ok_iff.mp hfirst, rfl⟩) halone,
      fun n => ?_⟩
    rw [List.flatMap_cons, List.filter_append, (isStableSort_mergeSort Issue.line first.flatten).stable, hsame,
      List.flatten_append, List.filter_append]

theorem exists_lintText_iff_alone : (∃ outcome, lintText rules fix s text = .ok outcome) ↔
    ∃ alone, LintRule.Alone fix s text rules alone := by
  constructor
  · rintro ⟨outcome, h⟩
    obtain ⟨found, hfound, -⟩ := lintText_eq_ok_iff.mp h
    obtain ⟨alone, halone, -⟩ := hfound.alone
    exact ⟨alone, halone⟩
  · rintro ⟨alone, halone⟩
    cases h : lintText rules fix s text with
    | ok outcome => exact ⟨outcome, rfl⟩
    | error failure =>
      obtain ⟨before, r, after, rfl, -, hr⟩ := lintText_eq_error_iff_alone.mp h
      obtain ⟨outcome, -, hr'⟩ := Outcome.exists_of_mapM (Outcome.mapM_eq_ok_iff.mpr halone)
        (List.mem_append_right before List.mem_cons_self)
      rw [hr] at hr'
      cases hr'

/-- **The issues together are those of each check, sorted in a stable way.** -/
theorem LintRule.Alone.isStableSort {alone : List LintOutcome} {outcome : LintOutcome}
    (halone : LintRule.Alone fix s text rules alone) (h : lintText rules fix s text = .ok outcome) :
    IsStableSort Issue.line (alone.flatMap (·.issues)) outcome.issues := by
  obtain ⟨found, hfound, rfl⟩ := lintText_eq_ok_iff.mp h
  obtain ⟨alone', halone', hsame⟩ := hfound.alone
  obtain rfl : alone = alone' := by
    have h := Outcome.mapM_eq_ok_iff.mpr halone
    rw [Outcome.mapM_eq_ok_iff.mpr halone'] at h
    exact (Except.ok.inj h).symm
  have hsort := isStableSort_mergeSort Issue.line found.flatten
  exact ⟨hsort.ordered, fun n => (hsort.stable n).trans (hsame n).symm⟩

/-- A check reports under its own name, by itself too. -/
theorem rule_of_mem_issues {r : LintRule} {outcome : LintOutcome} (h : lintText [r] fix s text = .ok outcome)
    {issue : Issue} (hissue : issue ∈ outcome.issues) : issue.rule = r := by
  obtain ⟨found, hfound, rfl⟩ := lintText_eq_ok_iff.mp h
  obtain ⟨issues, hissues, hmem⟩ := List.mem_flatten.mp (((isStableSort_mergeSort _ _).mem_iff issue).mp hissue)
  obtain ⟨r', hr', hfinds⟩ := Outcome.mem_of_mapM (Outcome.mapM_eq_ok_iff.mpr hfound) hissues
  obtain rfl : r' = r := List.mem_singleton.mp (List.mem_filter.mp hr').1
  obtain ⟨found', -, rfl⟩ := Outcome.map_eq_ok_iff.mp hfinds
  obtain ⟨_, -, rfl⟩ := List.mem_map.mp hmem
  rfl

theorem LintRule.Alone.rule_mem {alone : List LintOutcome} (halone : LintRule.Alone fix s text rules alone)
    {issue : Issue} (hissue : issue ∈ alone.flatMap (·.issues)) : issue.rule ∈ rules := by
  obtain ⟨outcome, houtcome, hmem⟩ := List.mem_flatMap.mp hissue
  obtain ⟨r, hr, h⟩ := Outcome.mem_of_mapM (Outcome.mapM_eq_ok_iff.mpr halone) houtcome
  rwa [rule_of_mem_issues h hmem]

/-- The issues of one of the checks, among those of all. -/
theorem LintRule.Alone.filter_issues {alone : List LintOutcome} (halone : LintRule.Alone fix s text rules alone)
    (hrules : rules.Nodup) {r : LintRule} {outcome : LintOutcome} (hr : r ∈ rules)
    (h : lintText [r] fix s text = .ok outcome) :
    (alone.flatMap (·.issues)).filter (·.rule = r) = outcome.issues := by
  induction halone with
  | nil => cases hr
  | @cons r' outcome' rules alone h' halone ih =>
    obtain ⟨hnone, hrules⟩ := List.nodup_cons.mp hrules
    rw [List.flatMap_cons, List.filter_append]
    rcases List.mem_cons.mp hr with rfl | hr
    · obtain rfl : outcome' = outcome := Except.ok.inj (h'.symm.trans h)
      have hfirst : outcome'.issues.filter (·.rule = r) = outcome'.issues :=
        List.filter_eq_self.mpr fun issue hissue => decide_eq_true (rule_of_mem_issues h hissue)
      have hrest : (alone.flatMap (·.issues)).filter (·.rule = r) = [] :=
        List.filter_eq_nil_iff.mpr fun issue hissue hrule =>
          hnone (of_decide_eq_true hrule ▸ LintRule.Alone.rule_mem halone hissue)
      rw [hfirst, hrest, List.append_nil]
    · have hfirst : outcome'.issues.filter (·.rule = r) = [] := by
        refine List.filter_eq_nil_iff.mpr fun issue hissue hrule => hnone ?_
        rwa [← rule_of_mem_issues h' hissue, of_decide_eq_true hrule]
      rw [hfirst, List.nil_append, ih hrules hr]

/-- So each check reports together with others what it reports by itself. -/
theorem filter_issues_alone (hrules : rules.Nodup) {r : LintRule} (hr : r ∈ rules) {outcome alone : LintOutcome}
    (h : lintText rules fix s text = .ok outcome) (halone : lintText [r] fix s text = .ok alone) :
    outcome.issues.filter (·.rule = r) = alone.issues := by
  obtain ⟨all, hall⟩ := exists_lintText_iff_alone.mp ⟨outcome, h⟩
  have hsort := (hall.isStableSort h).filter (·.rule = r)
  rw [hall.filter_issues hrules hr halone] at hsort
  refine hsort.unique ⟨?_, fun n => rfl⟩
  obtain ⟨found, -, rfl⟩ := lintText_eq_ok_iff.mp halone
  exact (isStableSort_mergeSort Issue.line found.flatten).ordered

/-- What is mended together is what the check of line ends mends. -/
theorem mended_alone (hrules : rules.Nodup) {outcome : LintOutcome} (h : lintText rules fix s text = .ok outcome) :
    if .trailingWhitespace ∈ rules then
      ∃ mended, lintText [.trailingWhitespace] fix s text = .ok mended ∧
        outcome.fixedCount = mended.fixedCount ∧ outcome.fixedText = mended.fixedText
    else outcome.fixedCount = 0 ∧ outcome.fixedText = none := by
  obtain ⟨hcount, htext⟩ := lintText_ok h
  rw [hcount, htext]
  split
  · next hmem =>
    obtain ⟨alone, halone⟩ := exists_lintText_iff_alone.mp ⟨outcome, h⟩
    obtain ⟨mended, -, hmended⟩ := Outcome.exists_of_mapM (Outcome.mapM_eq_ok_iff.mpr halone) hmem
    obtain ⟨hcount', htext'⟩ := lintText_ok hmended
    have hsame : mendedCount rules fix text = mendedCount [.trailingWhitespace] fix text := by
      unfold mendedCount
      rw [List.count_eq_one_of_mem hrules hmem, List.count_singleton_self]
    rw [hsame]
    exact ⟨mended, hmended, hcount'.symm, htext'.symm⟩
  · next hnone =>
    have hzero : mendedCount rules fix text = 0 := by
      unfold mendedCount
      rw [List.count_eq_zero_of_not_mem hnone, Nat.zero_mul, ite_self]
    rw [hzero]
    exact ⟨rfl, rfl⟩

/--
**All checks together give what each of them gives by itself.**

With one linter that they share, the checks give what they find in the text. They fail as the first check does
that fails by itself. Otherwise the issues are those of each check by itself, in the order of the checks, sorted by
their lines in a stable way; and what is mended is what the check of line ends mends by itself, or nothing when it
is not made. So a check reports the same in the same order whatever other checks are made, and wherever it stands.
-/
theorem Linter.run_alone (rules : List LintRule) (hrules : rules.Nodup) (fix : Bool) (s : LintScope)
    (text : Text) :
    Linter.run rules fix s text = lintText rules fix s text ∧
    (∀ failure, lintText rules fix s text = .error failure ↔
      ∃ before r after, rules = before ++ r :: after ∧
        (∀ b ∈ before, ∃ outcome, lintText [b] fix s text = .ok outcome) ∧
        lintText [r] fix s text = .error failure) ∧
    (∀ outcome, lintText rules fix s text = .ok outcome ↔
      ∃ alone, List.Forall₂ (fun r outcome => lintText [r] fix s text = .ok outcome) rules alone ∧
        IsStableSort Issue.line (alone.flatMap (·.issues)) outcome.issues ∧
        if .trailingWhitespace ∈ rules then
          ∃ mended, lintText [.trailingWhitespace] fix s text = .ok mended ∧
            outcome.fixedCount = mended.fixedCount ∧ outcome.fixedText = mended.fixedText
        else outcome.fixedCount = 0 ∧ outcome.fixedText = none) ∧
    ∀ outcome, lintText rules fix s text = .ok outcome → ∀ r ∈ rules, ∃ alone,
      lintText [r] fix s text = .ok alone ∧ outcome.issues.filter (·.rule = r) = alone.issues := by
  refine ⟨run_eq rules fix s text, fun failure => lintText_eq_error_iff_alone, fun outcome => ⟨fun h => ?_, ?_⟩,
    fun outcome h r hr => ?_⟩
  · obtain ⟨alone, halone⟩ := exists_lintText_iff_alone.mp ⟨outcome, h⟩
    exact ⟨alone, halone, halone.isStableSort h, mended_alone hrules h⟩
  · rintro ⟨alone, halone, hsort, hmended⟩
    obtain ⟨outcome', h⟩ := exists_lintText_iff_alone.mpr ⟨alone, halone⟩
    have hissues : outcome.issues = outcome'.issues := hsort.unique (LintRule.Alone.isStableSort halone h)
    have hmended' := mended_alone hrules h
    have hfixed : outcome.fixedCount = outcome'.fixedCount ∧ outcome.fixedText = outcome'.fixedText := by
      by_cases hmem : LintRule.trailingWhitespace ∈ rules
      · rw [if_pos hmem] at hmended hmended'
        obtain ⟨mended, hrun, hcount, htext⟩ := hmended
        obtain ⟨mended', hrun', hcount', htext'⟩ := hmended'
        obtain rfl : mended = mended' := Except.ok.inj (hrun.symm.trans hrun')
        exact ⟨hcount.trans hcount'.symm, htext.trans htext'.symm⟩
      · rw [if_neg hmem] at hmended hmended'
        exact ⟨hmended.1.trans hmended'.1.symm, hmended.2.trans hmended'.2.symm⟩
    obtain ⟨issues, fixedCount, fixedText⟩ := outcome
    obtain ⟨issues', fixedCount', fixedText'⟩ := outcome'
    obtain ⟨rfl, rfl⟩ := hfixed
    cases hissues
    exact h
  · obtain ⟨alone, halone⟩ := exists_lintText_iff_alone.mp ⟨outcome, h⟩
    obtain ⟨own, -, hown⟩ := Outcome.exists_of_mapM (Outcome.mapM_eq_ok_iff.mpr halone) hr
    exact ⟨own, hown, filter_issues_alone hrules hr h hown⟩

/-- A heading that is repeated in a line with a blank at its end. -/
theorem Linter.run_alone_repeatedHeading : [LintRule.trailingWhitespace, .duplicateHeadings].Nodup ∧
    ∃ outcome,
      lintText [.trailingWhitespace, .duplicateHeadings] false loneScope "# a\n# a \n".toList = .ok outcome ∧
      outcome.issues.filter (·.rule = .duplicateHeadings) = [{
        line := 2, rule := .duplicateHeadings, message := "duplicate heading 'a' (also at line 1)".toList }] := by
  have hnodup : [LintRule.trailingWhitespace, .duplicateHeadings].Nodup := by decide +kernel
  have hlaw := Linter.run_alone _ hnodup false loneScope "# a\n# a \n".toList
  have hfind : LintRule.Find loneScope (Prose.ofLines (lines "# a\n# a \n".toList))
      (reporting [.trailingWhitespace, .duplicateHeadings] false) _ := .cons rfl (.cons rfl .nil)
  have hrun := lintText_eq_ok_iff.mpr ⟨_, hfind, rfl⟩
  obtain ⟨alone, halone, hissues⟩ := hlaw.2.2.2 _ hrun .duplicateHeadings (by decide +kernel)
  have hfindAlone : LintRule.Find loneScope (Prose.ofLines (lines "# a\n# a \n".toList))
      (reporting [.duplicateHeadings] false) [[{
        line := 2, rule := .duplicateHeadings, message := "duplicate heading 'a' (also at line 1)".toList }]] :=
    .cons (by decide +kernel) .nil
  obtain rfl := Except.ok.inj (halone.symm.trans (lintText_eq_ok_iff.mpr ⟨_, hfindAlone, rfl⟩))
  exact ⟨hnodup, _, hrun, hissues.trans (List.mergeSort_singleton _)⟩

end Alone

end DocAudit
