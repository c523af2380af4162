import DocAudit.Command.Verify
import DocAudit.Proofs.Command.Verdicts
import DocAudit.Proofs.Outcome
import DocAudit.Proofs.Verification.Stopping
import DocAudit.Shell.Runner

/-!
# Ways to compare output

Output that is not as expected is a warning, a failure where output is compared strictly, and nothing where it
is not compared at all. A run that keeps going runs the same commands in each of these ways, so what they do is
the same; the results with other output differ, and nothing else does.

## Contents

* `ItemResult.classify_eq`, `ItemResult.ofAttempt_strict`, `ItemResult.ofAttempt_skip`: one command, compared in
  different ways
* `ItemResult.IsCompared`: what a result tells about output
* `Runner.ofAttempts`: a runner, made of what running a command gives
* `Spec.runAll_map`, `Spec.forall_of_runAll`: the results of a run that keeps going, one by one
* `Project.runVerify_matching`: **the runs of a project in each way, and their exit codes**
-/

namespace DocAudit

open Text

/-! ## One command -/

namespace ItemResult

/-- The result where output is compared strictly: what was a warning is a failure. -/
def hardened (r : ItemResult) : ItemResult := if r.status = .warn then { r with status := .fail } else r

/-- The result where output is not compared: what was a warning passes, and nothing is told about its output. -/
def excused (r : ItemResult) : ItemResult :=
  if r.status = .warn then { r with status := .pass, mismatch := none } else r

/-- Strictness mends no failure. -/
theorem failed_hardened {r : ItemResult} (h : r.status.failed = true) : r.hardened.status.failed = true := by
  unfold hardened
  split
  · rfl
  · exact h

/-- What fails where output is not compared fails in any case. -/
theorem failed_of_excused {r : ItemResult} (h : r.excused.status.failed = true) : r.status.failed = true := by
  unfold excused at h
  split at h
  · cases h
  · exact h

/-- Where the exit code is as expected, the output decides. -/
theorem classify_eq (m : Matching) (item : Item) (code : Int) (stdout : Text) :
    classify m item code stdout =
      if code ≠ item.expectedExit then .ok (.fail, none)
      else (outputMet item.expected stdout).map fun met =>
        if met || m.skip then (.pass, none)
        else (if m.strict then .fail else .warn,
          item.expected.map fun e => ⟨e.content, e.strategy, stdout⟩) := by
  unfold classify outputMet
  split
  · rfl
  · cases item.expected with
    | none => rfl
    | some e =>
      cases hmet : e.isMet stdout with
      | error failure =>
        simp only [hmet]
        rfl
      | ok met =>
        simp only [hmet]
        cases met with
        | true => rfl
        | false => cases m.skip <;> rfl

/-- **Strictly compared, a warning is a failure.** -/
theorem ofAttempt_strict (item : Item) (a : Attempt) :
    ofAttempt { strict := true } item a = (ofAttempt {} item a).map hardened := by
  cases a with
  | timedOut stdout stderr => rfl
  | notStarted => rfl
  | finished code stdout stderr =>
    rw [ofAttempt, ofAttempt, classify_eq, classify_eq]
    split
    · rfl
    · cases outputMet item.expected stdout with
      | error failure => rfl
      | ok met => cases met <;> rfl

/-- **Where output is not compared, a warning passes.** Then it does not matter how strictly that would be. -/
theorem ofAttempt_skip (strict : Bool) (item : Item) (a : Attempt) :
    ofAttempt { strict, skip := true } item a = (ofAttempt {} item a).map excused := by
  cases a with
  | timedOut stdout stderr => rfl
  | notStarted => rfl
  | finished code stdout stderr =>
    rw [ofAttempt, ofAttempt, classify_eq, classify_eq]
    split
    · rfl
    · cases outputMet item.expected stdout with
      | error failure => rfl
      | ok met => cases met <;> rfl

/-- What a result tells about output that is not as expected: it is there when the exit code is as expected, the
output is not, and output is compared. It tells what was expected and what came. -/
structure IsCompared (m : Matching) (r : ItemResult) : Prop where
  isSome_iff : r.mismatch.isSome = true ↔
    r.exitCode = some r.item.expectedExit ∧ outputMet r.item.expected r.stdout = .ok false ∧ m.skip = false
  eq_of_mem : ∀ x ∈ r.mismatch, r.item.expected = some ⟨x.strategy, x.expected⟩ ∧ x.actual = r.stdout

/-- **A result tells of other output when there is some to tell of.** -/
theorem isCompared_of_ofAttempt {m : Matching} {item : Item} {a : Attempt} {r : ItemResult}
    (h : ofAttempt m item a = .ok r) : IsCompared m r := by
  cases a with
  | timedOut stdout stderr =>
    cases h
    exact ⟨by simp, by simp⟩
  | notStarted =>
    cases h
    exact ⟨by simp, by simp⟩
  | finished code stdout stderr =>
    obtain ⟨⟨status, mismatch⟩, hclass, rfl⟩ := Outcome.map_eq_ok_iff.mp h
    rw [classify_eq] at hclass
    split at hclass
    · next hcode =>
      cases hclass
      exact ⟨by simp [hcode], by simp⟩
    · next hcode =>
      obtain ⟨met, hmet, hclass⟩ := Outcome.map_eq_ok_iff.mp hclass
      split at hclass
      · next hpass =>
        cases hclass
        refine ⟨?_, by simp⟩
        simp only [Option.isSome_none, Bool.false_eq_true, false_iff, hmet]
        rintro ⟨-, hfalse, hskip⟩
        cases hfalse
        simp [hskip] at hpass
      · next hpass =>
        cases hclass
        rw [Bool.or_eq_true, not_or, Bool.not_eq_true, Bool.not_eq_true] at hpass
        obtain ⟨rfl, hskip⟩ := hpass
        -- output that is not as expected is that of an item which expects some
        obtain ⟨e, he⟩ : ∃ e, item.expected = some e := by
          cases hexpected : item.expected with
          | none =>
            rw [hexpected] at hmet
            cases hmet
          | some e => exact ⟨e, rfl⟩
        refine ⟨iff_of_true (by simp [he]) ⟨?_, hmet, hskip⟩, ?_⟩
        · exact congrArg some (not_not.mp hcode)
        · rintro x hx
          rw [he] at hx
          cases hx
          exact ⟨he, rfl⟩

end ItemResult

/-! ## One run -/

/-- The document with each of its results changed. -/
def SpecResult.map (f : ItemResult → ItemResult) (o : SpecResult) : SpecResult :=
  { o with results := o.results.map f }

theorem SpecResult.failed_map {f : ItemResult → ItemResult} (o : SpecResult) :
    (o.map f).status.failed = o.results.any fun r => (f r).status.failed := by
  rw [failed_status, map, List.any_map]
  rfl

section Map

variable {m : Type → Type} [Monad m] [LawfulMonad m] (run : Runner m) (f : ItemResult → ItemResult)

theorem runItems_map (items : List Item) :
    runItems (fun item => f <$> run item) true items = List.map f <$> runItems run true items := by
  induction items with
  | nil => simp [runItems]
  | cons item rest ih => simp [runItems, ih]

theorem Spec.run_map (s : Spec) :
    s.run (fun item => f <$> run item) true = SpecResult.map f <$> s.run run true := by
  simp [Spec.run, runItems_map, SpecResult.map]

/-- **Where each result is changed, a run that keeps going is the same otherwise.** -/
theorem Spec.runAll_map (specs : List Spec) :
    Spec.runAll (fun item => f <$> run item) true specs =
      List.map (SpecResult.map f) <$> Spec.runAll run true specs := by
  induction specs with
  | nil => simp [Spec.runAll]
  | cons s rest ih => simp [Spec.runAll, Spec.run_map, ih]

end Map

section Forall

variable {σ : Type} {run : Runner (Work σ)} {P : ItemResult → Prop}

theorem forall_of_runItems (h : ∀ item w r, ((run item).run.run w).1 = .ok r → P r)
    {items : List Item} {w : σ} {rs : List ItemResult}
    (hrun : ((runItems run true items).run.run w).1 = .ok rs) : ∀ r ∈ rs, P r := by
  induction items generalizing w rs with
  | nil =>
    cases hrun
    exact fun r hr => absurd hr List.not_mem_nil
  | cons item rest ih =>
    rw [runItems] at hrun
    obtain ⟨r, w', hr, hrun⟩ := Work.exists_of_run_bind hrun
    rw [Bool.not_true, Bool.and_false, if_neg Bool.false_ne_true] at hrun
    obtain ⟨rs', w'', hrs, hrun⟩ := Work.exists_of_run_bind hrun
    cases hrun
    exact List.forall_mem_cons.mpr ⟨h item w r (congrArg Prod.fst hr), ih (congrArg Prod.fst hrs)⟩

/-- **What holds of each result that commands give holds of each result of a run that keeps going.** -/
theorem Spec.forall_of_runAll (h : ∀ item w r, ((run item).run.run w).1 = .ok r → P r)
    {specs : List Spec} {w : σ} {outcomes : List SpecResult}
    (hrun : ((Spec.runAll run true specs).run.run w).1 = .ok outcomes) :
    ∀ o ∈ outcomes, ∀ r ∈ o.results, P r := by
  induction specs generalizing w outcomes with
  | nil =>
    cases hrun
    exact fun o ho => absurd ho List.not_mem_nil
  | cons s rest ih =>
    rw [Spec.runAll] at hrun
    obtain ⟨o, w', ho, hrun⟩ := Work.exists_of_run_bind hrun
    rw [Bool.not_true, Bool.and_false, if_neg Bool.false_ne_true] at hrun
    obtain ⟨os, w'', hos, hrun⟩ := Work.exists_of_run_bind hrun
    cases hrun
    refine List.forall_mem_cons.mpr ⟨?_, ih (congrArg Prod.fst hos)⟩
    obtain ⟨rs, w₁, hrs, ho⟩ := Work.exists_of_run_bind (congrArg Prod.fst ho)
    cases ho
    exact forall_of_runItems h (congrArg Prod.fst hrs)

end Forall

/-! ## The same commands, compared in different ways -/

/-- Runs an item, which gives something, and compares its output. -/
def Runner.ofAttempts {σ : Type} (attempt : Item → Work σ Attempt) (m : Matching) : Runner (Work σ) :=
    fun item => do
  let a ← attempt item
  ExceptT.mk (pure (ItemResult.ofAttempt m item a))

/-- The shell runs items in this way. -/
theorem Shell.shellRunner_eq (base : Path) (m : Matching) :
    shellRunner base m = Runner.ofAttempts (attempt base) m := rfl

namespace Runner

variable {σ : Type} {attempt : Item → Work σ Attempt} {m m' : Matching}

/-- Runners that compare in two ways, when it is known of one command what the other way makes of its result. -/
theorem ofAttempts_map {f : ItemResult → ItemResult}
    (h : ∀ item a, ItemResult.ofAttempt m' item a = (ItemResult.ofAttempt m item a).map f) :
    ofAttempts attempt m' = fun item => f <$> ofAttempts attempt m item := by
  funext item
  rw [ofAttempts, ofAttempts, map_bind]
  refine congrArg (attempt item >>= ·) (funext fun a => ?_)
  rw [h]
  cases ItemResult.ofAttempt m item a <;> rfl

theorem isCompared_of_run {item : Item} {w : σ} {r : ItemResult}
    (h : ((ofAttempts attempt m item).run.run w).1 = .ok r) : ItemResult.IsCompared m r := by
  obtain ⟨a, w', -, ha⟩ := Work.exists_of_run_bind h
  exact ItemResult.isCompared_of_ofAttempt ha

end Runner

namespace Project

variable {σ : Type}

/-- The project with a configuration that compares output in the given way. -/
def comparing (p : Project) (m : Matching) : Project :=
  { p with config.rules := { p.config.rules with strictOutput := m.strict, skipOutput := m.skip } }

/-- The exit code of a verification that keeps going, when there is one. -/
def verifyExit? (p : Project) (attempt : Item → Work σ Attempt) (paths : List Path) (timeout : Int) (w : σ) :
    Option Nat :=
  (((p.runVerify (Runner.ofAttempts attempt p.matching) paths timeout true).run.run w).1.toOption).map (·.2)

/-- The exit code is 1 when the documents are read, their commands give results, and one of these is a failure. -/
theorem verifyExit?_eq_one_iff {p : Project} {attempt : Item → Work σ Attempt} {paths : List Path}
    {timeout : Int} {w : σ} :
    p.verifyExit? attempt paths timeout w = some 1 ↔
      ∃ specs outcomes, p.specs paths timeout = .ok specs ∧
        ((Spec.runAll (Runner.ofAttempts attempt p.matching) true specs).run.run w).1 = .ok outcomes ∧
        outcomes.any (·.status.failed) = true := by
  unfold verifyExit?
  cases hspecs : p.specs paths timeout with
  | error failure =>
    rw [runVerify_of_error hspecs]
    simp [Except.toOption]
  | ok specs =>
    rw [runVerify_of_ok hspecs, Work.run_map]
    cases hrun : ((Spec.runAll (Runner.ofAttempts attempt p.matching) true specs).run.run w).1 with
    | error failure => simp [Except.map, Except.toOption, hrun]
    | ok outcomes => simp [Except.map, Except.toOption, hrun]

/-- Where each result is changed and failures stay failures, the exit code stays 1. -/
theorem verifyExit?_mono {p : Project} {m m' : Matching} {attempt : Item → Work σ Attempt} {paths : List Path}
    {timeout : Int} {w : σ} {f g : ItemResult → ItemResult} {m₀ : Matching}
    (hm : ∀ item a, ItemResult.ofAttempt m item a = (ItemResult.ofAttempt m₀ item a).map f)
    (hm' : ∀ item a, ItemResult.ofAttempt m' item a = (ItemResult.ofAttempt m₀ item a).map g)
    (hfailed : ∀ r : ItemResult, (f r).status.failed = true → (g r).status.failed = true)
    (h : (p.comparing m).verifyExit? attempt paths timeout w = some 1) :
    (p.comparing m').verifyExit? attempt paths timeout w = some 1 := by
  rw [verifyExit?_eq_one_iff] at h ⊢
  obtain ⟨specs, outcomes, hspecs, hrun, hany⟩ := h
  have hruns : ∀ {m : Matching} {f : ItemResult → ItemResult},
      (∀ item a, ItemResult.ofAttempt m item a = (ItemResult.ofAttempt m₀ item a).map f) →
      ((Spec.runAll (Runner.ofAttempts attempt m) true specs).run.run w).1 =
        ((Spec.runAll (Runner.ofAttempts attempt m₀) true specs).run.run w).1.map
          (List.map (SpecResult.map f)) := by
    intro m f hm
    rw [Runner.ofAttempts_map hm, Spec.runAll_map, Work.run_map]
  obtain ⟨plain, hplain, rfl⟩ := Outcome.map_eq_ok_iff.mp ((hruns hm).symm.trans hrun)
  refine ⟨specs, plain.map (SpecResult.map g), hspecs,
    (hruns hm').trans (Outcome.map_eq_ok_iff.mpr ⟨plain, hplain, rfl⟩), ?_⟩
  simp only [List.any_map, List.any_eq_true, Function.comp_apply, SpecResult.failed_map] at hany ⊢
  obtain ⟨o, ho, r, hr, hf⟩ := hany
  exact ⟨o, ho, r, hr, hfailed r hf⟩

/--
**The runs of a project differ only in results with other output.**

Whatever the commands do, a run that keeps going and compares strictly does the same as one that does not, and
each warning is a failure in it; in a run that does not compare output, each warning passes and tells nothing of
its output. A result tells of other output when its exit code is as expected, its output is not, and output is
compared. So a verification that ends with the exit code 1 where output is not compared does so where it is, and
then also where it is compared strictly.
-/
theorem runVerify_matching (attempt : Item → Work σ Attempt) (w : σ) :
    let run (m : Matching) (specs : List Spec) := (Spec.runAll (Runner.ofAttempts attempt m) true specs).run.run w
    let exit? (m : Matching) (p : Project) := (p.comparing m).verifyExit? attempt
    (∀ specs strict,
      run { strict := true } specs = ((run {} specs).1.map (List.map (·.map .hardened)), (run {} specs).2) ∧
      run { strict, skip := true } specs =
        ((run {} specs).1.map (List.map (·.map .excused)), (run {} specs).2)) ∧
    (∀ m specs outcomes, (run m specs).1 = .ok outcomes →
      ∀ o ∈ outcomes, ∀ r ∈ o.results, r.IsCompared m) ∧
    ∀ p paths timeout strict,
      (exit? { strict, skip := true } p paths timeout w = some 1 → exit? {} p paths timeout w = some 1) ∧
      (exit? {} p paths timeout w = some 1 → exit? { strict := true } p paths timeout w = some 1) := by
  intro run exit?
  have hplain : ∀ item a, ItemResult.ofAttempt {} item a = (ItemResult.ofAttempt {} item a).map id :=
    fun _ _ => (congrFun Except.map_id _).symm
  refine ⟨fun specs strict => ⟨?_, ?_⟩, fun m specs outcomes hrun => ?_,
    fun p paths timeout strict => ⟨?_, ?_⟩⟩
  · show (Spec.runAll (Runner.ofAttempts attempt { strict := true }) true specs).run.run w = _
    rw [Runner.ofAttempts_map ItemResult.ofAttempt_strict, Spec.runAll_map, Work.run_map]
  · show (Spec.runAll (Runner.ofAttempts attempt { strict, skip := true }) true specs).run.run w = _
    rw [Runner.ofAttempts_map (ItemResult.ofAttempt_skip strict), Spec.runAll_map, Work.run_map]
  · exact Spec.forall_of_runAll (fun item w r h => Runner.isCompared_of_run h) hrun
  · exact verifyExit?_mono (ItemResult.ofAttempt_skip strict) hplain fun r => ItemResult.failed_of_excused
  · exact verifyExit?_mono hplain ItemResult.ofAttempt_strict fun r => ItemResult.failed_hardened

/-- A project with a document of two commands, the first of which shows its output. -/
def greeting : Project :=
  inRoot [("a.md".toList, "## Verification\n```bash\n$ greet\nhello\n```\n```bash\nleave\n```\n".toList)] {}

/-- What is run there. -/
def greetingSpec : Spec where
  file := Path.ofText "/docs/a.md".toList
  line := 1
  items := [{ command := "greet".toList, expected := some ⟨.contains, "hello".toList⟩ },
    { command := "leave".toList }]

/-- Commands that say goodbye, and of which all but the first one fail. -/
def goodbye : Item → Work Nat Attempt := fun _ => do
  let n ← get
  set (n + 1)
  return .finished n "goodbye".toList []

/-- The first command warns, fails where output is compared strictly, and passes where it is not compared. The
second one fails in any case. -/
theorem runVerify_matching_greeting :
    let run (m : Matching) := (Spec.runAll (Runner.ofAttempts goodbye m) true [greetingSpec]).run.run 0
    let statuses (outcomes : List SpecResult) := outcomes.flatMap fun o => o.results.map (·.status)
    (run {}).1.map statuses = .ok [.warn, .fail] ∧
      (run { strict := true }).1.map statuses = .ok [.fail, .fail] ∧
      (run { strict := true, skip := true }).1.map statuses = .ok [.pass, .fail] ∧
      (greeting.comparing { strict := true }).verifyExit? goodbye [] 30000 0 = some 1 := by
  intro run statuses
  obtain ⟨hruns, -, hexits⟩ := runVerify_matching goodbye 0
  obtain ⟨hstrict, hskip⟩ := hruns [greetingSpec] true
  have hspecs : greeting.specs [] 30000 = .ok [greetingSpec] := by
    rw [greeting, String.toList_ofList, String.toList_ofList]
    decide +kernel
  -- the failure of the second command is there even where output is not compared
  have hexit : (greeting.comparing { strict := true, skip := true }).verifyExit? goodbye [] 30000 0 = some 1 :=
    verifyExit?_eq_one_iff.mpr ⟨_, _, hspecs, rfl, rfl⟩
  obtain ⟨hdefault, hfails⟩ := hexits greeting [] 30000 true
  refine ⟨rfl, ?_, ?_, hfails (hdefault hexit)⟩
  · rw [show run { strict := true } = _ from hstrict]
    rfl
  · rw [show run { strict := true, skip := true } = _ from hskip]
    rfl

end Project

end DocAudit
