import DocAudit.Command.Coverage
import Mathlib

/-!
# Questions to git

What an inquiry asks git and what it makes of the answers, for every git. A base revision is given or looked for
among candidates, and then git is asked for the files that differ from it, a second time in another way when
the first answer is a failure. No failure is taken for an answer.

## Contents

* `Inquiry.Gives`: the questions and the result of an inquiry, wherever it starts
* `Inquiry.Probes`, `Inquiry.Chooses`: **how a base revision is found**
* `Inquiry.Diffs`: **how the files are found that differ from a base revision**
* `Inquiry.Conducts`, `Inquiry.exists_conducts`: the whole inquiry
* `Inquiry.Consults`: a command that reports on the files that an inquiry finds
* `Project.consults_runNewCode_runChanges`: **the commands on changes are such commands**
-/

namespace DocAudit

open Text

namespace Inquiry

/-! ## Questions and results -/

variable {α β : Type} {git : Git}

/-- The inquiry asks these questions, after any others, and has this result. -/
def Gives (q : Inquiry α) (asked : List (List Text)) (r : Except GitFault α) : Prop :=
  ∀ before, StateT.run (ExceptT.run q) before = (r, before ++ asked)

theorem Gives.run_eq {q : Inquiry α} {asked : List (List Text)} {r : Except GitFault α} (h : q.Gives asked r) :
    q.run = (r, asked) :=
  h []

theorem gives_pure (a : α) : Gives (pure a) [] (.ok a) := fun before => by
  rw [List.append_nil]
  rfl

theorem gives_throw (fault : GitFault) : Gives (throw fault : Inquiry α) [] (.error fault) := fun before => by
  rw [List.append_nil]
  rfl

/-- What is asked after a result. -/
theorem Gives.bind {q : Inquiry α} {f : α → Inquiry β} {asked asked' : List (List Text)} {a : α}
    {r : Except GitFault β} (h : q.Gives asked (.ok a)) (h' : (f a).Gives asked' r) :
    (q >>= f).Gives (asked ++ asked') r := fun before => by
  rw [ExceptT.run_bind, StateT.run_bind, h before, ← List.append_assoc]
  exact h' (before ++ asked)

/-- Nothing is asked after a fault. -/
theorem Gives.bind_error {q : Inquiry α} {f : α → Inquiry β} {asked : List (List Text)} {fault : GitFault}
    (h : q.Gives asked (.error fault)) : (q >>= f).Gives asked (.error fault) := fun before => by
  rw [ExceptT.run_bind, StateT.run_bind, h before]
  rfl

/-- One question. -/
theorem gives_ask (git : Git) (question : List Text) :
    (ask git question).Gives [question] ((git question).mapError .notRun) := fun before => by
  unfold ask
  cases git question <;> rfl

/-- A question that git answers, and what is asked then. -/
theorem gives_ask_bind {f : GitAnswer → Inquiry α} {question : List Text} {answer : GitAnswer}
    {asked : List (List Text)} {r : Except GitFault α} (h : git question = .ok answer)
    (h' : (f answer).Gives asked r) : (ask git question >>= f).Gives (question :: asked) r := by
  have hask := gives_ask git question
  rw [h] at hask
  exact hask.bind h'

/-- A question for which git cannot be run is the last one. -/
theorem gives_ask_bind_error {f : GitAnswer → Inquiry α} {question : List Text} {reason : Text}
    (h : git question = .error reason) : (ask git question >>= f).Gives [question] (.error (.notRun reason)) := by
  have hask := gives_ask git question
  rw [h] at hask
  exact hask.bind_error

/-- Git answers with the exit code 0. -/
def Accepts (git : Git) (question : List Text) : Prop := ∃ answer, git question = .ok answer ∧ answer.code = 0

/-- Git answers with another exit code. -/
def Refuses (git : Git) (question : List Text) : Prop := ∃ answer, git question = .ok answer ∧ answer.code ≠ 0

theorem answer_cases (git : Git) (question : List Text) :
    Accepts git question ∨ Refuses git question ∨ ∃ reason, git question = .error reason := by
  cases h : git question with
  | error reason => exact .inr (.inr ⟨reason, rfl⟩)
  | ok answer =>
    by_cases hcode : answer.code = 0
    · exact .inl ⟨answer, h, hcode⟩
    · exact .inr (.inl ⟨answer, h, hcode⟩)

/-- Where git answers, it could be run. -/
theorem ne_error {question : List Text} {P : GitAnswer → Prop}
    (h : ∃ answer, git question = .ok answer ∧ P answer) (reason : Text) : git question ≠ .error reason := by
  obtain ⟨answer, hanswer, -⟩ := h
  rw [hanswer]
  exact fun h => by cases h

theorem Refuses.code_ne_zero {question : List Text} {answer : GitAnswer} (h : Refuses git question)
    (hanswer : git question = .ok answer) : answer.code ≠ 0 := by
  obtain ⟨answer', hanswer', hcode⟩ := h
  rw [hanswer] at hanswer'
  cases hanswer'
  exact hcode

/-! ## The base revision -/

/-- The question whether there is a revision. -/
def verifying (ref : Text) : List Text := ["rev-parse".toList, "--verify".toList, "--quiet".toList, ref]

/-- Candidates are tried in their order, up to the first one that there is. -/
inductive Probes (git : Git) : List Text → List (List Text) → Except GitFault Text → Prop
  | found {tried rest : List Text} {ref : Text} (hrefused : ∀ t ∈ tried, Refuses git (verifying t))
    (hfound : Accepts git (verifying ref)) :
    Probes git (tried ++ ref :: rest) ((tried ++ [ref]).map verifying) (.ok ref)
  | notRun {tried rest : List Text} {ref reason : Text} (hrefused : ∀ t ∈ tried, Refuses git (verifying t))
    (hfault : git (verifying ref) = .error reason) :
    Probes git (tried ++ ref :: rest) ((tried ++ [ref]).map verifying) (.error (.notRun reason))
  | noBase {candidates : List Text} (hrefused : ∀ t ∈ candidates, Refuses git (verifying t)) :
    Probes git candidates (candidates.map verifying) (.error .noBase)

/-- One more candidate in front that there is not. -/
theorem Probes.cons {candidates : List Text} {asked : List (List Text)} {r : Except GitFault Text}
    (h : Probes git candidates asked r) {ref : Text} (href : Refuses git (verifying ref)) :
    Probes git (ref :: candidates) (verifying ref :: asked) r := by
  cases h with
  | @found tried rest _ hrefused hfound =>
    exact @Probes.found git (ref :: tried) rest _ (List.forall_mem_cons.mpr ⟨href, hrefused⟩) hfound
  | @notRun tried rest _ _ hrefused hfault =>
    exact @Probes.notRun git (ref :: tried) rest _ _ (List.forall_mem_cons.mpr ⟨href, hrefused⟩) hfault
  | noBase hrefused => exact .noBase (List.forall_mem_cons.mpr ⟨href, hrefused⟩)

/-- Candidates are tried in their order. -/
theorem Probes.prefix_candidates {candidates : List Text} {asked : List (List Text)} {r : Except GitFault Text}
    (h : Probes git candidates asked r) : asked <+: candidates.map verifying := by
  have hbegins : ∀ (tried rest : List Text) (ref : Text),
      (tried ++ [ref]).map verifying <+: (tried ++ ref :: rest).map verifying := by
    intro tried rest ref
    have hbegin : tried ++ [ref] <+: tried ++ ref :: rest := ⟨rest, by rw [List.append_assoc]; rfl⟩
    exact hbegin.map verifying
  cases h with
  | found => exact hbegins ..
  | notRun => exact hbegins ..
  | noBase => exact List.prefix_refl _

/-- A probe for which git cannot be run is the last one. -/
theorem Probes.eq_notRun {candidates : List Text} {asked : List (List Text)} {r : Except GitFault Text}
    (h : Probes git candidates asked r) {question : List Text} (hquestion : question ∈ asked) {reason : Text}
    (hfault : git question = .error reason) : r = .error (.notRun reason) := by
  cases h with
  | found hrefused hfound =>
    obtain ⟨t, ht, rfl⟩ := List.mem_map.mp hquestion
    rcases List.mem_append.mp ht with ht | ht
    · exact absurd hfault (ne_error (hrefused t ht) reason)
    · rw [List.mem_singleton.mp ht] at hfault
      exact absurd hfault (ne_error hfound reason)
  | notRun hrefused href =>
    obtain ⟨t, ht, rfl⟩ := List.mem_map.mp hquestion
    rcases List.mem_append.mp ht with ht | ht
    · exact absurd hfault (ne_error (hrefused t ht) reason)
    · rw [List.mem_singleton.mp ht, href] at hfault
      rw [Except.error.inj hfault]
  | noBase hrefused =>
    obtain ⟨t, ht, rfl⟩ := List.mem_map.mp hquestion
    exact absurd hfault (ne_error (hrefused t ht) reason)

theorem gives_refExists {ref : Text} {answer : GitAnswer} (h : git (verifying ref) = .ok answer) :
    (refExists git ref).Gives [verifying ref] (.ok (answer.code == 0)) :=
  gives_ask_bind h (gives_pure _)

theorem gives_refExists_error {ref reason : Text} (h : git (verifying ref) = .error reason) :
    (refExists git ref).Gives [verifying ref] (.error (.notRun reason)) :=
  gives_ask_bind_error h

/-- **The first candidate that there is is found by trying one after the other.** -/
theorem exists_probes (git : Git) (candidates : List Text) :
    ∃ asked r, (firstRef git candidates).Gives asked r ∧ Probes git candidates asked r := by
  induction candidates with
  | nil => exact ⟨[], _, gives_throw .noBase, @Probes.noBase git [] fun t ht => absurd ht List.not_mem_nil⟩
  | cons ref rest ih =>
    have hnone : ∀ t ∈ ([] : List Text), Refuses git (verifying t) := fun t ht => absurd ht List.not_mem_nil
    rcases answer_cases git (verifying ref) with
      ⟨answer, hanswer, hcode⟩ | ⟨answer, hanswer, hcode⟩ | ⟨reason, hfault⟩
    · have hthere := gives_refExists hanswer
      rw [beq_iff_eq.mpr hcode] at hthere
      exact ⟨_, _, hthere.bind (gives_pure ref), @Probes.found git [] rest ref hnone ⟨answer, hanswer, hcode⟩⟩
    · have hthere := gives_refExists hanswer
      rw [beq_eq_false_iff_ne.mpr hcode] at hthere
      obtain ⟨asked, r, hrest, hprobes⟩ := ih
      exact ⟨_, r, hthere.bind hrest, hprobes.cons ⟨answer, hanswer, hcode⟩⟩
    · exact ⟨_, _, (gives_refExists_error hfault).bind_error, @Probes.notRun git [] rest ref _ hnone hfault⟩

/-- A base that is given is taken without a question, and otherwise one is looked for. -/
inductive Chooses (git : Git) : Option Text → List (List Text) → Except GitFault Text → Prop
  | given {ref : Text} (hne : ref ≠ []) : Chooses git (some ref) [] (.ok ref)
  | probed {base : Option Text} {asked : List (List Text)} {r : Except GitFault Text}
    (hbase : base = none ∨ base = some []) (h : Probes git baseCandidates asked r) : Chooses git base asked r

theorem exists_chooses (git : Git) (base : Option Text) :
    ∃ asked r, (baseRef git base).Gives asked r ∧ Chooses git base asked r := by
  obtain ⟨asked, r, hgives, hprobes⟩ := exists_probes git baseCandidates
  match base with
  | none => exact ⟨asked, r, hgives, .probed (.inl rfl) hprobes⟩
  | some [] => exact ⟨asked, r, hgives, .probed (.inr rfl) hprobes⟩
  | some (c :: ref) => exact ⟨[], _, gives_pure (c :: ref), .given (List.cons_ne_nil c ref)⟩

/-! ## The files that differ -/

/-- The question for the names of the files that differ. -/
def diffing (options : List Text) (range : Text) : List Text :=
  ["diff".toList, "--name-only".toList] ++ options ++ [range]

/-- The commits since a revision. -/
def commitsSince (ref : Text) : Text := ref ++ "..HEAD".toList

/-- Git is asked for the commits since the base, and about the working tree only when that fails. The names are
taken from the answer that is no failure. -/
inductive Diffs (git : Git) (options : List Text) (ref : Text) :
    List (List Text) → Except GitFault (List Text) → Prop
  | commits {answer : GitAnswer} (h : git (diffing options (commitsSince ref)) = .ok answer)
    (hcode : answer.code = 0) :
    Diffs git options ref [diffing options (commitsSince ref)] (.ok (namesIn answer.stdout))
  | worktree {answer : GitAnswer} (hrefused : Refuses git (diffing options (commitsSince ref)))
    (h : git (diffing options ref) = .ok answer) (hcode : answer.code = 0) :
    Diffs git options ref [diffing options (commitsSince ref), diffing options ref]
      (.ok (namesIn answer.stdout))
  | failed {answer : GitAnswer} (hrefused : Refuses git (diffing options (commitsSince ref)))
    (h : git (diffing options ref) = .ok answer) (hcode : answer.code ≠ 0) :
    Diffs git options ref [diffing options (commitsSince ref), diffing options ref]
      (.error (.diffFailed answer.stderr))
  | notRun {reason : Text} (h : git (diffing options (commitsSince ref)) = .error reason) :
    Diffs git options ref [diffing options (commitsSince ref)] (.error (.notRun reason))
  | notRunAgain {reason : Text} (hrefused : Refuses git (diffing options (commitsSince ref)))
    (h : git (diffing options ref) = .error reason) :
    Diffs git options ref [diffing options (commitsSince ref), diffing options ref]
      (.error (.notRun reason))

/-- **The names of the files come from an answer that is no failure.** -/
theorem exists_diffs (git : Git) (options : List Text) (ref : Text) :
    ∃ asked r, (diff git options ref).Gives asked r ∧ Diffs git options ref asked r := by
  unfold diff
  rcases answer_cases git (diffing options (commitsSince ref)) with
    ⟨answer, hanswer, hcode⟩ | ⟨answer, hanswer, hcode⟩ | ⟨reason, hfault⟩
  · refine ⟨_, _, gives_ask_bind hanswer ?_, .commits hanswer hcode⟩
    rw [if_pos (beq_iff_eq.mpr hcode)]
    exact gives_pure _
  · have hrefused : Refuses git (diffing options (commitsSince ref)) := ⟨answer, hanswer, hcode⟩
    have hagain : ∀ asked r, ((do
        let answer ← ask git (diffing options ref)
        if answer.code == 0 then return namesIn answer.stdout
        throw (.diffFailed answer.stderr)) : Inquiry (List Text)).Gives asked r →
        (diff git options ref).Gives (diffing options (commitsSince ref) :: asked) r := by
      intro asked r h
      refine gives_ask_bind hanswer ?_
      rw [if_neg (mt beq_iff_eq.mp hcode)]
      exact h
    rcases answer_cases git (diffing options ref) with
      ⟨answer, hanswer, hcode⟩ | ⟨answer, hanswer, hcode⟩ | ⟨reason, hfault⟩
    · refine ⟨_, _, hagain _ _ (gives_ask_bind hanswer ?_), .worktree hrefused hanswer hcode⟩
      rw [if_pos (beq_iff_eq.mpr hcode)]
      exact gives_pure _
    · refine ⟨_, _, hagain _ _ (gives_ask_bind hanswer ?_), .failed hrefused hanswer hcode⟩
      rw [if_neg (mt beq_iff_eq.mp hcode)]
      exact gives_throw _
    · exact ⟨_, _, hagain _ _ (gives_ask_bind_error hfault), .notRunAgain hrefused hfault⟩
  · exact ⟨_, _, gives_ask_bind_error hfault, .notRun hfault⟩

/-- A question about files for which git cannot be run is the last one. -/
theorem Diffs.eq_notRun {options : List Text} {ref : Text} {asked : List (List Text)}
    {r : Except GitFault (List Text)} (h : Diffs git options ref asked r) {question : List Text}
    (hquestion : question ∈ asked) {reason : Text} (hfault : git question = .error reason) :
    r = .error (.notRun reason) := by
  cases h with
  | commits h hcode =>
    rw [List.mem_singleton.mp hquestion, h] at hfault
    cases hfault
  | worktree hrefused h hcode =>
    rcases List.mem_pair.mp hquestion with rfl | rfl
    · exact absurd hfault (ne_error hrefused reason)
    · rw [h] at hfault
      cases hfault
  | failed hrefused h hcode =>
    rcases List.mem_pair.mp hquestion with rfl | rfl
    · exact absurd hfault (ne_error hrefused reason)
    · rw [h] at hfault
      cases hfault
  | notRun h =>
    rw [List.mem_singleton.mp hquestion, h] at hfault
    rw [Except.error.inj hfault]
  | notRunAgain hrefused h =>
    rcases List.mem_pair.mp hquestion with rfl | rfl
    · exact absurd hfault (ne_error hrefused reason)
    · rw [h] at hfault
      rw [Except.error.inj hfault]

/-- The names are those of the last answer, and this one is no failure. -/
theorem Diffs.exists_answer {options : List Text} {ref : Text} {asked : List (List Text)} {files : List Text}
    (h : Diffs git options ref asked (.ok files)) :
    ∃ question answer, asked.getLast? = some question ∧ git question = .ok answer ∧ answer.code = 0 ∧
      files = namesIn answer.stdout := by
  cases h with
  | commits h hcode => exact ⟨_, _, rfl, h, hcode, rfl⟩
  | worktree hrefused h hcode => exact ⟨_, _, rfl, h, hcode, rfl⟩

/-- There are no names when every answer is a failure. -/
theorem Diffs.exists_error {options : List Text} {ref : Text} {asked : List (List Text)}
    {r : Except GitFault (List Text)} (h : Diffs git options ref asked r)
    (hrefused : ∀ question ∈ asked, Refuses git question) : ∃ output, r = .error (.diffFailed output) := by
  cases h with
  | commits h hcode => exact absurd hcode ((hrefused _ (by simp)).code_ne_zero h)
  | worktree _ h hcode => exact absurd hcode ((hrefused _ (by simp)).code_ne_zero h)
  | failed => exact ⟨_, rfl⟩
  | notRun h => exact absurd h (ne_error (hrefused _ (by simp)) _)
  | notRunAgain _ h => exact absurd h (ne_error (hrefused _ (by simp)) _)

/-! ## The whole inquiry -/

/-- A base revision, and the files that differ from it. -/
def since (git : Git) (options : List Text) (base : Option Text) : Inquiry (Text × List Text) := do
  let ref ← baseRef git base
  return (ref, ← diff git options ref)

/-- Git is asked for the files when there is a base revision, and otherwise for nothing more. -/
inductive Conducts (git : Git) (options : List Text) (base : Option Text) :
    List (List Text) → List (List Text) → Except GitFault (Text × List Text) → Prop
  | unbased {probes : List (List Text)} {fault : GitFault} (h : Chooses git base probes (.error fault)) :
    Conducts git options base probes [] (.error fault)
  | based {probes diffs : List (List Text)} {ref : Text} {r : Except GitFault (List Text)}
    (h : Chooses git base probes (.ok ref)) (hdiffs : Diffs git options ref diffs r) :
    Conducts git options base probes diffs (r.map (ref, ·))

theorem exists_conducts (git : Git) (options : List Text) (base : Option Text) :
    ∃ probes diffs r, (since git options base).Gives (probes ++ diffs) r ∧
      Conducts git options base probes diffs r := by
  obtain ⟨probes, chosen, hbase, hchooses⟩ := exists_chooses git base
  cases chosen with
  | error fault =>
    refine ⟨probes, [], _, ?_, .unbased hchooses⟩
    rw [List.append_nil]
    exact hbase.bind_error
  | ok ref =>
    obtain ⟨diffs, r, hdiff, hdiffs⟩ := exists_diffs git options ref
    refine ⟨probes, diffs, _, hbase.bind ?_, .based hchooses hdiffs⟩
    cases r with
    | error fault => exact hdiff.bind_error
    | ok files =>
      rw [← List.append_nil diffs]
      exact hdiff.bind (gives_pure (ref, files))

/-- One candidate is missing and there are no commits since the second one. -/
example :
    let git : Git := fun question =>
      if question = verifying "origin/master".toList ∨ question = diffing [] "origin/master".toList then
        .ok { stdout := " a.py \n\nb.py\n".toList }
      else .ok { code := 1 }
    (since git [] none).run =
      (.ok ("origin/master".toList, ["a.py".toList, "b.py".toList]),
        [verifying "origin/main".toList, verifying "origin/master".toList,
          diffing [] (commitsSince "origin/master".toList), diffing [] "origin/master".toList]) := by
  decide +kernel

namespace Conducts

variable {options : List Text} {base : Option Text} {probes diffs : List (List Text)}
  {r : Except GitFault (Text × List Text)}

/-- Git is asked for the files at most twice. -/
theorem length_le (h : Conducts git options base probes diffs r) : diffs.length ≤ 2 := by
  cases h with
  | unbased h => exact Nat.zero_le 2
  | based h hdiffs => cases hdiffs <;> simp

/-- A base that is given is used without a probe. -/
theorem given {ref : Text} (h : Conducts git options (some ref) probes diffs r) (hne : ref ≠ []) :
    probes = [] ∧ diffs.head? = some (diffing options (commitsSince ref)) := by
  have hchosen : ∀ {chosen : Except GitFault Text}, Chooses git (some ref) probes chosen →
      probes = [] ∧ chosen = .ok ref := by
    intro chosen hchooses
    cases hchooses with
    | given => exact ⟨rfl, rfl⟩
    | probed hbase => simp [hne] at hbase
  cases h with
  | unbased h => cases (hchosen h).2
  | based h hdiffs =>
    obtain ⟨hprobes, hbase⟩ := hchosen h
    cases hbase
    refine ⟨hprobes, ?_⟩
    cases hdiffs <;> rfl

/-- The candidates are probed in their order. -/
theorem prefix_candidates (h : Conducts git options base probes diffs r) :
    probes <+: baseCandidates.map verifying := by
  have hchosen : ∀ {chosen : Except GitFault Text}, Chooses git base probes chosen →
      probes <+: baseCandidates.map verifying := by
    intro chosen hchooses
    cases hchooses with
    | given => exact List.nil_prefix
    | probed _ hprobes => exact hprobes.prefix_candidates
  cases h with
  | unbased h => exact hchosen h
  | based h => exact hchosen h

/-- The names are those of the last answer, and this one is no failure. -/
theorem exists_answer (h : Conducts git options base probes diffs r) {ref : Text} {files : List Text}
    (hr : r = .ok (ref, files)) :
    ∃ question answer, diffs.getLast? = some question ∧ git question = .ok answer ∧ answer.code = 0 ∧
      files = namesIn answer.stdout := by
  cases h with
  | unbased h => cases hr
  | @based _ _ names h hdiffs =>
    cases names with
    | error fault => cases hr
    | ok names =>
      cases hr
      exact hdiffs.exists_answer

/-- A question for which git cannot be run makes the inquiry fail. -/
theorem eq_notRun (h : Conducts git options base probes diffs r) {question : List Text}
    (hquestion : question ∈ probes ++ diffs) {reason : Text} (hfault : git question = .error reason) :
    r = .error (.notRun reason) := by
  have hprobed : ∀ {chosen : Except GitFault Text}, Chooses git base probes chosen → question ∈ probes →
      chosen = .error (.notRun reason) := by
    intro chosen hchooses hmem
    cases hchooses with
    | given => cases hmem
    | probed _ hprobes => exact hprobes.eq_notRun hmem hfault
  rcases List.mem_append.mp hquestion with hmem | hmem
  · cases h with
    | unbased h => cases hprobed h hmem; rfl
    | based h => cases hprobed h hmem
  · cases h with
    | unbased h => cases hmem
    | based h hdiffs =>
      rw [hdiffs.eq_notRun hmem hfault]
      rfl

/-- There are no files when every answer about them is a failure. -/
theorem exists_error (h : Conducts git options base probes diffs r)
    (hrefused : ∀ question ∈ diffs, Refuses git question) : ∃ fault, r = .error fault := by
  cases h with
  | unbased h => exact ⟨_, rfl⟩
  | based h hdiffs =>
    obtain ⟨output, hr⟩ := hdiffs.exists_error hrefused
    exact ⟨.diffFailed output, by rw [hr]; rfl⟩

end Conducts

/-! ## Commands that report on the files -/

/-- A command asks an inquiry for a base revision and files, and reports on these. When the inquiry fails, so
does the command; when the command comes to an end, it has reported on the names in an answer that is no
failure. -/
structure Consults (git : Git) (options : List Text) (base : Option Text) (command : Outcome α)
    (report : Text → List Text → Outcome α) (probes diffs : List (List Text))
    (r : Except GitFault (Text × List Text)) : Prop where
  asked : (since git options base).run = (r, probes ++ diffs)
  conducts : Conducts git options base probes diffs r
  reports : command = (r.mapError Failure.git).bind fun (ref, files) => report ref files
  /-- A base that is given is used without a probe. -/
  given : ∀ ref, base = some ref → ref ≠ [] →
    probes = [] ∧ diffs.head? = some (diffing options (commitsSince ref))
  inOrder : probes <+: baseCandidates.map verifying
  atMostTwo : diffs.length ≤ 2
  /-- Where git cannot be run the command fails. -/
  notRun : ∀ question ∈ probes ++ diffs, ∀ reason, git question = .error reason →
    command = .error (.git (.notRun reason))
  /-- Where every answer is a failure, or git was not asked for files, the command fails. -/
  refused : (∀ question ∈ diffs, Refuses git question) → ∃ fault, command = .error (.git fault)
  recorded : ∀ result, command = .ok result → ∃ ref question answer, diffs.getLast? = some question ∧
    git question = .ok answer ∧ answer.code = 0 ∧ report ref (namesIn answer.stdout) = .ok result

/-- Such a command consults git. -/
theorem exists_consults {options : List Text} {base : Option Text} {command : Outcome α}
    {report : Text → List Text → Outcome α}
    (h : command = (Project.ask (since git options base)).bind fun (ref, files) => report ref files) :
    ∃ probes diffs r, Consults git options base command report probes diffs r := by
  obtain ⟨probes, diffs, r, hgives, hconducts⟩ := exists_conducts git options base
  have hcommand : command = (r.mapError Failure.git).bind fun (ref, files) => report ref files := by
    rw [h, Project.ask, hgives.run_eq]
  refine ⟨probes, diffs, r, hgives.run_eq, hconducts, hcommand, ?_, hconducts.prefix_candidates,
    hconducts.length_le, ?_, ?_, ?_⟩
  · rintro ref rfl hne
    exact hconducts.given hne
  · intro question hquestion reason hfault
    rw [hcommand, hconducts.eq_notRun hquestion hfault]
    rfl
  · intro hrefused
    obtain ⟨fault, hr⟩ := hconducts.exists_error hrefused
    exact ⟨fault, by rw [hcommand, hr]; rfl⟩
  · intro result hresult
    rw [hcommand] at hresult
    match r, hconducts with
    | .error fault, _ => cases hresult
    | .ok (ref, files), hconducts =>
      obtain ⟨question, answer, hlast, hanswer, hcode, rfl⟩ := hconducts.exists_answer rfl
      exact ⟨ref, question, answer, hlast, hanswer, hcode, hresult⟩

end Inquiry

namespace Project

variable (p : Project)

/-- The report on the files that were added since a base revision. -/
def newCodeSince (f : FileFilter) (baseRef : Text) (added : List Text) : Outcome (NewCodeSummary × Nat) := do
  let r := NewCodeReport.analyze (← p.mappings) added (p.widened f)
  let report : NewCodeSummary := {
    baseRef
    newFiles := r.newFiles.length
    newCodeFiles := r.codeFiles.length
    covered := r.covered.length
    uncovered := r.uncovered.length
    uncoveredFiles := uncoveredEntries r.uncovered
    allCovered := r.uncovered.isEmpty }
  return (report, if r.uncovered.isEmpty then 0 else 1)

/-- The report on the documents that changed files are about. -/
def changesSince (strict : Bool) (baseRef : Text) (changed : List Text) : Outcome (ChangeReport × Nat) := do
  let impacted := impactedDocs (← p.mappings) changed
  let missing := (impacted.filter (!·.updated)).map (·.doc)
  let report : ChangeReport := {
    baseRef
    changedFiles := changed.length
    impacted := impacted.map fun d =>
      { doc := d.doc, title := d.title, matched := d.matched, updated := d.updated }
    missing }
  return (report, if strict && !missing.isEmpty then 1 else 0)

/--
**The commands on changes never take a failure of git for an answer.**

For every git, the coverage of new code and the report on changes take a base that is given, and otherwise probe
the candidates up to the first one that there is. Then they ask for the files, a second time only when the first
answer is a failure, and report on the names in the last answer, which is no failure. In every other case they
fail.
-/
theorem consults_runNewCode_runChanges (git : Git) (base : Option Text) (f : FileFilter) (strict : Bool) :
    (∃ probes diffs r, Inquiry.Consults git ["--diff-filter=A".toList] base (p.runNewCode git base f)
      (p.newCodeSince f) probes diffs r) ∧
    ∃ probes diffs r, Inquiry.Consults git [] base (p.runChanges git base strict)
      (p.changesSince strict) probes diffs r :=
  ⟨Inquiry.exists_consults rfl, Inquiry.exists_consults rfl⟩

end Project

end DocAudit
