import DocAudit.Command.Verify
import DocAudit.Proofs.Command.Verdicts
import DocAudit.Proofs.Outcome
import DocAudit.Proofs.Report.Notes
import DocAudit.Proofs.Text.Joined
import DocAudit.Proofs.Verification.Stopping
import Mathlib

/-!
# The tally of a verification run

What became of the commands is told in four places: the counts of the report, the status of each document,
the annotations and the exit code. They are worked out apart from each other and agree.

## Contents

* `Status.rank_foldl_stronger`, `SpecResult.rank_status`: the status of a document in any order of its commands
* `VerifyReport.commands`: the commands of all documents
* `VerifyReport.Tallies`: counts that agree with the commands
* `SumsUp`: an entry of a document that agrees with its commands
* `IsNoteOn`, `VerifyReport.Annotates`: annotations that agree with the commands
* `Project.verifyReport_agrees`: **the counts, the statuses, the annotations and the exit code agree**
-/

namespace DocAudit

open Text Report

namespace Status

theorem name_inj {a b : Status} : a.name = b.name ↔ a = b := by
  cases a <;> cases b <;> decide

theorem rank_stronger (a b : Status) : (stronger a b).rank = max a.rank b.rank := by
  cases a <;> cases b <;> rfl

/-- The rank of the strongest status is the greatest rank. -/
theorem rank_foldl_stronger (statuses : List Status) (s : Status) :
    (statuses.foldl stronger s).rank = max s.rank ((statuses.map rank).foldr max 0) := by
  induction statuses generalizing s with
  | nil => exact (Nat.max_zero _).symm
  | cons t statuses ih => rw [List.foldl_cons, ih, rank_stronger, List.map_cons, List.foldr_cons, Nat.max_assoc]

/-- Every status that is not skipped passes, warns or fails. -/
theorem countP_executed (statuses : List Status) :
    statuses.countP (· != .skipped) =
      statuses.count .pass + statuses.count .warn + statuses.countP (·.failed) := by
  induction statuses with
  | nil => rfl
  | cons s statuses ih =>
    simp only [List.countP_cons, List.count_cons, ih]
    cases s <;> simp [failed] <;> omega

theorem countP_executed_add_skipped (statuses : List Status) :
    statuses.countP (· != .skipped) + statuses.count .skipped = statuses.length := by
  rw [List.length_eq_countP_add_countP (· != Status.skipped), List.count_eq_countP]
  exact congrArg _ (List.countP_congr fun s _ => by simp)

end Status

/-- The rank of a document is the greatest rank of its commands. -/
theorem SpecResult.rank_status (o : SpecResult) :
    o.status.rank = (o.results.map (·.status.rank)).foldr max 0 := by
  rw [status, Status.strongest, Status.rank_foldl_stronger, List.map_map]
  exact Nat.zero_max _

/-- The order of the commands does not matter. -/
theorem SpecResult.rank_status_perm {o o' : SpecResult} (h : o'.results.Perm o.results) :
    o'.status.rank = o.status.rank := by
  rw [rank_status, rank_status]
  exact (h.map _).foldr_eq 0

theorem workflowNote_eq (level message file : Text) (line : Int) :
    workflowNote level message (some file) (some line) =
      "::".toList ++ level ++ (" file=".toList ++ file ++ (",line=".toList ++ ofInt line)) ++ "::".toList ++
        escaped message := by
  simp [workflowNote, joinWith]

namespace VerifyReport

/-- The commands of all documents, each with its document. -/
def commands (r : VerifyReport) : List (DocumentEntry × CommandEntry) :=
  r.documents.flatMap fun d => d.commands.map (d, ·)

/-- The counts of a report are those of its documents and commands. -/
structure Tallies (r : VerifyReport) : Prop where
  documents : r.documentsVerified = r.documents.length
  passed : r.passed = r.commands.countP (·.2.status == Status.pass.name)
  warned : r.warned = r.commands.countP (·.2.status == Status.warn.name)
  failed : r.failed = r.commands.countP (·.2.hasFailed)
  skipped : r.skipped = r.commands.countP (·.2.status == Status.skipped.name)
  executed : r.executed = r.passed + r.warned + r.failed
  total : r.executed + r.skipped = ((r.documents.map (·.commands.length)).sum : Nat)

end VerifyReport

/-- The entry of a document has a status for each of its results, and the status of the document is the
strongest one. -/
structure SumsUp (o : SpecResult) (d : DocumentEntry) : Prop where
  commands : d.commands.map (·.status) = o.results.map (·.status.name)
  status : d.status = o.status.name
  failed : d.status = Status.fail.name ∨ d.status = Status.timeout.name ↔
    ∃ c ∈ d.commands, c.status = Status.fail.name ∨ c.status = Status.timeout.name
  rank : o.status.rank = (o.results.map (·.status.rank)).foldr max 0
  /-- The order of the commands does not matter. -/
  anyOrder : ∀ o' : SpecResult, o'.results.Perm o.results → o'.status.rank = o.status.rank

/-- The annotation on a command: an error where it failed, and a warning where its output differs. -/
inductive IsNoteOn (d : DocumentEntry) (c : CommandEntry) : Text → Prop
  | error (h : c.status = Status.fail.name ∨ c.status = Status.timeout.name) :
    IsNoteOn d c (errorNote ("verification ".toList ++ c.status ++ ": ".toList ++ c.command) d.file d.line)
  | warning (h : c.status = Status.warn.name) :
    IsNoteOn d c (warningNote ("output mismatch: ".toList ++ c.command) d.file d.line)

/-- There is an annotation on the command. -/
def CommandEntry.isNoted (c : CommandEntry) : Bool := c.hasFailed || c.status == Status.warn.name

/-- The annotations of a report are those on its commands, in their order: one error for each failed command
and one warning for each that warned. -/
structure VerifyReport.Annotates (r : VerifyReport) (notes : List Text) : Prop where
  joined : r.annotations = unlines notes
  inOrder : List.Forall₂ (fun c note => IsNoteOn c.1 c.2 note) (r.commands.filter (·.2.isNoted)) notes
  errors : notes.countP ("::error ".toList.isPrefixOf ·) = r.failed
  warnings : notes.countP ("::warning ".toList.isPrefixOf ·) = r.warned
  others : notes.length = r.failed + r.warned
  /-- They are the lines of the text. -/
  lines : notes ≠ [] → (∀ d ∈ r.documents, '\n' ∉ d.file) → splitAt '\n' r.annotations = notes

namespace CommandEntry

variable {d : DocumentEntry} {c : CommandEntry}

theorem hasFailed_iff : c.hasFailed = true ↔ c.status = Status.fail.name ∨ c.status = Status.timeout.name := by
  unfold hasFailed
  rw [Bool.or_eq_true, beq_iff_eq, beq_iff_eq]
  rfl

/-- A command of which there is an annotation. -/
theorem isNoteOn_of_note? {note : Text} (h : note? d c = some note) : IsNoteOn d c note := by
  unfold note? at h
  split at h
  · next hfailed =>
    cases h
    exact .error (hasFailed_iff.mp hfailed)
  · split at h
    · next hwarned =>
      cases h
      exact .warning (eq_of_beq hwarned)
    · cases h

/-- There is one exactly when the command failed or warned. -/
theorem isSome_note? : (note? d c).isSome = c.isNoted := by
  unfold note?
  split
  · next hfailed =>
    unfold isNoted
    rw [hfailed]
    rfl
  · next hfailed =>
    have hnoted : c.isNoted = (c.status == Status.warn.name) := by
      unfold isNoted
      rw [Bool.eq_false_iff.mpr hfailed, Bool.false_or]
    rw [hnoted]
    split
    · next hwarned => exact hwarned.symm
    · next hwarned => exact (Bool.eq_false_iff.mpr hwarned).symm

end CommandEntry

namespace IsNoteOn

variable {d : DocumentEntry} {c : CommandEntry} {note : Text}

/-- An annotation begins with its level. -/
theorem level_prefix (level message file : Text) (line : Int) :
    ("::".toList ++ level ++ [' ']) <+: workflowNote level message (some file) (some line) :=
  ⟨"file=".toList ++ file ++ (",line=".toList ++ ofInt line) ++ "::".toList ++ escaped message, by
    rw [workflowNote_eq]
    simp⟩

/-- It begins as an error exactly when the command failed. -/
theorem isError (h : IsNoteOn d c note) : "::error ".toList.isPrefixOf note = c.hasFailed := by
  cases h with
  | error h =>
    rw [CommandEntry.hasFailed_iff.mpr h, List.isPrefixOf_iff_prefix]
    exact level_prefix "error".toList ..
  | warning h =>
    have hfailed : c.hasFailed = false := by
      unfold CommandEntry.hasFailed
      rw [h]
      rfl
    rw [hfailed]
    rfl

/-- It begins as a warning exactly when the command warned. -/
theorem isWarning (h : IsNoteOn d c note) :
    "::warning ".toList.isPrefixOf note = (c.status == Status.warn.name) := by
  cases h with
  | error h =>
    have hwarned : (c.status == Status.warn.name) = false := by
      rcases h with h | h
      · rw [h]; rfl
      · rw [h]; rfl
    rw [hwarned]
    rfl
  | warning h =>
    rw [beq_iff_eq.mpr h, List.isPrefixOf_iff_prefix]
    exact level_prefix "warning".toList ..

/-- It is one line when the name of the file is. -/
theorem newline_not_mem (h : IsNoteOn d c note) (hfile : '\n' ∉ d.file) : '\n' ∉ note := by
  have hnote : ∀ level message : Text, '\n' ∉ level → '\n' ∉ workflowNote level message d.file d.line := by
    intro level message hlevel hmem
    obtain ⟨f, hf, hline⟩ := (mem_workflowNote_iff (.inr rfl) hlevel _ _ _).mp hmem
    cases hf
    exact hfile hline
  cases h with
  | error => exact hnote _ _ (by decide)
  | warning => exact hnote _ _ (by decide)

end IsNoteOn

/-! ## What is counted -/

/-- Lists whose members agree are counted alike. -/
theorem countP_eq_of_forall₂ {α β : Type} {f : α → Bool} {g : β → Bool} {as : List α} {bs : List β}
    (h : List.Forall₂ (fun a b => g b = f a) as bs) : bs.countP g = as.countP f := by
  induction h with
  | nil => rfl
  | cons hab _ ih => rw [List.countP_cons, List.countP_cons, hab, ih]

/-- What a function gives, with that of which it gives something. -/
theorem forall₂_filterMap {α β : Type} (f : α → Option β) (as : List α) :
    List.Forall₂ (fun a b => f a = some b) (as.filter fun a => (f a).isSome) (as.filterMap f) := by
  induction as with
  | nil => exact .nil
  | cons a as ih =>
    cases h : f a with
    | none =>
      rw [List.filterMap_cons_none h, List.filter_cons_of_neg (by rw [h]; exact Bool.false_ne_true)]
      exact ih
    | some b =>
      rw [List.filterMap_cons_some h, List.filter_cons_of_pos (by rw [h]; rfl)]
      exact .cons h ih

namespace VerifyReport

variable {r : VerifyReport}

theorem annotations_eq (r : VerifyReport) :
    r.annotations = unlines (r.commands.filterMap fun c => CommandEntry.note? c.1 c.2) := by
  unfold annotations commands
  rw [List.filterMap_flatMap]
  simp only [List.filterMap_map]
  rfl

theorem length_commands (r : VerifyReport) :
    r.commands.length = (r.documents.map (·.commands.length)).sum := by
  unfold commands
  rw [List.length_flatMap]
  simp only [List.length_map]

/-- A document of which there is a command is one of the report. -/
theorem mem_documents {c : DocumentEntry × CommandEntry} (h : c ∈ r.commands) : c.1 ∈ r.documents := by
  obtain ⟨d, hd, hc⟩ := List.mem_flatMap.mp h
  obtain ⟨c, -, rfl⟩ := List.mem_map.mp hc
  exact hd

/-- The annotations are errors and warnings. -/
theorem countP_isNoted (cs : List (DocumentEntry × CommandEntry)) :
    cs.countP (·.2.isNoted) =
      cs.countP (·.2.hasFailed) + cs.countP (·.2.status == Status.warn.name) := by
  induction cs with
  | nil => rfl
  | cons c cs ih =>
    rw [List.countP_cons, List.countP_cons, List.countP_cons, ih]
    cases hwarned : c.2.status == Status.warn.name with
    | false => simp [CommandEntry.isNoted, hwarned]; omega
    | true =>
      have hfailed : c.2.hasFailed = false := by
        unfold CommandEntry.hasFailed
        rw [eq_of_beq hwarned]
        rfl
      simp [CommandEntry.isNoted, hwarned, hfailed]
      omega

/-- **A report whose counts are right is annotated as they say.** -/
theorem Tallies.exists_annotates (h : r.Tallies) : ∃ notes, r.Annotates notes := by
  let notes := r.commands.filterMap fun c => CommandEntry.note? c.1 c.2
  have hnotes : List.Forall₂ (fun c note => IsNoteOn c.1 c.2 note) (r.commands.filter (·.2.isNoted)) notes := by
    have hsome := forall₂_filterMap (fun c => CommandEntry.note? c.1 c.2) r.commands
    simp only [CommandEntry.isSome_note?] at hsome
    exact hsome.imp fun _ _ => CommandEntry.isNoteOn_of_note?
  -- who failed or warned has an annotation
  have herrors : notes.countP ("::error ".toList.isPrefixOf ·) = r.commands.countP (·.2.hasFailed) := by
    rw [countP_eq_of_forall₂ (hnotes.imp fun _ _ => IsNoteOn.isError), List.countP_filter]
    refine List.countP_congr fun c _ => ?_
    unfold CommandEntry.isNoted
    cases c.2.hasFailed <;> simp
  have hwarnings : notes.countP ("::warning ".toList.isPrefixOf ·) =
      r.commands.countP (·.2.status == Status.warn.name) := by
    rw [countP_eq_of_forall₂ (hnotes.imp fun _ _ => IsNoteOn.isWarning), List.countP_filter]
    refine List.countP_congr fun c _ => ?_
    unfold CommandEntry.isNoted
    cases c.2.status == Status.warn.name <;> simp
  have hlength : notes.length = r.commands.countP (·.2.isNoted) := by
    rw [← hnotes.length_eq, List.countP_eq_length_filter]
  refine ⟨notes, r.annotations_eq, hnotes, ?_, ?_, ?_, ?_⟩
  · rw [herrors, h.failed]
  · rw [hwarnings, h.warned]
  · rw [hlength, countP_isNoted, h.failed, h.warned]
    rfl
  · intro hne hfiles
    rw [annotations_eq]
    refine splitAt_joinWith hne fun note hnote => ?_
    obtain ⟨c, hc, hnote⟩ := List.mem_filterMap.mp hnote
    exact (CommandEntry.isNoteOn_of_note? hnote).newline_not_mem (hfiles c.1 (mem_documents hc))

end VerifyReport

namespace Project

variable {p : Project}

/-- The status of each command of a report is that of its result. -/
theorem map_status_commands (p : Project) (outcomes : List SpecResult) :
    (p.verifyReport outcomes).commands.map (·.2.status) =
      (outcomes.flatMap fun o => o.results.map (·.status)).map Status.name := by
  unfold verifyReport VerifyReport.commands
  rw [List.flatMap_map, List.map_flatMap, List.map_flatMap]
  refine congrArg List.flatten (List.map_congr_left fun o _ => ?_)
  simp only [List.map_map]
  rfl

/-- Commands are counted by the names of their statuses. -/
theorem countP_commands (p : Project) (outcomes : List SpecResult) (f : Text → Bool) {g : Status → Bool}
    (h : ∀ s : Status, f s.name = g s) :
    (p.verifyReport outcomes).commands.countP (fun c => f c.2.status) =
      (outcomes.flatMap fun o => o.results.map (·.status)).countP g := by
  have hnames := congrArg (List.countP f) (map_status_commands p outcomes)
  rw [List.countP_map, List.countP_map] at hnames
  exact hnames.trans (List.countP_congr fun s _ => by rw [Function.comp_apply, h])

/-- The counts of the report on outcomes. -/
theorem tallies_verifyReport (p : Project) (outcomes : List SpecResult) : (p.verifyReport outcomes).Tallies := by
  have hcount : ∀ s : Status, (p.verifyReport outcomes).commands.countP (·.2.status == s.name) =
      (outcomes.flatMap fun o => o.results.map (·.status)).count s := by
    intro s
    rw [List.count_eq_countP]
    refine countP_commands p outcomes (· == s.name) fun s' => ?_
    rw [Bool.eq_iff_iff, beq_iff_eq, beq_iff_eq, Status.name_inj]
  have hfailed : (p.verifyReport outcomes).commands.countP (·.2.hasFailed) =
      (outcomes.flatMap fun o => o.results.map (·.status)).countP (·.failed) := by
    refine countP_commands p outcomes (fun t => t == Status.fail.name || t == Status.timeout.name) fun s => ?_
    cases s <;> rfl
  constructor
  · exact congrArg Int.ofNat (List.length_map _).symm
  · rw [hcount]; rfl
  · rw [hcount]; rfl
  · rw [hfailed]; rfl
  · rw [hcount]; rfl
  · exact congrArg Int.ofNat (Status.countP_executed _)
  · rw [← VerifyReport.length_commands, ← List.length_map (·.2.status), map_status_commands, List.length_map]
    exact congrArg Int.ofNat (Status.countP_executed_add_skipped _)

/-- The entry of a document. -/
theorem sumsUp_verifyReport (p : Project) (outcomes : List SpecResult) :
    List.Forall₂ SumsUp outcomes (p.verifyReport outcomes).documents := by
  refine List.forall₂_map_right_iff.mpr (List.forall₂_same.mpr fun o _ => ?_)
  have hname : ∀ s : Status, s.name = Status.fail.name ∨ s.name = Status.timeout.name ↔ s.failed = true := by
    intro s
    cases s <;> decide
  have hcommands : (o.results.map commandEntry).map (·.status) = o.results.map (·.status.name) := by
    rw [List.map_map]
    rfl
  refine ⟨hcommands, rfl, ?_, o.rank_status, fun o' => SpecResult.rank_status_perm⟩
  rw [hname, o.failed_status, List.any_eq_true]
  constructor
  · rintro ⟨r, hr, hfailed⟩
    exact ⟨commandEntry r, List.mem_map_of_mem hr, (hname r.status).mpr hfailed⟩
  · rintro ⟨c, hc, hfailed⟩
    obtain ⟨r, hr, rfl⟩ := List.mem_map.mp hc
    exact ⟨r, hr, (hname r.status).mp hfailed⟩

/-- A document failed when a failure is counted. -/
theorem any_failed_iff (p : Project) (outcomes : List SpecResult) :
    outcomes.any (·.status.failed) = true ↔ 0 < (p.verifyReport outcomes).failed := by
  have hcount : (p.verifyReport outcomes).failed =
      ((outcomes.flatMap fun o => o.results.map (·.status)).countP (·.failed) : Nat) := rfl
  rw [hcount, Int.natCast_pos, List.countP_pos_iff, List.any_eq_true]
  constructor
  · rintro ⟨o, ho, hfailed⟩
    rw [o.failed_status, List.any_eq_true] at hfailed
    obtain ⟨r, hr, hfailed⟩ := hfailed
    exact ⟨r.status, List.mem_flatMap.mpr ⟨o, ho, List.mem_map_of_mem hr⟩, hfailed⟩
  · rintro ⟨s, hs, hfailed⟩
    obtain ⟨o, ho, hs⟩ := List.mem_flatMap.mp hs
    obtain ⟨r, hr, rfl⟩ := List.mem_map.mp hs
    refine ⟨o, ho, ?_⟩
    rw [o.failed_status, List.any_eq_true]
    exact ⟨r, hr, hfailed⟩

/-- A run that gives a report gives the one on its outcomes, and the exit code tells of their failures. -/
theorem exists_outcomes_of_runVerify {σ : Type} {run : Runner (Work σ)} {paths : List Path} {timeout : Int}
    {keepGoing : Bool} {w w' : σ} {report : VerifyReport} {code : Nat}
    (h : (p.runVerify run paths timeout keepGoing).run.run w = (.ok (report, code), w')) :
    ∃ outcomes, report = p.verifyReport outcomes ∧
      code = if outcomes.any (·.status.failed) then 1 else 0 := by
  cases hspecs : p.specs paths timeout with
  | error failure =>
    rw [runVerify_of_error hspecs] at h
    cases h
  | ok specs =>
    rw [runVerify_of_ok hspecs, Work.run_map] at h
    obtain ⟨hresult, -⟩ := Prod.mk.inj h
    obtain ⟨outcomes, -, houtcomes⟩ := Outcome.map_eq_ok_iff.mp hresult
    cases houtcomes
    exact ⟨outcomes, rfl, rfl⟩

/--
**What is told about a run agrees.**

In the report on any outcomes every command is counted once, by its status; a document has failed when one
of its commands has, and has the greatest rank of their statuses; and the annotations are one error for each
failed command and one warning for each that warned, in the order of the commands. The exit code of a run is
1 when the report counts a failure, and else 0.
-/
theorem verifyReport_agrees (p : Project) :
    (∀ outcomes, (p.verifyReport outcomes).Tallies ∧
      List.Forall₂ SumsUp outcomes (p.verifyReport outcomes).documents ∧
      ∃ notes, (p.verifyReport outcomes).Annotates notes) ∧
    ∀ (σ : Type) (run : Runner (Work σ)) (paths : List Path) (timeout : Int) (keepGoing : Bool) (w w' : σ)
      (report : VerifyReport) (code : Nat),
      (p.runVerify run paths timeout keepGoing).run.run w = (.ok (report, code), w') →
      (∃ outcomes, report = p.verifyReport outcomes) ∧ (code = 1 ↔ 0 < report.failed) ∧
        (code = 0 ↔ report.failed = 0) := by
  constructor
  · intro outcomes
    have htallies := tallies_verifyReport p outcomes
    exact ⟨htallies, sumsUp_verifyReport p outcomes, htallies.exists_annotates⟩
  · intro σ run paths timeout keepGoing w w' report code h
    obtain ⟨outcomes, rfl, rfl⟩ := exists_outcomes_of_runVerify h
    have hfailed := any_failed_iff p outcomes
    have hzero : (p.verifyReport outcomes).failed = 0 ↔ ¬ 0 < (p.verifyReport outcomes).failed := by
      have hnonneg : 0 ≤ (p.verifyReport outcomes).failed := Int.natCast_nonneg _
      omega
    refine ⟨⟨outcomes, rfl⟩, ?_, ?_⟩
    · rw [← hfailed]
      split
      · next h => exact iff_of_true rfl h
      · next h => exact iff_of_false Nat.zero_ne_one h
    · rw [hzero, ← hfailed]
      split
      · next h => exact iff_of_false Nat.one_ne_zero (not_not_intro h)
      · next h => exact iff_of_true rfl h

/-- A project with a document of three commands. -/
def announced : Project :=
  inRoot [("a.md".toList, "## Verification\n```bash\nwarn\n```\n```bash\nfail\n```\n```bash\npass\n```\n".toList)] {}

/-- What is run there: commands that end as they are called. -/
def announcedSpec : Spec where
  file := Path.ofText "/docs/a.md".toList
  line := 1
  items := ["warn", "fail", "pass"].map fun name => { command := name.toList }

/-- Commands that end as they are called. -/
def asCalled : Runner (Work Unit) := fun item =>
  return { item, status := (Status.ofName? item.command).getD .pass }

/-- One command warns, one fails and one is skipped. -/
theorem verifyReport_agrees_announced :
    ∃ report, (announced.runVerify asCalled [] 30000 false).run.run () = (.ok (report, 1), ()) ∧
      (report.executed, report.warned, report.failed, report.skipped) = (2, 1, 1, 1) ∧
      (1 = 1 ↔ 0 < report.failed) ∧ ∃ notes, report.Annotates notes ∧ notes.length = 2 := by
  let outcomes := ((Spec.runAll asCalled false [announcedSpec]).run.run ()).1.toOption.getD []
  have hspecs : announced.specs [] 30000 = .ok [announcedSpec] := by
    -- the texts as their characters, which the evaluation would else take from bytes
    rw [announced, String.toList_ofList, String.toList_ofList]
    decide +kernel
  have hrun : (announced.runVerify asCalled [] 30000 false).run.run () =
      (.ok (announced.verifyReport outcomes, 1), ()) := by
    rw [runVerify_of_ok hspecs]
    rfl
  obtain ⟨hall, hexit⟩ := verifyReport_agrees announced
  obtain ⟨-, -, notes, hnotes⟩ := hall outcomes
  refine ⟨_, hrun, rfl, (hexit Unit asCalled [] 30000 false () () _ 1 hrun).2.1, notes, hnotes, ?_⟩
  exact Int.ofNat.inj (hnotes.others.trans rfl)

end Project

end DocAudit
