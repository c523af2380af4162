import DocAudit.Coverage.Report
import DocAudit.Proofs.Command.Documents
import DocAudit.Proofs.Files.Order
import Mathlib

/-!
# What a coverage report counts

A coverage report divides the code files of a project, counts them by directory and suggests what could be
written next. No file is lost on the way and none is counted twice, whatever the directories look like.

## Contents

* `CoverageReport.Divides`: the covered and the uncovered files
* `CoverageReport.sum_countIn`: files that are counted in each directory are all counted once
* `CoverageReport.CountsByDirectory`: the directories
* `CoverageReport.SuggestsFirst`: the suggestions
* `DocMapping.Grows`: documents with one pattern more
* `CoverageReport.ofProject_accounts`: **the report accounts for every code file, and more patterns cover no
  less**
-/

namespace DocAudit

open Text

/-! ## Distinct texts in order -/

/-- The first text stands before the second. -/
def Text.Precedes (a b : Text) : Prop := le a b = true ∧ a ≠ b

/-- Sorted texts are in order. -/
theorem Text.pairwise_le_mergeSort (ts : List Text) :
    (ts.mergeSort le).Pairwise fun a b => le a b = true := by
  have htotal : ∀ a b : Text, (le a b || le b a) = true := by
    intro a b
    rw [Bool.or_eq_true]
    exact Text.le_total a b
  exact @List.pairwise_mergeSort Text le (fun _ _ _ => Text.le_trans) htotal ts

/-- Sorted texts do not depend on the order that they were in. -/
theorem Text.mergeSort_eq_of_perm {ts ts' : List Text} (h : ts.Perm ts') : ts.mergeSort le = ts'.mergeSort le := by
  refine List.Perm.eq_of_pairwise (fun _ _ _ _ => Text.le_antisymm) (Text.pairwise_le_mergeSort ts)
    (Text.pairwise_le_mergeSort ts') ?_
  exact (List.mergeSort_perm ts le).trans (h.trans (List.mergeSort_perm ts' le).symm)

namespace CoverageReport

/-! ## Covered and uncovered files -/

/-- The covered files are those that some document is about, the uncovered ones the others. Both are in the
order of the files, no file is lost and none is in both. -/
structure Divides (r : CoverageReport) (ms : List DocMapping) (files : List Text) : Prop where
  covered_eq : r.covered = files.filter fun file => !(impactedDocs ms [file]).isEmpty
  uncovered_eq : r.uncovered = files.filter fun file => (impactedDocs ms [file]).isEmpty
  perm : (r.covered ++ r.uncovered).Perm files
  disjoint : r.covered.Disjoint r.uncovered

/-- A document is about a file when one of its patterns covers the file. -/
theorem isEmpty_impactedDocs (ms : List DocMapping) (file : Text) :
    (impactedDocs ms [file]).isEmpty = !PathPattern.anyCovers file (ms.flatMap (·.patterns)) := by
  induction ms with
  | nil => rfl
  | cons m ms ih =>
    have hany : PathPattern.anyCovers file ((m :: ms).flatMap (·.patterns)) =
        (PathPattern.anyCovers file m.patterns ||
          PathPattern.anyCovers file (ms.flatMap (·.patterns))) := List.any_append
    rw [hany]
    unfold impactedDocs at ih ⊢
    rw [List.filterMap_cons]
    cases hm : PathPattern.anyCovers file m.patterns with
    | true => simp [hm]
    | false => simpa [hm] using ih

theorem covered_analyze (ms : List DocMapping) (files : List Text) :
    (analyze ms files).covered =
      files.filter fun file => PathPattern.anyCovers file (ms.flatMap (·.patterns)) := by
  show (partitionCovered ms files).1 = _
  rw [partitionCovered, List.partition_eq_filter_filter]

theorem uncovered_analyze (ms : List DocMapping) (files : List Text) :
    (analyze ms files).uncovered =
      files.filter fun file => !PathPattern.anyCovers file (ms.flatMap (·.patterns)) := by
  show (partitionCovered ms files).2 = _
  rw [partitionCovered, List.partition_eq_filter_filter]
  rfl

/-- **A report divides the files.** -/
theorem divides_analyze (ms : List DocMapping) (files : List Text) :
    (analyze ms files).Divides ms files := by
  refine ⟨?_, ?_, ?_, ?_⟩
  · simp only [covered_analyze, isEmpty_impactedDocs, Bool.not_not]
  · simp only [uncovered_analyze, isEmpty_impactedDocs]
  · rw [covered_analyze, uncovered_analyze]
    exact List.filter_append_perm _ files
  · rw [covered_analyze, uncovered_analyze]
    intro file hcovered huncovered
    have hnot := (List.mem_filter.mp huncovered).2
    rw [(List.mem_filter.mp hcovered).2] at hnot
    cases hnot

/-! ## Directories -/

theorem mem_directoriesOf_iff {files : List Text} {path : Text} :
    path ∈ directoriesOf files ↔ ∃ file ∈ files, parentDir file = path := by
  rw [directoriesOf, List.mem_mergeSort, List.mem_eraseDups, List.mem_map]

theorem nodup_directoriesOf (files : List Text) : (directoriesOf files).Nodup :=
  (List.mergeSort_perm _ _).nodup_iff.mpr (nodup_eraseDups _)

/-- The directories come in order and without repetition. -/
theorem pairwise_directoriesOf (files : List Text) : (directoriesOf files).Pairwise Text.Precedes :=
  (Text.pairwise_le_mergeSort _).and (nodup_directoriesOf files)

/-- **Files that are counted in each of the directories are all counted, and once.** -/
theorem sum_countIn {dirs files : List Text} (hnodup : dirs.Nodup)
    (hdirs : ∀ file ∈ files, parentDir file ∈ dirs) :
    (dirs.map fun dir => countIn dir files).sum = files.length := by
  have hcount : ∀ dir, countIn dir files = (files.map parentDir : Multiset Text).count dir := by
    intro dir
    rw [Multiset.coe_count]
    unfold countIn List.count
    rw [List.countP_map]
    exact List.countP_congr fun file _ => by simp
  calc (dirs.map fun dir => countIn dir files).sum
      = ∑ dir ∈ dirs.toFinset, (files.map parentDir : Multiset Text).count dir := by
        rw [List.sum_toFinset _ hnodup]
        simp only [hcount]
    _ = Multiset.card (files.map parentDir : Multiset Text) := by
        refine Multiset.sum_count_eq_card fun dir hdir => ?_
        obtain ⟨file, hfile, rfl⟩ := List.mem_map.mp (Multiset.mem_coe.mp hdir)
        exact List.mem_toFinset.mpr (hdirs file hfile)
    _ = files.length := by rw [Multiset.coe_card, List.length_map]

/-- The entries of the directories: each directory of a file has one, in order, with the number of files in it
and of the covered ones among them; together they count all files. -/
structure CountsByDirectory (r : CoverageReport) : Prop where
  ordered : (r.directories.map (·.path)).Pairwise Text.Precedes
  mem_iff : ∀ path, path ∈ r.directories.map (·.path) ↔
    ∃ file ∈ r.covered ++ r.uncovered, parentDir file = path
  covered_eq : ∀ d ∈ r.directories, d.covered = (r.covered.filter (parentDir · == d.path)).length
  total_eq : ∀ d ∈ r.directories,
    d.total = ((r.covered ++ r.uncovered).filter (parentDir · == d.path)).length
  covered_le : ∀ d ∈ r.directories, d.covered ≤ d.total
  one_le : ∀ d ∈ r.directories, 1 ≤ d.total
  sum_covered : (r.directories.map (·.covered)).sum = r.covered.length
  sum_total : (r.directories.map (·.total)).sum = r.total

/-- **A report counts every file in its directory.** -/
theorem countsByDirectory_analyze (ms : List DocMapping) (files : List Text) :
    (analyze ms files).CountsByDirectory := by
  have hentries : (analyze ms files).directories =
      byDirectory (analyze ms files).covered (analyze ms files).uncovered := rfl
  generalize analyze ms files = r at hentries ⊢
  have hpaths : r.directories.map (·.path) = directoriesOf (r.covered ++ r.uncovered) := by
    rw [hentries, byDirectory, List.map_map]
    exact List.map_id _
  have hentry : ∀ d ∈ r.directories, d.path ∈ directoriesOf (r.covered ++ r.uncovered) ∧
      d.covered = countIn d.path r.covered ∧ d.total = countIn d.path (r.covered ++ r.uncovered) := by
    intro d hd
    rw [hentries, byDirectory] at hd
    obtain ⟨path, hpath, rfl⟩ := List.mem_map.mp hd
    exact ⟨hpath, rfl, rfl⟩
  have hdirs : ∀ file ∈ r.covered ++ r.uncovered,
      parentDir file ∈ directoriesOf (r.covered ++ r.uncovered) :=
    fun file hfile => mem_directoriesOf_iff.mpr ⟨file, hfile, rfl⟩
  refine ⟨?_, ?_, ?_, ?_, ?_, ?_, ?_, ?_⟩
  · rw [hpaths]
    exact pairwise_directoriesOf _
  · intro path
    rw [hpaths]
    exact mem_directoriesOf_iff
  · intro d hd
    rw [(hentry d hd).2.1, countIn, List.countP_eq_length_filter]
  · intro d hd
    rw [(hentry d hd).2.2, countIn, List.countP_eq_length_filter]
  · intro d hd
    rw [(hentry d hd).2.1, (hentry d hd).2.2, countIn, countIn, List.countP_append]
    exact Nat.le_add_right _ _
  · intro d hd
    obtain ⟨file, hfile, hparent⟩ := mem_directoriesOf_iff.mp (hentry d hd).1
    rw [(hentry d hd).2.2, countIn]
    exact List.countP_pos_iff.mpr ⟨file, hfile, beq_iff_eq.mpr hparent⟩
  · rw [hentries, byDirectory, List.map_map]
    exact sum_countIn (nodup_directoriesOf _) fun file hfile =>
      hdirs file (List.mem_append_left _ hfile)
  · rw [hentries, byDirectory, List.map_map, total, ← List.length_append]
    exact sum_countIn (nodup_directoriesOf _) hdirs

/-! ## Suggestions -/

/-- A document that could be written: two uncovered files or more are in its directory, and it lists all of
them in their order. -/
structure IsGroup (uncovered : List Text) (s : Suggestion) : Prop where
  files_eq : s.files = uncovered.filter (parentDir · == s.directory)
  two_le : 2 ≤ s.files.length
  doc_eq : s.doc = componentDoc (if (Path.ofText s.directory).name.isEmpty then "root".toList
    else (Path.ofText s.directory).name)

/-- The first suggestion has more files than the second, or as many and its directory stands before. -/
def Outranks (a b : Suggestion) : Prop :=
  b.files.length < a.files.length ∨
    a.files.length = b.files.length ∧ Text.Precedes a.directory b.directory

/-- The suggestions are the first five groups of uncovered files. -/
def SuggestsFirst (r : CoverageReport) : Prop :=
  ∃ groups : List Suggestion, groups.Pairwise Outranks ∧
    (∀ s, s ∈ groups ↔ IsGroup r.uncovered s) ∧ r.suggestions = groups.take 5

theorem precedes_iff {a b : Suggestion} :
    precedes a b = true ↔ b.files.length < a.files.length ∨
      a.files.length = b.files.length ∧ le a.directory b.directory = true := by
  simp [precedes]

theorem pairwise_mergeSort_precedes (ss : List Suggestion) :
    (ss.mergeSort precedes).Pairwise fun a b => precedes a b = true := by
  have htotal : ∀ a b : Suggestion, (precedes a b || precedes b a) = true := by
    intro a b
    rw [Bool.or_eq_true, precedes_iff, precedes_iff]
    have htotal := Text.le_total a.directory b.directory
    by_cases heq : a.files.length = b.files.length
    · exact htotal.imp (fun h => Or.inr ⟨heq, h⟩) fun h => Or.inr ⟨heq.symm, h⟩
    · exact (Nat.lt_or_gt_of_ne heq).symm.imp Or.inl Or.inl
  have htrans : ∀ a b c : Suggestion, precedes a b = true → precedes b c = true →
      precedes a c = true := by
    intro a b c hab hbc
    rw [precedes_iff] at hab hbc ⊢
    rcases hab with hab | ⟨hab, hle⟩
    · exact Or.inl (by omega)
    · rcases hbc with hbc | ⟨hbc, hle'⟩
      · exact Or.inl (by omega)
      · exact Or.inr ⟨by omega, Text.le_trans hle hle'⟩
  exact @List.pairwise_mergeSort Suggestion precedes htrans htotal ss

/-- **A report suggests the first five groups.** -/
theorem suggestsFirst_analyze (ms : List DocMapping) (files : List Text) :
    (analyze ms files).SuggestsFirst := by
  have hsuggest : (analyze ms files).suggestions = suggest (analyze ms files).uncovered := rfl
  generalize analyze ms files = r at hsuggest ⊢
  refine ⟨_, ?_, ?_, hsuggest⟩
  · -- no two groups are of one directory
    have hdirs : ((directoriesOf r.uncovered).map (suggestionFor r.uncovered)).Pairwise
        fun a b => a.directory ≠ b.directory :=
      List.pairwise_map.mpr (nodup_directoriesOf r.uncovered)
    have hsorted := (List.mergeSort_perm _ precedes).symm.pairwise (hdirs.filter fun s => 2 ≤ s.files.length)
      fun hne => hne.symm
    refine ((pairwise_mergeSort_precedes _).and hsorted).imp fun {a b} h => ?_
    rcases precedes_iff.mp h.1 with hlt | ⟨heq, hle⟩
    · exact Or.inl hlt
    · exact Or.inr ⟨heq, hle, h.2⟩
  · intro s
    rw [List.mem_mergeSort, List.mem_filter, List.mem_map, decide_eq_true_iff]
    constructor
    · rintro ⟨⟨dir, -, rfl⟩, htwo⟩
      exact ⟨rfl, htwo, rfl⟩
    · rintro ⟨hfiles, htwo, hdoc⟩
      obtain ⟨file, hfile⟩ := List.exists_mem_of_length_pos (Nat.lt_of_lt_of_le Nat.two_pos htwo)
      rw [hfiles, List.mem_filter, beq_iff_eq] at hfile
      have hself : suggestionFor r.uncovered s.directory = s :=
        congrArg₂ (Suggestion.mk s.directory) hdoc.symm hfiles.symm
      exact ⟨⟨s.directory, mem_directoriesOf_iff.mpr ⟨file, hfile⟩, hself⟩, htwo⟩

end CoverageReport

/-! ## More patterns -/

/-- One mapping more, or one pattern more in a mapping. -/
inductive DocMapping.Grows : List DocMapping → List DocMapping → Prop
  | mapping (before after : List DocMapping) (m : DocMapping) :
    Grows (before ++ after) (before ++ m :: after)
  | pattern (before after : List DocMapping) (m : DocMapping) (ps qs : List Text) (pattern : Text) :
    Grows (before ++ { m with patterns := ps ++ qs } :: after)
      (before ++ { m with patterns := ps ++ pattern :: qs } :: after)

/-- No pattern is lost. -/
theorem DocMapping.Grows.sublist {ms ms' : List DocMapping} (h : Grows ms ms') :
    (ms.flatMap (·.patterns)).Sublist (ms'.flatMap (·.patterns)) := by
  cases h with
  | mapping before after m =>
    simp only [List.flatMap_append, List.flatMap_cons]
    exact (List.Sublist.refl _).append (List.sublist_append_right _ _)
  | pattern before after m ps qs pattern =>
    simp only [List.flatMap_append, List.flatMap_cons]
    refine (List.Sublist.refl _).append (List.Sublist.append ?_ (List.Sublist.refl _))
    exact (List.Sublist.refl ps).append (List.sublist_cons_self pattern qs)

namespace CoverageReport

/-- More patterns cover no less. -/
theorem covered_sublist {ms ms' : List DocMapping} (files : List Text)
    (h : (ms.flatMap (·.patterns)).Sublist (ms'.flatMap (·.patterns))) :
    (analyze ms files).covered.Sublist (analyze ms' files).covered := by
  rw [covered_analyze, covered_analyze]
  refine List.monotone_filter_right files fun file hfile => ?_
  obtain ⟨pattern, hpattern, hcovers⟩ := List.any_eq_true.mp hfile
  exact List.any_eq_true.mpr ⟨pattern, h.subset hpattern, hcovers⟩

/--
**A coverage report accounts for every code file.**

The covered and the uncovered files are the code files that some document is about and the others, in the order
of the walk. The directories have one entry each, in order; each counts the files whose directory it is, and
together they count all. The suggestions are the first five groups of two uncovered files or more in a
directory, the larger groups first and among equals the directory that stands before. With one mapping or one
pattern more, no file is lost from those that are covered.
-/
theorem ofProject_accounts (t : FileTree) (root : List Text) (ms : List DocMapping) (f : FileFilter) :
    (ofProject t root ms f).Divides ms (codeFiles t root f) ∧
      (ofProject t root ms f).CountsByDirectory ∧ (ofProject t root ms f).SuggestsFirst ∧
      ∀ ms', DocMapping.Grows ms ms' →
        (ofProject t root ms f).covered.Sublist (ofProject t root ms' f).covered :=
  ⟨divides_analyze ms _, countsByDirectory_analyze ms _, suggestsFirst_analyze ms _,
    fun _ hgrows => covered_sublist _ hgrows.sublist⟩

/-- Files in three directories, and one that a build made. -/
def mixedTree : FileTree where
  entries := ["main.py", "lib/c.py", "src/a.py", "src/b.py", "build/gen.py"].map fun file =>
    (splitAt '/' file.toList, .file [])

/-- A document about one of them, and the same document about two. -/
def aboutLib : DocMapping := { doc := "docs/lib.md".toList, patterns := ["lib/".toList] }

def aboutLibAndSource : DocMapping := { aboutLib with patterns := ["lib/".toList, "src/a.py".toList] }

/-- The report on them, with the first document. -/
theorem ofProject_mixedTree : ofProject mixedTree [] [aboutLib] {} =
    { covered := ["lib/c.py".toList]
      uncovered := ["main.py".toList, "src/a.py".toList, "src/b.py".toList]
      directories := [⟨".".toList, 0, 1⟩, ⟨"lib".toList, 1, 1⟩, ⟨"src".toList, 0, 2⟩]
      suggestions := [⟨"src".toList, "docs/components/src.md".toList,
        ["src/a.py".toList, "src/b.py".toList]⟩] } := by
  have hwalk : mixedTree.walk [] =
      ["lib/c.py".toList, "main.py".toList, "src/a.py".toList, "src/b.py".toList] := by cbv
  have hfiles : codeFiles mixedTree [] {} = mixedTree.walk [] := by
    rw [codeFiles, hwalk]
    decide +kernel
  have hparts : partitionCovered [aboutLib] (mixedTree.walk []) =
      (["lib/c.py".toList], ["main.py".toList, "src/a.py".toList, "src/b.py".toList]) := by
    rw [hwalk]
    cbv
  have hdirs : directoriesOf ["main.py".toList, "src/a.py".toList, "src/b.py".toList] =
      [".".toList, "src".toList] := by cbv
  have hsuggest : suggest ["main.py".toList, "src/a.py".toList, "src/b.py".toList] =
      [⟨"src".toList, "docs/components/src.md".toList, ["src/a.py".toList, "src/b.py".toList]⟩] := by
    rw [suggest, hdirs]
    decide +kernel
  have hcounts : byDirectory ["lib/c.py".toList] ["main.py".toList, "src/a.py".toList, "src/b.py".toList] =
      [⟨".".toList, 0, 1⟩, ⟨"lib".toList, 1, 1⟩, ⟨"src".toList, 0, 2⟩] := by cbv
  rw [ofProject, hfiles, analyze, hparts]
  show CoverageReport.mk _ _ _ _ = _
  rw [hcounts, hsuggest]

/-- Two uncovered files in a directory are counted and suggested, and a covered file stays covered. -/
theorem ofProject_accounts_mixed :
    DocMapping.Grows [aboutLib] [aboutLibAndSource] ∧
      "lib/c.py".toList ∈ (ofProject mixedTree [] [aboutLib] {}).covered ∧
      "lib/c.py".toList ∈ (ofProject mixedTree [] [aboutLibAndSource] {}).covered ∧
      (ofProject mixedTree [] [aboutLib] {}).directories.map (fun d => (d.path, d.covered, d.total)) =
        [(".".toList, 0, 1), ("lib".toList, 1, 1), ("src".toList, 0, 2)] ∧
      ((ofProject mixedTree [] [aboutLib] {}).directories.map (·.total)).sum = 4 ∧
      (ofProject mixedTree [] [aboutLib] {}).suggestions.map (·.files) =
        [["src/a.py".toList, "src/b.py".toList]] := by
  have hgrows : DocMapping.Grows [aboutLib] [aboutLibAndSource] :=
    .pattern [] [] aboutLib ["lib/".toList] [] "src/a.py".toList
  obtain ⟨-, hcounts, -, hmore⟩ := ofProject_accounts mixedTree [] [aboutLib] {}
  have hcovered : "lib/c.py".toList ∈ (ofProject mixedTree [] [aboutLib] {}).covered := by
    rw [ofProject_mixedTree]
    exact List.mem_cons_self
  refine ⟨hgrows, hcovered, (hmore _ hgrows).subset hcovered, ?_, ?_, ?_⟩
  · rw [ofProject_mixedTree]
    rfl
  · rw [hcounts.sum_total, ofProject_mixedTree]
    rfl
  · rw [ofProject_mixedTree]
    rfl

end CoverageReport

end DocAudit
