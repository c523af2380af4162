import DocAudit.Command.Coverage
import DocAudit.Proofs.Coverage.Account
import DocAudit.Proofs.Coverage.NewCode
import DocAudit.Proofs.Files.Agreement
import DocAudit.Proofs.Files.Names
import DocAudit.Validation.Rule

/-!
# Walks through directories

The entries of a tree are listed one by one, and not every list of them is a file system. Where every name stands
for one entry and every entry stands in a directory, writing and removing files leaves it so.

A walk goes from directory to directory. In each of them it takes the files and goes on to the directories that it
enters, and in the end it sorts what it took. What it comes to can be told without walking: the files with an open
way. So nothing that happens below the other directories can be seen.

## Contents

* `FileTree.IsTree`: trees as they are in a file system
* `FileTree.mem_put_iff`, `FileTree.mem_remove_iff`: the entries behind a change
* `FileTree.IsTree.write`, `FileTree.IsTree.remove`: **trees stay trees**
* `FileTree.visit`, `FileTree.walkDown`: a walk, directory by directory
* `FileTree.mem_visit_iff`, `FileTree.nodup_visit`: which files a walk comes to, and that it comes to each once
* `FileTree.walkDown_eq`: **the walk finds the files with an open way**
* `FileTree.SeenAlike`, `FileTree.seenAlike_of_files`: **trees with the same such files are seen alike**
* `FileTree.walk_open`: **what a walk finds, and what it does not notice**
-/

namespace DocAudit

open Text

/-- The entry is a link. -/
def Entry.isLink : Entry → Bool
  | .link _ => true
  | _ => false

namespace FileTree

/-! ## Trees -/

/-- The tree is one of a file system without links: every name stands for one entry, and what stands in a
directory stands in one that is there. -/
structure IsTree (t : FileTree) : Prop where
  named : t.IsNamed
  nodup : (t.entries.map (·.1)).Nodup
  dirs : ∀ e ∈ t.entries, ∀ n < e.1.length, 0 < n → (e.1.take n, Entry.dir) ∈ t.entries
  no_links : ∀ e ∈ t.entries, e.2.isLink = false

instance (t : FileTree) : Decidable t.IsTree :=
  haveI : Decidable (∀ e ∈ t.entries, ∀ n < e.1.length, 0 < n → (e.1.take n, Entry.dir) ∈ t.entries) :=
    List.decidableBAll _ t.entries
  haveI : Decidable (∀ e ∈ t.entries, e.2.isLink = false) := List.decidableBAll _ t.entries
  decidable_of_iff
    (t.IsNamed ∧ (t.entries.map (·.1)).Nodup ∧
      (∀ e ∈ t.entries, ∀ n < e.1.length, 0 < n → (e.1.take n, Entry.dir) ∈ t.entries) ∧
      ∀ e ∈ t.entries, e.2.isLink = false)
    ⟨fun ⟨h₁, h₂, h₃, h₄⟩ => ⟨h₁, h₂, h₃, h₄⟩, fun ⟨h₁, h₂, h₃, h₄⟩ => ⟨h₁, h₂, h₃, h₄⟩⟩

/-- The directory that something stands in. -/
theorem IsTree.dir_mem {t : FileTree} (h : t.IsTree) {front back : List Text} {entry : Entry} (hfront : front ≠ [])
    (hback : back ≠ []) (hentry : (front ++ back, entry) ∈ t.entries) : (front, Entry.dir) ∈ t.entries := by
  have hdir := h.dirs _ hentry front.length
    (by simpa using List.length_pos_iff.mpr hback) (List.length_pos_iff.mpr hfront)
  rwa [List.take_left] at hdir

section Trees

variable {t t' : FileTree} {names : List Text} {entry : Entry} {content : List UInt8}

/-! ## What is found -/

theorem mem_of_find? (hne : names ≠ []) (h : t.find? names = some entry) : (names, entry) ∈ t.entries := by
  obtain ⟨before, after, hentries, -⟩ := List.lookup_eq_some_iff.mp (lookup_of_find? h hne)
  rw [hentries]
  exact List.mem_append_right before List.mem_cons_self

theorem IsTree.find?_of_mem (h : t.IsTree) (hne : names ≠ []) (hmem : (names, entry) ∈ t.entries) :
    t.find? names = some entry := by
  obtain ⟨before, after, hentries⟩ := List.append_of_mem hmem
  unfold find?
  rw [if_neg (by simpa using hne)]
  refine List.lookup_eq_some_iff.mpr ⟨before, after, hentries, fun e he => ?_⟩
  have hnodup := h.nodup
  rw [hentries, List.map_append, List.map_cons, List.nodup_append] at hnodup
  have hkey := hnodup.2.2 e.1 (List.mem_map_of_mem he) names List.mem_cons_self
  simpa using hkey.symm

/-! ## Changes -/

/-- The entries of a tree behind one that was put there. -/
theorem mem_put_iff {other : List Text} {entry' : Entry} : (other, entry') ∈ (t.put names entry).entries ↔
    other = names ∧ entry' = entry ∨ other ≠ names ∧ (other, entry') ∈ t.entries := by
  unfold put
  by_cases hany : t.entries.any (·.1 == names) = true
  · obtain ⟨e, he, hkey⟩ := List.any_eq_true.mp hany
    simp only [hany, if_true, List.mem_map, beq_iff_eq] at hkey ⊢
    constructor
    · rintro ⟨e', he', hput⟩
      split at hput
      · cases hput
        exact Or.inl ⟨rfl, rfl⟩
      · next hother =>
        subst hput
        exact Or.inr ⟨hother, he'⟩
    · rintro (⟨rfl, rfl⟩ | ⟨hother, hmem⟩)
      · exact ⟨e, he, if_pos hkey⟩
      · exact ⟨_, hmem, if_neg hother⟩
  · have hnone : ∀ entry', (names, entry') ∉ t.entries := fun entry' hmem =>
      hany (List.any_eq_true.mpr ⟨_, hmem, beq_self_eq_true names⟩)
    simp only [hany, Bool.false_eq_true, if_false, List.mem_append, List.mem_singleton, Prod.mk.injEq]
    constructor
    · rintro (hmem | hnew)
      · refine Or.inr ⟨?_, hmem⟩
        rintro rfl
        exact hnone _ hmem
      · exact Or.inl hnew
    · rintro (hnew | ⟨-, hmem⟩)
      · exact Or.inr hnew
      · exact Or.inl hmem

theorem nodup_names_put (h : (t.entries.map (·.1)).Nodup) (names : List Text) (entry : Entry) :
    ((t.put names entry).entries.map (·.1)).Nodup := by
  unfold put
  by_cases hany : t.entries.any (·.1 == names) = true
  · have hsame : (t.entries.map fun e => if e.1 == names then (names, entry) else e).map (·.1) =
        t.entries.map (·.1) := by
      rw [List.map_map]
      refine List.map_congr_left fun e _ => ?_
      by_cases he : e.1 = names <;> simp [he]
    simp only [hany, if_true]
    rwa [hsame]
  · have hnone : names ∉ t.entries.map (·.1) := fun hmem => by
      obtain ⟨e, he, rfl⟩ := List.mem_map.mp hmem
      exact hany (List.any_eq_true.mpr ⟨e, he, beq_self_eq_true e.1⟩)
    simp only [hany, Bool.false_eq_true, if_false, List.map_append, List.map_cons, List.map_nil]
    exact List.nodup_append.mpr ⟨h, List.nodup_singleton names, fun a ha b hb => by
      rw [List.mem_singleton.mp hb]
      exact fun heq => hnone (heq ▸ ha)⟩

/-- A file can be written where there is a directory to write it in and no directory in its place. -/
theorem write_eq_some_iff : t.write names content = some t' ↔ t.find? names.dropLast = some .dir ∧
    (t.find? names = none ∨ ∃ old, t.find? names = some (.file old)) ∧ t' = t.put names (.file content) := by
  unfold write
  rcases t.find? names.dropLast with _ | _ | _ | _ <;> rcases t.find? names with _ | _ | _ | _ <;>
    simp [eq_comm]

theorem mem_remove_iff {other : List Text} : (other, entry) ∈ (t.remove names).entries ↔
    (other, entry) ∈ t.entries ∧ ¬ names <+: other := by
  rw [remove, List.mem_filter, Bool.not_eq_true', ← Bool.not_eq_true, List.isPrefixOf_iff_prefix]

/-- **A tree in which a file was written is a tree.** -/
theorem IsTree.write (h : t.IsTree) (hnames : ∀ name ∈ names, IsName name)
    (hwrite : t.write names content = some t') : t'.IsTree := by
  obtain ⟨hdir, hold, rfl⟩ := write_eq_some_iff.mp hwrite
  have hnotDir : (names, Entry.dir) ∉ t.entries := fun hmem => by
    have hne : names ≠ [] := by
      rintro rfl
      rcases hold with hold | ⟨old, hold⟩ <;> cases hold
    rw [h.find?_of_mem hne hmem] at hold
    rcases hold with hold | ⟨old, hold⟩ <;> cases hold
  constructor
  · intro e he
    rcases mem_put_iff.mp he with ⟨hkey, -⟩ | ⟨-, hmem⟩
    · rw [hkey]
      exact hnames
    · exact h.named e hmem
  · exact nodup_names_put h.nodup names _
  · intro e he n hn hpos
    rcases mem_put_iff.mp he with ⟨hkey, -⟩ | ⟨-, hmem⟩
    · -- on the way to the file
      rw [hkey] at hn ⊢
      have htake : names.take n = names.dropLast.take n := by
        rw [List.dropLast_eq_take, List.take_take, Nat.min_eq_left (by omega)]
      have hne : names.dropLast ≠ [] := List.ne_nil_of_length_pos (by rw [List.length_dropLast]; omega)
      have hparent : (names.dropLast, Entry.dir) ∈ t.entries := mem_of_find? hne hdir
      have hmem : (names.take n, Entry.dir) ∈ t.entries := by
        rw [htake]
        by_cases hlast : n < names.dropLast.length
        · exact h.dirs _ hparent n hlast hpos
        · rwa [List.take_of_length_le (Nat.not_lt.mp hlast)]
      exact mem_put_iff.mpr (Or.inr ⟨fun heq => hnotDir (heq ▸ hmem), hmem⟩)
    · have hdir' := h.dirs e hmem n hn hpos
      exact mem_put_iff.mpr (Or.inr ⟨fun heq => hnotDir (heq ▸ hdir'), hdir'⟩)
  · intro e he
    rcases mem_put_iff.mp he with ⟨-, hentry⟩ | ⟨-, hmem⟩
    · rw [hentry]
      rfl
    · exact h.no_links e hmem

/-- **A tree from which something was removed is a tree.** -/
theorem IsTree.remove (h : t.IsTree) (names : List Text) : (t.remove names).IsTree := by
  have hmem : ∀ {e}, e ∈ (t.remove names).entries → e ∈ t.entries := fun he => (mem_remove_iff.mp he).1
  constructor
  · exact fun e he => h.named e (hmem he)
  · exact h.nodup.sublist (List.Sublist.map _ List.filter_sublist)
  · intro e he n hn hpos
    refine mem_remove_iff.mpr ⟨h.dirs e (hmem he) n hn hpos, fun hbelow => ?_⟩
    exact (mem_remove_iff.mp he).2 (hbelow.trans (List.take_prefix n e.1))
  · exact fun e he => h.no_links e (hmem he)

end Trees

/-! ## The walk -/

/-- The last of the names, when they stand for something directly in the directory. -/
def childOf? (dir names : List Text) : Option Text :=
  if names.dropLast = dir then names.getLast? else none

theorem childOf?_eq_some_iff {dir names : List Text} {name : Text} :
    childOf? dir names = some name ↔ names = dir ++ [name] := by
  unfold childOf?
  constructor
  · intro h
    obtain ⟨rfl, hlast⟩ := Option.ite_none_right_eq_some.mp h
    exact (List.dropLast_append_getLast? name hlast).symm
  · rintro rfl
    rw [List.dropLast_concat, if_pos rfl, List.getLast?_concat]

/-- The names of the entries of a kind that stand directly in a directory. -/
def childNames (t : FileTree) (kind : Entry → Bool) (dir : List Text) : List Text :=
  t.entries.filterMap fun e => if kind e.2 then childOf? dir e.1 else none

/-- The names of the files in a directory. -/
def fileNames (t : FileTree) : List Text → List Text := t.childNames fun
  | .file _ => true
  | _ => false

/-- The names of the directories in a directory. -/
def dirNames (t : FileTree) : List Text → List Text := t.childNames (· == .dir)

/-- The names of the directories that a walk goes on to, in their order. -/
def enteredNames (t : FileTree) (dir : List Text) : List Text :=
  ((t.dirNames dir).filter fun name => !isSkippedDir name).mergeSort le

variable {t t' : FileTree} {root way names : List Text}

theorem mem_childNames_iff {kind : Entry → Bool} {dir : List Text} {name : Text} :
    name ∈ t.childNames kind dir ↔ ∃ entry, kind entry = true ∧ (dir ++ [name], entry) ∈ t.entries := by
  unfold childNames
  rw [List.mem_filterMap]
  constructor
  · rintro ⟨⟨names, entry⟩, hmem, hpick⟩
    obtain ⟨hkind, hchild⟩ := Option.ite_none_right_eq_some.mp hpick
    obtain rfl : names = dir ++ [name] := childOf?_eq_some_iff.mp hchild
    exact ⟨entry, hkind, hmem⟩
  · rintro ⟨entry, hkind, hmem⟩
    exact ⟨_, hmem, Option.ite_none_right_eq_some.mpr ⟨hkind, childOf?_eq_some_iff.mpr rfl⟩⟩

theorem mem_fileNames_iff {dir : List Text} {name : Text} :
    name ∈ t.fileNames dir ↔ ∃ content, (dir ++ [name], Entry.file content) ∈ t.entries := by
  rw [fileNames, mem_childNames_iff]
  constructor
  · rintro ⟨entry, hkind, hmem⟩
    cases entry with
    | file content => exact ⟨content, hmem⟩
    | dir => cases hkind
    | link target => cases hkind
  · exact fun ⟨content, hmem⟩ => ⟨_, rfl, hmem⟩

theorem mem_enteredNames_iff {dir : List Text} {name : Text} :
    name ∈ t.enteredNames dir ↔ (dir ++ [name], Entry.dir) ∈ t.entries ∧ isSkippedDir name = false := by
  rw [enteredNames, List.mem_mergeSort, List.mem_filter, dirNames, mem_childNames_iff]
  simp only [beq_iff_eq, exists_eq_left, Bool.not_eq_true']

/-- The greatest number of names that an entry is listed by. -/
def depth (t : FileTree) : Nat := (t.entries.map (·.1.length)).foldr max 0

theorem length_le_depth {entry : Entry} (h : (names, entry) ∈ t.entries) : names.length ≤ t.depth := by
  have hle : ∀ {ns : List Nat} {n : Nat}, n ∈ ns → n ≤ ns.foldr max 0 := fun {ns n} => by
    induction ns with
    | nil => exact fun hn => absurd hn List.not_mem_nil
    | cons m ns ih =>
      intro hn
      rw [List.foldr_cons]
      rcases List.mem_cons.mp hn with rfl | hn
      · exact Nat.le_max_left n _
      · exact (ih hn).trans (Nat.le_max_right m _)
  exact hle (List.mem_map.mpr ⟨_, h, rfl⟩)

/-- The files that a walk from `root` takes in the directory at the end of `way` and below, each by its names from
`root`. -/
def visit (t : FileTree) (root way : List Text) : List (List Text) :=
  (t.fileNames (root ++ way)).map (fun name => way ++ [name]) ++
    (t.enteredNames (root ++ way)).attach.flatMap fun ⟨name, _hname⟩ => visit t root (way ++ [name])
termination_by t.depth - (root ++ way).length
decreasing_by
  have hdepth := length_le_depth (mem_enteredNames_iff.mp _hname).1
  simp only [List.length_append, List.length_singleton] at hdepth ⊢
  omega

theorem visit_eq (t : FileTree) (root way : List Text) : t.visit root way =
    (t.fileNames (root ++ way)).map (fun name => way ++ [name]) ++
      (t.enteredNames (root ++ way)).flatMap fun name => t.visit root (way ++ [name]) := by
  rw [visit]
  congr 1
  exact (List.flatMap_subtype fun _ _ => rfl).trans (congrArg _ List.unattach_attach)

/-- The files that a walk from the directory comes to, in the order of their texts. -/
def walkDown (t : FileTree) (root : List Text) : List Text :=
  ((t.visit root []).map (joinWith ['/'])).mergeSort le

/-! ## What a walk comes to -/

/-- A file further down, from the directory and from the one where the way to it begins. -/
theorem cons_mem_files_iff {dir rest : List Text} {name : Text} (hrest : rest ≠ []) :
    name :: rest ∈ t.files dir ↔ rest ∈ t.files (dir ++ [name]) := by
  simp only [mem_files_iff, List.append_assoc, List.singleton_append, ne_eq, hrest, not_false_eq_true,
    List.cons_ne_nil]

theorem isOpenWay_cons {name : Text} {rest : List Text} (hrest : rest ≠ []) :
    IsOpenWay (name :: rest) ↔ isSkippedDir name = false ∧ IsOpenWay rest := by
  rw [IsOpenWay, List.dropLast_cons_of_ne_nil hrest, List.forall_mem_cons]
  rfl

/--
**A walk comes to the files with an open way.**

The induction is on the walk. What stands directly in the directory has no directory on its way, and what stands
further down is come to from the first directory on its way, which has to be there.
-/
theorem mem_visit_iff (h : t.IsTree) : names ∈ t.visit root way ↔
    ∃ rest, names = way ++ rest ∧ rest ∈ t.files (root ++ way) ∧ IsOpenWay rest := by
  induction way using visit.induct t root with
  | case1 way ih =>
    rw [visit_eq, List.mem_append, List.mem_map, List.mem_flatMap]
    constructor
    · rintro (⟨name, hname, rfl⟩ | ⟨name, hname, hmem⟩)
      · refine ⟨[name], rfl, mem_files_iff.mpr ⟨List.cons_ne_nil name [], mem_fileNames_iff.mp hname⟩, ?_⟩
        exact fun dir hdir => absurd hdir List.not_mem_nil
      · obtain ⟨rest, rfl, hrest, hopen⟩ := (ih name hname).mp hmem
        have hne : rest ≠ [] := (mem_files_iff.mp hrest).1
        rw [← List.append_assoc] at hrest
        exact ⟨name :: rest, by simp, (cons_mem_files_iff hne).mpr hrest,
          (isOpenWay_cons hne).mpr ⟨(mem_enteredNames_iff.mp hname).2, hopen⟩⟩
    · rintro ⟨rest, rfl, hrest, hopen⟩
      obtain ⟨hne, content, hentry⟩ := mem_files_iff.mp hrest
      obtain ⟨name, rest, rfl⟩ := List.exists_cons_of_ne_nil hne
      by_cases hlast : rest = []
      · rw [hlast] at hentry ⊢
        exact Or.inl ⟨name, mem_fileNames_iff.mpr ⟨content, hentry⟩, rfl⟩
      · obtain ⟨hname, hopen'⟩ := (isOpenWay_cons hlast).mp hopen
        have hdir : (root ++ way ++ [name], Entry.dir) ∈ t.entries :=
          h.dir_mem (by simp) hlast (by simpa using hentry)
        have hentered := mem_enteredNames_iff.mpr ⟨hdir, hname⟩
        refine Or.inr ⟨name, hentered, (ih name hentered).mpr ⟨rest, by simp, ?_, hopen'⟩⟩
        rw [← List.append_assoc]
        exact (cons_mem_files_iff hlast).mp hrest

/-- What is picked from the entries by their names comes up once, when the names can be told from it. -/
theorem IsTree.nodup_filterMap {β : Type} (h : t.IsTree) {pick : List Text × Entry → Option β}
    (hpick : ∀ {e e' b}, pick e = some b → pick e' = some b → e.1 = e'.1) : (t.entries.filterMap pick).Nodup := by
  refine List.pairwise_filterMap.mpr ((List.pairwise_map.mp h.nodup).imp fun {e e'} hne b hb b' hb' => ?_)
  rintro rfl
  exact hne (hpick hb hb')

theorem IsTree.nodup_childNames (h : t.IsTree) (kind : Entry → Bool) (dir : List Text) :
    (t.childNames kind dir).Nodup := by
  refine h.nodup_filterMap fun {e e' name} he he' => ?_
  rw [childOf?_eq_some_iff.mp (Option.ite_none_right_eq_some.mp he).2,
    childOf?_eq_some_iff.mp (Option.ite_none_right_eq_some.mp he').2]

theorem IsTree.nodup_files (h : t.IsTree) (root : List Text) : (t.files root).Nodup := by
  have hfile : ∀ {e : List Text × Entry} {names : List Text}, (match e.2 with
      | .file _ => below? root e
      | _ => none) = some names → e.1 = root ++ names := fun {e names} he => by
    split at he
    · exact (below?_eq_some_iff.mp he).2
    · cases he
  exact h.nodup_filterMap fun he he' => (hfile he).trans (hfile he').symm

/-- A walk comes to each file once. -/
theorem nodup_visit (h : t.IsTree) : (t.visit root way).Nodup := by
  induction way using visit.induct t root with
  | case1 way ih =>
    have hbelow : ∀ {name names}, names ∈ t.visit root (way ++ [name]) →
        ∃ rest, rest ≠ [] ∧ names = way ++ (name :: rest) := fun {name names} hmem => by
      obtain ⟨rest, rfl, hrest, -⟩ := (mem_visit_iff h).mp hmem
      exact ⟨rest, (mem_files_iff.mp hrest).1, by simp⟩
    rw [visit_eq]
    refine List.Nodup.append ?_ (List.nodup_flatMap.mpr ⟨ih, ?_⟩) ?_
    · exact (h.nodup_childNames _ _).map fun name name' heq => by simpa using heq
    · have hentered : (t.enteredNames (root ++ way)).Nodup :=
        List.nodup_mergeSort.mpr ((h.nodup_childNames _ _).filter _)
      refine hentered.imp fun {name name'} hne names hmem hmem' => ?_
      obtain ⟨rest, -, rfl⟩ := hbelow hmem
      obtain ⟨rest', -, heq⟩ := hbelow hmem'
      exact hne (List.cons.inj (List.append_cancel_left heq)).1
    · intro names hmem hmem'
      obtain ⟨name, -, rfl⟩ := List.mem_map.mp hmem
      obtain ⟨name', -, hmem'⟩ := List.mem_flatMap.mp hmem'
      obtain ⟨rest, hne, heq⟩ := hbelow hmem'
      exact hne (List.cons.inj (List.append_cancel_left heq)).2.symm

theorem perm_visit (h : t.IsTree) (root : List Text) : (t.visit root []).Perm ((t.files root).filter isWalked) := by
  refine (List.perm_ext_iff_of_nodup (nodup_visit h) ((h.nodup_files root).filter _)).mpr fun names => ?_
  rw [mem_visit_iff h, List.mem_filter, isWalked_iff, List.append_nil]
  simp only [List.nil_append, exists_eq_left']

/-- **The walk finds the files with an open way.** -/
theorem walkDown_eq (h : t.IsTree) (root : List Text) : t.walkDown root = t.walk root :=
  Text.mergeSort_eq_of_perm ((perm_visit h root).map _)

/-- What a walk finds is in order and without repetition. -/
theorem pairwise_walk (h : t.IsTree) (root : List Text) : (t.walk root).Pairwise Text.Precedes := by
  refine (Text.pairwise_le_mergeSort _).and (List.nodup_mergeSort.mpr ?_)
  refine List.Nodup.map_on (fun names hnames names' hnames' heq => ?_) ((h.nodup_files root).filter _)
  exact joinWith_names_inj (h.named.of_mem_files (List.mem_filter.mp hnames).1)
    (h.named.of_mem_files (List.mem_filter.mp hnames').1) heq

/-! ## What a walk does not notice -/

/-- The two trees are the same for the walk from the directory, for the coverage of the code in it, and for the
patterns that should match files in it. -/
structure SeenAlike (root : List Text) (t t' : FileTree) : Prop where
  walk : t'.walk root = t.walk root
  coverage : ∀ ms f, CoverageReport.ofProject t' root ms f = CoverageReport.ofProject t root ms f
  findings : ∀ d : Document, (Rule.validatePaths (some (t'.walk root))).findings d =
    (Rule.validatePaths (some (t.walk root))).findings d

/-- **Trees with the same files where the way is open are seen alike.** -/
theorem seenAlike_of_files (h : t.IsTree) (h' : t'.IsTree)
    (hsame : ∀ names, IsOpenWay names → (names ∈ t'.files root ↔ names ∈ t.files root)) : SeenAlike root t t' := by
  have hperm : ((t'.files root).filter isWalked).Perm ((t.files root).filter isWalked) := by
    refine (List.perm_ext_iff_of_nodup ((h'.nodup_files root).filter _)
      ((h.nodup_files root).filter _)).mpr fun names => ?_
    simp only [List.mem_filter, isWalked_iff]
    exact and_congr_left fun hopen => hsame names hopen
  have hwalk : t'.walk root = t.walk root := Text.mergeSort_eq_of_perm (hperm.map _)
  refine ⟨hwalk, fun ms f => ?_, fun d => by rw [hwalk]⟩
  rw [CoverageReport.ofProject, CoverageReport.codeFiles, hwalk]
  rfl

/-- A way on from an end that is not open is not open. -/
theorem IsOpenWay.of_start {front : List Text} (h : IsOpenWay names) (hfront : front <+: names) :
    IsOpenWay front := by
  obtain ⟨back, rfl⟩ := hfront
  refine fun dir hdir => h dir ?_
  by_cases hback : back = []
  · rwa [hback, List.append_nil]
  · rw [List.dropLast_append_of_ne_nil hback]
    exact List.mem_append_left _ (List.dropLast_subset front hdir)

/-- What is written below a directory that the walk does not enter. -/
theorem seenAlike_write (h : t.IsTree) (hclosed : ¬ IsOpenWay names) {content : List UInt8}
    (hnames : ∀ name ∈ root ++ names, IsName name) (hwrite : t.write (root ++ names) content = some t') :
    SeenAlike root t t' := by
  refine seenAlike_of_files h (h.write hnames hwrite) fun other hopen => ?_
  obtain ⟨-, -, rfl⟩ := write_eq_some_iff.mp hwrite
  have hother : root ++ other ≠ root ++ names := fun heq => hclosed (List.append_cancel_left heq ▸ hopen)
  simp only [mem_files_iff, mem_put_iff, hother, false_and, false_or, ne_eq, not_false_eq_true, true_and]

/-- What is removed below such a directory. -/
theorem seenAlike_remove (h : t.IsTree) (hclosed : ¬ IsOpenWay names) :
    SeenAlike root t (t.remove (root ++ names)) := by
  refine seenAlike_of_files h (h.remove _) fun other hopen => ?_
  have hother : ¬ root ++ names <+: root ++ other := fun hbelow =>
    hclosed (hopen.of_start ((List.prefix_append_right_inj root).mp hbelow))
  simp only [mem_files_iff, mem_remove_iff, hother, not_false_eq_true, and_true]

/--
**What a walk finds, and what it does not notice.**

In a tree without links, going from directory to directory finds the same as asking for the files with an open way.
Their texts are in strictly increasing order, and a file is among them when no directory on the way to it is one
that the walk does not enter, whatever the name of the file itself. So the walk, the coverage of code and the check
of patterns do not notice what happens to other files: they see two trees alike that have the same files with an
open way, in particular before and after a file was written or something was removed below a directory that is not
entered.
-/
theorem walk_open (h : t.IsTree) (root : List Text) :
    t.walkDown root = t.walk root ∧ (t.walk root).Pairwise Text.Precedes ∧
    (∀ file, file ∈ t.walk root ↔ ∃ names ∈ t.files root, IsOpenWay names ∧ joinWith ['/'] names = file) ∧
    (∀ names ∈ t.files root, joinWith ['/'] names ∈ t.walk root ↔ IsOpenWay names) ∧
    (∀ t' : FileTree, t'.IsTree →
      (∀ names, IsOpenWay names → (names ∈ t'.files root ↔ names ∈ t.files root)) → SeenAlike root t t') ∧
    ∀ names, ¬ IsOpenWay names →
      (∀ content t', (∀ name ∈ root ++ names, IsName name) → t.write (root ++ names) content = some t' →
        SeenAlike root t t') ∧
      SeenAlike root t (t.remove (root ++ names)) :=
  ⟨walkDown_eq h root, pairwise_walk h root, fun _ => mem_walk_iff_exists, fun _ => mem_walk_iff h.named,
    fun _ => seenAlike_of_files h, fun _ hclosed =>
      ⟨fun _ _ hnames hwrite => seenAlike_write h hclosed hnames hwrite, seenAlike_remove h hclosed⟩⟩

/-- A project with a source file in a directory, one beside the directory, a hidden file, and a file that a build
made. -/
def workshop : FileTree where
  entries := [(["p".toList], .dir), (["p".toList, "src".toList], .dir),
    (["p".toList, "src".toList, "a.py".toList], .file []), (["p".toList, "src.py".toList], .file []),
    (["p".toList, ".env".toList], .file []), (["p".toList, "build".toList], .dir),
    (["p".toList, "build".toList, "gen.py".toList], .file [])]

/-- The file of the build is not found, and it can be removed. -/
theorem walk_open_workshop : workshop.IsTree ∧
    workshop.walk ["p".toList] = [".env".toList, "src.py".toList, "src/a.py".toList] ∧
    (workshop.remove ["p".toList, "build".toList, "gen.py".toList]).walk ["p".toList] =
      [".env".toList, "src.py".toList, "src/a.py".toList] := by
  have htree : workshop.IsTree := by decide
  have hclosed : ¬ IsOpenWay ["build".toList, "gen.py".toList] := by decide
  have hwalk : workshop.walk ["p".toList] = [".env".toList, "src.py".toList, "src/a.py".toList] := by cbv
  obtain ⟨-, -, -, -, -, hchanges⟩ := walk_open htree ["p".toList]
  exact ⟨htree, hwalk, (hchanges _ hclosed).2.walk.trans hwalk⟩

end FileTree

end DocAudit
