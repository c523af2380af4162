import DocAudit.Failure

/-!
# Trees that differ in what files hold

Two file trees with the same entries, but for what files hold. Whatever is asked about paths has the same
answer in both, as long as it is not the content of such a file.

## Contents

* `FileTree.SameKinds`: trees where the same names stand for the same kinds of entries
* `SameKinds.locate?_eq`, `SameKinds.exists?_eq`, `SameKinds.isFile?_eq`: **the answers about paths**
* `FileTree.SameShape`: trees where, in addition, the same names are listed as files
* `FileTree.AgreeBut`: trees that agree but for the content of a file
* `AgreeBut.content?_eq`: **what other files hold**
* `agreeBut_put`, `sameShape_put`: writing to a file changes nothing else
-/

namespace DocAudit.FileTree

/-- Each name stands for the same in both trees, but a file may hold something else. -/
structure SameKinds (t t' : FileTree) : Prop where
  find? : ∀ names, t'.find? names = t.find? names ∨
    ∃ content content', t.find? names = some (.file content) ∧ t'.find? names = some (.file content')

namespace SameKinds

variable {t t' t'' : FileTree}

theorem refl (t : FileTree) : SameKinds t t := ⟨fun _ => .inl rfl⟩

theorem symm (h : SameKinds t t') : SameKinds t' t := by
  refine ⟨fun names => ?_⟩
  rcases h.find? names with he | ⟨content, content', hfile, hfile'⟩
  · exact .inl he.symm
  · exact .inr ⟨content', content, hfile', hfile⟩

theorem trans (h : SameKinds t t') (h' : SameKinds t' t'') : SameKinds t t'' := by
  refine ⟨fun names => ?_⟩
  rcases h'.find? names with he' | ⟨content', content'', hfile', hfile''⟩
  · rw [he']
    exact h.find? names
  · rcases h.find? names with he | ⟨content, _, hfile, -⟩
    · exact .inr ⟨content', content'', he ▸ hfile', hfile''⟩
    · exact .inr ⟨content, content'', hfile, hfile''⟩

/-- The same names stand for directories. -/
theorem dir_iff (h : SameKinds t t') (names : List Text) :
    t'.find? names = some .dir ↔ t.find? names = some .dir := by
  rcases h.find? names with he | ⟨content, content', hfile, hfile'⟩
  · rw [he]
  · rw [hfile, hfile']
    simp

theorem isSome_eq (h : SameKinds t t') (names : List Text) :
    (t'.find? names).isSome = (t.find? names).isSome := by
  rcases h.find? names with he | ⟨content, content', hfile, hfile'⟩
  · rw [he]
  · rw [hfile, hfile']
    rfl

/-- A step on the way of a path is the same in both trees. -/
theorem step_eq (h : SameKinds t t') : t'.step = t.step := by
  have hstep : ∀ (u : FileTree) (at' : List Text) (name : Text), u.step (some at') name =
      if u.find? at' = some .dir then
        some (if name = ['.', '.'] then at'.dropLast else at' ++ [name])
      else none := by
    intro u at' name
    unfold step
    simp only
    split
    · next hdir => rw [if_pos hdir]
    · next hnot => rw [if_neg fun hdir => hnot hdir]
  funext at? name
  cases at? with
  | none => rfl
  | some at' => simp only [hstep, h.dir_iff at']

/-- **Paths lead to the same names.** -/
theorem locate?_eq (h : SameKinds t t') (cwd p : Path) : t'.locate? cwd p = t.locate? cwd p := by
  unfold locate?
  rw [h.step_eq]

theorem has_eq (h : SameKinds t t') (cwd p : Path) : t'.has cwd p = t.has cwd p := by
  unfold has get?
  rw [h.locate?_eq]
  cases t.locate? cwd p with
  | none => rfl
  | some at' => exact h.isSome_eq at'

theorem isDir_eq (h : SameKinds t t') (cwd p : Path) : t'.isDir cwd p = t.isDir cwd p := by
  unfold isDir get?
  rw [h.locate?_eq]
  cases t.locate? cwd p with
  | none => rfl
  | some at' => exact decide_eq_decide.mpr (h.dir_iff at')

theorem isFile_eq (h : SameKinds t t') (cwd p : Path) : t'.isFile cwd p = t.isFile cwd p := by
  unfold isFile content? get?
  rw [h.locate?_eq]
  cases t.locate? cwd p with
  | none => rfl
  | some at' =>
    simp only [Option.bind_some]
    rcases h.find? at' with he | ⟨content, content', hfile, hfile'⟩
    · rw [he]
    · rw [hfile, hfile']
      rfl

theorem isOverlong_eq (h : SameKinds t t') (cwd p : Path) :
    t'.isOverlong cwd p = t.isOverlong cwd p := by
  unfold isOverlong
  simp only [h.isDir_eq]

/-- **There is something at a path in both trees, or in none, or the system refuses to look.** -/
theorem exists?_eq (h : SameKinds t t') (cwd p : Path) : t'.exists? cwd p = t.exists? cwd p := by
  unfold exists? unlessOverlong
  rw [h.isOverlong_eq, h.has_eq]

theorem isFile?_eq (h : SameKinds t t') (cwd p : Path) : t'.isFile? cwd p = t.isFile? cwd p := by
  unfold isFile? unlessOverlong
  rw [h.isOverlong_eq, h.isFile_eq]

end SameKinds

/-- In addition the same names are listed as files, so that walks come to the same files. -/
structure SameShape (t t' : FileTree) : Prop extends SameKinds t t' where
  listed : ∀ names, (∃ content, (names, Entry.file content) ∈ t'.entries) ↔
    ∃ content, (names, Entry.file content) ∈ t.entries

namespace SameShape

variable {t t' t'' : FileTree}

theorem refl (t : FileTree) : SameShape t t := ⟨.refl t, fun _ => Iff.rfl⟩

theorem trans (h : SameShape t t') (h' : SameShape t' t'') : SameShape t t'' :=
  ⟨h.toSameKinds.trans h'.toSameKinds, fun names => (h'.listed names).trans (h.listed names)⟩

end SameShape

/-- Both trees have a file at the names, and all other entries are the same in both. -/
structure AgreeBut (names : List Text) (t t' : FileTree) : Prop where
  others : ∀ other, other ≠ names → t'.find? other = t.find? other
  file : ∃ content, t.find? names = some (.file content)
  file' : ∃ content, t'.find? names = some (.file content)

namespace AgreeBut

variable {names : List Text} {t t' : FileTree}

theorem sameKinds (h : AgreeBut names t t') : SameKinds t t' := by
  refine ⟨fun other => ?_⟩
  by_cases ho : other = names
  · obtain ⟨content, hfile⟩ := h.file
    obtain ⟨content', hfile'⟩ := h.file'
    rw [ho]
    exact .inr ⟨content, content', hfile, hfile'⟩
  · exact .inl (h.others other ho)

/-- **Another file has the same content.** -/
theorem content?_eq (h : AgreeBut names t t') {cwd p : Path} (hp : t.locate? cwd p ≠ some names) :
    t'.content? cwd p = t.content? cwd p := by
  have hget : t'.get? cwd p = t.get? cwd p := by
    unfold get?
    rw [h.sameKinds.locate?_eq]
    cases hat : t.locate? cwd p with
    | none => rfl
    | some at' =>
      rw [hat] at hp
      exact h.others at' fun he => hp (congrArg some he)
  unfold content?
  rw [hget]

end AgreeBut

/-! ## Writing to a file -/

/-- What is found in entries, one of which was replaced. -/
theorem lookup_replaced (names other : List Text) (entry : Entry) :
    ∀ entries : List (List Text × Entry),
      (entries.map fun e => if e.1 == names then (names, entry) else e).lookup other =
        if other = names then (entries.lookup other).map fun _ => entry else entries.lookup other
  | [] => by split <;> rfl
  | (key, old) :: rest => by
    rw [List.map_cons]
    by_cases hkey : key = names
    · rw [if_pos (beq_iff_eq.mpr hkey), List.lookup_cons, List.lookup_cons,
        lookup_replaced names other entry rest]
      by_cases hother : other = names
      · simp [hkey, hother]
      · have hne : (other == names) = false := by simp [hother]
        simp [hkey, hother, hne]
    · rw [if_neg (by simpa using hkey), List.lookup_cons, List.lookup_cons,
        lookup_replaced names other entry rest]
      by_cases hother : other = names
      · have hne : (names == key) = false := by simpa using Ne.symm hkey
        simp [hother, hne]
      · simp [hother]

section Put

variable {t : FileTree} {names : List Text} {entry : Entry} (h : t.find? names = some entry) (hne : names ≠ [])

include h hne

theorem lookup_of_find? : t.entries.lookup names = some entry := by
  unfold find? at h
  rwa [if_neg (by simpa using hne)] at h

/-- An entry that is there is replaced. -/
theorem entries_put (entry' : Entry) :
    (t.put names entry').entries = t.entries.map fun e => if e.1 == names then (names, entry') else e := by
  have hany : t.entries.any (·.1 == names) = true := by
    have hmem := List.lookup_isSome_iff.mp (by rw [lookup_of_find? h hne]; rfl)
    obtain ⟨e, he, hkey⟩ := hmem
    exact List.any_eq_true.mpr ⟨e, he, by rwa [BEq.comm] at hkey⟩
  exact if_pos hany

/-- The names that are listed are the same. -/
theorem names_put (entry' : Entry) : (t.put names entry').entries.map (·.1) = t.entries.map (·.1) := by
  rw [entries_put h hne, List.map_map]
  refine List.map_congr_left fun e _ => ?_
  by_cases he : e.1 = names
  · simp [he]
  · simp [he]

theorem find?_put (entry' : Entry) (other : List Text) :
    (t.put names entry').find? other = if other = names then some entry' else t.find? other := by
  unfold find?
  rw [entries_put h hne, lookup_replaced]
  by_cases hother : other = names
  · simp [hother, hne, lookup_of_find? h hne]
  · simp [hother]

end Put

section File

variable {t : FileTree} {names : List Text} {content : List UInt8}

theorem ne_nil_of_file (h : t.find? names = some (.file content)) : names ≠ [] := by
  rintro rfl
  cases h

/-- **Writing to a file changes nothing else.** -/
theorem agreeBut_put (h : t.find? names = some (.file content)) (content' : List UInt8) :
    AgreeBut names t (t.put names (.file content')) := by
  have hput := find?_put h (ne_nil_of_file h) (.file content')
  refine ⟨fun other hother => ?_, ⟨content, h⟩, ⟨content', ?_⟩⟩
  · rw [hput, if_neg hother]
  · rw [hput, if_pos rfl]

/-- **Writing to a file changes neither kinds nor names.** -/
theorem sameShape_put (h : t.find? names = some (.file content)) (content' : List UInt8) :
    SameShape t (t.put names (.file content')) := by
  refine ⟨(agreeBut_put h content').sameKinds, fun other => ?_⟩
  have hne := ne_nil_of_file h
  have hlisted : (names, Entry.file content) ∈ t.entries := by
    obtain ⟨before, after, hentries, -⟩ := List.lookup_eq_some_iff.mp (lookup_of_find? h hne)
    rw [hentries]
    simp
  rw [entries_put h hne]
  by_cases hother : other = names
  · rw [hother]
    refine ⟨fun _ => ⟨content, hlisted⟩, fun _ => ⟨content', List.mem_map.mpr ⟨_, hlisted, ?_⟩⟩⟩
    rw [if_pos (beq_self_eq_true names)]
  · constructor
    · rintro ⟨c, hc⟩
      obtain ⟨e, he, hc⟩ := List.mem_map.mp hc
      split at hc
      · exact absurd (congrArg Prod.fst hc).symm hother
      · exact ⟨c, hc ▸ he⟩
    · rintro ⟨c, hc⟩
      refine ⟨c, List.mem_map.mpr ⟨_, hc, ?_⟩⟩
      rw [if_neg (by simpa using hother)]

end File

end DocAudit.FileTree
