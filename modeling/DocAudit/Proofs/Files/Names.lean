import DocAudit.Failure
import DocAudit.Files.Tree
import DocAudit.Proofs.Text.Joined
import Mathlib.Data.List.Induction

/-!
# Names in trees and paths

The names that entries of directories can have. A path of such names can be told from its text. A path that
leads to an entry is made of such names and of steps upwards, and taking these steps gives the names of the
entry.

## Contents

* `IsName`, `FileTree.IsNamed`: names of entries, and trees with such names only
* `Path.ofText_text`: **a path is read back from its text**
* `Path.relativeText_inj`: different paths are shown differently
* `Path.IsResolved`, `FileTree.names_of_locate?`: a path without steps upwards leads to its own names
* `FileTree.collapse_eq`: **the path without steps upwards is where the path leads**
* `FileTree.locate?_join`: **a way further on from there is the same**
* `FileTree.refuseNul_of_found`: a path that leads to an entry has no zero character in it
-/

namespace DocAudit

open Text

/-- A name that an entry of a directory can have. -/
structure IsName (name : Text) : Prop where
  ne_nil : name ≠ []
  no_slash : '/' ∉ name
  no_nul : '\x00' ∉ name
  ne_dot : name ≠ ['.']
  ne_dots : name ≠ ['.', '.']

instance (name : Text) : Decidable (IsName name) :=
  decidable_of_iff
    (name ≠ [] ∧ '/' ∉ name ∧ '\x00' ∉ name ∧ name ≠ ['.'] ∧ name ≠ ['.', '.'])
    ⟨fun ⟨h₁, h₂, h₃, h₄, h₅⟩ => ⟨h₁, h₂, h₃, h₄, h₅⟩, fun ⟨h₁, h₂, h₃, h₄, h₅⟩ => ⟨h₁, h₂, h₃, h₄, h₅⟩⟩

/-- All entries of the tree are listed by such names. -/
def FileTree.IsNamed (t : FileTree) : Prop := ∀ e ∈ t.entries, ∀ name ∈ e.1, IsName name

instance (t : FileTree) : Decidable t.IsNamed :=
  haveI (e : List Text × Entry) := List.decidableBAll IsName e.1
  List.decidableBAll _ t.entries

/-! ## Paths and their texts -/

namespace Path

/-- A path with one root or none, made of names. -/
structure IsPlain (p : Path) : Prop where
  root : p.root = [] ∨ p.root = ['/']
  names : ∀ name ∈ p.names, IsName name

/-- The names in a text that was put together of names. -/
theorem names_joinWith {names : List Text} (h : ∀ name ∈ names, IsName name) :
    (splitAt '/' (joinWith ['/'] names)).filter (fun name => !name.isEmpty && name != ['.']) = names := by
  by_cases hne : names = []
  · subst hne
    rfl
  · rw [splitAt_joinWith hne fun name hname => (h name hname).no_slash]
    refine List.filter_eq_self.mpr fun name hname => ?_
    simp [(h name hname).ne_nil, (h name hname).ne_dot]

/-- The text of names does not start with a slash. -/
theorem rootOf_joinWith {names : List Text} (h : ∀ name ∈ names, IsName name) :
    rootOf (joinWith ['/'] names) = [] ∧ rootOf ('/' :: joinWith ['/'] names) = ['/'] := by
  cases names with
  | nil => exact ⟨rfl, rfl⟩
  | cons name rest =>
    obtain ⟨hne, hslash, -, -, -⟩ := h name List.mem_cons_self
    obtain ⟨c, r, rfl⟩ := List.exists_cons_of_ne_nil hne
    have hc : c ≠ '/' := by
      rintro rfl
      exact hslash List.mem_cons_self
    obtain ⟨more, hmore⟩ : ∃ more, joinWith ['/'] ((c :: r) :: rest) = c :: more := by
      cases rest with
      | nil => exact ⟨r, rfl⟩
      | cons next rest => exact ⟨_, rfl⟩
    rw [hmore]
    constructor
    · unfold rootOf
      split <;> simp_all
    · unfold rootOf
      split <;> simp_all

/-- **A path is read back from its text.** -/
theorem ofText_text {p : Path} (h : p.IsPlain) : ofText p.text = p := by
  obtain ⟨root, names⟩ := p
  obtain ⟨hroot, hnames⟩ := h
  obtain ⟨hrel, habs⟩ := rootOf_joinWith hnames
  have hsplit := names_joinWith hnames
  simp only at hroot hnames
  rcases hroot with rfl | rfl
  · by_cases hne : names = []
    · subst hne
      rfl
    · have htext : text { root := [], names } = joinWith ['/'] names := by
        unfold text
        rw [if_neg (by simpa using hne)]
        rfl
      rw [htext, ofText, hrel, hsplit]
  · have htext : text { root := ['/'], names } = '/' :: joinWith ['/'] names := rfl
    rw [htext, ofText, habs, splitAt, if_pos rfl, List.filter_cons_of_neg (by simp), hsplit]

/-- The names of a path further on from another one. -/
theorem names_join_join (cwd p : Path) (below : List Text) :
    (cwd.join (p.join { root := [], names := below })).names = (cwd.join p).names ++ below := by
  unfold join isAbsolute
  by_cases hp : p.root.isEmpty = true
  · simp [hp]
  · simp [hp]

/-- Names that are not upwards are added to those before them. -/
theorem foldl_collapseStep_of_not_mem {names : List Text} (h : ['.', '.'] ∉ names)
    (at' : List Text) : names.foldl collapseStep at' = at' ++ names := by
  induction names generalizing at' with
  | nil => exact (List.append_nil at').symm
  | cons name rest ih =>
    have hname : name ≠ ['.', '.'] := fun he => h (he ▸ List.mem_cons_self)
    rw [List.foldl_cons, collapseStep, if_neg hname, ih fun hmem => h (List.mem_cons_of_mem name hmem),
      List.append_assoc, List.singleton_append]

/-- The path starts at the root of the file system, and no step of it goes upwards. -/
structure IsResolved (p : Path) : Prop where
  root : p.root = ['/']
  no_up : ['.', '.'] ∉ p.names

theorem isResolved_collapse (p : Path) : p.collapse.IsResolved := by
  have hsteps : ∀ names at' : List Text, ['.', '.'] ∉ at' → ['.', '.'] ∉ names.foldl collapseStep at' := by
    intro names
    induction names with
    | nil => exact fun _ hat => hat
    | cons name rest ih =>
      refine fun at' hat => ih _ fun hmem => ?_
      unfold collapseStep at hmem
      split at hmem
      · exact hat ((List.dropLast_sublist at').subset hmem)
      · next hname =>
        rcases List.mem_append.mp hmem with hmem | hmem
        · exact hat hmem
        · exact hname (List.mem_singleton.mp hmem).symm
  exact ⟨rfl, hsteps p.names [] (by simp)⟩

/-- Such a path is told by its names. -/
theorem IsResolved.ext {p q : Path} (hp : p.IsResolved) (hq : q.IsResolved) (h : p.names = q.names) : p = q := by
  obtain ⟨proot, pnames⟩ := p
  obtain ⟨qroot, qnames⟩ := q
  obtain rfl : proot = ['/'] := hp.root
  obtain rfl : qroot = ['/'] := hq.root
  cases h
  rfl

/-- A path is not refused when no name in it has a zero character. -/
theorem refuseNul_eq_ok_iff {p : Path} : p.refuseNul = .ok () ↔ ∀ name ∈ p.names, '\x00' ∉ name := by
  have hany : p.names.any (·.contains '\x00') = false ↔ ∀ name ∈ p.names, '\x00' ∉ name := by
    simp
  rw [← hany]
  unfold refuseNul
  cases p.names.any (·.contains '\x00') <;> simp

/-- What is shown of a path from another one is itself a path of names. -/
theorem isPlain_relative {p : Path} (h : p.IsPlain) (base : Path) :
    ((p.relativeTo? base).getD p).IsPlain := by
  unfold relativeTo?
  split
  · exact ⟨Or.inl rfl, fun name hname => h.names name (List.mem_of_mem_drop hname)⟩
  · exact h

/-- A path that starts at the root, and its way from another one: either this one is a beginning of it, or
there is no such way. -/
theorem relative_cases {p : Path} (hroot : p.root = ['/']) (base : Path) :
    (base.names <+: p.names ∧
      (p.relativeTo? base).getD p = { root := [], names := p.names.drop base.names.length }) ∨
      (p.relativeTo? base).getD p = p := by
  unfold relativeTo?
  split
  · next hbase =>
    refine Or.inl ⟨?_, rfl⟩
    rw [Bool.and_eq_true, Bool.or_eq_true] at hbase
    obtain ⟨hbegins, habs⟩ := hbase
    have hp : p.isAbsolute = true := by
      unfold isAbsolute
      rw [hroot]
      rfl
    have hb : base.isAbsolute = true := by simpa [hp] using habs
    unfold components at hbegins
    rw [if_pos hb, if_pos hp, List.isPrefixOf_iff_prefix, List.cons_prefix_cons] at hbegins
    exact hbegins.2
  · exact Or.inr rfl

/-- **Different paths are shown differently, wherever they are looked at from.** -/
theorem relativeText_inj {p q : Path} (hp : p.IsPlain) (hq : q.IsPlain) (hproot : p.root = ['/'])
    (hqroot : q.root = ['/']) {base : Path} (h : p.relativeText base = q.relativeText base) : p = q := by
  have hsame : (p.relativeTo? base).getD p = (q.relativeTo? base).getD q := by
    rw [← ofText_text (isPlain_relative hp base), ← ofText_text (isPlain_relative hq base)]
    exact congrArg ofText h
  rcases relative_cases hproot base with ⟨⟨ps, hps⟩, hpe⟩ | hpe
  · rcases relative_cases hqroot base with ⟨⟨qs, hqs⟩, hqe⟩ | hqe
    · rw [hpe, hqe, ← hps, ← hqs, List.drop_left, List.drop_left] at hsame
      cases p
      cases q
      simp_all
    · rw [hpe, hqe] at hsame
      rw [← hsame] at hqroot
      cases hqroot
  · rcases relative_cases hqroot base with ⟨-, hqe⟩ | hqe
    · rw [hpe, hqe] at hsame
      rw [hsame] at hproot
      cases hproot
    · rwa [hpe, hqe] at hsame

end Path

/-! ## Where paths lead -/

namespace FileTree

variable {t : FileTree}

/-- An entry is found under names. -/
theorem IsNamed.of_find? (h : t.IsNamed) {names : List Text} {entry : Entry}
    (hfind : t.find? names = some entry) : ∀ name ∈ names, IsName name := by
  unfold find? at hfind
  split at hfind
  · next hempty =>
    rw [List.isEmpty_iff.mp hempty]
    simp
  · obtain ⟨before, after, hentries, -⟩ := List.lookup_eq_some_iff.mp hfind
    exact h (names, entry) (by rw [hentries]; simp)

/-- One step on a way that goes on. -/
theorem step_eq_some {names next : List Text} {name : Text} (h : t.step (some names) name = some next) :
    t.find? names = some .dir ∧ next = Path.collapseStep names name := by
  unfold step at h
  simp only at h
  split at h
  · next hdir => exact ⟨hdir, (Option.some.inj h).symm⟩
  · cases h

/-- There is no way on from nowhere. -/
theorem foldl_step_none (names : List Text) : names.foldl t.step none = none := by
  induction names with
  | nil => rfl
  | cons name rest ih => exact ih

/-- A way that leads somewhere, one step at a time. -/
theorem foldl_step_cons {at' out : List Text} {name : Text} {rest : List Text}
    (h : (name :: rest).foldl t.step (some at') = some out) :
    t.find? at' = some .dir ∧
      rest.foldl t.step (some (Path.collapseStep at' name)) = some out := by
  rw [List.foldl_cons] at h
  cases hstep : t.step (some at') name with
  | none =>
    rw [hstep, foldl_step_none] at h
    cases h
  | some next =>
    obtain ⟨hdir, rfl⟩ := step_eq_some hstep
    rw [hstep] at h
    exact ⟨hdir, h⟩

/-- A way leads to the names that are left when all steps upwards were taken. -/
theorem foldl_collapseStep {names at' out : List Text}
    (h : names.foldl t.step (some at') = some out) : names.foldl Path.collapseStep at' = out := by
  induction names generalizing at' with
  | nil => exact Option.some.inj h
  | cons name rest ih => exact ih (foldl_step_cons h).2

/-- **The path without steps upwards is where the path leads.** -/
theorem collapse_eq {cwd p : Path} {names : List Text} (h : t.locate? cwd p = some names) :
    (cwd.join p).collapse = { root := ['/'], names } := by
  unfold Path.collapse
  rw [foldl_collapseStep h]

/-- A resolved path leads to its own names, if it leads anywhere. -/
theorem names_of_locate? {cwd p : Path} {names : List Text} (hp : p.IsResolved)
    (h : t.locate? cwd p = some names) : names = p.names := by
  have hjoin : cwd.join p = p := by
    unfold Path.join Path.isAbsolute
    rw [hp.root]
    rfl
  have hcollapse := congrArg Path.names (collapse_eq h)
  rw [hjoin, Path.collapse, Path.foldl_collapseStep_of_not_mem hp.no_up, List.nil_append] at hcollapse
  exact hcollapse.symm

/-- A resolved path that leads to a file is made of names. -/
theorem isPlain_of_content (hnamed : t.IsNamed) {cwd p : Path} (hp : p.IsResolved) {content : List UInt8}
    (h : t.content? cwd p = some content) : p.IsPlain := by
  unfold content? get? at h
  split at h
  · next content' hget =>
    obtain ⟨names, hnames, hfind⟩ := Option.bind_eq_some_iff.mp hget
    have hall := hnamed.of_find? hfind
    rw [names_of_locate? hp hnames] at hall
    exact ⟨Or.inr hp.root, hall⟩
  · cases h

/-- The directories on the way to the names are there, and the names are not upwards. -/
structure IsReached (t : FileTree) (names : List Text) : Prop where
  dirs : ∀ before, before <+: names → before ≠ names → t.find? before = some .dir
  no_up : ['.', '.'] ∉ names

theorem isReached_nil : t.IsReached [] :=
  ⟨fun _ h hne => absurd (List.prefix_nil.mp h) hne, by simp⟩

/-- One step from a directory goes to names that are reached. -/
theorem IsReached.collapseStep {names : List Text} (h : t.IsReached names)
    (hdir : t.find? names = some .dir) (name : Text) : t.IsReached (Path.collapseStep names name) := by
  unfold Path.collapseStep
  by_cases hup : name = ['.', '.']
  · rw [if_pos hup]
    refine ⟨fun before hbefore _ => ?_, fun hmem => h.no_up ((List.dropLast_sublist names).subset hmem)⟩
    by_cases hsame : before = names
    · rw [hsame]
      exact hdir
    · exact h.dirs before (hbefore.trans (List.dropLast_prefix names)) hsame
  · rw [if_neg hup]
    refine ⟨fun before hbefore hne => ?_, ?_⟩
    · rcases List.prefix_concat_iff.mp hbefore with hsame | hbefore
      · exact absurd hsame hne
      · by_cases hsame : before = names
        · rw [hsame]
          exact hdir
        · exact h.dirs before hbefore hsame
    · intro hmem
      rcases List.mem_append.mp hmem with hmem | hmem
      · exact h.no_up hmem
      · exact hup (List.mem_singleton.mp hmem).symm

theorem IsReached.foldl_step {names at' out : List Text} (hat : t.IsReached at')
    (h : names.foldl t.step (some at') = some out) : t.IsReached out := by
  induction names generalizing at' with
  | nil =>
    rw [← Option.some.inj h]
    exact hat
  | cons name rest ih =>
    obtain ⟨hdir, hrest⟩ := foldl_step_cons h
    exact ih (hat.collapseStep hdir name) hrest

/-- Names that are reached are reached directly. -/
theorem IsReached.direct {names : List Text} (h : t.IsReached names) :
    names.foldl t.step (some []) = some names := by
  induction names using List.reverseRecOn with
  | nil => rfl
  | append_singleton names name ih =>
    have hnames : t.IsReached names := by
      refine ⟨fun before hbefore _ => ?_, fun hmem => h.no_up (List.mem_append_left _ hmem)⟩
      refine h.dirs before (hbefore.trans (List.prefix_append _ _)) ?_
      rintro rfl
      exact absurd hbefore.length_le (by simp)
    have hdir : t.find? names = some .dir :=
      h.dirs names (List.prefix_append _ _) (by simp)
    have hup : name ≠ ['.', '.'] := by
      rintro rfl
      exact h.no_up (by simp)
    rw [List.foldl_append, ih hnames, List.foldl_cons, List.foldl_nil]
    unfold step
    simp only [hdir, if_neg hup]

/-- A way below a path goes on from the end of the path. -/
theorem locate?_join_names (cwd p : Path) (below : List Text) :
    t.locate? cwd (p.join { root := [], names := below }) =
      below.foldl t.step (t.locate? cwd p) := by
  unfold locate?
  rw [Path.names_join_join, List.foldl_append]

/-- **From where a path leads, a way further on leads where it leads behind the path.** -/
theorem locate?_join {cwd p : Path} {names : List Text} (h : t.locate? cwd p = some names)
    (below : List Text) :
    t.locate? cwd { root := ['/'], names := names ++ below } =
      t.locate? cwd (p.join { root := [], names := below }) := by
  have hreached : t.IsReached names := isReached_nil.foldl_step h
  rw [locate?_join_names, h]
  show (names ++ below).foldl t.step (some []) = _
  rw [List.foldl_append, hreached.direct]

/-- A way that starts in a directory and leads to an entry goes through entries, or up. -/
theorem names_of_foldl_step (hnamed : t.IsNamed) {names at' out : List Text} {entry : Entry}
    (h : names.foldl t.step (some at') = some out) (hout : t.find? out = some entry) :
    ∀ name ∈ names, name = ['.', '.'] ∨ IsName name := by
  induction names generalizing at' with
  | nil => simp
  | cons name rest ih =>
    obtain ⟨-, hrest⟩ := foldl_step_cons h
    refine List.forall_mem_cons.mpr ⟨?_, ih hrest⟩
    by_cases hup : name = ['.', '.']
    · exact Or.inl hup
    · right
      -- there is an entry behind this step: the way goes on from it, or ends there
      obtain ⟨here, hhere⟩ : ∃ here, t.find? (Path.collapseStep at' name) = some here := by
        cases rest with
        | nil => exact ⟨entry, by rw [Option.some.inj hrest]; exact hout⟩
        | cons next rest => exact ⟨.dir, (foldl_step_cons hrest).1⟩
      unfold Path.collapseStep at hhere
      rw [if_neg hup] at hhere
      exact hnamed.of_find? hhere name (by simp)

/-- A path that leads to an entry has no zero character in it. -/
theorem refuseNul_of_found (hnamed : t.IsNamed) {cwd p : Path} {names : List Text} {entry : Entry}
    (h : t.locate? cwd p = some names) (hfind : t.find? names = some entry) : p.refuseNul = .ok () := by
  have hnames := names_of_foldl_step hnamed h hfind
  refine Path.refuseNul_eq_ok_iff.mpr fun name hname => ?_
  have hmem : name ∈ (cwd.join p).names := by
    unfold Path.join
    split
    · exact hname
    · exact List.mem_append_right cwd.names hname
  rcases hnames name hmem with rfl | hname
  · decide
  · exact hname.no_nul

end FileTree

end DocAudit
