import DocAudit.Command.Coverage
import DocAudit.Proofs.Config.Tables
import Mathlib

/-!
# Excluded patterns

Patterns to exclude come from the configuration or with a command. Those of a command are taken as they are.
Those of the configuration are read as names, so a comma in one of them divides it; the others mean the same at
either place.

## Contents

* `SettingTable.Excludes`: a table with patterns to exclude, and one without them
* `Config.ofTable?_of_excludes`: the configurations that are made of both
* `Project.configured`, `Project.SameCoverage`: the project with a table, and commands that answer alike
* `Project.configured_excluded`: **patterns in the configuration are those of the command**
-/

namespace DocAudit

open Text

/-! ## Tables with and without patterns -/

/-- The first table says nothing of patterns to exclude, the second one says the given ones. Under all names
but that of the patterns both say the same. -/
structure SettingTable.Excludes (t t' : SettingTable) (patterns : List Text) : Prop where
  others : ∀ name, name ≠ "mapping".toList → t'.find? name = t.find? name
  without : ∀ value, ¬ t.Says "mapping" "exclude" value
  within : t'.Says "mapping" "exclude" (.list (patterns.map .str))

namespace SettingTable.Excludes

variable {t t' : SettingTable} {patterns : List Text} (h : t.Excludes t' patterns)

include h

theorem subtable_eq (name : String) (hname : name.toList ≠ "mapping".toList) :
    t'.subtable name.toList = t.subtable name.toList := by
  rw [subtable, h.others name.toList hname]
  rfl

theorem names_eq_nil : (t.subtable "mapping".toList).names "exclude" = [] := by
  cases hvalue : (t.subtable "mapping".toList).find? "exclude".toList with
  | none =>
    rw [names, hvalue]
    rfl
  | some value => exact absurd (says_iff.mpr hvalue) (h.without value)

theorem names_eq : (t'.subtable "mapping".toList).names "exclude" = patterns.flatMap Setting.namesIn := by
  rw [names, says_iff.mp h.within]
  exact Setting.asNames_texts patterns

end SettingTable.Excludes

/-- The table with patterns to exclude. -/
def SettingTable.excluding (t : SettingTable) (patterns : List Text) : SettingTable :=
  t ++ [("mapping".toList, .table [("exclude".toList, .list (patterns.map .str))])]

/-- In a table without the name they are the only thing that is said under it. -/
theorem SettingTable.excludes_excluding {t : SettingTable} (h : t.find? "mapping".toList = none)
    (patterns : List Text) : t.Excludes (t.excluding patterns) patterns where
  others := by
    intro name hname
    have hother : (name == "mapping".toList) = false := beq_eq_false_iff_ne.mpr hname
    rw [excluding, find?, List.lookup_append, List.lookup_cons, hother]
    simp [find?]
  without := by
    rintro value ⟨pairs, hpairs, -⟩
    cases h.symm.trans hpairs
  within := by
    refine ⟨[("exclude".toList, .list (patterns.map .str))], ?_, rfl⟩
    rw [excluding, find?, List.lookup_append, show List.lookup _ t = none from h]
    rfl

namespace Config

variable {path : Path} {t t' : SettingTable} {patterns : List Text} {c : Config}

/-- The configuration with other patterns and another table. -/
def excluding (exclude : List Text) (table : SettingTable) (c : Config) : Config := { c with exclude, table }

/-- Neither the patterns nor the table are looked at for faults. -/
theorem checked_excluding (exclude : List Text) (table : SettingTable) (c : Config) :
    (c.excluding exclude table).checked = c.checked.map (excluding exclude table) := by
  have hfault : (c.excluding exclude table).fault? = c.fault? := rfl
  unfold checked
  rw [hfault]
  cases c.fault? <;> rfl

/-- With patterns in the table the same configuration is made, or the same fault found. -/
theorem ofTable?_of_excludes (h : t.Excludes t' patterns) :
    ofTable? path t' = (ofTable? path t).map (excluding (patterns.flatMap Setting.namesIn) t') := by
  have hdocs := h.subtable_eq "docs" (by decide)
  cases hroot : (t.subtable "docs".toList).find? "root".toList with
  | none =>
    rw [ofTable?_of_root_none hroot, ofTable?_of_root_none (hdocs ▸ hroot)]
    rfl
  | some value =>
    have hsome : ((t.subtable "docs".toList).find? "root".toList).isNone = false := by rw [hroot]; rfl
    rw [ofTable?_eq_bind hsome, ofTable?_eq_bind (hdocs ▸ hsome), hdocs,
      h.subtable_eq "pave" (by decide), h.subtable_eq "rules" (by decide), h.subtable_eq "lint" (by decide),
      h.names_eq]
    -- The steps before the last one are the same.
    simp only [Outcome.bind_map, ← checked_excluding]
    rfl

/-- A table without patterns makes a configuration without patterns. -/
theorem exclude_eq_nil (h : t.Excludes t' patterns) (hc : ofTable? path t = .ok c) : c.exclude = [] := by
  rcases ofTable?_made path t with ⟨-, hfault⟩ | ⟨-, ⟨fault, hfault, -⟩ | ⟨c', heq, hmade⟩⟩
  · cases hfault.symm.trans hc
  · cases hfault.symm.trans hc
  · obtain ⟨rfl, -⟩ := checked_eq_ok_iff.mp (heq.symm.trans hc)
    rw [hmade.exclude, h.names_eq_nil]

end Config

namespace Project

/-! ## Commands -/

/-- The project whose configuration is made of a table. -/
def configured (tree : FileTree) (cwd path : Path) (t : SettingTable) : Outcome Project :=
  ((Config.ofTable? path t).mapError .config).map fun config => { tree, cwd, config }

/-- Both commands about the coverage of code answer alike in two projects, with a filter in each of them. -/
structure SameCoverage (p : Outcome Project) (f : FileFilter) (p' : Outcome Project) (f' : FileFilter) :
    Prop where
  all : ∀ threshold, (p >>= (·.runCoverage threshold f)) = p' >>= (·.runCoverage threshold f')
  new : ∀ git base, (p >>= (·.runNewCode git base f)) = p' >>= (·.runNewCode git base f')

/-- The project with other patterns in its configuration. -/
def excluding (exclude : List Text) (table : SettingTable) (p : Project) : Project :=
  { p with config := p.config.excluding exclude table }

section Excluding

variable {p : Project} (hnone : p.config.exclude = [])
variable (exclude : List Text) (table : SettingTable) (f : FileFilter)

include hnone

/-- The files are the same, whether the patterns are configured or given. -/
theorem widened_excluding :
    (p.excluding exclude table).widened f = p.widened { f with excluded := exclude ++ f.excluded } := by
  unfold widened
  rw [hnone]
  rfl

theorem runCoverage_excluding (threshold : Option Float) :
    (p.excluding exclude table).runCoverage threshold f =
      p.runCoverage threshold { f with excluded := exclude ++ f.excluded } := by
  unfold runCoverage
  rw [widened_excluding hnone]
  rfl

theorem runNewCode_excluding (git : Git) (base : Option Text) :
    (p.excluding exclude table).runNewCode git base f =
      p.runNewCode git base { f with excluded := exclude ++ f.excluded } := by
  unfold runNewCode
  rw [widened_excluding hnone]
  rfl

end Excluding

variable {tree : FileTree} {cwd path : Path} {t t' : SettingTable} {patterns : List Text}

theorem sameCoverage_of_excludes (h : t.Excludes t' patterns) (f : FileFilter) :
    SameCoverage (configured tree cwd path t') f (configured tree cwd path t)
      { f with excluded := patterns.flatMap Setting.namesIn ++ f.excluded } := by
  unfold configured
  rw [Config.ofTable?_of_excludes h]
  cases hc : Config.ofTable? path t with
  | error fault => exact ⟨fun _ => rfl, fun _ _ => rfl⟩
  | ok c =>
    have hnone : c.exclude = [] := Config.exclude_eq_nil h hc
    exact {
      all := runCoverage_excluding (p := ⟨tree, cwd, c⟩) hnone _ t' f
      new := runNewCode_excluding (p := ⟨tree, cwd, c⟩) hnone _ t' f }

/-- **Patterns in the configuration are those of the command, divided at their commas. Patterns without a
comma mean the same at either place.** -/
theorem configured_excluded (h : t.Excludes t' patterns) (f : FileFilter) :
    SameCoverage (configured tree cwd path t') f (configured tree cwd path t)
        { f with excluded := patterns.flatMap Setting.namesIn ++ f.excluded } ∧
      ((∀ pattern ∈ patterns, Setting.IsName pattern) →
        SameCoverage (configured tree cwd path t') f (configured tree cwd path t)
          { f with excluded := patterns ++ f.excluded }) := by
  refine ⟨sameCoverage_of_excludes h f, fun hnames => ?_⟩
  have hsame : SameCoverage (configured tree cwd path t') f (configured tree cwd path t) _ :=
    sameCoverage_of_excludes h f
  rwa [Setting.flatMap_namesIn hnames] at hsame

/-- A table with the root of the documents and nothing else. -/
def rooted : SettingTable := [("docs".toList, .table [("root".toList, .str "docs".toList)])]

/-- Patterns without a comma. -/
theorem configured_excluded_vendored :
    rooted.Excludes (rooted.excluding ["vendor/**".toList, "*.gen.py".toList])
        ["vendor/**".toList, "*.gen.py".toList] ∧
      (∀ pattern ∈ ["vendor/**".toList, "*.gen.py".toList], Setting.IsName pattern) ∧
      SameCoverage
        (configured {} ⟨['/'], []⟩ ⟨['/'], [configName]⟩
          (rooted.excluding ["vendor/**".toList, "*.gen.py".toList])) {}
        (configured {} ⟨['/'], []⟩ ⟨['/'], [configName]⟩ rooted)
        { excluded := ["vendor/**".toList, "*.gen.py".toList] } := by
  have hexcludes := SettingTable.excludes_excluding (t := rooted) rfl ["vendor/**".toList, "*.gen.py".toList]
  have hnames : ∀ pattern ∈ ["vendor/**".toList, "*.gen.py".toList], Setting.IsName pattern := by
    intro pattern h
    simp only [List.mem_cons, List.not_mem_nil, or_false] at h
    rcases h with rfl | rfl <;> exact ⟨by decide, by decide, by decide⟩
  exact ⟨hexcludes, hnames, (configured_excluded hexcludes {}).2 hnames⟩

/-- A file with a comma in its name, in a root with no documents. -/
def commaFile : FileTree := { entries := [(["docs".toList], .dir), (["a,b.py".toList], .file [])] }

/-- A pattern with a comma in it, configured and given: the new file of that name is excluded only by the
command. -/
theorem configured_excluded_comma :
    let git : Git := fun _ => .ok { stdout := "a,b.py\n".toList }
    let exclude := ["a,b.py".toList]
    let p := configured commaFile ⟨['/'], []⟩ ⟨['/'], [configName]⟩ rooted
    let p' := configured commaFile ⟨['/'], []⟩ ⟨['/'], [configName]⟩ (rooted.excluding exclude)
    rooted.Excludes (rooted.excluding exclude) exclude ∧
      (∀ pattern ∈ exclude, isBlankText pattern = false ∧ strip pattern = pattern) ∧
      (p' >>= (·.runCoverage none {})).map (·.1.total) = .ok 1 ∧
      (p >>= (·.runCoverage none { excluded := exclude })).map (·.1.total) = .ok 0 ∧
      (p' >>= (·.runNewCode git none {})).map (·.2) = .ok 1 ∧
      (p >>= (·.runNewCode git none { excluded := exclude })).map (·.2) = .ok 0 ∧
      ¬ SameCoverage p' {} p { excluded := exclude } := by
  intro git exclude p p'
  have hconfigured : (p' >>= (·.runNewCode git none {})).map (·.2) = .ok 1 := by decide +kernel
  have hgiven : (p >>= (·.runNewCode git none { excluded := exclude })).map (·.2) = .ok 0 := by decide +kernel
  refine ⟨SettingTable.excludes_excluding rfl exclude, by decide, by decide +kernel, by decide +kernel,
    hconfigured, hgiven, fun hsame => ?_⟩
  rw [hsame.new git none, hgiven] at hconfigured
  cases hconfigured

end Project

end DocAudit
