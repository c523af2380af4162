import DocAudit.Config.Options
import DocAudit.Proofs.Outcome
import DocAudit.Proofs.Text.Joined
import DocAudit.Proofs.Text.Strip
import Mathlib

/-!
# What a table must say

A table is refused for a value that is missing, of the wrong kind or out of its range. Besides, nothing is made
of it when a number is too long in a value of which a text is made. A configuration that is made of a table has
none of these faults, and the names in it are read from themselves again.

## Contents

* `Setting.IsName`, `Setting.asNames_names`: **names that are read are names, and read as they are**
* `Setting.wording`, `SettingTable.Says`: the text that a value makes, and what a table says
* `Config.HasOverlong`, `Config.Refuses`: what keeps a table from making a configuration
* `Config.Made`, `Config.ofTable?_made`: what a configuration has from its table
* `Config.numberedRoot`, `Config.ofTable?_numberedRoot`: a number as the root of the documents
* `Config.IsSound`, `Config.ofTable?_cases`, `Config.ofTable?_refuses`: **which tables are refused, and what
  holds of the others**
-/

namespace DocAudit

open Text

/-! ## Names -/

namespace Setting

/-- A name of a list: there is something in it, and neither white space around it nor a comma in it. -/
structure IsName (name : Text) : Prop where
  ne_nil : name ≠ []
  stripped : strip name = name
  comma : ',' ∉ name

variable {name : Text}

/-- What stands between commas is a name. -/
theorem isName_of_mem_namesIn {s : Text} (h : name ∈ namesIn s) : IsName name := by
  obtain ⟨hpiece, hne⟩ := List.mem_filter.mp h
  obtain ⟨piece, hmem, rfl⟩ := List.mem_map.mp hpiece
  exact {
    ne_nil := by simpa using hne
    stripped := strip_strip piece
    comma := fun hc => not_mem_of_mem_splitAt hmem (mem_of_mem_strip hc) }

theorem isName_of_mem_asNames {value : Setting} (h : name ∈ value.asNames) : IsName name := by
  unfold asNames at h
  split at h
  · exact isName_of_mem_namesIn h
  · obtain ⟨item, -, hitem⟩ := List.mem_flatMap.mp h
    split at hitem
    · exact isName_of_mem_namesIn hitem
    · cases hitem
  · cases h

/-- A name is the only one in its text. -/
theorem namesIn_of_isName (h : IsName name) : namesIn name = [name] := by
  rw [namesIn, splitAt_of_not_mem h.comma, List.map_singleton, h.stripped]
  exact List.filter_eq_self.mpr fun n hn => by
    rw [List.mem_singleton.mp hn]
    simpa using h.ne_nil

/-- The texts of a list are read one by one. -/
theorem asNames_texts (texts : List Text) : asNames (.list (texts.map .str)) = texts.flatMap namesIn :=
  List.flatMap_map ..

theorem flatMap_namesIn {names : List Text} (h : ∀ name ∈ names, IsName name) :
    names.flatMap namesIn = names := by
  rw [List.flatMap_congr fun name hname => namesIn_of_isName (h name hname)]
  exact List.flatMap_singleton' names

/-- **Names are read as they are.** -/
theorem asNames_names {names : List Text} (h : ∀ name ∈ names, IsName name) :
    asNames (.list (names.map .str)) = names :=
  (asNames_texts names).trans (flatMap_namesIn h)

/-! ## Values -/

/-- A value that counts as no whole number, though it is there. A truth value is one of them. -/
structure IsNoInteger (value : Setting) : Prop where
  ne_null : value ≠ .null
  ne_int : ∀ n, value ≠ .int n

/-- The text that a value makes, be a number in it too long or not. -/
def wording : Setting → Text
  | .null => []
  | .moment m => m.text 'T'
  | value => value.text

/-- A text is made of a value unless a number in it is too long. -/
theorem asText?_cases (value : Setting) :
    (value.isOverlong = true ∧ value.asText? = .error .numberTooLong) ∨
      (value.isOverlong = false ∧ ∃ s, value.asText? = .ok s ∧ s.getD [] = value.wording) := by
  unfold asText?
  split
  · exact .inr ⟨rfl, _, rfl, rfl⟩
  · exact .inr ⟨rfl, _, rfl, rfl⟩
  · exact .inr ⟨rfl, _, rfl, rfl⟩
  · next hnull _ hmoment =>
    have hwording : value.wording = value.text := by
      unfold wording
      split
      · exact absurd rfl hnull
      · exact absurd rfl (hmoment _)
      · rfl
    cases h : value.isOverlong with
    | true => exact .inl ⟨rfl, if_pos rfl⟩
    | false => exact .inr ⟨rfl, _, if_neg Bool.false_ne_true, hwording.symm⟩

end Setting

/-! ## What tables say -/

namespace SettingTable

variable {t : SettingTable} {name key : String} {value value' : Setting} {n : Int}

/-- Under the name there is a table in which the key has the value. -/
def Says (t : SettingTable) (name key : String) (value : Setting) : Prop :=
  ∃ pairs : SettingTable, t.find? name.toList = some (.table pairs) ∧ pairs.find? key.toList = some value

theorem says_iff : t.Says name key value ↔ (t.subtable name.toList).find? key.toList = some value := by
  unfold Says subtable
  constructor
  · rintro ⟨pairs, hpairs, hvalue⟩
    rw [hpairs]
    exact hvalue
  · intro h
    split at h
    · next pairs hpairs => exact ⟨pairs, hpairs, h⟩
    · cases h

/-- A table says one value for a key. -/
theorem Says.unique (h : t.Says name key value) (h' : t.Says name key value') : value = value' :=
  Option.some.inj ((says_iff.mp h).symm.trans (says_iff.mp h'))

/-- A number in the value of the key is too long. -/
def IsOverlongAt (t : SettingTable) (key : String) : Prop :=
  ∃ value, t.find? key.toList = some value ∧ value.isOverlong = true

theorem text?_cases (t : SettingTable) (key : String) :
    (t.IsOverlongAt key ∧ t.text? key = .error .numberTooLong) ∨
      (¬ t.IsOverlongAt key ∧ ∃ s, t.text? key = .ok s ∧
        ∀ value, t.find? key.toList = some value → s.getD [] = value.wording) := by
  unfold text? IsOverlongAt
  cases h : t.find? key.toList with
  | none => exact .inr ⟨by simp, _, rfl, by simp⟩
  | some value =>
    rcases value.asText?_cases with ⟨hlong, htext⟩ | ⟨hshort, s, htext, hwording⟩
    · exact .inl ⟨⟨value, rfl, hlong⟩, htext⟩
    · exact .inr ⟨by simp [hshort], s, htext, fun value' hvalue => Option.some.inj hvalue ▸ hwording⟩

theorem isName_of_mem_names {name : Text} (h : name ∈ t.names key) : Setting.IsName name := by
  unfold names at h
  cases hvalue : t.find? key.toList with
  | none =>
    rw [hvalue] at h
    cases h
  | some value =>
    rw [hvalue] at h
    exact Setting.isName_of_mem_asNames h

/-- A number is read, or the default where there is none; any other value is refused. -/
theorem int_eq (t : SettingTable) (name key : String) (default : Int) :
    (t.find? key.toList = none ∨ t.find? key.toList = some .null) ∧ t.int name key default = .ok default ∨
      (∃ n, t.find? key.toList = some (.int n) ∧ t.int name key default = .ok n) ∨
      ∃ value, t.find? key.toList = some value ∧ value.IsNoInteger ∧
        t.int name key default = .error (.notAnInteger (name.toList ++ '.' :: key.toList)) := by
  unfold int
  split
  · next h => exact .inl ⟨.inl h, rfl⟩
  · next h => exact .inl ⟨.inr h, rfl⟩
  · next value hnull h =>
    cases hint : value.asInt? with
    | some n =>
      unfold Setting.asInt? at hint
      split at hint
      · cases hint
        exact .inr (.inl ⟨n, h, rfl⟩)
      · cases hint
    | none =>
      refine .inr (.inr ⟨value, h, ⟨hnull, fun n he => ?_⟩, rfl⟩)
      rw [he] at hint
      cases hint

theorem int_of_int {default : Int} (h : t.find? key.toList = some (.int n)) :
    t.int name key default = .ok n := by
  unfold int
  rw [h]
  rfl

theorem int_of_isNoInteger {default : Int} (h : t.find? key.toList = some value) (hvalue : value.IsNoInteger) :
    t.int name key default = .error (.notAnInteger (name.toList ++ '.' :: key.toList)) := by
  rcases t.int_eq name key default with ⟨hnone | hnull, -⟩ | ⟨n, hint, -⟩ | ⟨_, -, -, heq⟩
  · cases hnone.symm.trans h
  · exact absurd (Option.some.inj (h.symm.trans hnull)) hvalue.ne_null
  · exact absurd (Option.some.inj (h.symm.trans hint)) (hvalue.ne_int n)
  · exact heq

end SettingTable

/-! ## What is made of a table -/

/-- The options of the rules can be read, or the day of gradual mode is too long, or the limit is refused. -/
theorem RuleOptions.ofTable?_cases (t : SettingTable) :
    (∃ rules, ofTable? t = .ok rules ∧ t.int "rules" "max_lines" 300 = .ok rules.maxLines) ∧
        ¬ t.IsOverlongAt "gradual_until" ∨
      ofTable? t = .error .numberTooLong ∧
        (∃ n, t.int "rules" "max_lines" 300 = .ok n) ∧ t.IsOverlongAt "gradual_until" ∨
      ∃ fault, ofTable? t = .error fault ∧ t.int "rules" "max_lines" 300 = .error fault := by
  unfold ofTable?
  cases hlimit : t.int "rules" "max_lines" 300 with
  | error fault => exact .inr (.inr ⟨fault, rfl, rfl⟩)
  | ok n =>
    rcases t.text?_cases "gradual_until" with ⟨hlong, h⟩ | ⟨hshort, day, h, -⟩
    · rw [h]
      exact .inr (.inl ⟨rfl, ⟨n, rfl⟩, hlong⟩)
    · rw [h]
      exact .inl ⟨⟨_, rfl, rfl⟩, hshort⟩

/-- Options of the prose checks have their names and their limit from the table, unless the limit is refused. -/
theorem LintOptions.ofTable?_cases (t : SettingTable) :
    (∃ lint, ofTable? t = .ok lint ∧ t.int "lint" "max_paragraph_words" 150 = .ok lint.maxParagraphWords ∧
        lint.enable = t.names "enable" ∧ lint.disable = t.names "disable") ∨
      ∃ fault, ofTable? t = .error fault ∧ t.int "lint" "max_paragraph_words" 150 = .error fault := by
  unfold ofTable?
  cases hlimit : t.int "lint" "max_paragraph_words" 150 with
  | error fault => exact .inr ⟨fault, rfl, rfl⟩
  | ok n => exact .inl ⟨_, rfl, rfl, rfl, rfl⟩

namespace Config

/-- The version in a table. -/
def versionIn? (pave : SettingTable) : Except ConfigFault Text :=
  match pave.find? "version".toList with
  | none => .ok "0.1".toList
  | some value => value.asText?.map (·.getD [])

/-- The version is the default, or the text of the value in the table. -/
theorem versionIn?_cases (pave : SettingTable) :
    (pave.IsOverlongAt "version" ∧ versionIn? pave = .error .numberTooLong) ∨
      (¬ pave.IsOverlongAt "version" ∧ ∃ version, versionIn? pave = .ok version ∧
        (pave.find? "version".toList = none ∧ version = "0.1".toList ∨
          ∃ value, pave.find? "version".toList = some value ∧ version = value.wording)) := by
  unfold versionIn? SettingTable.IsOverlongAt
  cases h : pave.find? "version".toList with
  | none => exact .inr ⟨by simp, _, rfl, .inl ⟨rfl, rfl⟩⟩
  | some value =>
    rcases value.asText?_cases with ⟨hlong, htext⟩ | ⟨hshort, s, htext, hwording⟩
    · exact .inl ⟨⟨value, rfl, hlong⟩, congrArg (Except.map (·.getD [])) htext⟩
    · exact .inr ⟨by simp [hshort], _, congrArg (Except.map (·.getD [])) htext,
        .inr ⟨value, rfl, hwording⟩⟩

/-- The configuration unless its values have a fault. -/
def checked (c : Config) : Except ConfigFault Config :=
  match c.fault? with
  | some fault => .error fault
  | none => .ok c

theorem checked_eq_ok_iff {c c' : Config} : c.checked = .ok c' ↔ c = c' ∧ c.fault? = none := by
  unfold checked
  cases c.fault? <;> simp

theorem checked_eq_error_iff {c : Config} {fault : ConfigFault} :
    c.checked = .error fault ↔ c.fault? = some fault := by
  unfold checked
  cases c.fault? <;> simp

/-- The fault of values of the right kinds is the first of the texts and of the limit. -/
theorem fault?_eq_none_iff {c : Config} : c.fault? = none ↔
    isBlankText c.version = false ∧ isBlankText c.docsRoot = false ∧ 0 < c.rules.maxLines := by
  unfold fault?
  cases isBlankText c.version <;> cases isBlankText c.docsRoot <;> simp

theorem fault?_cases {c : Config} {fault : ConfigFault} (h : c.fault? = some fault) :
    fault = .versionEmpty ∧ isBlankText c.version = true ∨
      fault = .rootEmpty ∧ isBlankText c.docsRoot = true ∨
      fault = .maxLinesNotPositive ∧ c.rules.maxLines ≤ 0 := by
  unfold fault? at h
  split at h
  · next hblank => exact .inl ⟨(Option.some.inj h).symm, hblank⟩
  · split at h
    · next hblank => exact .inr (.inl ⟨(Option.some.inj h).symm, hblank⟩)
    · split at h
      · next hle => exact .inr (.inr ⟨(Option.some.inj h).symm, hle⟩)
      · cases h

/-- A table without a root is refused. -/
theorem ofTable?_of_root_none {path : Path} {t : SettingTable}
    (hroot : (t.subtable "docs".toList).find? "root".toList = none) : ofTable? path t = .error .rootMissing := by
  unfold ofTable?
  simp only [hroot]
  rfl

/-- The steps that make a configuration of a table. -/
theorem ofTable?_eq_bind {path : Path} {t : SettingTable}
    (hroot : ((t.subtable "docs".toList).find? "root".toList).isNone = false) :
    ofTable? path t =
      ((t.subtable "docs".toList).text? "root").bind fun root =>
      (versionIn? (t.subtable "pave".toList)).bind fun version =>
      ((t.subtable "docs".toList).text? "templates").bind fun templates =>
      (RuleOptions.ofTable? (t.subtable "rules".toList)).bind fun rules =>
      (LintOptions.ofTable? (t.subtable "lint".toList)).bind fun lint =>
      checked {
        path, docsRoot := root.getD [], version, templates, rules, lint
        exclude := (t.subtable "mapping".toList).names "exclude"
        table := t } := by
  unfold ofTable? versionIn?
  simp only [hroot, Bool.false_eq_true, if_false]
  refine congrArg (Except.bind _) (funext fun root => ?_)
  cases (t.subtable "pave".toList).find? "version".toList with
  | none => rfl
  | some value => rfl

/-- The values of which a text is made and that have a number in them that is too long. The day until which
gradual mode holds is looked at when the limit is a number. -/
inductive IsOverlong (t : SettingTable) : Prop
  | root (h : (t.subtable "docs".toList).IsOverlongAt "root")
  | version (h : (t.subtable "pave".toList).IsOverlongAt "version")
  | templates (h : (t.subtable "docs".toList).IsOverlongAt "templates")
  | gradualUntil (hlimit : ∃ n, (t.subtable "rules".toList).int "rules" "max_lines" 300 = .ok n)
    (h : (t.subtable "rules".toList).IsOverlongAt "gradual_until")

/-- There is a root of the documents in the table, and one of the values is too long to be written. -/
structure HasOverlong (t : SettingTable) : Prop where
  root : ∃ value, (t.subtable "docs".toList).find? "root".toList = some value
  overlong : IsOverlong t

/-- The keys under which a table may have a whole number and nothing else. -/
def numberKeys : List (String × String) := [("rules", "max_lines"), ("lint", "max_paragraph_words")]

/-- The reasons to refuse a table. More than one may hold; one of them is reported. -/
inductive Refuses (t : SettingTable) : ConfigFault → Prop
  | rootMissing (h : ∀ value, ¬ t.Says "docs" "root" value) : Refuses t .rootMissing
  | notAnInteger {name key : String} {value : Setting} (hkey : (name, key) ∈ numberKeys)
    (h : t.Says name key value) (hvalue : value.IsNoInteger) :
    Refuses t (.notAnInteger (name.toList ++ '.' :: key.toList))
  | versionEmpty {value : Setting} (h : t.Says "pave" "version" value)
    (hblank : isBlankText value.wording = true) : Refuses t .versionEmpty
  | rootEmpty {value : Setting} (h : t.Says "docs" "root" value)
    (hblank : isBlankText value.wording = true) : Refuses t .rootEmpty
  | maxLinesNotPositive {n : Int} (h : t.Says "rules" "max_lines" (.int n)) (hn : n ≤ 0) :
    Refuses t .maxLinesNotPositive

/-- What the values of a configuration have to do with the table. -/
structure Made (t : SettingTable) (c : Config) : Prop where
  root : ∃ value, t.Says "docs" "root" value ∧ c.docsRoot = value.wording
  version : (∀ value, ¬ t.Says "pave" "version" value) ∧ c.version = "0.1".toList ∨
    ∃ value, t.Says "pave" "version" value ∧ c.version = value.wording
  maxLines : (t.subtable "rules".toList).int "rules" "max_lines" 300 = .ok c.rules.maxLines
  maxParagraphWords :
    (t.subtable "lint".toList).int "lint" "max_paragraph_words" 150 = .ok c.lint.maxParagraphWords
  enable : c.lint.enable = (t.subtable "lint".toList).names "enable"
  disable : c.lint.disable = (t.subtable "lint".toList).names "disable"
  exclude : c.exclude = (t.subtable "mapping".toList).names "exclude"

variable {path : Path} {t : SettingTable} {c : Config} {fault : ConfigFault}

/-- Where no number is read there is another value. -/
theorem refuses_of_int {name key : String} {default : Int} (hkey : (name, key) ∈ numberKeys)
    (h : (t.subtable name.toList).int name key default = .error fault) : Refuses t fault := by
  rcases (t.subtable name.toList).int_eq name key default with
    ⟨-, hn⟩ | ⟨n, -, hn⟩ | ⟨value, hfind, hvalue, hn⟩
  · cases hn.symm.trans h
  · cases hn.symm.trans h
  · cases hn.symm.trans h
    exact .notAnInteger hkey (SettingTable.says_iff.mpr hfind) hvalue

/-- **A value is too long to be written, or one is refused, or the configuration is made of the values.** -/
theorem ofTable?_made (path : Path) (t : SettingTable) :
    HasOverlong t ∧ ofTable? path t = .error .numberTooLong ∨
      ¬ HasOverlong t ∧ ((∃ fault, ofTable? path t = .error fault ∧ Refuses t fault) ∨
        ∃ c, ofTable? path t = c.checked ∧ Made t c) := by
  cases hroot : (t.subtable "docs".toList).find? "root".toList with
  | none =>
    have hmissing : ∀ value, ¬ t.Says "docs" "root" value := fun value h => by
      cases hroot.symm.trans (SettingTable.says_iff.mp h)
    exact .inr ⟨fun ⟨⟨value, h⟩, _⟩ => hmissing value (SettingTable.says_iff.mpr h),
      .inl ⟨_, ofTable?_of_root_none hroot, .rootMissing hmissing⟩⟩
  | some value =>
    rw [ofTable?_eq_bind (by rw [hroot]; rfl)]
    rcases (t.subtable "docs".toList).text?_cases "root" with ⟨hlong, h⟩ | ⟨hshort, root, h, hwording⟩
    · rw [h]
      exact .inl ⟨⟨⟨value, hroot⟩, .root hlong⟩, rfl⟩
    rw [h]
    rcases versionIn?_cases (t.subtable "pave".toList) with ⟨hlong, h⟩ | ⟨hnolong, version, h, hversion⟩
    · rw [h]
      exact .inl ⟨⟨⟨value, hroot⟩, .version hlong⟩, rfl⟩
    rw [h]
    rcases (t.subtable "docs".toList).text?_cases "templates" with ⟨hlong, h⟩ | ⟨htemplates, templates, h, -⟩
    · rw [h]
      exact .inl ⟨⟨⟨value, hroot⟩, .templates hlong⟩, rfl⟩
    rw [h]
    -- the values before those of the rules are short, so only the day of gradual mode is left
    have hday : HasOverlong t → (∃ n, (t.subtable "rules".toList).int "rules" "max_lines" 300 = .ok n) ∧
        (t.subtable "rules".toList).IsOverlongAt "gradual_until" := by
      rintro ⟨-, h | h | h | ⟨hlimit, h⟩⟩
      · exact absurd h hshort
      · exact absurd h hnolong
      · exact absurd h htemplates
      · exact ⟨hlimit, h⟩
    rcases RuleOptions.ofTable?_cases (t.subtable "rules".toList) with
      ⟨⟨rules, h, hlimit⟩, hnone⟩ | ⟨h, hlimit, hlong⟩ | ⟨fault, h, hlimit⟩
    · rw [h]
      refine .inr ⟨fun hlong => hnone (hday hlong).2, ?_⟩
      rcases LintOptions.ofTable?_cases (t.subtable "lint".toList) with
        ⟨lint, h, hwords, henable, hdisable⟩ | ⟨fault, h, hwords⟩
      · rw [h]
        exact .inr ⟨_, rfl, {
          root := ⟨value, SettingTable.says_iff.mpr hroot, hwording value hroot⟩
          version := by simpa only [SettingTable.says_iff, ← Option.eq_none_iff_forall_ne_some] using hversion
          maxLines := hlimit
          maxParagraphWords := hwords
          enable := henable
          disable := hdisable
          exclude := rfl }⟩
      · rw [h]
        exact .inl ⟨fault, rfl, refuses_of_int (by decide) hwords⟩
    · rw [h]
      exact .inl ⟨⟨⟨value, hroot⟩, .gradualUntil hlimit hlong⟩, rfl⟩
    · rw [h]
      refine .inr ⟨fun hlong => ?_, .inl ⟨fault, rfl, refuses_of_int (by decide) hlimit⟩⟩
      obtain ⟨n, hn⟩ := (hday hlong).1
      cases hn.symm.trans hlimit

/-- The version that a table says is that of the configuration. -/
theorem Made.version_eq {value : Setting} (h : Made t c) (hsaid : t.Says "pave" "version" value) :
    c.version = value.wording := by
  rcases h.version with ⟨hnone, -⟩ | ⟨value', hsaid', heq⟩
  · exact absurd hsaid (hnone value)
  · rw [heq, hsaid'.unique hsaid]

theorem Made.docsRoot_eq {value : Setting} (h : Made t c) (hsaid : t.Says "docs" "root" value) :
    c.docsRoot = value.wording := by
  obtain ⟨value', hsaid', heq⟩ := h.root
  rw [heq, hsaid'.unique hsaid]

/-- A configuration is made of a number or of none where a table may have a number. -/
theorem Made.not_isNoInteger {name key : String} {value : Setting} (h : Made t c)
    (hkey : (name, key) ∈ numberKeys) (hsaid : t.Says name key value) : ¬ value.IsNoInteger := by
  intro hvalue
  have hfind := SettingTable.says_iff.mp hsaid
  simp only [numberKeys, List.mem_cons, Prod.mk.injEq, List.not_mem_nil, or_false] at hkey
  obtain ⟨rfl, rfl⟩ | ⟨rfl, rfl⟩ := hkey
  · cases (SettingTable.int_of_isNoInteger hfind hvalue).symm.trans h.maxLines
  · cases (SettingTable.int_of_isNoInteger hfind hvalue).symm.trans h.maxParagraphWords

/-- A configuration that is made of a table has none of the reasons to refuse the table. -/
theorem Made.not_refuses (h : Made t c) (hnone : c.fault? = none) : ¬ Refuses t fault := by
  obtain ⟨hversion, hroot, hlimit⟩ := fault?_eq_none_iff.mp hnone
  intro hrefuses
  cases hrefuses with
  | rootMissing hmissing =>
    obtain ⟨value, hvalue, -⟩ := h.root
    exact hmissing value hvalue
  | notAnInteger hkey hsaid hvalue => exact h.not_isNoInteger hkey hsaid hvalue
  | versionEmpty hsaid hblank =>
    rw [h.version_eq hsaid, hblank] at hversion
    cases hversion
  | rootEmpty hsaid hblank =>
    rw [h.docsRoot_eq hsaid, hblank] at hroot
    cases hroot
  | maxLinesNotPositive hsaid hle =>
    cases (SettingTable.int_of_int (SettingTable.says_iff.mp hsaid)).symm.trans h.maxLines
    omega

/-- The fault of a configuration that is made of a table is a reason to refuse the table. -/
theorem Made.refuses (h : Made t c) (hfault : c.fault? = some fault) : Refuses t fault := by
  rcases fault?_cases hfault with ⟨rfl, hblank⟩ | ⟨rfl, hblank⟩ | ⟨rfl, hle⟩
  · rcases h.version with ⟨-, hdefault⟩ | ⟨value, hsaid, heq⟩
    · rw [hdefault] at hblank
      exact absurd hblank (by decide)
    · exact .versionEmpty hsaid (by rw [← heq, hblank])
  · obtain ⟨value, hsaid, heq⟩ := h.root
    exact .rootEmpty hsaid (by rw [← heq, hblank])
  · rcases (t.subtable "rules".toList).int_eq "rules" "max_lines" 300 with
      ⟨-, hn⟩ | ⟨n, hfind, hn⟩ | ⟨value, -, -, hn⟩
    · have hlimit : 300 = c.rules.maxLines := Except.ok.inj (hn.symm.trans h.maxLines)
      omega
    · cases hn.symm.trans h.maxLines
      exact .maxLinesNotPositive (SettingTable.says_iff.mpr hfind) hle
    · cases hn.symm.trans h.maxLines

/-! ## A number as the root -/

/-- The digits of a number are no white space. -/
theorem isBlankText_ofInt (n : Int) : isBlankText (ofInt n) = false := by
  have hdigits : ∀ n : Nat, isBlankText (ofNat n) = false := by
    intro n
    obtain ⟨c, rest, hcons⟩ := List.exists_cons_of_ne_nil (Nat.toDigits_ne_nil (n := n) (b := 10))
    have hdigit : c.isDigit = true :=
      Nat.isDigit_of_mem_toDigits (by decide) (by decide) (hcons ▸ List.mem_cons_self)
    simp only [Char.isDigit, Bool.and_eq_true, decide_eq_true_eq, UInt32.le_iff_toNat_le] at hdigit
    have hlow : 48 ≤ c.toNat := hdigit.1
    have hhigh : c.toNat ≤ 57 := hdigit.2
    have hblank : isBlank c = false := by
      simp [isBlank]
      omega
    rw [isBlankText, ofNat, hcons, List.all_cons, hblank, Bool.false_and]
  cases n with
  | ofNat n => exact hdigits n
  | negSucc n =>
    rw [isBlankText, ofInt, List.all_cons, show isBlank '-' = false by decide, Bool.false_and]

/-- A table that says nothing but that a number is the root of the documents. -/
def numberedRoot (n : Int) : SettingTable := [("docs".toList, .table [("root".toList, .int n)])]

/-- There is no reason to refuse such a table. -/
theorem not_refuses_numberedRoot (n : Int) : ¬ Refuses (numberedRoot n) fault := by
  have hroot : (numberedRoot n).Says "docs" "root" (.int n) := ⟨_, rfl, rfl⟩
  intro h
  cases h with
  | rootMissing hmissing => exact hmissing _ hroot
  | notAnInteger hkey hsaid hvalue =>
    obtain ⟨pairs, htable, -⟩ := hsaid
    simp only [numberKeys, List.mem_cons, Prod.mk.injEq, List.not_mem_nil, or_false] at hkey
    obtain ⟨rfl, -⟩ | ⟨rfl, -⟩ := hkey
    · cases htable
    · cases htable
  | versionEmpty hsaid hblank =>
    obtain ⟨pairs, htable, -⟩ := hsaid
    cases htable
  | rootEmpty hsaid hblank =>
    cases (SettingTable.says_iff.mp hsaid).symm.trans (SettingTable.says_iff.mp hroot)
    have hdigits : isBlankText (ofInt n) = true := hblank
    rw [isBlankText_ofInt] at hdigits
    cases hdigits
  | maxLinesNotPositive hsaid hle =>
    obtain ⟨pairs, htable, -⟩ := hsaid
    cases htable

/-- No configuration is made of it when the number is too long. -/
theorem ofTable?_numberedRoot {n : Int} (h : Decimal.isOverlong n = true) :
    ofTable? path (numberedRoot n) = .error .numberTooLong := by
  rcases ofTable?_made path (numberedRoot n) with ⟨-, hfault⟩ | ⟨hshort, -⟩
  · exact hfault
  · exact absurd ⟨⟨.int n, rfl⟩, .root ⟨.int n, rfl, h⟩⟩ hshort

/-! ## Tables that are refused -/

/-- What holds of the values of a configuration. -/
structure IsSound (c : Config) : Prop where
  docsRoot : isBlankText c.docsRoot = false
  version : isBlankText c.version = false
  maxLines : 1 ≤ c.rules.maxLines
  names : ∀ names ∈ [c.lint.enable, c.lint.disable, c.exclude],
    (∀ name ∈ names, Setting.IsName name) ∧ Setting.asNames (.list (names.map .str)) = names

theorem Made.isSound (h : Made t c) (hnone : c.fault? = none) : IsSound c := by
  obtain ⟨hversion, hroot, hlimit⟩ := fault?_eq_none_iff.mp hnone
  refine { docsRoot := hroot, version := hversion, maxLines := hlimit, names := fun names hnames => ?_ }
  have hread : ∃ (table : SettingTable) (key : String), names = table.names key := by
    simp only [List.mem_cons, List.not_mem_nil, or_false] at hnames
    rcases hnames with rfl | rfl | rfl
    · exact ⟨_, _, h.enable⟩
    · exact ⟨_, _, h.disable⟩
    · exact ⟨_, _, h.exclude⟩
  obtain ⟨table, key, rfl⟩ := hread
  have hname : ∀ name ∈ table.names key, Setting.IsName name := fun _ => SettingTable.isName_of_mem_names
  exact ⟨hname, Setting.asNames_names hname⟩

/-- A value is too long to be written, or the table is refused for a reason, or there is no reason and the
configuration is sound. -/
theorem ofTable?_cases (path : Path) (t : SettingTable) :
    HasOverlong t ∧ ofTable? path t = .error .numberTooLong ∨
      ¬ HasOverlong t ∧ ((∃ fault, ofTable? path t = .error fault ∧ Refuses t fault) ∨
        ∃ c, ofTable? path t = .ok c ∧ IsSound c ∧ ∀ fault, ¬ Refuses t fault) := by
  rcases ofTable?_made path t with hlong | ⟨hshort, hrefuses | ⟨c, heq, hmade⟩⟩
  · exact .inl hlong
  · exact .inr ⟨hshort, .inl hrefuses⟩
  · refine .inr ⟨hshort, ?_⟩
    rw [heq]
    cases hnone : c.fault? with
    | none => exact .inr ⟨c, checked_eq_ok_iff.mpr ⟨rfl, hnone⟩, hmade.isSound hnone,
        fun _ => hmade.not_refuses hnone⟩
    | some fault => exact .inl ⟨fault, checked_eq_error_iff.mpr hnone, hmade.refuses hnone⟩

/-- The reasons to refuse a table have words. -/
theorem Refuses.exists_message (h : Refuses t fault) : ∃ message, fault.message? = some message := by
  cases h <;> exact ⟨_, rfl⟩

end Config

end DocAudit
