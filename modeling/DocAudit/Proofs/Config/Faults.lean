import DocAudit.Command.Project
import DocAudit.Proofs.Config.Tables
import Mathlib

/-!
# Configurations that cannot be loaded

The content of a configuration file makes a configuration or has a fault. Most faults are put into words;
for some there are none: that the content is no text, that its values stand too deep in each other, and
that a number is too long, be it in the text or in a value of which a text is made.

## Contents

* `Config.place?`, `Config.ofBytes?`, `Config.load_eq`: **what is loaded is decided by the content**
* `Config.Wordless`, `Config.load_wordless_iff`: **the faults without words**
-/

namespace DocAudit

open Text

namespace Config

/-- The file in which the configuration is: the given one, or the next one upwards. -/
def place? (t : FileTree) (cwd : Path) (file : Option Path) : Outcome Path :=
  match file with
  | some p => do
    p.refuseNul
    return (cwd.join p).collapse
  | none => locate? t cwd (Path.ofText [])

/-- The configuration that the content of a file makes. -/
def ofBytes? (path : Path) (bytes : List UInt8) : Except ConfigFault Config :=
  match Utf8.decode? bytes with
  | none => .error .notText
  | some text =>
    match Toml.readTable (normalizeBreaks text) with
    | .error .malformed => .error (.unparsable path)
    | .error .numberTooLong => .error .numberTooLong
    | .error .tooDeep => .error .tooDeep
    | .ok table => ofTable? path table

variable {t : FileTree} {cwd path : Path} {file : Option Path} {bytes : List UInt8}

/-- **What is loaded is decided by the content of the file.** -/
theorem load_eq (hplace : place? t cwd file = .ok path) (hcontent : t.content? cwd path = some bytes) :
    load t cwd file = (ofBytes? path bytes).mapError Failure.config := by
  -- once the file is found, only its content is looked at
  have hread : load t cwd file = match Utf8.decode? bytes with
      | none => .error (.config .notText)
      | some text =>
        match Toml.readTable (normalizeBreaks text) with
        | .error .malformed => .error (.config (.unparsable path))
        | .error .numberTooLong => .error (.config .numberTooLong)
        | .error .tooDeep => .error (.config .tooDeep)
        | .ok table => (ofTable? path table).mapError .config := by
    unfold load
    unfold place? at hplace
    cases file with
    | none =>
      simp only at hplace ⊢
      rw [hplace]
      simp only [bind, Except.bind, hcontent]
      rfl
    | some p =>
      obtain ⟨_, hnul, hpath⟩ := Outcome.bind_eq_ok_iff.mp hplace
      cases hpath
      simp only [hnul, bind, Except.bind, pure, Except.pure, hcontent]
      rfl
  rw [hread]
  unfold ofBytes?
  cases Utf8.decode? bytes with
  | none => rfl
  | some text =>
    dsimp only
    cases Toml.readTable (normalizeBreaks text) with
    | ok table => rfl
    | error fault => cases fault <;> rfl

/-- The faults of a content for which there are no words: it is no text, or no table can be read from it for
another reason than being none, or a value in the table is too long to be written. -/
inductive Wordless (bytes : List UInt8) : ConfigFault → Prop
  | notText (h : Utf8.decode? bytes = none) : Wordless bytes .notText
  | tooDeep {text : Text} (htext : Utf8.decode? bytes = some text)
    (h : Toml.readTable (normalizeBreaks text) = .error .tooDeep) : Wordless bytes .tooDeep
  | unread {text : Text} (htext : Utf8.decode? bytes = some text)
    (h : Toml.readTable (normalizeBreaks text) = .error .numberTooLong) : Wordless bytes .numberTooLong
  | unwritten {text : Text} {table : SettingTable} (htext : Utf8.decode? bytes = some text)
    (h : Toml.readTable (normalizeBreaks text) = .ok table) (hlong : HasOverlong table) :
    Wordless bytes .numberTooLong

/-- A fault has no words when it is one of these. -/
theorem ofBytes?_wordless_iff {fault : ConfigFault} :
    ofBytes? path bytes = .error fault ∧ fault.message? = none ↔ Wordless bytes fault := by
  constructor
  · rintro ⟨h, hnone⟩
    unfold ofBytes? at h
    split at h
    · next htext =>
      cases h
      exact .notText htext
    · next text htext =>
      split at h
      · cases h
        cases hnone
      · next hread =>
        cases h
        exact .unread htext hread
      · next hread =>
        cases h
        exact .tooDeep htext hread
      · next table hread =>
        rcases ofTable?_cases path table with
          ⟨hlong, htable⟩ | ⟨-, ⟨fault', htable, hrefuses⟩ | ⟨c, htable, -⟩⟩
        · cases htable.symm.trans h
          exact .unwritten htext hread hlong
        · cases htable.symm.trans h
          obtain ⟨message, hmessage⟩ := hrefuses.exists_message
          cases hnone.symm.trans hmessage
        · cases htable.symm.trans h
  · intro h
    unfold ofBytes?
    cases h with
    | notText h => exact ⟨by rw [h], rfl⟩
    | tooDeep htext h => exact ⟨by simp only [htext, h], rfl⟩
    | unread htext h => exact ⟨by simp only [htext, h], rfl⟩
    | @unwritten text table htext h hlong =>
      simp only [htext, h]
      rcases ofTable?_cases path table with ⟨-, htable⟩ | ⟨hshort, -⟩
      · exact ⟨htable, rfl⟩
      · exact absurd hlong hshort

section Load

variable (hplace : place? t cwd file = .ok path) (hcontent : t.content? cwd path = some bytes)

include hplace hcontent

/-- A configuration is loaded, or the content has a fault. -/
theorem load_cases : (∃ config, load t cwd file = .ok config) ∨
    ∃ fault, load t cwd file = .error (.config fault) := by
  rw [load_eq hplace hcontent]
  cases ofBytes? path bytes with
  | ok config => exact .inl ⟨config, rfl⟩
  | error fault => exact .inr ⟨fault, rfl⟩

/-- **The faults without words.** -/
theorem load_wordless_iff {fault : ConfigFault} :
    load t cwd file = .error (.config fault) ∧ fault.message? = none ↔ Wordless bytes fault := by
  have hfault : load t cwd file = .error (.config fault) ↔ ofBytes? path bytes = .error fault := by
    rw [load_eq hplace hcontent]
    cases ofBytes? path bytes with
    | ok config => simp [Except.mapError]
    | error fault' => simp [Except.mapError]
  rw [hfault]
  exact ofBytes?_wordless_iff

end Load

end Config

end DocAudit
