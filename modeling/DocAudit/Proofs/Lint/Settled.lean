import DocAudit.Proofs.Files.Names
import DocAudit.Proofs.Lint.Tidied
import DocAudit.Proofs.Text.Utf8

/-!
# Checking what was mended

The checks of a mended text come to an end when those of the text did, wherever other files were mended in the
meantime: whether a check comes to an end depends on the links and references of the prose, and on what paths
lead to, but not on what files hold. And nothing is left to be mended.

## Contents

* `Prose.SameParts`, `LintRule.exists_findings`: when a check comes to an end
* `mendedText`, `mendedCount_mendedText`: what is left of a text, and that **nothing is left to be mended**
* `lintText_ok`: what is mended when all checks come to an end
* `exists_lintText`: **the checks of what is left of a text come to an end**
* `FileTree.mend`, `lintFile_eq`: **what checking a file does with it**
-/

namespace DocAudit

open Text

/-! ## When checks come to an end -/

/-- Prose with the same links and code references. -/
structure Prose.SameParts (p p' : Prose) : Prop where
  links : p'.visible.flatMap Lint.links = p.visible.flatMap Lint.links
  codeRefs : p'.visible.flatMap Lint.codeRefs = p.visible.flatMap Lint.codeRefs

theorem Prose.SameParts.refl (p : Prose) : SameParts p p := ⟨rfl, rfl⟩

theorem Prose.Tidied.sameParts {p p' : Prose} (h : Tidied p p') : SameParts p p' :=
  ⟨h.links_eq, h.codeRefs_eq⟩

namespace Lint

/-- A search for faults comes to an end when it does for each part that the visible lines show. -/
theorem exists_faultsOf_iff {α : Type} {parts : Text → List α} {fault? : α → Outcome (Option Text)}
    {p : Prose} :
    (∃ found, faultsOf parts fault? p = .ok found) ↔
      ∀ part ∈ p.visible.flatMap parts, ∃ found, fault? part = .ok found := by
  unfold faultsOf
  rw [Outcome.exists_filterMapM_iff, ← Prose.map_snd_numberedFrom 1 p]
  constructor
  · intro h part hpart
    obtain ⟨line, hline, hpart⟩ := List.mem_flatMap.mp hpart
    obtain ⟨numbered, hnumbered, rfl⟩ := List.mem_map.mp hline
    exact Outcome.exists_map_iff.mp (h (numbered.1, part)
      (List.mem_flatMap.mpr ⟨numbered, hnumbered, List.mem_map.mpr ⟨part, hpart, rfl⟩⟩))
  · intro h found hfound
    obtain ⟨numbered, hnumbered, hfound⟩ := List.mem_flatMap.mp hfound
    obtain ⟨part, hpart, rfl⟩ := List.mem_map.mp hfound
    exact Outcome.exists_map_iff.mpr
      (h part (List.mem_flatMap.mpr ⟨numbered.2, List.mem_map.mpr ⟨numbered, hnumbered, rfl⟩, hpart⟩))

section Kinds

variable {s : LintScope} {t' : FileTree} (htree : FileTree.SameKinds s.tree t')

include htree

/-- Anchors may be others, but their file is looked for in the same way. -/
theorem exists_anchorFault {own : List Text} (own' : List Text) {link : Link}
    (h : ∃ found, anchorFault? s own link = .ok found) :
    ∃ found, anchorFault? { s with tree := t' } own' link = .ok found := by
  unfold anchorFault? at h ⊢
  simp only at h ⊢
  split
  · exact ⟨_, rfl⟩
  · next hscheme =>
    rw [if_neg hscheme] at h
    split
    · exact ⟨_, rfl⟩
    · next file anchor hcut =>
      simp only [hcut] at h
      split
      · exact ⟨_, rfl⟩
      · next hanchor =>
        rw [if_neg hanchor] at h
        split
        · split <;> exact ⟨_, rfl⟩
        · next hfile =>
          rw [if_neg hfile] at h
          obtain ⟨found, h⟩ := h
          obtain ⟨there, hthere, -⟩ := Outcome.bind_eq_ok_iff.mp h
          have hthere' : t'.isFile? s.cwd (resolve { s with tree := t' } file) = .ok there :=
            (htree.isFile?_eq s.cwd _).trans hthere
          rw [hthere']
          simp only [bind, Except.bind]
          split
          · exact ⟨_, rfl⟩
          · split
            · exact ⟨_, rfl⟩
            · split <;> exact ⟨_, rfl⟩

end Kinds

end Lint

namespace LintRule

open Lint

variable {s : LintScope} {t' : FileTree} (htree : FileTree.SameKinds s.tree t')

include htree

/-- **A check comes to an end in prose with the same links and references**, whatever files hold. -/
theorem exists_findings {p p' : Prose} (hparts : p.SameParts p') (r : LintRule)
    (h : ∃ found, r.findings s p = .ok found) : ∃ found, r.findings { s with tree := t' } p' = .ok found := by
  cases r with
  | brokenInternalLinks =>
    refine exists_faultsOf_iff.mpr fun link hlink => ?_
    rw [hparts.links] at hlink
    rw [s.linkFault?_eq htree]
    exact exists_faultsOf_iff.mp h link hlink
  | deadAnchors =>
    refine exists_faultsOf_iff.mpr fun link hlink => ?_
    rw [hparts.links] at hlink
    exact exists_anchorFault htree _ (exists_faultsOf_iff.mp h link hlink)
  | staleCodeRefs =>
    refine exists_faultsOf_iff.mpr fun ref href => ?_
    rw [hparts.codeRefs] at href
    rw [s.refFault?_eq htree]
    exact exists_faultsOf_iff.mp h ref href
  | inconsistentHeadings => exact ⟨_, rfl⟩
  | missingAltText => exact ⟨_, rfl⟩
  | longParagraphs => exact ⟨_, rfl⟩
  | duplicateHeadings => exact ⟨_, rfl⟩
  | trailingWhitespace => exact ⟨_, rfl⟩

end LintRule

/-! ## Texts -/

/-- The number of prose lines that end in a space or a tab. -/
def looseLines (text : Text) : Nat := (Prose.ofLines (lines text)).visible.countP Lint.hasTrailingSpace

/-- The number of lines that are mended in a text. -/
def mendedCount (rules : List LintRule) (fix : Bool) (text : Text) : Nat :=
  if fix then rules.count .trailingWhitespace * looseLines text else 0

/-- What is left of a text. -/
def mendedText (rules : List LintRule) (fix : Bool) (text : Text) : Text :=
  if mendedCount rules fix text = 0 then text else fixTrailing text

section Texts

variable {rules : List LintRule} {fix : Bool} {s : LintScope} {text : Text}

theorem isTrimmed_mendedText (rules : List LintRule) (fix : Bool) (text : Text) :
    IsTrimmed text (mendedText rules fix text) := by
  unfold mendedText
  split
  · exact .refl text
  · exact isTrimmed_fixTrailing text

/-- The prose that is left has the same links and references. -/
theorem sameParts_mendedText (rules : List LintRule) (fix : Bool) (text : Text) :
    (Prose.ofLines (lines text)).SameParts (Prose.ofLines (lines (mendedText rules fix text))) := by
  unfold mendedText
  split
  · exact .refl _
  · exact (Prose.tidied_ofLines text).sameParts

/-- **Nothing is left to be mended.** -/
theorem mendedCount_mendedText (rules : List LintRule) (fix : Bool) (text : Text) :
    mendedCount rules fix (mendedText rules fix text) = 0 := by
  unfold mendedText
  split
  · next h => exact h
  · have hloose : looseLines (fixTrailing text) = 0 := by
      unfold looseLines
      rw [← Prose.length_trailingSpaces, (Prose.tidied_ofLines text).length_trailingSpaces]
    unfold mendedCount
    rw [hloose, Nat.mul_zero]
    split <;> rfl

/-- The checks of a text come to an end when each of them does. -/
theorem exists_lintText_iff : (∃ outcome, lintText rules fix s text = .ok outcome) ↔
    ∀ r ∈ rules.filter fun r => !(fix && r == .trailingWhitespace),
      ∃ found, r.findings s (Prose.ofLines (lines text)) = .ok found := by
  have hissues : ∀ r : LintRule, (∃ found, r.findings s (Prose.ofLines (lines text)) = .ok found) ↔
      ∃ issues, r.issues s (Prose.ofLines (lines text)) = .ok issues :=
    fun r => Outcome.exists_map_iff.symm
  simp only [hissues, ← Outcome.exists_mapM_iff]
  constructor
  · rintro ⟨outcome, h⟩
    obtain ⟨issues, hissues, -⟩ := Outcome.bind_eq_ok_iff.mp h
    exact ⟨issues, hissues⟩
  · rintro ⟨issues, h⟩
    exact ⟨_, Outcome.bind_eq_ok_iff.mpr ⟨issues, h, rfl⟩⟩

/-- What is mended when they do. -/
theorem lintText_ok {outcome : LintOutcome} (h : lintText rules fix s text = .ok outcome) :
    outcome.fixedCount = mendedCount rules fix text ∧
      outcome.fixedText = if mendedCount rules fix text = 0 then none else some (fixTrailing text) := by
  obtain ⟨issues, -, h⟩ := Outcome.bind_eq_ok_iff.mp h
  cases h
  unfold mendedCount looseLines
  rw [← Prose.length_trailingSpaces]
  exact ⟨rfl, rfl⟩

/-- **The checks of what is left of a text come to an end when those of the text did**, wherever other files
hold something else by then. -/
theorem exists_lintText {t' : FileTree} {text' : Text} (htree : FileTree.SameKinds s.tree t')
    (hparts : (Prose.ofLines (lines text)).SameParts (Prose.ofLines (lines text')))
    (h : ∃ outcome, lintText rules fix s text = .ok outcome) :
    ∃ outcome, lintText rules fix { s with tree := t' } text' = .ok outcome :=
  exists_lintText_iff.mpr fun r hr =>
    LintRule.exists_findings htree hparts r (exists_lintText_iff.mp h r hr)

end Texts

/-! ## Files -/

/-- The tree after a text was mended that stands in the file at the names. -/
def FileTree.mend (t : FileTree) (names : List Text) (rules : List LintRule) (fix : Bool) (text : Text) :
    FileTree :=
  if mendedCount rules fix text = 0 then t else t.put names (.file (Utf8.encode (mendedText rules fix text)))

namespace FileTree

variable {t : FileTree} {cwd path : Path} {names : List Text} {text : Text}

/-- A file is written where it is. -/
theorem write_file {content : List UInt8} (h : t.locate? cwd path = some names)
    (hfile : t.find? names = some (.file content)) (content' : List UInt8) :
    t.write names content' = some (t.put names (.file content')) := by
  have hreached : t.IsReached names := isReached_nil.foldl_step h
  have hne := ne_nil_of_file hfile
  have hparent : t.find? names.dropLast = some .dir := by
    refine hreached.dirs _ (List.dropLast_prefix names) fun hsame => ?_
    have hlength := congrArg List.length hsame
    have hpos := List.length_pos_iff.mpr hne
    rw [List.length_dropLast] at hlength
    omega
  unfold write
  rw [hparent, hfile]

theorem content?_eq_some_iff {content : List UInt8} :
    t.content? cwd path = some content ↔
      ∃ names, t.locate? cwd path = some names ∧ t.find? names = some (.file content) := by
  unfold content?
  split
  · next content' hget =>
    unfold get? at hget
    rw [← Option.bind_eq_some_iff, hget]
    simp
  · next hget =>
    constructor
    · intro h
      cases h
    · intro h
      exact absurd (Option.bind_eq_some_iff.mpr h) (hget content)

section Mend

variable (rules : List LintRule) (fix : Bool) (hfile : t.find? names = some (.file (Utf8.encode text)))

include hfile

theorem find?_mend (other : List Text) :
    (t.mend names rules fix text).find? other =
      if other = names then some (.file (Utf8.encode (mendedText rules fix text))) else t.find? other := by
  unfold mend
  split
  · next hnone =>
    unfold mendedText
    rw [if_pos hnone]
    split
    · next hother => rw [hother, hfile]
    · rfl
  · exact find?_put hfile (ne_nil_of_file hfile) _ other

theorem sameShape_mend : SameShape t (t.mend names rules fix text) := by
  unfold mend
  split
  · exact .refl t
  · exact sameShape_put hfile _

end Mend

end FileTree

section LintFile

variable {rules : List LintRule} {fix : Bool} {s : LintScope} {names : List Text} {text : Text}

/-- A file that holds a text is checked as this text. -/
theorem lintFile_eq (hat : s.tree.locate? s.cwd s.path = some names)
    (hfile : s.tree.find? names = some (.file (Utf8.encode text))) :
    lintFile rules fix s = (lintText rules fix s text).map fun outcome =>
      (outcome, s.tree.mend names rules fix text) := by
  have hcontent : s.tree.content? s.cwd s.path = some (Utf8.encode text) :=
    FileTree.content?_eq_some_iff.mpr ⟨names, hat, hfile⟩
  unfold lintFile
  simp only [hcontent, Option.map_some, Utf8.decode?_encode, hat]
  cases hrun : lintText rules fix s text with
  | error failure => rfl
  | ok outcome =>
    refine congrArg (fun tree => Except.ok (outcome, tree)) ?_
    rw [(lintText_ok hrun).2]
    unfold FileTree.mend mendedText
    by_cases hnone : mendedCount rules fix text = 0
    · simp only [if_pos hnone]
    · simp only [if_neg hnone, FileTree.write_file hat hfile, Option.getD_some]

/-- A file that can be checked holds a text. -/
theorem exists_of_lintFile {result : LintOutcome × FileTree} (h : lintFile rules fix s = .ok result) :
    ∃ names text, s.tree.locate? s.cwd s.path = some names ∧
      s.tree.find? names = some (.file (Utf8.encode text)) := by
  unfold lintFile at h
  split at h
  · next text hread =>
    obtain ⟨content, hcontent, hdecode⟩ := Option.map_eq_some_iff.mp hread
    obtain ⟨names, hat, hfile⟩ := FileTree.content?_eq_some_iff.mp hcontent
    rw [← Utf8.encode_of_decode? hdecode] at hfile
    exact ⟨names, text, hat, hfile⟩
  · cases h

end LintFile

end DocAudit
