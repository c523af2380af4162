import DocAudit.Lint.Outcome
import DocAudit.Proofs.Files.Agreement
import DocAudit.Proofs.Lint.Mended
import DocAudit.Proofs.Outcome
import DocAudit.Proofs.Text.Utf8

/-!
# Hidden lines

Lines of frontmatter and of fenced blocks are hidden from the checks of prose. No check finds anything in
them, and what they say makes no difference: not to the checks of the text itself, nor to links that lead
back to it.

## Contents

* `Prose.placesFrom`: the numbers of visible lines
* `LintRule.places_findings`: **what a check finds is in a visible line**
* `Prose.ofLines_congr`: texts that differ in hidden lines only have the same prose
* `LintScope.Holds`, `LintRule.findings_agree`: checks among files that agree but for the text itself
* `lintText_hidden`: **hidden lines cause, hide and change no issue**
-/

namespace DocAudit

open Text

/-! ## Visible lines -/

namespace Prose

/-- The numbers of the visible lines, of which the first line has the number `n`. -/
def placesFrom (n : Nat) (p : Prose) : List Nat := (numberedFrom n p).map (·.1)

theorem placesFrom_visible (n : Nat) (line : Text) (rest : Prose) :
    placesFrom n (some line :: rest) = n :: placesFrom (n + 1) rest := rfl

/-- The number of a visible line. -/
theorem mem_placesFrom {p : Prose} {n : Nat} {line : Text} (h : (n, line) ∈ p.numbered) :
    n ∈ p.placesFrom 1 := List.mem_map.mpr ⟨(n, line), h, rfl⟩

/-- Behind a line there are fewer visible lines. -/
theorem mem_placesFrom_cons {n m : Nat} (line? : Option Text) {rest : Prose}
    (h : m ∈ placesFrom (n + 1) rest) : m ∈ placesFrom n (line? :: rest) := by
  cases line? with
  | none => exact h
  | some line => exact List.mem_cons_of_mem n h

theorem mem_numberedFrom_iff {p : Prose} {n m : Nat} {line : Text} :
    (m, line) ∈ numberedFrom n p ↔ ∃ i, m = n + i ∧ p[i]? = some (some line) := by
  induction p generalizing n with
  | nil => simp [numberedFrom]
  | cons line? rest ih =>
    have hlater : (m, line) ∈ numberedFrom (n + 1) rest ↔
        ∃ i, m = n + (i + 1) ∧ (line? :: rest)[i + 1]? = some (some line) := by
      rw [ih]
      simp only [List.getElem?_cons_succ, Nat.add_assoc, Nat.add_comm 1]
    have hsplit : (∃ i, m = n + i ∧ (line? :: rest)[i]? = some (some line)) ↔
        (m = n ∧ line? = some line) ∨
          ∃ i, m = n + (i + 1) ∧ (line? :: rest)[i + 1]? = some (some line) := by
      constructor
      · rintro ⟨i, hm, hi⟩
        cases i with
        | zero => exact Or.inl ⟨hm, Option.some.inj hi⟩
        | succ i => exact Or.inr ⟨i, hm, hi⟩
      · rintro (⟨hm, hline⟩ | ⟨i, hm, hi⟩)
        · exact ⟨0, hm, congrArg some hline⟩
        · exact ⟨i + 1, hm, hi⟩
    rw [hsplit, ← hlater]
    cases line? with
    | none => simp [numberedFrom]
    | some first =>
      simp only [numberedFrom, List.mem_cons, Prod.mk.injEq, Option.some.injEq, eq_comm]

/-- The lines behind some lines are numbered on. -/
theorem numberedFrom_append (n : Nat) (p q : Prose) :
    numberedFrom n (p ++ q) = numberedFrom n p ++ numberedFrom (n + p.length) q := by
  induction p generalizing n with
  | nil => rfl
  | cons line? rest ih =>
    have hnext : n + 1 + rest.length = n + (line? :: rest).length := by
      rw [List.length_cons, Nat.add_assoc, Nat.add_comm 1]
    cases line? with
    | none => rw [List.cons_append, numberedFrom, numberedFrom, ih, hnext]
    | some line => rw [List.cons_append, numberedFrom, numberedFrom, ih, hnext, List.cons_append]

/-- The line at a place, and what stands behind it. -/
theorem of_drop_eq_cons {p rest : Prose} {line? : Option Text} {k : Nat} (h : p.drop k = line? :: rest) :
    p[k]? = some line? ∧ p.drop (k + 1) = rest := by
  constructor
  · rw [← List.head?_drop, h]
    rfl
  · rw [← List.tail_drop, h]
    rfl

/-- A line is visible when the mask does not hide it. -/
theorem getElem?_ofLines {ls : List Text} {i : Nat} {line : Text} :
    (ofLines ls)[i]? = some (some line) ↔ (proseMask ls)[i]? = some false ∧ ls[i]? = some line := by
  rw [ofLines, List.getElem?_zipWith]
  cases ls[i]? with
  | none => simp
  | some line' =>
    cases (proseMask ls)[i]? with
    | none => simp
    | some masked => cases masked <;> simp

/-- The places of a text are its unmasked lines. -/
theorem mem_placesFrom_one_iff {ls : List Text} {n : Nat} :
    n ∈ placesFrom 1 (ofLines ls) ↔
      1 ≤ n ∧ n ≤ ls.length ∧ (proseMask ls)[n - 1]? = some false := by
  have hplace : n ∈ placesFrom 1 (ofLines ls) ↔ ∃ line, (n, line) ∈ numberedFrom 1 (ofLines ls) := by
    simp [placesFrom]
  rw [hplace]
  constructor
  · rintro ⟨line, hline⟩
    obtain ⟨i, rfl, hi⟩ := mem_numberedFrom_iff.mp hline
    obtain ⟨hmask, hi⟩ := getElem?_ofLines.mp hi
    have hlt := (List.getElem?_eq_some_iff.mp hi).1
    exact ⟨by omega, by omega, by rwa [Nat.add_sub_cancel_left]⟩
  · rintro ⟨hone, hle, hmask⟩
    have hlt : n - 1 < ls.length := by omega
    refine ⟨ls[n - 1], mem_numberedFrom_iff.mpr ⟨n - 1, by omega, getElem?_ofLines.mpr ⟨hmask, ?_⟩⟩⟩
    exact List.getElem?_eq_getElem hlt

/-- **Texts that differ in hidden lines only have the same prose.** -/
theorem ofLines_congr {ls ls' : List Text} (hlength : ls'.length = ls.length)
    (hmask : proseMask ls' = proseMask ls)
    (hsame : ∀ i : Nat, (proseMask ls)[i]? = some false → ls'[i]? = ls[i]?) :
    ofLines ls' = ofLines ls := by
  refine List.ext_getElem? fun i => ?_
  rw [ofLines, ofLines, List.getElem?_zipWith, List.getElem?_zipWith, hmask]
  cases hm : (proseMask ls)[i]? with
  | none => cases ls'[i]? <;> cases ls[i]? <;> rfl
  | some masked =>
    cases masked with
    | false => rw [hsame i hm]
    | true =>
      by_cases hi : i < ls.length
      · rw [List.getElem?_eq_getElem hi, List.getElem?_eq_getElem (hlength ▸ hi)]
        rfl
      · rw [List.getElem?_eq_none (by omega), List.getElem?_eq_none (by omega)]

end Prose

/-! ## What checks find -/

namespace Lint

/-- What is found is wrong with a part of a visible line. -/
theorem exists_of_mem_faultsOf {α : Type} {parts : Text → List α} {fault? : α → Outcome (Option Text)}
    {p : Prose} {found : List (Nat × Text)} (h : faultsOf parts fault? p = .ok found)
    {f : Nat × Text} (hf : f ∈ found) :
    ∃ line part, (f.1, line) ∈ p.numbered ∧ part ∈ parts line ∧ fault? part = .ok (some f.2) := by
  obtain ⟨⟨n, part⟩, hmem, hpart⟩ := Outcome.mem_of_filterMapM h hf
  obtain ⟨⟨n', line⟩, hline, hmem⟩ := List.mem_flatMap.mp hmem
  obtain ⟨part', hmem, he⟩ := List.mem_map.mp hmem
  cases he
  obtain ⟨message?, hfault, hmessage⟩ := Outcome.map_eq_ok_iff.mp hpart
  obtain ⟨message, rfl, rfl⟩ := Option.map_eq_some_iff.mp hmessage
  exact ⟨line, part, hline, hmem, hfault⟩

/-- What is wrong with parts of lines is wrong in a visible line. -/
theorem places_faultsOf {α : Type} {parts : Text → List α} {fault? : α → Outcome (Option Text)}
    {p : Prose} {found : List (Nat × Text)} (h : faultsOf parts fault? p = .ok found)
    {f : Nat × Text} (hf : f ∈ found) : f.1 ∈ p.placesFrom 1 := by
  obtain ⟨line, part, hline, -, -⟩ := exists_of_mem_faultsOf h hf
  exact Prose.mem_placesFrom hline

theorem places_headingIssues : ∀ {p : Prose} {style : HeadingStyle} {above : Option Text} {n : Nat}
    {f : Nat × Text}, f ∈ headingIssues style above n p → f.1 ∈ p.placesFrom n
  | [], _, _, _, _, h => by cases h
  | none :: rest, _, _, n, _, h => by
    rw [headingIssues] at h
    exact Prose.mem_placesFrom_cons none (places_headingIssues h)
  | some line :: rest, style, above, n, f, h => by
    have here : f.1 = n → f.1 ∈ Prose.placesFrom n (some line :: rest) := by
      intro hn
      rw [Prose.placesFrom_visible, hn]
      exact List.mem_cons_self
    have later : ∀ {style' : HeadingStyle} {above' : Option Text},
        f ∈ headingIssues style' above' (n + 1) rest → f.1 ∈ Prose.placesFrom n (some line :: rest) :=
      fun h => Prose.mem_placesFrom_cons (some line) (places_headingIssues h)
    rw [headingIssues] at h
    split at h
    · simp only [List.mem_append] at h
      rcases h with (h | h) | h
      · split at h
        · cases h
        · split at h
          · cases h
          · exact here (congrArg Prod.fst (List.mem_singleton.mp h))
      · split at h
        · exact here (congrArg Prod.fst (List.mem_singleton.mp h))
        · cases h
      · exact later h
    · split at h
      · rcases List.mem_append.mp h with h | h
        · split at h
          · exact here (congrArg Prod.fst (List.mem_singleton.mp h))
          · cases h
        · exact later h
      · exact later h

theorem places_repeatedHeadings : ∀ {ls : List (Nat × Text)} {seen : List ((Nat × Text) × Nat)}
    {f : Nat × Text}, f ∈ repeatedHeadings seen ls → f.1 ∈ ls.map (·.1)
  | [], _, _, h => by cases h
  | (n, line) :: rest, seen, f, h => by
    have later : ∀ {seen' : List ((Nat × Text) × Nat)}, f ∈ repeatedHeadings seen' rest →
        f.1 ∈ ((n, line) :: rest).map (·.1) :=
      fun h => List.mem_cons_of_mem n (places_repeatedHeadings h)
    rw [repeatedHeadings] at h
    split at h
    · exact later h
    · simp only at h
      split at h
      · rcases List.mem_cons.mp h with rfl | h
        · exact List.mem_cons_self
        · exact later h
      · exact later h

/-- A paragraph starts in a visible line, unless it has started before. -/
theorem places_paragraphs : ∀ {p : Prose} {started : Option Paragraph} {n : Nat} {par : Paragraph},
    par ∈ paragraphs started n p → (∃ first ∈ started, par.line = first.line) ∨ par.line ∈ p.placesFrom n
  | [], started, _, par, h => by
    exact Or.inl ⟨par, Option.mem_toList.mp h, rfl⟩
  | line? :: rest, started, n, par, h => by
    rw [paragraphs] at h
    split at h
    · rcases List.mem_append.mp h with h | h
      · exact Or.inl ⟨par, Option.mem_toList.mp h, rfl⟩
      · rcases places_paragraphs h with ⟨first, hfirst, -⟩ | h
        · cases hfirst
        · exact Or.inr (Prose.mem_placesFrom_cons line? h)
    · next hgoes =>
      obtain ⟨line, rfl⟩ : ∃ line, line? = some line := by
        cases line? with
        | none => exact absurd rfl hgoes
        | some line => exact ⟨line, rfl⟩
      rcases places_paragraphs h with ⟨first, hfirst, hline⟩ | h
      · cases hfirst
        cases started with
        | none =>
          right
          rw [hline, Prose.placesFrom_visible]
          exact List.mem_cons_self
        | some par' => exact Or.inl ⟨par', rfl, hline⟩
      · exact Or.inr (Prose.mem_placesFrom_cons (some line) h)

end Lint

namespace LintRule

open Lint

/-- **What a check finds is in a visible line.** -/
theorem places_findings {r : LintRule} {s : LintScope} {p : Prose} {found : List (Nat × Text)}
    (h : r.findings s p = .ok found) : ∀ f ∈ found, f.1 ∈ p.placesFrom 1 := by
  intro f hf
  cases r with
  | brokenInternalLinks => exact places_faultsOf h hf
  | deadAnchors => exact places_faultsOf h hf
  | staleCodeRefs => exact places_faultsOf h hf
  | inconsistentHeadings =>
    cases h
    exact places_headingIssues hf
  | missingAltText =>
    cases h
    obtain ⟨⟨n, line⟩, hline, hf⟩ := List.mem_flatMap.mp hf
    have hn : f.1 = n := by
      rcases List.mem_append.mp hf with hf | hf
      · obtain ⟨_, -, rfl⟩ := List.mem_map.mp hf
        rfl
      · obtain ⟨_, -, rfl⟩ := List.mem_map.mp hf
        rfl
    rw [hn]
    exact Prose.mem_placesFrom hline
  | longParagraphs =>
    cases h
    obtain ⟨par, hpar, hf⟩ := List.mem_filterMap.mp hf
    have hline : f.1 = par.line := by
      split at hf
      · rw [← Option.some.inj hf]
      · cases hf
    rw [hline]
    rcases places_paragraphs hpar with ⟨first, hfirst, -⟩ | hpar
    · cases hfirst
    · exact hpar
  | duplicateHeadings =>
    cases h
    exact places_repeatedHeadings hf
  | trailingWhitespace =>
    cases h
    obtain ⟨⟨n, line⟩, hline, rfl⟩ := List.mem_map.mp hf
    exact Prose.mem_placesFrom (List.mem_of_mem_filter hline)

theorem places_issues {r : LintRule} {s : LintScope} {p : Prose} {issues : List Issue}
    (h : r.issues s p = .ok issues) : ∀ i ∈ issues, i.line ∈ p.placesFrom 1 := by
  intro i hi
  obtain ⟨found, hfound, rfl⟩ := Outcome.map_eq_ok_iff.mp h
  obtain ⟨f, hf, rfl⟩ := List.mem_map.mp hi
  exact places_findings hfound f hf

end LintRule

/-- The issues of a text are in its visible lines. -/
theorem places_lintText {rules : List LintRule} {fix : Bool} {s : LintScope} {text : Text}
    {outcome : LintOutcome} (h : lintText rules fix s text = .ok outcome) :
    ∀ i ∈ outcome.issues, i.line ∈ (Prose.ofLines (lines text)).placesFrom 1 := by
  intro i hi
  obtain ⟨issues, hissues, h⟩ := Outcome.bind_eq_ok_iff.mp h
  cases h
  obtain ⟨ruleIssues, hmem, hi⟩ := List.mem_flatten.mp (List.mem_mergeSort.mp hi)
  obtain ⟨r, -, hr⟩ := Outcome.mem_of_mapM hissues hmem
  exact LintRule.places_issues hr i hi

/-! ## Links back to the text -/

/-- The file of the scope holds the text. -/
def LintScope.Holds (s : LintScope) (text : Text) : Prop :=
  ∃ content, s.tree.content? s.cwd s.path = some content ∧ Utf8.decode? content = some text

section Agreement

open Lint

variable {s : LintScope} {t' : FileTree} {names : List Text} {text text' : Text}

/-- Every file defines the same anchors, and so does the text when it is read again as a file. -/
theorem LintScope.anchorsOfFile?_agree (htree : FileTree.AgreeBut names s.tree t')
    (hnames : s.tree.locate? s.cwd s.path = some names) (hholds : s.Holds text)
    (hholds' : { s with tree := t' : LintScope }.Holds text')
    (hprose : Prose.ofLines (lines text') = Prose.ofLines (lines text)) (path : Path) :
    anchorsOfFile? { s with tree := t' } path = anchorsOfFile? s path := by
  by_cases hpath : s.tree.locate? s.cwd path = some names
  · obtain ⟨content, hcontent, htext⟩ := hholds
    obtain ⟨content', hcontent', htext'⟩ := hholds'
    have hsame : s.tree.content? s.cwd path = some content := by
      unfold FileTree.content? FileTree.get? at hcontent ⊢
      rwa [hpath, ← hnames]
    have hsame' : t'.content? s.cwd path = some content' := by
      simp only at hcontent'
      unfold FileTree.content? FileTree.get? at hcontent' ⊢
      rwa [htree.sameKinds.locate?_eq, hpath, ← hnames, ← htree.sameKinds.locate?_eq]
    unfold anchorsOfFile?
    simp only [hsame, hsame', htext, htext', Option.map_some, hprose]
  · unfold anchorsOfFile?
    simp only [htree.content?_eq hpath]

end Agreement

section Kinds

open Lint

variable {s : LintScope} {t' : FileTree} (htree : FileTree.SameKinds s.tree t')

include htree

/-- What files hold is of no account for a link. -/
theorem LintScope.linkFault?_eq : linkFault? { s with tree := t' } = linkFault? s := by
  funext link
  unfold linkFault?
  simp only [htree.exists?_eq]
  rfl

/-- What files hold is of no account for a code reference. -/
theorem LintScope.refFault?_eq : refFault? { s with tree := t' } = refFault? s := by
  funext ref
  unfold refFault?
  simp only [htree.exists?_eq]

/-- **A check finds the same in the same prose.** -/
theorem LintRule.findings_agree
    (hanchors : ∀ path, anchorsOfFile? { s with tree := t' } path = anchorsOfFile? s path)
    (r : LintRule) (p : Prose) : r.findings { s with tree := t' } p = r.findings s p := by
  cases r with
  | brokenInternalLinks =>
    show faultsOf links (linkFault? { s with tree := t' }) p = faultsOf links (linkFault? s) p
    rw [s.linkFault?_eq htree]
  | deadAnchors =>
    have hfault : anchorFault? { s with tree := t' } (anchors p) = anchorFault? s (anchors p) := by
      funext link
      unfold anchorFault?
      simp only [htree.isFile?_eq, hanchors]
      rfl
    show faultsOf links (anchorFault? { s with tree := t' } (anchors p)) p =
      faultsOf links (anchorFault? s (anchors p)) p
    rw [hfault]
  | staleCodeRefs =>
    show faultsOf codeRefs (refFault? { s with tree := t' }) p = faultsOf codeRefs (refFault? s) p
    rw [s.refFault?_eq htree]
  | inconsistentHeadings => rfl
  | missingAltText => rfl
  | longParagraphs => rfl
  | duplicateHeadings => rfl
  | trailingWhitespace => rfl

end Kinds

/--
**Hidden lines cause, hide and change no issue.**

Two texts with the same lines outside of frontmatter and fenced blocks, which are hidden at the same places,
have the same issues in the same order, or the checks fail in the same way. Each text stands in the file
that it is checked as, and all other files are the same, so that links may lead back to the text and to its
anchors. Every issue is in a line of the text that is not hidden.
-/
theorem lintText_hidden (rules : List LintRule) (s : LintScope) (text : Text) :
    (∀ (names : List Text) (t' : FileTree) (text' : Text),
      s.tree.locate? s.cwd s.path = some names → FileTree.AgreeBut names s.tree t' → s.Holds text →
      { s with tree := t' : LintScope }.Holds text' →
      (lines text').length = (lines text).length →
      proseMask (lines text') = proseMask (lines text) →
      (∀ i : Nat, (proseMask (lines text))[i]? = some false → (lines text')[i]? = (lines text)[i]?) →
        lintText rules false { s with tree := t' } text' = lintText rules false s text) ∧
      ∀ outcome, lintText rules false s text = .ok outcome → ∀ i ∈ outcome.issues,
        1 ≤ i.line ∧ i.line ≤ (lines text).length ∧
          (proseMask (lines text))[i.line - 1]? = some false := by
  constructor
  · intro names t' text' hnames htree hholds hholds' hlength hmask hsame
    have hprose : Prose.ofLines (lines text') = Prose.ofLines (lines text) :=
      Prose.ofLines_congr hlength hmask hsame
    have hissues : ∀ r : LintRule, r.issues { s with tree := t' } (Prose.ofLines (lines text)) =
        r.issues s (Prose.ofLines (lines text)) := by
      intro r
      unfold LintRule.issues
      rw [LintRule.findings_agree htree.sameKinds
        (LintScope.anchorsOfFile?_agree htree hnames hholds hholds' hprose)]
    unfold lintText
    simp only [hprose, hissues]
    rfl
  · intro outcome houtcome i hi
    exact Prose.mem_placesFrom_one_iff.mp (places_lintText houtcome i hi)

/-- A text with a link to an anchor of its own file. The heading that would define it is hidden. -/
def hidingText : Text :=
  "---\ntitle: \n---\n# Guide\n[x](doc.md#setup)\n```\n## Setup\n[y](gone.md) \n```\n".toList

/-- The same text with other hidden lines. -/
def hidingText' : Text :=
  "---\n![](gone.png)\n---\n# Guide\n[x](doc.md#setup)\n```\n# Guide\n```sh \n```\n".toList

/-- A directory with the text in its only file, which is checked. -/
def hidingScope (text : Text) : LintScope where
  tree := { entries := [(["doc.md".toList], .file (Utf8.encode text))] }
  cwd := Path.ofText "/".toList
  projectRoot := Path.ofText "/".toList
  path := Path.ofText "doc.md".toList

/-- The link is dead whatever the hidden lines are, and it is all that is found. -/
theorem lintText_hidden_anchor :
    let s := hidingScope hidingText
    let t' := (hidingScope hidingText').tree
    (s.tree.locate? s.cwd s.path = some ["doc.md".toList] ∧
      FileTree.AgreeBut ["doc.md".toList] s.tree t' ∧ s.Holds hidingText ∧
      { s with tree := t' : LintScope }.Holds hidingText' ∧
      (lines hidingText').length = (lines hidingText).length ∧
      proseMask (lines hidingText') = proseMask (lines hidingText) ∧
      ∀ i : Nat, (proseMask (lines hidingText))[i]? = some false →
        (lines hidingText')[i]? = (lines hidingText)[i]?) ∧
      (lintText LintRule.all false s hidingText).toOption.map (·.issues) = some
        [{ line := 5, rule := .deadAnchors,
           message := "dead anchor 'doc.md#setup' (section not found in target file)".toList }] ∧
      lintText LintRule.all false { s with tree := t' } hidingText' =
        lintText LintRule.all false s hidingText := by
  intro s t'
  have hnames : s.tree.locate? s.cwd s.path = some ["doc.md".toList] := by decide
  have hfile : s.tree.find? ["doc.md".toList] = some (.file (Utf8.encode hidingText)) := rfl
  have htree : FileTree.AgreeBut ["doc.md".toList] s.tree t' :=
    FileTree.agreeBut_put hfile (Utf8.encode hidingText')
  have hholds : s.Holds hidingText := ⟨Utf8.encode hidingText, rfl, Utf8.decode?_encode hidingText⟩
  have hholds' : { s with tree := t' : LintScope }.Holds hidingText' :=
    ⟨Utf8.encode hidingText', rfl, Utf8.decode?_encode hidingText'⟩
  have hlines : lines hidingText = ["---".toList, "title: ".toList, "---".toList, "# Guide".toList,
      "[x](doc.md#setup)".toList, "```".toList, "## Setup".toList, "[y](gone.md) ".toList, "```".toList] :=
    (congrArg lines String.toList_ofList).trans (by decide +kernel)
  have hlines' : lines hidingText' = ["---".toList, "![](gone.png)".toList, "---".toList, "# Guide".toList,
      "[x](doc.md#setup)".toList, "```".toList, "# Guide".toList, "```sh ".toList, "```".toList] :=
    (congrArg lines String.toList_ofList).trans (by decide +kernel)
  have hlength : (lines hidingText').length = (lines hidingText).length := by
    rw [hlines, hlines']
    decide +kernel
  have hmaskIs : proseMask (lines hidingText) =
      [true, true, true, false, false, true, true, true, true] := by
    rw [hlines]
    decide +kernel
  have hmask : proseMask (lines hidingText') = proseMask (lines hidingText) := by
    rw [hmaskIs, hlines']
    decide +kernel
  have hsame : ∀ i : Nat, (proseMask (lines hidingText))[i]? = some false →
      (lines hidingText')[i]? = (lines hidingText)[i]? := by
    intro i hi
    rw [hmaskIs] at hi
    have hall : ∀ j : Fin 9,
        [true, true, true, false, false, true, true, true, true][j.val]? = some false →
          (lines hidingText')[j.val]? = (lines hidingText)[j.val]? := by
      rw [hlines, hlines']
      decide +kernel
    exact hall ⟨i, (List.getElem?_eq_some_iff.mp hi).1⟩ hi
  have hissues : (lintText LintRule.all false (hidingScope hidingText) hidingText).toOption.map (·.issues) =
      some [{ line := 5, rule := .deadAnchors,
              message := "dead anchor 'doc.md#setup' (section not found in target file)".toList }] := by
    -- both texts as their characters, which the evaluation would else take from bytes again and again
    rw [show "dead anchor 'doc.md#setup' (section not found in target file)".toList = _ from
        String.toList_ofList,
      show hidingText = _ from String.toList_ofList]
    decide +kernel
  exact ⟨⟨hnames, htree, hholds, hholds', hlength, hmask, hsame⟩, hissues,
    (lintText_hidden LintRule.all s hidingText).1 _ t' hidingText' hnames htree hholds hholds' hlength
      hmask hsame⟩

end DocAudit
