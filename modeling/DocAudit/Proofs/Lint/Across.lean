import DocAudit.Proofs.Lint.Linter
import DocAudit.Proofs.Lint.Titles

/-!
# Links to sections of other files

A link leads to a section of its own text or of another file, whose anchors are then read and remembered. Both ways
to look for a section give the same answer, whatever terminators the lines of the file have and whatever was read
before.

## Contents

* `Prose.exists_ofLines_append_cons`: the prose in front of a line of prose and behind it
* `Lint.complaint_inj`: a complaint says what it is about
* `Lint.SectionLink`, `Lint.SectionLink.mem_issues_iff`: **when a link to a section is reported**
* `Lint.exists_deadAnchors`: when the check comes to an end
* `Lint.translatedAnchors?`: the anchors of a file that is read with line feeds for carriage returns
* `Lint.Relined`: a text and what it becomes with another line
* `Linter.run_sectionLink`: **a section that is missed from elsewhere is missed in its own file**
-/

namespace DocAudit

open Text

/-! ## A line of prose -/

/-- The mask of lines of which the first `start` are hidden. -/
def maskFrom (start : Nat) (ls : List Text) : List Bool :=
  List.replicate start true ++ Fence.fenced none (ls.drop start)

theorem length_maskFrom {start : Nat} {ls : List Text} (h : start ≤ ls.length) :
    (maskFrom start ls).length = ls.length := by
  rw [maskFrom, List.length_append, List.length_replicate, Fence.length_fenced, List.length_drop]
  omega

/-- Where a line is prose, the scan of fences starts anew behind it. -/
theorem proseMask_append_cons {front back : List Text} {line : Text}
    (h : (proseMask (front ++ line :: back))[front.length]? = some false) :
    (Frontmatter.split (front ++ line :: back)).2 ≤ front.length ∧
      proseMask (front ++ line :: back) =
        maskFrom (Frontmatter.split (front ++ line :: back)).2 front ++ false :: Fence.fenced none back := by
  unfold proseMask at h ⊢
  generalize (Frontmatter.split (front ++ line :: back)).2 = start at h ⊢
  have hstart : start ≤ front.length := by
    by_contra hlt
    rw [List.getElem?_append_left (by simpa using Nat.not_le.mp hlt), List.getElem?_replicate,
      if_pos (Nat.not_le.mp hlt)] at h
    cases h
  have hmask : List.replicate start true ++ Fence.fenced none ((front ++ line :: back).drop start) =
      maskFrom start front ++ Fence.fenced (Fence.after none (front.drop start)) (line :: back) := by
    rw [List.drop_append_of_le_length hstart, Fence.fenced_append, ← List.append_assoc, maskFrom]
  simp only [hmask] at h ⊢
  rw [List.getElem?_append_right (length_maskFrom hstart).le, length_maskFrom hstart, Nat.sub_self] at h
  refine ⟨hstart, ?_⟩
  cases hfence : Fence.after none (front.drop start) with
  | some f =>
    rw [hfence] at h
    cases h
  | none =>
    rw [hfence] at h
    cases hopen : Fence.opening? line with
    | some f => simp [Fence.fenced, Fence.step, hopen] at h
    | none => simp [Fence.fenced, Fence.step, hopen]

namespace Prose

/-- The prose of a text around one of its lines. -/
theorem ofLines_append_cons {front back : List Text} {line : Text}
    (h : (proseMask (front ++ line :: back))[front.length]? = some false) :
    ofLines (front ++ line :: back) = under (maskFrom (Frontmatter.split (front ++ line :: back)).2 front) front ++
      some line :: under (Fence.fenced none back) back := by
  obtain ⟨hstart, hmask⟩ := proseMask_append_cons h
  rw [ofLines, hmask, List.zipWith_append (length_maskFrom hstart).symm]
  rfl

/-- **Around a line of prose, the prose of a text does not depend on the line.** -/
theorem exists_ofLines_append_cons {front back : List Text} {line line' : Text}
    (h : (proseMask (front ++ line :: back))[front.length]? = some false)
    (h' : (proseMask (front ++ line' :: back))[front.length]? = some false) :
    ∃ before behind : Prose, ofLines (front ++ line :: back) = before ++ some line :: behind ∧
      ofLines (front ++ line' :: back) = before ++ some line' :: behind := by
  refine ⟨_, _, ofLines_append_cons h, ?_⟩
  rw [ofLines_append_cons h',
    Frontmatter.split_congr (proseMask_append_cons h).1 (proseMask_append_cons h').1]

end Prose

namespace Lint

/-! ## Complaints -/

theorem complaint_eq (file anchor : Text) : complaint file anchor =
    "dead anchor '".toList ++ (file ++ '#' :: (anchor ++ ("' (section not found".toList ++
      if file = [] then [')'] else " in target file)".toList))) := by
  have hopen : "dead anchor '#".toList = "dead anchor '".toList ++ ['#'] := by decide
  have hclose : "' (section not found)".toList = "' (section not found".toList ++ [')'] := by decide
  have hclose' : "' (section not found in target file)".toList =
      "' (section not found".toList ++ " in target file)".toList := by decide
  unfold complaint
  split
  · next hfile => rw [hopen, hclose, hfile, List.append_assoc, List.append_assoc, List.singleton_append]; rfl
  · rw [hclose', List.append_assoc, List.append_assoc, List.cons_append]

/-- **A complaint says which file and which anchor it is about.** -/
theorem complaint_inj {file anchor file' anchor' : Text} (hfile : '#' ∉ file) (hfile' : '#' ∉ file')
    (h : complaint file anchor = complaint file' anchor') : file = file' ∧ anchor = anchor' := by
  rw [complaint_eq, complaint_eq, List.append_cancel_left_eq] at h
  have hcut := congrArg (cut '#') h
  rw [cut_append hfile, cut_append hfile', Option.some_inj, Prod.mk.injEq] at hcut
  obtain ⟨rfl, hrest⟩ := hcut
  exact ⟨rfl, List.append_cancel_right hrest⟩

section Report

variable {s : LintScope} {own : List Text} {link : Link} {n : Nat} {file anchor : Text}

/-- **What is reported about a link, and when.** -/
theorem report_eq_some_iff (h : cut '#' (strip link.target) = some (file, anchor)) {q : Nat × Text} :
    report s own (n, link) = some q ↔ q = (n, complaint file anchor) ∧ hasScheme (strip link.target) = false ∧
      anchor ≠ [] ∧ ∃ known, anchorsAt? s own file = .ok (some known) ∧ normalizeAnchor anchor ∉ known := by
  have hform : ∀ {q}, report s own (n, link) = some q → q = (n, complaint file anchor) := by
    intro q hq
    rw [report, anchorFault?_eq h] at hq
    split at hq
    · cases hq
    · obtain ⟨message, hmessage, rfl⟩ := Option.map_eq_some_iff.mp hq
      cases hfile : anchorsAt? s own file with
      | error failure =>
        rw [hfile] at hmessage
        cases hmessage
      | ok known? =>
        rw [hfile] at hmessage
        have hsaid : (known?.bind fun known => if normalizeAnchor anchor ∈ known then none
            else some (complaint file anchor)) = some message := hmessage
        obtain ⟨known, -, hknown⟩ := Option.bind_eq_some_iff.mp hsaid
        obtain ⟨-, hcomplaint⟩ := Option.ite_none_left_eq_some.mp hknown
        rw [Option.some.inj hcomplaint]
  constructor
  · intro hq
    exact ⟨hform hq, (isSome_report_iff h).mp (Option.isSome_iff_exists.mpr ⟨q, hq⟩)⟩
  · rintro ⟨rfl, hdead⟩
    obtain ⟨q, hq⟩ := Option.isSome_iff_exists.mp ((isSome_report_iff (n := n) h).mpr hdead)
    rw [hq, hform hq]

end Report

/-! ## Links to sections -/

/-- A link in the prose of a text to the anchor of a section. Its own text is meant when there is no file. -/
structure SectionLink (text file anchor : Text) where
  number : Nat
  link : Link
  mem : (number, link) ∈ linksIn (Prose.ofLines (lines text))
  target : cut '#' (strip link.target) = some (file, anchor)
  scheme : hasScheme file = false
  anchor_ne : anchor ≠ []

namespace SectionLink

variable {text file anchor : Text}

/-- What is reported about the link when its section is missed. -/
def issue (l : SectionLink text file anchor) : Issue where
  line := l.number
  rule := .deadAnchors
  message := complaint file anchor

theorem hasScheme_target (l : SectionLink text file anchor) : hasScheme (strip l.link.target) = false := by
  rw [(cut_eq_some_iff.mp l.target).1]
  by_cases hfile : file = []
  · rw [hfile]
    rfl
  · rw [hasScheme_append hfile fun c hc => ?_]
    · exact l.scheme
    · obtain rfl := Option.some.inj hc
      decide

variable {s : LintScope} {rules : List LintRule} {fix : Bool} {outcome : LintOutcome}

/-- **A link is reported when its anchor is not among those that it can lead to.** Other links with the same
complaint in the same line are reported with it. -/
theorem mem_issues_iff (l : SectionLink text file anchor) (hrule : .deadAnchors ∈ rules)
    (hrun : lintText rules fix s text = .ok outcome) :
    l.issue ∈ outcome.issues ↔ ∃ known,
      anchorsAt? s (anchors (Prose.ofLines (lines text))) file = .ok (some known) ∧
        normalizeAnchor anchor ∉ known := by
  obtain ⟨found, hfound, hissues⟩ := exists_findings hrule (by decide) hrun
  have hreported := deadAnchors_eq hfound
  rw [issue, hissues, hreported, List.mem_filterMap]
  constructor
  · rintro ⟨⟨n, link⟩, -, hreport⟩
    cases hcut : cut '#' (strip link.target) with
    | none =>
      rw [report_eq_none hcut] at hreport
      cases hreport
    | some parts =>
      obtain ⟨file', anchor'⟩ := parts
      obtain ⟨hcomplaint, -, -, hdead⟩ := (report_eq_some_iff hcut).mp hreport
      obtain ⟨rfl, rfl⟩ := complaint_inj (cut_eq_some_iff.mp l.target).2 (cut_eq_some_iff.mp hcut).2
        (congrArg Prod.snd hcomplaint)
      exact hdead
  · intro hdead
    exact ⟨(l.number, l.link), l.mem,
      (report_eq_some_iff l.target).mpr ⟨rfl, l.hasScheme_target, l.anchor_ne, hdead⟩⟩

/-- What a link to another file leads to is found out, when the check comes to an end. -/
theorem exists_isFile? (l : SectionLink text file anchor) (hfile : file ≠ []) (hrule : .deadAnchors ∈ rules)
    (hrun : lintText rules fix s text = .ok outcome) :
    s.tree.isFile? s.cwd (resolve s file) = .ok (s.tree.isFile s.cwd (resolve s file)) := by
  obtain ⟨found, hfound, -⟩ := exists_findings hrule (by decide) hrun
  obtain ⟨fault?, hfault⟩ := Outcome.exists_filterMapM_iff.mp ⟨found, hfound⟩ (l.number, l.link) l.mem
  obtain ⟨message?, hmessage, -⟩ := Outcome.map_eq_ok_iff.mp hfault
  rw [anchorFault?_eq l.target, if_neg (by simp [l.hasScheme_target, l.anchor_ne])] at hmessage
  obtain ⟨known?, hknown, -⟩ := Outcome.map_eq_ok_iff.mp hmessage
  rw [anchorsAt?, if_neg hfile] at hknown
  obtain ⟨there, hthere, -⟩ := Outcome.map_eq_ok_iff.mp hknown
  rw [hthere]
  unfold FileTree.isFile? FileTree.unlessOverlong at hthere
  split at hthere
  · cases hthere
  · exact hthere.symm

/-- A link to another file is reported when the file is a text without the anchor. -/
theorem mem_issues_iff_of_file (l : SectionLink text file anchor) (hfile : file ≠ []) (hrule : .deadAnchors ∈ rules)
    (hrun : lintText rules fix s text = .ok outcome) :
    l.issue ∈ outcome.issues ↔ ∃ known, anchorsOfFile? s (resolve s file) = some known ∧
      normalizeAnchor anchor ∉ known := by
  rw [l.mem_issues_iff hrule hrun, anchorsAt?, if_neg hfile, l.exists_isFile? hfile hrule hrun]
  -- where there is no file there are no anchors either
  have hnone : s.tree.isFile s.cwd (resolve s file) = false → anchorsOfFile? s (resolve s file) = none := by
    intro hno
    unfold FileTree.isFile at hno
    rw [anchorsOfFile?, Option.not_isSome_iff_eq_none.mp (Bool.eq_false_iff.mp hno)]
  cases hthere : s.tree.isFile s.cwd (resolve s file) with
  | false => simp [Except.map, hnone hthere]
  | true => simp [Except.map]

end SectionLink

/-- The check of anchors comes to an end when the system refuses none of the files that links lead to. -/
theorem exists_deadAnchors {s : LintScope} {p : Prose}
    (h : ∀ q ∈ linksIn p, ∀ file anchor, cut '#' (strip q.2.target) = some (file, anchor) →
      s.tree.isOverlong s.cwd (resolve s file) = false) : ∃ found, deadAnchors s p = .ok found := by
  refine Outcome.exists_filterMapM_iff.mpr fun q hq => Outcome.exists_map_iff.mpr ?_
  cases hcut : cut '#' (strip q.2.target) with
  | none => exact ⟨none, anchorFault?_of_cut_eq_none hcut⟩
  | some parts =>
    obtain ⟨file, anchor⟩ := parts
    rw [anchorFault?_eq hcut]
    split
    · exact ⟨none, rfl⟩
    · refine Outcome.exists_map_iff.mpr ?_
      unfold anchorsAt?
      split
      · exact ⟨_, rfl⟩
      · unfold FileTree.isFile? FileTree.unlessOverlong
        rw [if_neg (by simp [h q hq file anchor hcut])]
        exact ⟨_, rfl⟩

/-! ## The anchors of a file -/

/-- The anchors of a file that is read with line feeds for carriage returns. -/
def translatedAnchors? (s : LintScope) (path : Path) : Option (List Text) :=
  ((s.tree.content? s.cwd path).bind Utf8.decode?).map fun text =>
    anchors (Prose.ofLines (lines (normalizeBreaks text)))

/-- Both ways to read a file give the same anchors. -/
theorem anchorsOfFile?_eq_translatedAnchors? (s : LintScope) (path : Path) :
    anchorsOfFile? s path = translatedAnchors? s path := by
  unfold anchorsOfFile? translatedAnchors?
  cases s.tree.content? s.cwd path with
  | none => rfl
  | some content => simp only [Option.bind_some, lines_normalizeBreaks]

theorem anchors_append_cons {before behind : Prose} {line line' : Text} (h : lineAnchors line' = lineAnchors line) :
    anchors (before ++ some line' :: behind) = anchors (before ++ some line :: behind) := by
  simp only [anchors, Prose.numbered, Prose.numberedFrom_append, Prose.numberedFrom, List.flatMap_append,
    List.flatMap_cons, h]

theorem lineAnchors_of_not_heading {line : Text} (h : Heading.ofLine? line = none) :
    lineAnchors line = (htmlIds line).map normalizeAnchor := by
  rw [lineAnchors, h]
  rfl

/-- Without a tag there is no anchor in one. -/
theorem htmlIds_eq_nil : ∀ {line : Text}, '<' ∉ line → htmlIds line = []
  | [], _ => scan_nil anchorTagAt?
  | c :: r, h => by
    obtain ⟨hc, hr⟩ := List.ne_and_not_mem_of_not_mem_cons h
    have hnone : anchorTagAt? (c :: r) = none := by
      unfold anchorTagAt?
      split
      · next heq => exact absurd (List.cons.inj heq).1.symm hc
      · rfl
    rw [htmlIds, scan_cons, hnone]
    exact htmlIds_eq_nil hr

/-- A text, and what it becomes with another line in the place of a line of prose. Neither of the two lines is a
heading, and the tags in both define the same anchors. -/
inductive Relined (text : Text) : Text → Prop
  | same : Relined text text
  | line {text' : Text} {front back : List Text} {line line' : Text} :
      lines text = front ++ line :: back → lines text' = front ++ line' :: back →
      (proseMask (front ++ line :: back))[front.length]? = some false →
      (proseMask (front ++ line' :: back))[front.length]? = some false →
      Heading.ofLine? line = none → Heading.ofLine? line' = none → htmlIds line' = htmlIds line →
      Relined text text'

/-- **The anchors stay.** -/
theorem Relined.anchors_eq {text text' : Text} (h : Relined text text') :
    anchors (Prose.ofLines (lines text')) = anchors (Prose.ofLines (lines text)) := by
  cases h with
  | same => rfl
  | line hlines hlines' hprose hprose' hplain hplain' hids =>
    obtain ⟨before, behind, hsplit, hsplit'⟩ := Prose.exists_ofLines_append_cons hprose hprose'
    rw [hlines, hlines', hsplit, hsplit']
    refine anchors_append_cons ?_
    rw [lineAnchors_of_not_heading hplain, lineAnchors_of_not_heading hplain', hids]

end Lint

/-! ## A section from elsewhere and in its own file -/

open Lint

/--
**A section is missed from elsewhere when it is missed in its own file.**

The anchors of a file are the same when it is read with line feeds for carriage returns. The check comes to an end
unless the system refuses to follow a link. It reports a link to a section of another file, whatever other links
there are, when the file is a text without the anchor, that is, when a link to the section in this text itself is
reported: a link that is there, or one in a line that was written anew for it. When there is nothing, a directory or
no text, the link is not reported.
-/
theorem Linter.run_sectionLink {rules : List LintRule} (hrule : .deadAnchors ∈ rules) (fix : Bool) (s : LintScope)
    {text file anchor : Text} (hfile : file ≠ []) (l : SectionLink text file anchor) :
    (∀ path, anchorsOfFile? s path = translatedAnchors? s path) ∧
    ((∀ q ∈ linksIn (Prose.ofLines (lines text)), ∀ file' anchor',
        cut '#' (strip q.2.target) = some (file', anchor') →
        s.tree.isOverlong s.cwd (resolve s file') = false) →
      ∃ outcome, Linter.run [.deadAnchors] fix s text = .ok outcome) ∧
    ∀ outcome, Linter.run rules fix s text = .ok outcome →
      (∀ content own, s.tree.content? s.cwd (resolve s file) = some content → Utf8.decode? content = some own →
        (l.issue ∈ outcome.issues ↔ normalizeAnchor anchor ∉ anchors (Prose.ofLines (lines own))) ∧
        ∀ own', Relined own own' → ∀ (l' : SectionLink own' [] anchor) (rules' : List LintRule) (fix' : Bool)
          (s' : LintScope) (outcome' : LintOutcome), .deadAnchors ∈ rules' →
            Linter.run rules' fix' s' own' = .ok outcome' →
            (l.issue ∈ outcome.issues ↔ l'.issue ∈ outcome'.issues)) ∧
      (s.tree.has s.cwd (resolve s file) = false ∨ s.tree.isDir s.cwd (resolve s file) = true ∨
          (∃ content, s.tree.content? s.cwd (resolve s file) = some content ∧ Utf8.decode? content = none) →
        l.issue ∉ outcome.issues) := by
  refine ⟨anchorsOfFile?_eq_translatedAnchors? s, fun hfollowed => ?_, fun outcome hrun => ?_⟩
  · obtain ⟨found, hfound⟩ := exists_deadAnchors hfollowed
    exact ⟨_, (run_eq _ fix s text).trans (lintText_single (by decide) hfound)⟩
  rw [run_eq] at hrun
  have hreported := l.mem_issues_iff_of_file hfile hrule hrun
  constructor
  · intro content own hcontent hown
    have hknown : anchorsOfFile? s (resolve s file) = some (anchors (Prose.ofLines (lines own))) := by
      rw [anchorsOfFile?, hcontent]
      simp only [hown, Option.map_some]
    have hmissed : l.issue ∈ outcome.issues ↔ normalizeAnchor anchor ∉ anchors (Prose.ofLines (lines own)) := by
      rw [hreported, hknown]
      simp only [Option.some.injEq, exists_eq_left']
    refine ⟨hmissed, fun own' hlines l' rules' fix' s' outcome' hrule' hrun' => ?_⟩
    rw [run_eq] at hrun'
    rw [hmissed, l'.mem_issues_iff hrule' hrun', hlines.anchors_eq, anchorsAt?, if_pos rfl]
    simp only [Except.ok.injEq, Option.some.injEq, exists_eq_left']
  · intro hnothing
    have hunknown : anchorsOfFile? s (resolve s file) = none := by
      rw [anchorsOfFile?]
      rcases hnothing with hnone | hdir | ⟨content, hcontent, hbytes⟩
      · have hget : s.tree.get? s.cwd (resolve s file) = none := by simpa [FileTree.has] using hnone
        simp only [FileTree.content?, hget]
      · have hget : s.tree.get? s.cwd (resolve s file) = some .dir := by simpa [FileTree.isDir] using hdir
        simp only [FileTree.content?, hget]
      · simp only [hcontent, hbytes, Option.map_none]
    rw [hreported, hunknown]
    rintro ⟨known, hknown, -⟩
    cases hknown

/-- A text with links into another one in its directory. -/
def shelfText : Text := "[a](other.md#real) [b](other.md#gone)\n".toList

/-- The other text, whose lines have different terminators. -/
def otherText : Text := "# Real\r\nSee below.\r".toList

/-- The same with a link of its own. -/
def otherText' : Text := "# Real\r\nSee [b](#gone).\r".toList

/-- The two texts in one directory. -/
def shelfScope : LintScope where
  tree := { entries := [(["guide.md".toList], .file (Utf8.encode shelfText)),
    (["other.md".toList], .file (Utf8.encode otherText))] }
  cwd := Path.ofText "/".toList
  projectRoot := Path.ofText "/".toList
  path := Path.ofText "guide.md".toList

theorem linksIn_shelfText : linksIn (Prose.ofLines (lines shelfText)) =
    [(1, ⟨['a'], "other.md#real".toList⟩), (1, ⟨['b'], "other.md#gone".toList⟩)] := by cbv

theorem linksIn_otherText' : linksIn (Prose.ofLines (lines otherText')) =
    [(2, ⟨['b'], "#gone".toList⟩)] := by cbv

/-- The second link, to a section that is not there. -/
def toGone : SectionLink shelfText "other.md".toList "gone".toList where
  number := 1
  link := ⟨['b'], "other.md#gone".toList⟩
  mem := by
    rw [linksIn_shelfText]
    exact List.mem_cons_of_mem _ List.mem_cons_self
  target := by decide
  scheme := by decide
  anchor_ne := by decide

/-- A link to the same section in its own file. -/
def ownGone : SectionLink otherText' [] "gone".toList where
  number := 2
  link := ⟨['b'], "#gone".toList⟩
  mem := by
    rw [linksIn_otherText']
    exact List.mem_cons_self
  target := by decide
  scheme := by decide
  anchor_ne := by decide

/-- The link of its own stands in a line of prose, and makes no anchor. -/
theorem relined_otherText : Relined otherText otherText' := by
  have hlines : lines otherText = ["# Real".toList] ++ "See below.".toList :: [] := by decide
  have hlines' : lines otherText' = ["# Real".toList] ++ "See [b](#gone).".toList :: [] := by decide
  refine .line hlines hlines' (by decide) (by decide) (by decide) (by decide) ?_
  rw [htmlIds_eq_nil (by decide), htmlIds_eq_nil (by decide)]

/-- The section is missed in both texts. -/
theorem Linter.run_sectionLink_gone : LintRule.deadAnchors ∈ [LintRule.deadAnchors] ∧ "other.md".toList ≠ [] ∧
    (∃ outcome, Linter.run [.deadAnchors] false shelfScope shelfText = .ok outcome ∧
      toGone.issue ∈ outcome.issues) ∧
    ∃ outcome', Linter.run [.deadAnchors] false shelfScope otherText' = .ok outcome' ∧
      ownGone.issue ∈ outcome'.issues := by
  have hrule : LintRule.deadAnchors ∈ [LintRule.deadAnchors] := List.mem_cons_self
  have hfile : "other.md".toList ≠ [] := by decide
  obtain ⟨-, hends, hlaw⟩ := Linter.run_sectionLink hrule false shelfScope hfile toGone
  have hfollowed : ∀ q ∈ linksIn (Prose.ofLines (lines shelfText)), ∀ parts ∈ cut '#' (strip q.2.target),
      shelfScope.tree.isOverlong shelfScope.cwd (resolve shelfScope parts.1) = false := by
    rw [linksIn_shelfText]
    decide
  have hfollowed' : ∀ q ∈ linksIn (Prose.ofLines (lines otherText')), ∀ parts ∈ cut '#' (strip q.2.target),
      shelfScope.tree.isOverlong shelfScope.cwd (resolve shelfScope parts.1) = false := by
    rw [linksIn_otherText']
    decide
  obtain ⟨outcome, hrun⟩ := hends fun q hq file anchor hcut => hfollowed q hq (file, anchor) hcut
  obtain ⟨found', hfound'⟩ := exists_deadAnchors fun q hq file anchor hcut => hfollowed' q hq (file, anchor) hcut
  have hrun' : Linter.run [.deadAnchors] false shelfScope otherText' = .ok _ :=
    (run_eq _ false shelfScope otherText').trans (lintText_single (r := .deadAnchors) (by decide) hfound')
  obtain ⟨hmissed, hown⟩ := (hlaw outcome hrun).1 (Utf8.encode otherText) otherText rfl
    (Utf8.decode?_encode otherText)
  have hgone : normalizeAnchor "gone".toList ∉ anchors (Prose.ofLines (lines otherText)) := by
    have hanchors : anchors (Prose.ofLines (lines otherText)) = ["real".toList] := by cbv
    rw [hanchors]
    decide
  have hissue := hmissed.mpr hgone
  exact ⟨hrule, hfile, ⟨outcome, hrun, hissue⟩, _, hrun',
    (hown _ relined_otherText ownGone _ _ _ _ hrule hrun').mp hissue⟩

end DocAudit
