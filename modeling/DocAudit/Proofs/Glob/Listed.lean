import DocAudit.Glob.Match
import DocAudit.Markdown.Document
import DocAudit.Proofs.Markdown.Opening
import DocAudit.Proofs.Text.Joined
import DocAudit.Proofs.Text.Lines
import DocAudit.Proofs.Validation.Requirements

/-!
# Listed patterns

The section that lists patterns is scanned by itself, and the scan knows nothing of the lines above the heading.
But a heading is never fenced. So the scan finds those lines fenced that are fenced in the text, up to the next
heading, and the patterns are those in the prose under the heading, with the numbers that the lines have in the
text.

## Contents

* `Lists`: the pattern in a bullet item
* `mem_bulletPatterns_iff`: the patterns of lines
* `Document.IsUnder`: the lines under the heading of a section
* `Section.mem_patterns_iff`: **the patterns of a section, by the lines of the text**
* `Document.patterns_listed`: **the patterns of a document are those in its prose**
-/

namespace DocAudit

open Text

/-! ## Bullet items -/

/-- The line is a bullet item with the pattern behind its bullet, once blanks, then backticks, and then blanks
again are taken off. -/
structure Lists (line pattern : Text) : Prop where
  bullet : ['-', ' '] <+: strip line ∨ ['*', ' '] <+: strip line
  pattern_eq : pattern = strip (trim (· == '`') (strip ((strip line).drop 2)))
  ne_nil : pattern ≠ []

theorem bulletPattern?_eq_some_iff {line pattern : Text} :
    bulletPattern? line = some pattern ↔ Lists line pattern := by
  have hbullet : startsWithAny [['-', ' '], ['*', ' ']] (strip line) = true ↔
      ['-', ' '] <+: strip line ∨ ['*', ' '] <+: strip line := by
    simp [startsWithAny]
  rw [bulletPattern?]
  simp only
  constructor
  · intro h
    split at h
    · next hstart =>
      split at h
      · cases h
      · next hne =>
        have hpattern := Option.some.inj h
        exact ⟨hbullet.mp hstart, hpattern.symm, fun hnil => hne (List.isEmpty_iff.mpr (hpattern.trans hnil))⟩
    · cases h
  · rintro ⟨hstart, hpattern, hne⟩
    rw [if_pos (hbullet.mpr hstart), ← hpattern, if_neg (fun hempty => hne (List.isEmpty_iff.mp hempty))]

/-- **The patterns of lines are those of the items among them that are not fenced.** -/
theorem mem_bulletPatterns_iff {fence : Option Fence} {n : Nat} {ls : List Text} {q : Nat × Text} :
    q ∈ bulletPatterns fence n ls ↔ ∃ i, q.1 = n + i ∧ (Fence.fenced fence ls)[i]? = some false ∧
      ∃ line, ls[i]? = some line ∧ Lists line q.2 := by
  induction ls generalizing fence n with
  | nil => simp [bulletPatterns]
  | cons line rest ih =>
    have hlater : (∃ i, q.1 = n + (i + 1) ∧ (Fence.fenced fence (line :: rest))[i + 1]? = some false ∧
        ∃ line', (line :: rest)[i + 1]? = some line' ∧ Lists line' q.2) ↔
          q ∈ bulletPatterns (Fence.step fence line).1 (n + 1) rest := by
      rw [ih]
      simp only [Nat.add_assoc, Nat.add_comm 1]
      rfl
    have hhere : (q.1 = n + 0 ∧ (Fence.fenced fence (line :: rest))[0]? = some false ∧
        ∃ line', (line :: rest)[0]? = some line' ∧ Lists line' q.2) ↔
          q.1 = n ∧ (if fence.isSome || (Fence.step fence line).2 then none else bulletPattern? line) =
            some q.2 := by
      cases hfenced : fence.isSome || (Fence.step fence line).2 with
      | true => simp [Fence.fenced, hfenced]
      | false => simp [Fence.fenced, hfenced, bulletPattern?_eq_some_iff]
    rw [← Nat.or_exists_add_one, hlater, hhere, bulletPatterns]
    simp only
    cases if fence.isSome || (Fence.step fence line).2 then none else bulletPattern? line with
    | none => simp
    | some pattern => simp [Prod.ext_iff, eq_comm]

/-! ## Lines under a heading -/

namespace Document

variable {d : Document} {path : Path} {text : Text} {s : Section} {n : Nat}

/-- The line of the number stands behind the heading of the section and before all later headings. -/
structure IsUnder (d : Document) (s : Section) (n : Nat) : Prop where
  behind : s.startLine < n
  le : n ≤ d.lineCount
  before : ∀ t ∈ d.sections, s.startLine < t.startLine → n < t.startLine

theorem lineCount_of_read (h : Document.read path text = .ok d) : d.lineCount = (lines text).length := by
  obtain ⟨record, -, rfl⟩ := read_ok_iff.mp h
  rfl

theorem pairwise_sections (h : Document.read path text = .ok d) :
    d.sections.Pairwise (·.startLine < ·.startLine) := by
  obtain ⟨record, hrecord, -⟩ := read_ok_iff.mp h
  rw [read_eq hrecord] at h
  cases h
  exact pairwise_sectionsAt _ _ (pairwise_placesOf _ _ _)

/-- The sections stand in the order of their headings. -/
theorem startLine_lt {i j : Nat} {t u : Section} (h : Document.read path text = .ok d) (hij : i < j)
    (ht : d.sections[i]? = some t) (hu : d.sections[j]? = some u) : t.startLine < u.startLine := by
  obtain ⟨hi, rfl⟩ := List.getElem?_eq_some_iff.mp ht
  obtain ⟨hj, rfl⟩ := List.getElem?_eq_some_iff.mp hu
  exact List.pairwise_iff_getElem.mp (pairwise_sections h) i j hi hj hij

theorem startLine_le {i j : Nat} {t u : Section} (h : Document.read path text = .ok d) (hij : i ≤ j)
    (ht : d.sections[i]? = some t) (hu : d.sections[j]? = some u) : t.startLine ≤ u.startLine := by
  rcases Nat.lt_or_eq_of_le hij with hlt | rfl
  · exact (startLine_lt h hlt ht hu).le
  · rw [ht, Option.some.injEq] at hu
    rw [hu]

/-- The heading of the next section comes first among the later ones. -/
theorem isUnder_iff {k : Nat} (h : Document.read path text = .ok d) (hs : d.sections[k]? = some s) :
    d.IsUnder s n ↔ s.startLine < n ∧ n ≤ d.stopAfter k := by
  constructor
  · rintro ⟨hbehind, hle, hbefore⟩
    refine ⟨hbehind, ?_⟩
    rw [stopAfter]
    cases hnext : d.sections[k + 1]? with
    | none => exact hle
    | some next =>
      have hlater := startLine_lt h (Nat.lt_succ_self k) hs hnext
      exact Nat.le_sub_one_of_lt (hbefore next (List.mem_of_getElem? hnext) hlater)
  · rintro ⟨hbehind, hle⟩
    refine ⟨hbehind, ?_, fun t ht hst => ?_⟩
    · rw [lineCount_of_read h]
      exact hle.trans (isIn_of_read h hs).stop_le
    · obtain ⟨m, hm⟩ := List.mem_iff_getElem?.mp ht
      have hkm : k < m :=
        Nat.lt_of_not_le fun hmk => Nat.not_lt.mpr (startLine_le h hmk hm hs) hst
      obtain ⟨next, hnext⟩ : ∃ next, d.sections[k + 1]? = some next := by
        have hlength := (List.getElem?_eq_some_iff.mp hm).1
        exact ⟨_, List.getElem?_eq_getElem (by omega)⟩
      have hsnext := startLine_lt h (Nat.lt_succ_self k) hs hnext
      have hnextt := startLine_le h hkm hnext hm
      rw [stopAfter, hnext, Option.map_some, Option.getD_some] at hle
      omega

/-- **A scan of the section reads the lines of the text, and finds those fenced that are no prose.** -/
theorem IsUnder.getElem? (h : Document.read path text = .ok d) (hs : s ∈ d.sections) (hn : d.IsUnder s n) :
    s.body[n - s.startLine - 1]? = (lines text)[n - 1]? ∧
      (Fence.fenced none s.body)[n - s.startLine - 1]? = (proseMask (lines text))[n - 1]? := by
  obtain ⟨k, hk⟩ := List.mem_iff_getElem?.mp hs
  obtain ⟨hbehind, hle⟩ := (isUnder_iff h hk).mp hn
  have hin := isIn_of_read h hk
  rw [show n - s.startLine - 1 = n - 1 - s.startLine by omega]
  exact ⟨hin.getElem?_body (by omega) (by omega), hin.getElem?_fenced (by omega) (by omega)⟩

/-- A line that the section has stands under its heading. -/
theorem isUnder_of_lt {i : Nat} (h : Document.read path text = .ok d) (hs : s ∈ d.sections)
    (hi : i < s.body.length) : d.IsUnder s (s.startLine + 1 + i) := by
  obtain ⟨k, hk⟩ := List.mem_iff_getElem?.mp hs
  rw [isUnder_iff h hk]
  rw [(isIn_of_read h hk).body_eq, List.length_drop, List.length_take] at hi
  omega

end Document

/-! ## Patterns of a section -/

namespace Section

/-- **The patterns of a section are those in the prose of the text under its heading.** -/
theorem mem_patterns_iff {path : Path} {text : Text} {d : Document} {s : Section} {q : Nat × Text}
    (h : Document.read path text = .ok d) (hs : s ∈ d.sections) :
    q ∈ s.patterns ↔ d.IsUnder s q.1 ∧ (proseMask (lines text))[q.1 - 1]? = some false ∧
      ∃ line, (lines text)[q.1 - 1]? = some line ∧ Lists line q.2 := by
  rw [patterns, mem_bulletPatterns_iff]
  constructor
  · rintro ⟨i, hq, hfenced, line, hline, hlists⟩
    have hunder : d.IsUnder s q.1 := by
      rw [hq]
      exact Document.isUnder_of_lt h hs (List.getElem?_eq_some_iff.mp hline).1
    obtain ⟨hsame, hmask⟩ := hunder.getElem? h hs
    rw [show q.1 - s.startLine - 1 = i by omega] at hsame hmask
    exact ⟨hunder, hmask.symm.trans hfenced, line, hsame.symm.trans hline, hlists⟩
  · rintro ⟨hunder, hmask, line, hline, hlists⟩
    obtain ⟨hsame, hfenced⟩ := hunder.getElem? h hs
    have hbehind := hunder.behind
    exact ⟨q.1 - s.startLine - 1, by omega, hfenced.trans hmask, line, hsame.trans hline, hlists⟩

/-- The lines of a section in one text, cut at the line feeds, are the lines again. -/
theorem patterns_eq_splitAt {path : Path} {text : Text} {d : Document} {s : Section}
    (h : Document.read path text = .ok d) (hs : s ∈ d.sections) :
    s.patterns = bulletPatterns none (s.startLine + 1) (splitAt '\n' s.content) := by
  obtain ⟨k, hk⟩ := List.mem_iff_getElem?.mp hs
  have hbody := (Document.isIn_of_read h hk).body_eq
  have hfeed : ∀ line ∈ s.body, '\n' ∉ line := by
    intro line hline hmem
    rw [hbody] at hline
    have hbreak := isUnbroken_of_mem_lines (List.mem_of_mem_take (List.mem_of_mem_drop hline)) '\n' hmem
    exact absurd hbreak (by decide)
  by_cases hempty : s.body = []
  · rw [patterns, content, hempty]
    rfl
  · rw [patterns, content, splitAt_joinWith hempty hfeed]

end Section

namespace Document

/--
**The patterns of a document are those in its prose under the heading for them.**

Only the first section of the name counts. The text of a section is scanned without the lines above it, and
yet a line of it is fenced in this scan when it is no prose in the text. So a pattern has the number of a line
of the text, and the numbers increase.
-/
theorem patterns_listed {path : Path} {text : Text} {d : Document} (h : Document.read path text = .ok d) :
    d.patterns.Pairwise (fun q r => q.1 < r.1) ∧
    (∀ n pattern, (n, pattern) ∈ d.patterns ↔ ∃ s line, d.IsFirst pathsSection s ∧ d.IsUnder s n ∧
      (proseMask (lines text))[n - 1]? = some false ∧ (lines text)[n - 1]? = some line ∧
      Lists line pattern) ∧
    -- the scan of a section by itself
    ∀ s ∈ d.sections, s.patterns = bulletPatterns none (s.startLine + 1) (splitAt '\n' s.content) ∧
      ∀ n, d.IsUnder s n → s.body[n - s.startLine - 1]? = (lines text)[n - 1]? ∧
        (Fence.fenced none s.body)[n - s.startLine - 1]? = (proseMask (lines text))[n - 1]? := by
  refine ⟨d.pairwise_patterns, fun n pattern => ?_, fun s hs => ⟨Section.patterns_eq_splitAt h hs,
    fun n hn => hn.getElem? h hs⟩⟩
  rw [patterns]
  cases hfirst : d.find? pathsSection with
  | none =>
    refine iff_of_false List.not_mem_nil ?_
    rintro ⟨s, line, hs, -⟩
    rw [find?_eq_some_iff.mpr hs] at hfirst
    cases hfirst
  | some s =>
    rw [Section.mem_patterns_iff h (List.mem_of_find?_eq_some hfirst)]
    constructor
    · rintro ⟨hunder, hmask, line, hline, hlists⟩
      exact ⟨s, line, find?_eq_some_iff.mp hfirst, hunder, hmask, hline, hlists⟩
    · rintro ⟨s', line, hs', hunder, hmask, hline, hlists⟩
      rw [find?_eq_some_iff.mpr hs', Option.some.injEq] at hfirst
      subst hfirst
      exact ⟨hunder, hmask, line, hline, hlists⟩

/-- A fenced item, and a second section of the name. -/
def fencedListing : Text := "# Use\n## Paths\n- `a/*`\n~~~\n- b\n~~~\n* c\n## paths\n- d".toList

theorem patterns_listed_fenced : ∃ d, Document.read (Path.ofText "use.md".toList) fencedListing = .ok d ∧
    (3, "a/*".toList) ∈ d.patterns ∧ (∀ pattern, (5, pattern) ∉ d.patterns) ∧
    ∀ pattern, (9, pattern) ∉ d.patterns := by
  have hread : Document.read (Path.ofText "use.md".toList) fencedListing = .ok
      { path := Path.ofText "use.md".toList, title := some "Use".toList,
        sections := [⟨"Paths".toList, 2, ["- `a/*`".toList, "~~~".toList, "- b".toList, "~~~".toList,
          "* c".toList]⟩, ⟨"paths".toList, 8, ["- d".toList]⟩],
        lineCount := 9, frontmatter := none } := rfl
  have hlines : lines fencedListing = ["# Use".toList, "## Paths".toList, "- `a/*`".toList, "~~~".toList,
      "- b".toList, "~~~".toList, "* c".toList, "## paths".toList, "- d".toList] := by decide
  have hmask : proseMask (lines fencedListing) =
      [false, false, false, true, true, true, false, false, false] := by
    rw [hlines]
    rfl
  obtain ⟨-, hmem, -⟩ := patterns_listed hread
  refine ⟨_, hread, (hmem _ _).mpr ⟨_, "- `a/*`".toList, find?_eq_some_iff.mp rfl, ?_, ?_, ?_, ?_⟩, ?_, ?_⟩
  · exact ⟨by decide, by decide, by decide⟩
  · rw [hmask]
    rfl
  · rw [hlines]
    rfl
  · exact ⟨by decide, by decide, by decide⟩
  · intro pattern h
    obtain ⟨s, line, -, -, hprose, -⟩ := (hmem _ _).mp h
    rw [hmask] at hprose
    cases hprose
  · intro pattern h
    obtain ⟨s, line, hs, hunder, -⟩ := (hmem _ _).mp h
    -- the first section ends before the second one
    rw [← find?_eq_some_iff] at hs
    cases hs
    exact absurd (hunder.before _ (List.mem_cons_of_mem _ List.mem_cons_self) (by decide)) (by decide)

end Document

end DocAudit
