import DocAudit.Glob.Match
import DocAudit.Markdown.Document
import DocAudit.Proofs.Lint.Mended
import DocAudit.Proofs.Markdown.Scan
import DocAudit.Verification.Spec

/-!
# Mended texts are read alike

What is read of a line outside of fences depends on its trimmed text only, and a blank line there says
nothing. So the document of a mended text has the same title, sections, blocks and patterns as before,
though they may stand at other places.

## Contents

* `Mended.cases_fenced`: one line of mended lines
* `Mended.firstTitle?_eq`, `Mended.bulletPatterns_eq`, `Mended.scan_eq`, `Mended.outline_eq`: the scans
* `Section.gist`, `CodeBlock.unplaced`: what a section and a block say, wherever they stand
* `Document.read_mended`: **mending a text changes nothing of its document but places**
-/

namespace DocAudit

open Text

/-! ## What is read of a line -/

section Line

variable {line line' : Text}

theorem Fence.opening?_congr (h : strip line' = strip line) : opening? line' = opening? line := by
  unfold opening? run?
  rw [h]

theorem isBlankText_congr (h : strip line' = strip line) : isBlankText line' = isBlankText line := by
  rw [Bool.eq_iff_iff, ← strip_eq_nil_iff, ← strip_eq_nil_iff, h]

theorem Annotations.afterLine_congr (h : strip line' = strip line) (a : Annotations) :
    a.afterLine line' = a.afterLine line := by
  have hdirective : Directive.ofLine? line' = Directive.ofLine? line := by
    unfold Directive.ofLine? Directive.split?
    rw [h]
  rw [afterLine, afterLine, hdirective, isBlankText_congr h]

theorem isHeading_congr (h : strip line' = strip line) : isHeading line' = isHeading line := by
  rw [isHeading, isHeading, h]

theorem isTitle_congr (h : strip line' = strip line) : isTitle line' = isTitle line := by
  rw [isTitle, isTitle, h]

theorem bulletPattern?_congr (h : strip line' = strip line) :
    bulletPattern? line' = bulletPattern? line := by
  rw [bulletPattern?, bulletPattern?, h]

/-- A blank line keeps the directives before it. -/
theorem Annotations.afterLine_of_blank (h : isBlankText line = true) (a : Annotations) :
    a.afterLine line = a := by
  have hdirective : Directive.ofLine? line = Option.none := by
    rw [Directive.ofLine?, Directive.split?, strip_eq_nil_iff.mpr h]
    rfl
  rw [afterLine, hdirective, h, if_pos rfl]

theorem isHeading_of_blank (h : isBlankText line = true) : isHeading line = false := by
  rw [isHeading, strip_eq_nil_iff.mpr h]
  rfl

theorem isTitle_of_blank (h : isBlankText line = true) : isTitle line = false := by
  rw [isTitle, strip_eq_nil_iff.mpr h]
  rfl

theorem bulletPattern?_of_blank (h : isBlankText line = true) : bulletPattern? line = none := by
  rw [bulletPattern?, strip_eq_nil_iff.mpr h]
  rfl

end Line

/-! ## The scans -/

/-- What a block says, wherever it stands. -/
def RawBlock.unplaced (b : RawBlock) : RawBlock := { b with startLine := 0 }

/-- What a block says, wherever it stands. -/
def CodeBlock.unplaced (b : CodeBlock) : CodeBlock := { b with startLine := 0 }

namespace Mended

variable {fence : Option Fence} {line : Text} {ls ls' rest : List Text}

/-- **A line is the same, or it stands outside of fences and keeps its trimmed text, or it was blank and
is gone.** -/
theorem cases_fenced (h : Mended (Fence.fenced fence (line :: rest)) (line :: rest) ls') :
    (∃ rest', ls' = line :: rest' ∧
      Mended (Fence.fenced (Fence.step fence line).1 rest) rest rest') ∨
    (fence = none ∧ Fence.opening? line = none ∧
      ((∃ line' rest', ls' = line' :: rest' ∧ strip line' = strip line ∧
          Mended (Fence.fenced none rest) rest rest') ∨
        (isBlankText line = true ∧ Mended (Fence.fenced none rest) rest ls'))) := by
  rw [Fence.fenced_cons] at h
  cases hmasked : fence.isSome || (Fence.step fence line).2 with
  | true =>
    rw [hmasked] at h
    cases h with
    | masked h => exact Or.inl ⟨_, rfl, h⟩
  | false =>
    obtain ⟨rfl, hopens⟩ := Fence.fenced_eq_false_iff.mp hmasked
    rw [hmasked, Fence.step_outside hopens] at h
    refine Or.inr ⟨rfl, hopens, ?_⟩
    cases h with
    | trimmed hline h => exact Or.inl ⟨_, _, rfl, hline, h⟩
    | vanished hblank h => exact Or.inr ⟨hblank, h⟩

theorem firstTitle?_eq (h : Mended (Fence.fenced fence ls) ls ls') :
    Document.firstTitle? fence ls' = Document.firstTitle? fence ls := by
  induction ls generalizing fence ls' with
  | nil =>
    cases h
    rfl
  | cons line rest ih =>
    rcases cases_fenced h with
      ⟨rest', rfl, hrest⟩ | ⟨rfl, hopens, ⟨line', rest', rfl, hline, hrest⟩ | ⟨hblank, hrest⟩⟩
    · rw [Document.firstTitle?_cons, Document.firstTitle?_cons, ih hrest]
    · rw [Document.firstTitle?_cons, Document.firstTitle?_cons, isTitle_congr hline, hline,
        Fence.step_outside hopens, Fence.step_outside ((Fence.opening?_congr hline).trans hopens),
        ih hrest]
    · rw [Document.firstTitle?_cons, isTitle_of_blank hblank, Bool.and_false,
        if_neg Bool.false_ne_true, Fence.step_outside hopens, ih hrest]

theorem map_snd_bulletPatterns_cons (fence : Option Fence) (n : Nat) (line : Text)
    (rest : List Text) :
    (bulletPatterns fence n (line :: rest)).map (·.2) =
      (if fence.isSome || (Fence.step fence line).2 then none else bulletPattern? line).toList ++
        (bulletPatterns (Fence.step fence line).1 (n + 1) rest).map (·.2) := by
  rw [bulletPatterns]
  cases Fence.step fence line with
  | mk next isFence =>
    dsimp only
    cases if fence.isSome || isFence then none else bulletPattern? line with
    | none => rfl
    | some pattern => rfl

theorem bulletPatterns_eq (h : Mended (Fence.fenced fence ls) ls ls') (n m : Nat) :
    (bulletPatterns fence m ls').map (·.2) = (bulletPatterns fence n ls).map (·.2) := by
  induction ls generalizing fence ls' n m with
  | nil =>
    cases h
    rfl
  | cons line rest ih =>
    rcases cases_fenced h with
      ⟨rest', rfl, hrest⟩ | ⟨rfl, hopens, ⟨line', rest', rfl, hline, hrest⟩ | ⟨hblank, hrest⟩⟩
    · rw [map_snd_bulletPatterns_cons, map_snd_bulletPatterns_cons, ih hrest]
    · rw [map_snd_bulletPatterns_cons, map_snd_bulletPatterns_cons, bulletPattern?_congr hline,
        Fence.step_outside hopens, Fence.step_outside ((Fence.opening?_congr hline).trans hopens),
        ih hrest]
    · rw [map_snd_bulletPatterns_cons, bulletPattern?_of_blank hblank, ite_self,
        Fence.step_outside hopens, ← ih hrest (n + 1) m]
      rfl

/-- Blocks have the same lines and the same directives as before. -/
theorem scan_eq (h : Mended (Fence.fenced fence ls) ls ls') (pending : Annotations) (n m : Nat) :
    (RawBlock.scan fence pending m ls').1 = (RawBlock.scan fence pending n ls).1 ∧
      (RawBlock.scan fence pending m ls').2.map RawBlock.unplaced =
        (RawBlock.scan fence pending n ls).2.map RawBlock.unplaced := by
  induction ls generalizing fence ls' pending n m with
  | nil =>
    cases h
    exact ⟨rfl, rfl⟩
  | cons line rest ih =>
    rcases cases_fenced h with
      ⟨rest', rfl, hrest⟩ | ⟨rfl, hopens, ⟨line', rest', rfl, hline, hrest⟩ | ⟨hblank, hrest⟩⟩
    · rcases Fence.line_cases fence line with
        ⟨f, rfl, hf⟩ | ⟨f, rfl, hf⟩ | ⟨f, rfl, hf⟩ | ⟨rfl, hf⟩
      · rw [Fence.step_inside hf] at hrest
        obtain ⟨hbody, hblocks⟩ := ih hrest pending (n + 1) (m + 1)
        rw [RawBlock.scan_inside _ _ _ hf, RawBlock.scan_inside _ _ _ hf]
        exact ⟨congrArg (line :: ·) hbody, hblocks⟩
      · rw [Fence.step_closing hf] at hrest
        rw [RawBlock.scan_closing _ _ _ hf, RawBlock.scan_closing _ _ _ hf]
        exact ⟨rfl, (ih hrest Annotations.none (n + 1) (m + 1)).2⟩
      · rw [Fence.step_opening hf] at hrest
        obtain ⟨hbody, hblocks⟩ := ih hrest Annotations.none (n + 1) (m + 1)
        rw [RawBlock.scan_opening _ _ _ hf, RawBlock.scan_opening _ _ _ hf, List.map_cons,
          List.map_cons, hbody, hblocks]
        exact ⟨rfl, rfl⟩
      · rw [Fence.step_outside hf] at hrest
        rw [RawBlock.scan_outside _ _ _ hf, RawBlock.scan_outside _ _ _ hf]
        exact ⟨rfl, (ih hrest (pending.afterLine line) (n + 1) (m + 1)).2⟩
    · rw [RawBlock.scan_outside _ _ _ hopens,
        RawBlock.scan_outside _ _ _ ((Fence.opening?_congr hline).trans hopens),
        Annotations.afterLine_congr hline]
      exact ⟨rfl, (ih hrest (pending.afterLine line) (n + 1) (m + 1)).2⟩
    · rw [RawBlock.scan_outside _ _ _ hopens, RawBlock.fst_scan_none,
        Annotations.afterLine_of_blank hblank]
      exact ⟨rfl, (ih hrest pending (n + 1) m).2⟩

end Mended

/-! ## Sections -/

namespace CodeBlock

/-- Where blocks stand is of no account when they are put together. -/
theorem attach_unplaced (raws : List RawBlock) :
    attach (raws.map RawBlock.unplaced) = (attach raws).map unplaced :=
  attach_moved (fun _ => 0) raws

end CodeBlock

/-- What a section says, wherever it stands: its name, its blocks, and the patterns of its items. -/
def Section.gist (s : Section) : Text × List CodeBlock × List Text :=
  (s.name, s.blocks.map CodeBlock.unplaced, s.patterns.map (·.2))

namespace Mended

/-- A section with mended lines says the same. -/
theorem gist_eq {body body' : List Text} (h : Mended (Fence.fenced none body) body body')
    (name : Text) (n m : Nat) :
    Section.gist { name, startLine := m, body := body' } =
      Section.gist { name, startLine := n, body } := by
  have hblocks := (h.scan_eq Annotations.none (n + 1) (m + 1)).2
  have hpatterns := h.bulletPatterns_eq (n + 1) (m + 1)
  simp only [Section.gist, Section.blocks, Section.patterns, ← CodeBlock.attach_unplaced, hblocks,
    hpatterns]

/-- The lines before the first heading are mended lines, and the sections say the same. -/
theorem outline_eq {fence : Option Fence} {ls ls' : List Text}
    (h : Mended (Fence.fenced fence ls) ls ls') (n m : Nat) :
    Mended (Fence.fenced fence (Document.outline fence n ls).1) (Document.outline fence n ls).1
        (Document.outline fence m ls').1 ∧
      (Document.outline fence m ls').2.map Section.gist =
        (Document.outline fence n ls).2.map Section.gist := by
  induction ls generalizing fence ls' n m with
  | nil =>
    cases h
    exact ⟨.nil, rfl⟩
  | cons line rest ih =>
    rcases cases_fenced h with
      ⟨rest', rfl, hrest⟩ | ⟨rfl, hopens, ⟨line', rest', rfl, hline, hrest⟩ | ⟨hblank, hrest⟩⟩
    · obtain ⟨hbefore, hsections⟩ := ih hrest (n + 1) (m + 1)
      rw [Document.outline_cons, Document.outline_cons]
      split
      · next hheading =>
        obtain ⟨hunfenced, -⟩ := Bool.and_eq_true_iff.mp hheading
        rw [Bool.not_eq_true'] at hunfenced
        obtain ⟨rfl, hopens⟩ := Fence.fenced_eq_false_iff.mp hunfenced
        rw [Fence.step_outside hopens] at hbefore hsections ⊢
        refine ⟨.nil, ?_⟩
        rw [List.map_cons, List.map_cons, gist_eq hbefore, hsections]
      · exact ⟨same _ line hbefore, hsections⟩
    · obtain ⟨hbefore, hsections⟩ := ih hrest (n + 1) (m + 1)
      have hopens' := (Fence.opening?_congr hline).trans hopens
      rw [Document.outline_cons, Document.outline_cons, Fence.step_outside hopens,
        Fence.step_outside hopens', isHeading_congr hline, hline]
      split
      · refine ⟨.nil, ?_⟩
        rw [List.map_cons, List.map_cons, gist_eq hbefore, hsections]
      · rw [Fence.fenced, Fence.step_outside hopens]
        exact ⟨.trimmed hline hbefore, hsections⟩
    · obtain ⟨hbefore, hsections⟩ := ih hrest (n + 1) m
      rw [Document.outline_cons, isHeading_of_blank hblank, Bool.and_false,
        if_neg Bool.false_ne_true, Fence.step_outside hopens, Fence.fenced,
        Fence.step_outside hopens]
      exact ⟨.vanished hblank hbefore, hsections⟩

end Mended

/-- What a block stands for does not depend on its place. -/
theorem Section.filterMap_executableBlocks (s : Section) (d : Document) (timeout : Int) :
    s.executableBlocks.filterMap (Item.ofBlock? d timeout) =
      ((s.blocks.map CodeBlock.unplaced).filter (·.executable)).filterMap
        (Item.ofBlock? d timeout) := by
  rw [List.filter_map, List.filterMap_map]
  rfl

/-! ## Documents -/

/-- The frontmatter of a mended text has the same lines, and the body behind it is mended. -/
theorem Mended.split_eq {ls ls' : List Text} (h : Mended (proseMask ls) ls ls') :
    Frontmatter.split ls' = Frontmatter.split ls ∧
      Mended (Fence.fenced none (ls.drop (Frontmatter.split ls).2))
        (ls.drop (Frontmatter.split ls).2) (ls'.drop (Frontmatter.split ls).2) := by
  obtain ⟨head, tail, tail', rfl, rfl, hlength, hbody⟩ := masked_append h
  have hdrop : (head ++ tail).drop (Frontmatter.split (head ++ tail)).2 = tail := by
    rw [← hlength, List.drop_left]
  have hdrop' : (head ++ tail').drop (Frontmatter.split (head ++ tail)).2 = tail' := by
    rw [← hlength, List.drop_left]
  rw [hdrop] at hbody
  rw [hdrop, hdrop']
  refine ⟨?_, hbody⟩
  cases hsplit : Frontmatter.split (head ++ tail) with
  | mk inner start =>
    rw [hsplit] at hlength
    cases inner with
    | some inner =>
      obtain rfl : head.length = start := hlength
      have htake := Frontmatter.split_take hsplit
      rw [List.take_left] at htake
      exact Frontmatter.split_append htake tail'
    | none =>
      have hstart : Frontmatter.split (head ++ tail) = (none, 0) :=
        Frontmatter.split_eq_none (by rw [hsplit])
      rw [hsplit] at hstart
      rw [hstart]
      refine Frontmatter.split_eq_none (Option.not_isSome_iff_eq_none.mp ?_)
      rw [Frontmatter.isSome_split_iff, h.visible_eq, ← Frontmatter.isSome_split_iff, hsplit]
      simp

namespace Document

/-- **Mended lines make the same document, up to places.** -/
theorem read_mended {path : Path} {text text' : Text} {d : Document}
    (h : Mended (proseMask (lines text)) (lines text) (lines text'))
    (hread : Document.read path text = .ok d) :
    ∃ d', Document.read path text' = .ok d' ∧ d'.title = d.title ∧
      d'.frontmatter = d.frontmatter ∧ d'.sections.map Section.gist = d.sections.map Section.gist := by
  obtain ⟨record, hrecord, rfl⟩ := read_ok_iff.mp hread
  obtain ⟨hsplit, hbody⟩ := h.split_eq
  refine ⟨_, read_ok_iff.mpr ⟨record, ?_, rfl⟩, ?_, rfl, ?_⟩
  · rw [hsplit]
    exact hrecord
  · rw [hsplit]
    exact hbody.firstTitle?_eq
  · rw [hsplit]
    exact (hbody.outline_eq _ _).2

section Gist

variable {d d' : Document} (h : d'.sections.map Section.gist = d.sections.map Section.gist)

include h

/-- The sections that are found by their name say the same. -/
theorem find?_gist (name : Text) : (d'.find? name).map Section.gist = (d.find? name).map Section.gist := by
  have hfind : ∀ sections : List Section,
      (sections.find? fun s => fold s.name == fold name).map Section.gist =
        (sections.map Section.gist).find? fun g => fold g.1 == fold name := fun sections => by
    rw [List.find?_map]
    rfl
  rw [find?, find?, hfind, hfind, h]

/-- The patterns are the same. -/
theorem patterns_of_gist : d'.patterns.map (·.2) = d.patterns.map (·.2) := by
  have hfind := find?_gist h pathsSection
  rw [patterns, patterns]
  cases hs : d.find? pathsSection with
  | none =>
    rw [hs, Option.map_none, Option.map_eq_none_iff] at hfind
    rw [hfind]
  | some s =>
    rw [hs, Option.map_some, Option.map_eq_some_iff] at hfind
    obtain ⟨s', hs', hgist⟩ := hfind
    rw [hs']
    exact congrArg (·.2.2) hgist

/-- The items are the same, when the frontmatter names the same directory. -/
theorem items_of_gist (hrecord : d'.frontmatter = d.frontmatter) (timeout : Int) :
    (d'.spec? timeout).map (·.items) = (d.spec? timeout).map (·.items) := by
  have hitem : Item.ofBlock? d' timeout = Item.ofBlock? d timeout := by
    funext b
    rw [Item.ofBlock?, Item.ofBlock?, workingDir, workingDir, hrecord]
  have hfind := find?_gist h verificationSection
  rw [spec?, spec?, hitem]
  cases hs : d.find? verificationSection with
  | none =>
    rw [hs, Option.map_none, Option.map_eq_none_iff] at hfind
    rw [hfind]
  | some s =>
    rw [hs, Option.map_some, Option.map_eq_some_iff] at hfind
    obtain ⟨s', hs', hgist⟩ := hfind
    have hblocks : s'.blocks.map CodeBlock.unplaced = s.blocks.map CodeBlock.unplaced :=
      congrArg (·.2.1) hgist
    have hitems : s'.executableBlocks.filterMap (Item.ofBlock? d timeout) =
        s.executableBlocks.filterMap (Item.ofBlock? d timeout) := by
      rw [s'.filterMap_executableBlocks, hblocks, ← s.filterMap_executableBlocks]
    rw [hs']
    simp only [hitems]
    split <;> rfl

end Gist

end Document

/-! ## Mended texts -/

section Lint

variable {rules : List LintRule} {s : LintScope} {text : Text}

/-- What mending leaves of a text. Other checks that are made have no part in it. -/
theorem fixedText_eq {outcome : LintOutcome} (hrule : LintRule.trailingWhitespace ∈ rules)
    (h : lintText rules true s text = .ok outcome) :
    outcome.fixedText =
      if (Lint.trailingSpaces (Prose.ofLines (lines text))).length = 0 then none
      else some (fixTrailing text) := by
  have hcount : rules.count .trailingWhitespace ≠ 0 := (List.count_pos_iff.mpr hrule).ne'
  simp only [lintText, bind, Except.bind, pure, Except.pure] at h
  split at h
  · cases h
  · cases h
    simp only [if_true, Nat.mul_eq_zero, hcount, false_or]

/-- Mending alone never fails. -/
theorem lintText_trailingWhitespace (s : LintScope) (text : Text) :
    lintText [.trailingWhitespace] true s text = .ok
      { issues := [], fixedCount := (Lint.trailingSpaces (Prose.ofLines (lines text))).length,
        fixedText := if (Lint.trailingSpaces (Prose.ofLines (lines text))).length = 0 then none
          else some (fixTrailing text) } := by
  simp [lintText]
  rfl

end Lint

/--
**Mending a text changes nothing of its document but places.**

The mended text can be read as well. Title, frontmatter and the names of the sections are the same, each
section has the same blocks up to the numbers of their lines, the items are the same, and so are the
patterns, in the same order. Mending alone always comes to an end, and other checks that are made with
it do not matter.
-/
theorem Document.read_fixedText (path : Path) (s : LintScope) (timeout : Int) {text : Text}
    {d : Document} (hread : Document.read path text = .ok d) :
    (∃ outcome, lintText [.trailingWhitespace] true s text = .ok outcome) ∧
      ∀ (rules : List LintRule) (outcome : LintOutcome), LintRule.trailingWhitespace ∈ rules →
        lintText rules true s text = .ok outcome →
          ∃ d', Document.read path (outcome.fixedText.getD text) = .ok d' ∧
            d'.title = d.title ∧ d'.frontmatter = d.frontmatter ∧
            d'.sections.map (·.name) = d.sections.map (·.name) ∧
            d'.sections.map (fun part => part.blocks.map CodeBlock.unplaced) =
              d.sections.map (fun part => part.blocks.map CodeBlock.unplaced) ∧
            (d'.spec? timeout).map (·.items) = (d.spec? timeout).map (·.items) ∧
            d'.patterns.map (·.2) = d.patterns.map (·.2) := by
  refine ⟨⟨_, lintText_trailingWhitespace s text⟩, fun rules outcome hrule hlint => ?_⟩
  have hmended : Mended (proseMask (lines text)) (lines text)
      (lines (outcome.fixedText.getD text)) := by
    rw [fixedText_eq hrule hlint]
    split
    · exact Mended.refl (length_proseMask (lines text))
    · exact mended_fixTrailing text
  obtain ⟨d', hread', htitle, hrecord, hgist⟩ := read_mended hmended hread
  have hnames := congrArg (List.map (·.1)) hgist
  have hblocks := congrArg (List.map (·.2.1)) hgist
  simp only [List.map_map] at hnames hblocks
  exact ⟨d', hread', htitle, hrecord, hnames, hblocks, items_of_gist hgist hrecord timeout,
    patterns_of_gist hgist⟩

/-- Two blank lines vanish: the one behind a carriage return, and the last one. -/
def fadingText : Text :=
  "# Guide \r\t\n## Verification\n<!-- pave:env A=1 -->  \r \n```sh\r\nmake \n```\n \t".toList

theorem Document.read_fixedText_fading :
    ∃ d d' : Document, Document.read (Path.ofText "guide.md".toList) fadingText = .ok d ∧
      Document.read (Path.ofText "guide.md".toList) (fixTrailing fadingText) = .ok d' ∧
      (lines fadingText).length = 9 ∧ (lines (fixTrailing fadingText)).length = 6 ∧
      d'.title = some "Guide".toList ∧ d'.sections.map (·.name) = ["Verification".toList] ∧
      (d'.spec? 7000).map (·.items) = (d.spec? 7000).map (·.items) := by
  let s : LintScope := { tree := {}, cwd := Path.ofText "/".toList, projectRoot := Path.ofText "/".toList,
                         path := Path.ofText "guide.md".toList }
  have hlines : lines fadingText = ["# Guide ".toList, "\t".toList, "## Verification".toList,
      "<!-- pave:env A=1 -->  ".toList, " ".toList, "```sh".toList, "make ".toList, "```".toList,
      " \t".toList] := (congrArg lines String.toList_ofList).trans (by decide +kernel)
  have hrecord : (Frontmatter.split (lines fadingText)).1.mapM Frontmatter.read = .ok none := by
    rw [hlines]
    rfl
  obtain ⟨d, hread⟩ : ∃ d, Document.read (Path.ofText "guide.md".toList) fadingText = .ok d :=
    ⟨_, read_eq hrecord⟩
  have hoverview : d.title = some "Guide".toList ∧
      d.sections.map (·.name) = ["Verification".toList] := by
    obtain ⟨htitle, hsections, -⟩ := parts_of_read hread
    rw [htitle, hsections, hlines]
    decide +kernel
  obtain ⟨-, hmended⟩ := read_fixedText (Path.ofText "guide.md".toList) s 7000 hread
  obtain ⟨d', hread', htitle, -, hnames, -, hitems, -⟩ := hmended [.trailingWhitespace] _
    List.mem_cons_self (lintText_trailingWhitespace s fadingText)
  have hcount : (Lint.trailingSpaces (Prose.ofLines (lines fadingText))).length = 5 := by
    rw [hlines]
    decide +kernel
  simp only [hcount] at hread'
  rw [if_neg (by decide), Option.getD_some] at hread'
  have hnine : (lines fadingText).length = 9 := by
    rw [hlines]
    decide +kernel
  have hsix : (lines (fixTrailing fadingText)).length = 6 := by
    rw [show fadingText = _ from String.toList_ofList]
    decide +kernel
  exact ⟨d, d', hread, hread', hnine, hsix, htitle.trans hoverview.1,
    hnames.trans hoverview.2, hitems⟩

end DocAudit
