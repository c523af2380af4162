import DocAudit.Proofs.Markdown.Attached
import DocAudit.Proofs.Markdown.Pass

/-!
# The blocks of sections

Which blocks the sections of a document have, by the places of its lines: where a block begins and ends,
in which language it is, and which directives are its own.

## Contents

* `CodeBlock.plain`, `CodeBlock.map_plain_attach`: attaching expected output leaves all else as it is
* `Document.read_blocks`: **the blocks of a section are the fences that open in it**
* `Pass.filed_directives`: **the directives of a fence are those of the run before it**
-/

namespace DocAudit

open Text

/-! ## Attaching expected output -/

namespace CodeBlock

/-- The block without what it is expected to give. -/
def plain (b : CodeBlock) : CodeBlock := { b with expected := none }

theorem plain_expecting (b : CodeBlock) (output : ExpectedOutput) :
    (b.expecting output).plain = b.plain := by
  rw [expecting]
  split <;> rfl

theorem map_plain_foldl_attachOne (raws : List RawBlock) (blocks : List CodeBlock) :
    (raws.foldl attachOne blocks).map plain =
      ((raws.filter (·.annotations.expect.isNone)).map fun raw => (ofRaw raw).plain).reverse ++
        blocks.map plain := by
  induction raws generalizing blocks with
  | nil => rfl
  | cons raw rest ih =>
    rw [List.foldl_cons, ih, attachOne]
    cases hexpect : raw.annotations.expect with
    | none => simp [hexpect]
    | some strategy =>
      cases blocks with
      | nil => simp [hexpect]
      | cons b blocks => simp [hexpect, plain_expecting]

/-- **The blocks are the fenced ones that are not expected output.** -/
theorem map_plain_attach (raws : List RawBlock) :
    (attach raws).map plain =
      (raws.filter (·.annotations.expect.isNone)).map fun raw => (ofRaw raw).plain := by
  rw [attach, List.map_reverse, map_plain_foldl_attachOne, List.map_nil, List.append_nil,
    List.reverse_reverse]

theorem map_startLine_attach (raws : List RawBlock) :
    (attach raws).map (·.startLine) =
      (raws.filter (·.annotations.expect.isNone)).map (·.startLine) := by
  have h := congrArg (List.map (·.startLine)) (map_plain_attach raws)
  rw [List.map_map, List.map_map] at h
  exact h

end CodeBlock

/-! ## The places of blocks -/

theorem Annotations.expect_ofDirectives_eq_none_iff {ds : List Directive} :
    (ofDirectives ds).expect = Option.none ↔ ∀ strategy, .expect strategy ∉ ds := by
  rw [ofDirectives, List.getLast?_eq_none_iff, List.filterMap_eq_nil_iff]
  constructor
  · intro h strategy hmem
    cases h _ hmem
  · intro h d hd
    cases d with
    | expect strategy => exact absurd hd (h strategy)
    | run => rfl
    | workingDir dir => rfl
    | env name value => rfl

section Places

variable {ls : List Text} {i : Nat} {raw : RawBlock}

/-- The block that is opened at a place, with the directives of the run before it. -/
theorem rawAt?_eq_some_iff (hstart : (Frontmatter.split ls).2 ≤ i) :
    rawAt? ls i = some raw ↔ ∃ f, OpensAt ls f i ∧
      raw = RawBlock.opened f (i + 1) (Annotations.ofDirectives (attached ls i))
        (ls.drop (i + 1)) := by
  constructor
  · intro h
    obtain ⟨f, hopens⟩ := exists_opensAt_of_rawAt? hstart h
    rw [hopens.rawAt?_eq, Option.some.injEq] at h
    exact ⟨f, hopens, by
      rw [← h, pendingAt_eq hstart (Nat.le_of_lt hopens.lt_length) hopens.closed]⟩
  · rintro ⟨f, hopens, rfl⟩
    rw [hopens.rawAt?_eq, pendingAt_eq hstart (Nat.le_of_lt hopens.lt_length) hopens.closed]

theorem startLine_of_rawAt? (h : rawAt? ls i = some raw) : raw.startLine = i + 1 := by
  rw [rawAt?] at h
  split at h
  · cases h
  · obtain ⟨f, -, rfl⟩ := Option.map_eq_some_iff.mp h
    rfl

/-- Blocks come in the order of their places. -/
theorem pairwise_rawAt? (ls : List Text) (i n : Nat) :
    ((List.range' i n).filterMap (rawAt? ls)).Pairwise (·.startLine < ·.startLine) := by
  rw [List.pairwise_filterMap]
  refine List.Pairwise.imp (fun hij raw hraw raw' hraw' => ?_) List.pairwise_lt_range'
  rw [startLine_of_rawAt? hraw, startLine_of_rawAt? hraw']
  exact Nat.succ_lt_succ hij

/-- A line opens one fence. -/
theorem OpensAt.unique {f f' : Fence} (h : OpensAt ls f i) (h' : OpensAt ls f' i) : f = f' := by
  obtain ⟨line, hline, hopens⟩ := h.opens
  obtain ⟨line', hline', hopens'⟩ := h'.opens
  rw [hline, Option.some.injEq] at hline'
  subst hline'
  exact Option.some.inj (hopens.symm.trans hopens')

end Places

namespace Section.IsIn

variable {s : Section} {ls : List Text} {stop : Nat}

theorem mem_raws_iff (h : s.IsIn ls stop) {raw : RawBlock} :
    raw ∈ s.raws ↔ ∃ i f, s.startLine ≤ i ∧ i < stop ∧ OpensAt ls f i ∧
      raw = RawBlock.opened f (i + 1) (Annotations.ofDirectives (attached ls i))
        (ls.drop (i + 1)) := by
  have hle := h.le_stop
  rw [h.raws_eq, List.mem_filterMap]
  constructor
  · rintro ⟨i, hi, hraw⟩
    obtain ⟨hstart, hstop⟩ := List.mem_range'_1.mp hi
    obtain ⟨f, hf⟩ := (rawAt?_eq_some_iff (Nat.le_trans h.start.1 hstart)).mp hraw
    exact ⟨i, f, hstart, by omega, hf⟩
  · rintro ⟨i, f, hstart, hstop, hf⟩
    exact ⟨i, List.mem_range'_1.mpr ⟨hstart, by omega⟩,
      (rawAt?_eq_some_iff (Nat.le_trans h.start.1 hstart)).mpr ⟨f, hf⟩⟩

/-- **The blocks of a section are the fences that open in it, up to what they are expected to give.** -/
theorem mem_map_plain_blocks_iff (h : s.IsIn ls stop) {b : CodeBlock} :
    b ∈ s.blocks.map CodeBlock.plain ↔ ∃ i f, s.startLine ≤ i ∧ i < stop ∧ OpensAt ls f i ∧
      (∀ strategy, .expect strategy ∉ attached ls i) ∧
      b = (CodeBlock.ofRaw (RawBlock.opened f (i + 1) (Annotations.ofDirectives (attached ls i))
        (ls.drop (i + 1)))).plain := by
  rw [s.blocks_eq, CodeBlock.map_plain_attach, List.mem_map]
  simp only [List.mem_filter, h.mem_raws_iff, Option.isNone_iff_eq_none]
  constructor
  · rintro ⟨raw, ⟨⟨i, f, hstart, hstop, hf, rfl⟩, hexpect⟩, rfl⟩
    exact ⟨i, f, hstart, hstop, hf, Annotations.expect_ofDirectives_eq_none_iff.mp hexpect, rfl⟩
  · rintro ⟨i, f, hstart, hstop, hf, hexpect, rfl⟩
    exact ⟨_, ⟨⟨i, f, hstart, hstop, hf, rfl⟩, Annotations.expect_ofDirectives_eq_none_iff.mpr hexpect⟩,
      rfl⟩

/-- The block that begins at a place. -/
theorem plain_eq (h : s.IsIn ls stop) {b : CodeBlock} {i : Nat} (hb : b ∈ s.blocks)
    (hplace : b.startLine = i + 1) :
    ∃ f, s.startLine ≤ i ∧ i < stop ∧ OpensAt ls f i ∧
      (∀ strategy, .expect strategy ∉ attached ls i) ∧
      b.plain = (CodeBlock.ofRaw (RawBlock.opened f (i + 1)
        (Annotations.ofDirectives (attached ls i)) (ls.drop (i + 1)))).plain := by
  obtain ⟨i', f, hplain⟩ :=
    h.mem_map_plain_blocks_iff.mp (List.mem_map_of_mem (f := CodeBlock.plain) hb)
  obtain rfl : i' = i :=
    Nat.succ.inj ((congrArg CodeBlock.startLine hplain.2.2.2.2).symm.trans hplace)
  exact ⟨f, hplain⟩

/-- The blocks come in the order of their lines. -/
theorem pairwise_blocks (h : s.IsIn ls stop) :
    s.blocks.Pairwise (·.startLine < ·.startLine) := by
  rw [← List.pairwise_map (f := CodeBlock.startLine), s.blocks_eq, CodeBlock.map_startLine_attach,
    List.pairwise_map, h.raws_eq]
  exact (pairwise_rawAt? ls _ _).filter _

end Section.IsIn

/--
**The blocks of a section are the fences that open in it.**

The reader who goes through the text once never fails: at every step a block is open when a fence is, and
it is the last one. What it has in the end are title, headings and blocks of the document. The blocks of a
section come in the order of their lines, one for each fence that opens in the section and has no
directive that declares it as expected output. Each holds the lines up to the first one that closes its
fence, or to the end of the text, and does not reach over the next heading.
-/
theorem Document.read_blocks {path : Path} {text : Text} {d : Document}
    (h : Document.read path text = .ok d) :
    -- one pass over the lines
    (∀ n, ∃ p, Pass.upTo (lines text) n = some p ∧ p.fence = fenceAt (lines text) n ∧
      (p.openBlock.isSome = true ↔ p.fence.isSome = true) ∧
      ∀ k, p.openBlock = some k → k + 1 = p.blocks.length) ∧
    (∃ q, Pass.upTo (lines text) (lines text).length = some q ∧ q.title = d.title ∧
      q.headings = d.sections.map (fun s => (s.startLine - 1, s.name)) ∧
      ∀ k s, d.sections[k]? = some s →
        s.blocks = CodeBlock.attach (Pass.under q.filed (k + 1))) ∧
    -- the blocks of a section
    ∀ k s, d.sections[k]? = some s →
      s.blocks.Pairwise (·.startLine < ·.startLine) ∧
      (∀ i, (∃ b ∈ s.blocks, b.startLine = i + 1) ↔
        s.startLine ≤ i ∧ i < d.stopAfter k ∧ (∃ f, OpensAt (lines text) f i) ∧
          ∀ strategy, .expect strategy ∉ attached (lines text) i) ∧
      ∀ b ∈ s.blocks, ∀ i f, b.startLine = i + 1 → OpensAt (lines text) f i →
        b.language = (words f.info).headD [] ∧
        ∃ j, EndsAt (lines text) f i j ∧ j ≤ d.stopAfter k ∧
          b.content = joinWith ['\n'] (((lines text).take j).drop (i + 1)) := by
  refine ⟨fun n => ?_, ?_, fun k s hs => ?_⟩
  · obtain ⟨p, hp, hcoupled, hfence⟩ := Pass.exists_upTo (lines text) n
    exact ⟨p, hp, hfence, by rw [hcoupled.open_iff], hcoupled.last⟩
  · obtain ⟨q, hq, -, -⟩ := Pass.exists_upTo (lines text) (lines text).length
    exact ⟨q, hq, Pass.eq_of_read h hq⟩
  have hin := isIn_of_read h hs
  refine ⟨hin.pairwise_blocks, fun i => ⟨?_, ?_⟩, ?_⟩
  · rintro ⟨b, hb, hplace⟩
    obtain ⟨f, hstart, hstop, hopens, hexpect, -⟩ := hin.plain_eq hb hplace
    exact ⟨hstart, hstop, ⟨f, hopens⟩, hexpect⟩
  · rintro ⟨hstart, hstop, ⟨f, hopens⟩, hexpect⟩
    obtain ⟨b, hb, hplain⟩ := List.mem_map.mp
      (hin.mem_map_plain_blocks_iff.mpr ⟨i, f, hstart, hstop, hopens, hexpect, rfl⟩)
    exact ⟨b, hb, congrArg CodeBlock.startLine hplain⟩
  · intro b hb i f hplace hopens
    obtain ⟨f', -, hstop, hopens', -, hplain⟩ := hin.plain_eq hb hplace
    obtain rfl := hopens.unique hopens'
    obtain ⟨j, hends, hbody⟩ := exists_endsAt f hopens.lt_length
    refine ⟨congrArg CodeBlock.language hplain, j, hends,
      hends.le_of_closed hopens hstop hin.stop_le hin.closed_at_stop, ?_⟩
    rw [← hbody]
    exact congrArg (fun b => joinWith ['\n'] (CodeBlock.body b)) hplain

/-- A fence of four holds a heading, its block is not closed by three, and the last block is output. -/
def wrappedText : Text :=
  "## Use\n````md\n```\n## Hidden\n````\n<!-- pave:expect -->\n```\nout".toList

theorem Document.read_blocks_wrapped :
    ∃ (d : Document) (s : Section), Document.read (Path.ofText "use.md".toList) wrappedText = .ok d ∧
      d.sections[0]? = some s ∧ (∃ b ∈ s.blocks, b.startLine = 2) ∧ (¬ ∃ b ∈ s.blocks, b.startLine = 7) ∧
      ∀ b ∈ s.blocks, b.startLine = 2 → b.content = "```\n## Hidden".toList := by
  have hlines : lines wrappedText = ["## Use".toList, "````md".toList, "```".toList,
      "## Hidden".toList, "````".toList, "<!-- pave:expect -->".toList, "```".toList,
      "out".toList] := (congrArg lines String.toList_ofList).trans (by decide +kernel)
  have hrecord : (Frontmatter.split (lines wrappedText)).1.mapM Frontmatter.read = .ok none := by
    rw [hlines]
    rfl
  obtain ⟨d, hread⟩ : ∃ d, Document.read (Path.ofText "use.md".toList) wrappedText = .ok d :=
    ⟨_, read_eq hrecord⟩
  have hsection : ∃ s, d.sections[0]? = some s ∧ s.startLine = 1 ∧ d.stopAfter 0 = 8 := by
    obtain ⟨-, hsections, hcount, -⟩ := parts_of_read hread
    have hone : d.sections = [⟨"Use".toList, 1, ["````md".toList, "```".toList, "## Hidden".toList,
        "````".toList, "<!-- pave:expect -->".toList, "```".toList, "out".toList]⟩] := by
      rw [hsections, hlines]
      decide +kernel
    rw [stopAfter, hcount, hone, hlines]
    exact ⟨_, rfl, rfl, rfl⟩
  obtain ⟨s, hs, hstart, hstop⟩ := hsection
  obtain ⟨-, -, hblocks⟩ := read_blocks hread
  obtain ⟨-, hplaces, hcontent⟩ := hblocks 0 s hs
  have hopens : OpensAt (lines wrappedText) ⟨.backtick, 4, "md".toList⟩ 1 := by
    rw [hlines]
    exact ⟨by decide +kernel, by decide +kernel, _, rfl, by decide +kernel⟩
  refine ⟨d, s, hread, hs, (hplaces 1).mpr ⟨by omega, by omega, ⟨_, hopens⟩, ?_⟩, ?_, ?_⟩
  · intro strategy
    have hnone : attached (lines wrappedText) 1 = [] := by
      rw [hlines]
      decide +kernel
    rw [hnone]
    exact List.not_mem_nil
  · rintro ⟨b, hb, hplace⟩
    obtain ⟨-, -, -, hexpect⟩ := (hplaces 6).mp ⟨b, hb, hplace⟩
    refine hexpect .contains ?_
    rw [hlines]
    decide +kernel
  · intro b hb hplace
    obtain ⟨-, j, hends, -, hj⟩ := hcontent b hb 1 _ hplace hopens
    have hfour : EndsAt (lines wrappedText) ⟨.backtick, 4, "md".toList⟩ 1 4 := by
      rw [hlines]
      refine ⟨by decide +kernel, by decide +kernel, fun k line hk hk' hline => ?_, Or.inr ⟨_, rfl, by decide +kernel⟩⟩
      obtain rfl | rfl : k = 2 ∨ k = 3 := by omega
      · obtain rfl := Option.some.inj hline
        decide +kernel
      · obtain rfl := Option.some.inj hline
        decide +kernel
    rw [hj, hends.unique hfour, hlines]
    decide +kernel

/-! ## The directives of a fence -/

theorem Annotations.run_ofDirectives_iff {ds : List Directive} :
    (ofDirectives ds).run = true ↔ .run ∈ ds := by
  rw [ofDirectives, List.contains_iff_mem]

/-- The line of a fence stands before the run of every later place. -/
theorem OpensAt.lt_start {ls : List Text} {f : Fence} {i r j : Nat} (hopens : OpensAt ls f i)
    (h : IsRun ls r j) (hij : i < j) : i < r := by
  refine h.lt_start (keepsAt_eq_false fun hprose => ?_) hij
  obtain ⟨-, -, line, hline, hnone⟩ := proseMask_eq_false_iff.mp hprose
  obtain ⟨line', hline', hsome⟩ := hopens.opens
  rw [hline, Option.some.injEq] at hline'
  subst hline'
  rw [hnone] at hsome
  cases hsome

/--
**The directives of a fence are those of the run before it.**

The blocks that the reader files are those that a document has in its sections, and more: also those
before the first heading, and those that are expected output. There is one for each fence that opens. Its
directives are the ones in the run before the fence, and no other: the longest run of lines that are
prose, and blank or accepted directives. Runs of two fences have no line in common, and each line that is
neither blank nor a directive stands before the run.
-/
theorem Pass.filed_directives (text : Text) :
    ∃ q, Pass.upTo (lines text) (lines text).length = some q ∧
      -- the accepted directives
      (∀ line d, Directive.ofLine? line = some d ↔
        ∃ p, Directive.split? line = some p ∧ Directive.Accepts p d) ∧
      -- the blocks that are filed
      (∀ path d, Document.read path text = .ok d → ∀ k s, d.sections[k]? = some s →
        s.blocks = CodeBlock.attach (Pass.under q.filed (k + 1))) ∧
      (q.filed.map (·.2)).Pairwise (·.startLine < ·.startLine) ∧
      -- the directives of each
      ∀ i f, OpensAt (lines text) f i → ∃ r, IsRun (lines text) r i ∧
        (∃ raw ∈ q.filed.map (·.2), raw.startLine = i + 1 ∧
          let ds := (((lines text).take i).drop r).filterMap Directive.ofLine?
          raw.annotations.env = ds.filterMap Directive.setting? ∧
          raw.annotations.workingDir = (ds.filterMap Directive.directory?).getLast? ∧
          (raw.annotations.run = true ↔ .run ∈ ds) ∧
          raw.annotations.expect = (ds.filterMap Directive.strategy?).getLast? ∧
          ∀ path d, Document.read path text = .ok d → ∀ s ∈ d.sections, ∀ b ∈ s.blocks,
            b.startLine = i + 1 → b.env = raw.annotations.env ∧
              b.workingDir = raw.annotations.workingDir) ∧
        -- no directive is that of two fences, and other lines drop those before them
        (∀ i' f', OpensAt (lines text) f' i' → i' < i → i' < r) ∧
        ∀ k line, k < i → (lines text)[k]? = some line → isBlankText line = false →
          Directive.ofLine? line = none → k < r := by
  obtain ⟨q, hq, -, -⟩ := Pass.exists_upTo (lines text) (lines text).length
  have hfiled := Pass.map_snd_filed hq
  refine ⟨q, hq, fun line d => Directive.ofLine?_eq_some_iff,
    fun path d hread => (Pass.eq_of_read hread hq).2.2, ?_, fun i f hopens => ?_⟩
  · rw [hfiled]
    exact pairwise_rawAt? _ _ _
  have hrun := isRun_runStart (lines text) i
  refine ⟨runStart (lines text) i, hrun, ?_, fun i' f' hopens' hlt => hopens'.lt_start hrun hlt,
    fun k line hk hline hblank hnone => hrun.lt_start ?_ hk⟩
  · refine ⟨RawBlock.opened f (i + 1) (Annotations.ofDirectives (attached (lines text) i))
      ((lines text).drop (i + 1)), ?_, rfl, rfl, rfl, Annotations.run_ofDirectives_iff, rfl,
      fun path d hread s hs b hb hplace => ?_⟩
    · have hlt := hopens.lt_length
      have hstart := hopens.start_le
      rw [hfiled, List.mem_filterMap]
      exact ⟨i, List.mem_range'_1.mpr ⟨hstart, by omega⟩,
        (rawAt?_eq_some_iff hstart).mpr ⟨f, hopens, rfl⟩⟩
    · obtain ⟨k, hk⟩ := List.mem_iff_getElem?.mp hs
      obtain ⟨f', -, -, -, -, hplain⟩ := (Document.isIn_of_read hread hk).plain_eq hb hplace
      exact ⟨congrArg CodeBlock.env hplain, congrArg CodeBlock.workingDir hplain⟩
  · refine Bool.eq_false_iff.mpr fun hkeeps => ?_
    obtain ⟨-, line', hline', hor⟩ := keepsAt_iff.mp hkeeps
    rw [hline, Option.some.injEq] at hline'
    subst hline'
    simp [hblank, hnone] at hor

/-- A blank line keeps the variable before it, the prose drops the directory. -/
def droppedText : Text :=
  "<!-- pave:working_dir a -->\nprose\n<!-- pave:env A=1 -->\n\n<!-- pave:run -->\n```".toList

theorem Pass.filed_directives_dropped :
    ∃ q, Pass.upTo (lines droppedText) (lines droppedText).length = some q ∧
      ∃ raw ∈ q.filed.map (·.2), raw.startLine = 6 ∧ raw.annotations.env = [("A".toList, "1".toList)] ∧
        raw.annotations.workingDir = none ∧ raw.annotations.run = true := by
  have hlines : lines droppedText = ["<!-- pave:working_dir a -->".toList, "prose".toList,
      "<!-- pave:env A=1 -->".toList, [], "<!-- pave:run -->".toList, "```".toList] :=
    (congrArg lines String.toList_ofList).trans (by decide +kernel)
  have hopens : OpensAt (lines droppedText) ⟨.backtick, 3, []⟩ 5 := by
    rw [hlines]
    exact ⟨by decide +kernel, by decide +kernel, _, rfl, by decide +kernel⟩
  obtain ⟨q, hq, -, -, -, hfences⟩ := filed_directives droppedText
  obtain ⟨r, hr, ⟨raw, hraw, hplace, henv, hdir, hrun, -, -⟩, -, -⟩ := hfences 5 _ hopens
  have hstart : r = 2 := by
    rw [hr.eq_runStart, hlines]
    decide +kernel
  subst hstart
  refine ⟨q, hq, raw, hraw, hplace, ?_, ?_, hrun.mpr ?_⟩
  · rw [henv, hlines]
    decide +kernel
  · rw [hdir, hlines]
    decide +kernel
  · rw [hlines]
    decide +kernel

end DocAudit
