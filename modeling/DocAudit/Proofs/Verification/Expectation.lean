import DocAudit.Proofs.Markdown.Blocks
import DocAudit.Proofs.Verification.Commands

/-!
# Expected output

What a command is expected to give can be said twice: the block behind it may be declared as its output,
and its own block may show output. Both come together where the blocks of a section are attached, and what
the block shows takes precedence: it is there first, and a block that expects something is left alone.

## Contents

* `CodeBlock.foldl_attachOne_cons`: attaching looks at the last block only
* `CodeBlock.attach_declared`: a block and the output declared behind it
* `Document.spec?_expected`: **the expected output of an item, in the presence of both**
-/

namespace DocAudit

open Text

namespace CodeBlock

/-! ## Attaching -/

section Step

variable {raw : RawBlock}

theorem attachOne_own (h : raw.annotations.expect = none) (blocks : List CodeBlock) :
    attachOne blocks raw = ofRaw raw :: blocks := by
  rw [attachOne, h]

theorem attachOne_declared {strategy : OutputStrategy} (h : raw.annotations.expect = some strategy)
    (b : CodeBlock) (blocks : List CodeBlock) :
    attachOne (b :: blocks) raw =
      b.expecting { strategy, content := joinWith ['\n'] raw.body } :: blocks := by
  rw [attachOne, h]

end Step

/-- Attaching looks at the last block only. -/
theorem foldl_attachOne_cons (raws : List RawBlock) (b : CodeBlock) (blocks : List CodeBlock) :
    raws.foldl attachOne (b :: blocks) = raws.foldl attachOne [b] ++ blocks := by
  induction raws generalizing b blocks with
  | nil => rfl
  | cons raw rest ih =>
    rw [List.foldl_cons, List.foldl_cons]
    cases h : raw.annotations.expect with
    | none =>
      rw [attachOne_own h, attachOne_own h, ih, ih (ofRaw raw) [b], List.append_assoc]
      rfl
    | some strategy =>
      rw [attachOne_declared h, attachOne_declared h]
      exact ih _ _

/-- A block that is not run, or expects something, stays as it is. -/
theorem expecting_eq_self {b : CodeBlock} (h : (b.executable && b.expected.isNone) = false)
    (output : ExpectedOutput) : b.expecting output = b := by
  rw [expecting, h, if_neg Bool.false_ne_true]

/-- Behind a block that expects something, no block changes it. -/
theorem exists_foldl_attachOne {b : CodeBlock} (h : (b.executable && b.expected.isNone) = false)
    (raws : List RawBlock) : ∃ blocks, raws.foldl attachOne [b] = blocks ++ [b] := by
  induction raws with
  | nil => exact ⟨[], rfl⟩
  | cons raw rest ih =>
    rw [List.foldl_cons]
    cases hexpect : raw.annotations.expect with
    | none =>
      rw [attachOne_own hexpect]
      exact ⟨rest.foldl attachOne [ofRaw raw], foldl_attachOne_cons rest (ofRaw raw) [b]⟩
    | some strategy =>
      rw [attachOne_declared hexpect, expecting_eq_self h]
      exact ih

section Declared

variable {raw next : RawBlock} {strategy : OutputStrategy}

/-- What a block expects when the next one is declared as its output: what it shows, or else that. -/
def expectedOf (raw next : RawBlock) (strategy : OutputStrategy) : ExpectedOutput :=
  match (Transcript.ofLines raw.body).output? with
  | some content => { strategy := .contains, content }
  | none => { strategy, content := joinWith ['\n'] next.body }

/-- The block when it expects this output. -/
def withExpected (b : CodeBlock) (output : ExpectedOutput) : CodeBlock := { b with expected := some output }

theorem expecting_ofRaw (hrun : isExecutable raw = true) :
    (ofRaw raw).expecting { strategy, content := joinWith ['\n'] next.body } =
      (ofRaw raw).withExpected (expectedOf raw next strategy) := by
  have hexecutable : (ofRaw raw).executable = true := hrun
  have hexpected : (ofRaw raw).expected =
      (Transcript.ofLines raw.body).output?.map fun content => { strategy := .contains, content } := by
    rw [ofRaw, hrun]
    rfl
  rw [expecting, hexecutable, hexpected, expectedOf]
  cases hshown : (Transcript.ofLines raw.body).output? with
  | some content =>
    rw [if_neg (by simp), ofRaw, hrun, hshown]
    rfl
  | none =>
    rw [if_pos (by simp), ← hexecutable]
    rfl

/-- **A block and the output declared behind it, among other blocks.** -/
theorem attach_declared (hown : raw.annotations.expect = none) (hrun : isExecutable raw = true)
    (hnext : next.annotations.expect = some strategy) (before after : List RawBlock) :
    ∃ rest, attach (before ++ raw :: next :: after) =
      attach before ++
        (ofRaw raw).withExpected (expectedOf raw next strategy) :: rest := by
  have hfold : (raw :: next :: after).foldl attachOne (before.foldl attachOne []) =
      after.foldl attachOne ((ofRaw raw).withExpected (expectedOf raw next strategy) ::
        before.foldl attachOne []) := by
    rw [List.foldl_cons, List.foldl_cons, attachOne_own hown, attachOne_declared hnext,
      expecting_ofRaw hrun]
  obtain ⟨rest, hrest⟩ := exists_foldl_attachOne
    (b := (ofRaw raw).withExpected (expectedOf raw next strategy)) (Bool.and_false _) after
  refine ⟨rest.reverse, ?_⟩
  rw [attach, attach, List.foldl_append, hfold, foldl_attachOne_cons, hrest]
  simp

end Declared

end CodeBlock

/-! ## Items -/

/--
**The expected output of an item is what its block shows, or else what is declared behind it.**

The item stands behind those of the blocks before it. What its block shows takes precedence over a block
that is declared as its output, whatever the declared strategy. The rules for items name the declared
output first; here it is only used where the block shows none.
-/
theorem Document.spec?_expected {d : Document} {s : Section} {before after : List RawBlock}
    {raw next : RawBlock} {strategy : OutputStrategy} (timeout : Int)
    (hs : d.find? verificationSection = some s) (hraws : s.raws = before ++ raw :: next :: after)
    (hown : raw.annotations.expect = none) (hrun : CodeBlock.isExecutable raw = true)
    (hcommands : (CodeBlock.ofRaw raw).commands ≠ [])
    (hnext : next.annotations.expect = some strategy) :
    ∃ (spec : Spec) (rest : List Item), d.spec? timeout = some spec ∧
      spec.items =
        ((CodeBlock.attach before).filter (·.executable)).filterMap (Item.ofBlock? d timeout) ++
          { command := joinWith " && ".toList (CodeBlock.ofRaw raw).commands,
            workingDir := raw.annotations.workingDir.or d.workingDir,
            expected := some (CodeBlock.expectedOf raw next strategy), timeout, env := raw.annotations.env } :: rest := by
  obtain ⟨rest, hattach⟩ := CodeBlock.attach_declared hown hrun hnext before after
  rw [← hraws, ← s.blocks_eq] at hattach
  have hexecutable : ((CodeBlock.ofRaw raw).withExpected
      (CodeBlock.expectedOf raw next strategy)).executable = true := hrun
  have hitem := Item.ofBlock?_eq
    (b := (CodeBlock.ofRaw raw).withExpected (CodeBlock.expectedOf raw next strategy))
    hcommands d timeout
  have hitems : s.executableBlocks.filterMap (Item.ofBlock? d timeout) =
      ((CodeBlock.attach before).filter (·.executable)).filterMap (Item.ofBlock? d timeout) ++
        { command := joinWith " && ".toList (CodeBlock.ofRaw raw).commands,
          workingDir := raw.annotations.workingDir.or d.workingDir,
          expected := some (CodeBlock.expectedOf raw next strategy), timeout,
          env := raw.annotations.env } ::
            (rest.filter (·.executable)).filterMap (Item.ofBlock? d timeout) := by
    rw [Section.executableBlocks, hattach, List.filter_append, List.filter_cons, if_pos hexecutable,
      List.filterMap_append, List.filterMap_cons, hitem]
    rfl
  refine ⟨⟨d.path, s.startLine, s.executableBlocks.filterMap (Item.ofBlock? d timeout)⟩, _, ?_,
    hitems⟩
  rw [spec?, hs]
  simp only
  rw [hitems, if_neg (by simp)]

/-- A command, and output that is declared for it. When `shown`, the block of the command shows output
of its own. -/
def declaredText (shown : Bool) : Text :=
  if shown then
    "## Verification\n```bash\n$ echo hi\nhi\n```\n<!-- pave:expect:exact -->\n```\nhello\n```\n".toList
  else "## Verification\n```bash\n$ echo hi\n```\n<!-- pave:expect:exact -->\n```\nhello\n```\n".toList

/-- The block of the command. -/
def commandRaw (shown : Bool) : RawBlock where
  language := "bash".toList
  body := "$ echo hi".toList :: if shown then ["hi".toList] else []
  startLine := 2
  annotations := Annotations.none

/-- The block of the output. -/
def outputRaw (shown : Bool) : RawBlock where
  language := []
  body := ["hello".toList]
  startLine := if shown then 7 else 6
  annotations := { expect := some .exact }

/-- The lines behind the heading. -/
def declaredLines (shown : Bool) : List Text :=
  blockLines "bash".toList (commandRaw shown).body ++
    "<!-- pave:expect:exact -->".toList :: blockLines [] (outputRaw shown).body

theorem isExecutable_commandRaw (shown : Bool) :
    CodeBlock.isExecutable (commandRaw shown) = true := by
  have hshell : shellLanguages.contains (lower "bash".toList) = true := by decide
  rw [CodeBlock.isExecutable, commandRaw, hshell]
  rfl

theorem read_declaredText (shown : Bool) :
    ∃ (d : Document) (s : Section),
      Document.read (Path.ofText "doc.md".toList) (declaredText shown) = .ok d ∧
        d.find? verificationSection = some s ∧ s.raws = [commandRaw shown, outputRaw shown] := by
  have hlines : lines (declaredText shown) = "## Verification".toList :: declaredLines shown := by
    cases shown with
    | false =>
      exact (congrArg lines ((if_neg Bool.false_ne_true).trans String.toList_ofList)).trans
        (by decide +kernel)
    | true => exact (congrArg lines ((if_pos rfl).trans String.toList_ofList)).trans (by decide +kernel)
  have hquiet : IsQuiet (declaredLines shown) := by
    cases shown <;> exact ⟨by decide +kernel, by decide +kernel⟩
  have hbody : ∀ line ∈ (commandRaw shown).body, ¬ IsFenceLine line := by
    cases shown <;> decide +kernel
  obtain ⟨d, hread, -, -, hsections⟩ := Document.read_section _ hlines rfl hquiet
  have hname : strip ((strip "## Verification".toList).drop 3) = verificationSection := by rfl
  rw [hname] at hsections
  refine ⟨d, ⟨verificationSection, 1, declaredLines shown⟩, hread, ?_, ?_⟩
  · rw [Document.find?, hsections]
    exact List.find?_cons_of_pos (beq_self_eq_true (fold verificationSection))
  · show (RawBlock.scan none Annotations.none 2 (declaredLines shown)).2 = _
    rw [declaredLines, RawBlock.scan_blockLines (by decide +kernel) hbody,
      RawBlock.scan_directive (d := .expect .exact) (by rfl),
      ← List.append_nil (blockLines [] (outputRaw shown).body),
      RawBlock.scan_blockLines (by decide +kernel) (by cases shown <;> decide +kernel)]
    cases shown <;> rfl

/-- Without output of its own, the block expects what is declared. -/
theorem Document.spec?_expected_declared :
    ∃ (d : Document) (spec : Spec),
      Document.read (Path.ofText "doc.md".toList) (declaredText false) = .ok d ∧
        d.spec? 30000 = some spec ∧
        spec.items.head?.map (·.expected) =
          some (some { strategy := .exact, content := "hello".toList }) := by
  obtain ⟨d, s, hread, hs, hraws⟩ := read_declaredText false
  have hblocks : s.raws = [] ++ commandRaw false :: outputRaw false :: [] := hraws
  obtain ⟨spec, rest, hspec, hitems⟩ := Document.spec?_expected 30000 hs hblocks rfl
    (isExecutable_commandRaw false) (by decide) rfl
  refine ⟨d, spec, hread, hspec, ?_⟩
  rw [hitems]
  rfl

/-- **Output that a block shows takes precedence over output that is declared.** -/
theorem Document.spec?_expected_shown :
    ∃ (d : Document) (s : Section),
      Document.read (Path.ofText "doc.md".toList) (declaredText true) = .ok d ∧
        d.find? verificationSection = some s ∧ s.raws = [commandRaw true, outputRaw true] ∧
        CodeBlock.isExecutable (commandRaw true) = true ∧
        (CodeBlock.ofRaw (commandRaw true)).commands = ["echo hi".toList] ∧
        (outputRaw true).annotations.expect = some .exact ∧
        joinWith ['\n'] (outputRaw true).body = "hello".toList ∧
        (d.spec? 30000).map (·.items.map (·.expected)) =
          some [some { strategy := .contains, content := "hi".toList }] := by
  obtain ⟨d, s, hread, hs, hraws⟩ := read_declaredText true
  refine ⟨d, s, hread, hs, hraws, isExecutable_commandRaw true, by decide, rfl, by decide, ?_⟩
  have hblocks : s.executableBlocks =
      [(CodeBlock.ofRaw (commandRaw true)).withExpected ⟨.contains, "hi".toList⟩] := by
    rw [Section.executableBlocks, s.blocks_eq, hraws]
    decide
  have hitem := Item.ofBlock?_eq
    (b := (CodeBlock.ofRaw (commandRaw true)).withExpected ⟨.contains, "hi".toList⟩) (by decide) d 30000
  rw [Document.spec?, hs]
  simp only [hblocks, List.filterMap_cons, hitem]
  rfl

end DocAudit
