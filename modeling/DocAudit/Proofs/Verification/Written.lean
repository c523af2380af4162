import DocAudit.Proofs.Markdown.Blocks
import DocAudit.Verification.Spec

/-!
# Written verification sections

Items are written as a document that verifies itself: for each one its directives, a block with the
command, and when output is expected a directive and a block for it. The document is read back, and its
spec holds these items again.

## Contents

* `WrittenItem`, `WrittenItem.lines`: an item, and how it is written
* `WrittenItem.IsWritable`: which items can be written
* `WrittenItem.scan_lines`, `WrittenItem.attachOne_scan`: the blocks that are read from the lines
* `Document.spec?_verificationText`: **the items that are written are those of the spec**
-/

namespace DocAudit

open Text

/-- An item as it is written: the directory and the variables for the command, the command, and how
its output is compared with which lines. -/
structure WrittenItem where
  workingDir : Option Text := none
  env : List (Text × Text) := []
  command : Text
  expected : Option (OutputStrategy × List Text) := none
  deriving DecidableEq, Repr

namespace WrittenItem

/-- The directives in front of the command. -/
def directives (i : WrittenItem) : List Directive :=
  (i.workingDir.map Directive.workingDir).toList ++
    i.env.map fun (name, value) => .env name value

/-- The lines for the expected output. -/
def expectedLines (i : WrittenItem) : List Text :=
  match i.expected with
  | none => []
  | some (strategy, body) => (Directive.expect strategy).written :: blockLines [] body

/-- The lines of an item. -/
def lines (i : WrittenItem) : List Text :=
  i.directives.map Directive.written ++ (blockLines "bash".toList [i.command] ++ i.expectedLines)

/-- The lines inside of the blocks of an item. -/
def bodyLines (i : WrittenItem) : List Text :=
  i.command :: match i.expected with
    | none => []
    | some (_, body) => body

/-- The item can be written: its texts are on one line each and trimmed where trimming would change
them, the command reads as a command, and nothing in a block closes it. -/
structure IsWritable (i : WrittenItem) : Prop where
  directives : ∀ d ∈ i.directives, d.IsWritable
  command_ne : i.command ≠ []
  command_trimmed : strip i.command = i.command
  no_comment : ¬ "#".toList <+: i.command
  no_prompt : ¬ "$ ".toList <+: i.command ∧ ¬ "> ".toList <+: i.command
  unbroken : ∀ line ∈ i.bodyLines, IsUnbroken line
  no_fence : ∀ line ∈ i.bodyLines, ¬ IsFenceLine line

instance (i : WrittenItem) : Decidable i.IsWritable :=
  decidable_of_iff
    ((∀ d ∈ i.directives, d.IsWritable) ∧ i.command ≠ [] ∧ strip i.command = i.command ∧
      ¬ "#".toList <+: i.command ∧ (¬ "$ ".toList <+: i.command ∧ ¬ "> ".toList <+: i.command) ∧
      (∀ line ∈ i.bodyLines, IsUnbroken line) ∧ ∀ line ∈ i.bodyLines, ¬ IsFenceLine line)
    ⟨fun ⟨h₁, h₂, h₃, h₄, h₅, h₆, h₇⟩ => ⟨h₁, h₂, h₃, h₄, h₅, h₆, h₇⟩,
      fun ⟨h₁, h₂, h₃, h₄, h₅, h₆, h₇⟩ => ⟨h₁, h₂, h₃, h₄, h₅, h₆, h₇⟩⟩

/-- The output that the item expects. -/
def expectedOutput (i : WrittenItem) : Option ExpectedOutput :=
  i.expected.map fun (strategy, body) => { strategy, content := joinWith ['\n'] body }

/-- The item that is meant. -/
def item (timeout : Int) (i : WrittenItem) : Item where
  command := i.command
  workingDir := i.workingDir
  expectedExit := 0
  expected := i.expectedOutput
  timeout
  env := i.env

end WrittenItem

/-- A document that consists of a verification section with the items. -/
def verificationText (items : List WrittenItem) : Text :=
  endLines ("## Verification".toList :: items.flatMap WrittenItem.lines)

namespace WrittenItem

variable {i : WrittenItem}

/-- The directives of an item are its directory and its variables. -/
theorem foldl_add_directives (i : WrittenItem) :
    i.directives.foldl Annotations.add Annotations.none =
      { workingDir := i.workingDir, env := i.env } := by
  rw [directives, List.foldl_append, Annotations.foldl_add_env]
  cases i.workingDir <;> rfl

/-! ## Written items -/

/-- The block of the command, whose first line has the number `n`. -/
def commandBlock (i : WrittenItem) (n : Nat) : RawBlock where
  language := "bash".toList
  body := [i.command]
  startLine := n
  annotations := { workingDir := i.workingDir, env := i.env }

/-- The block of the expected output, when there is one. The directive before it has the number `n`. -/
def expectedBlocks (i : WrittenItem) (n : Nat) : List RawBlock :=
  match i.expected with
  | none => []
  | some (strategy, body) =>
    [{ language := [], body, startLine := n + 1, annotations := { expect := some strategy } }]

theorem isLanguage_nil : IsLanguage [] := by decide

theorem isLanguage_bash : IsLanguage "bash".toList := by decide

theorem mem_bodyLines {strategy : OutputStrategy} {body : List Text} {line : Text}
    (hexpected : i.expected = some (strategy, body)) (hline : line ∈ body) : line ∈ i.bodyLines := by
  rw [bodyLines, hexpected]
  exact List.mem_cons_of_mem _ hline

/-- The expected output is read as its block. -/
theorem scan_expectedLines (h : i.IsWritable) (n : Nat) (rest : List Text) :
    (RawBlock.scan none Annotations.none n (i.expectedLines ++ rest)).2 =
      i.expectedBlocks n ++
        (RawBlock.scan none Annotations.none (n + i.expectedLines.length) rest).2 := by
  cases hexpected : i.expected with
  | none =>
    rw [expectedLines, expectedBlocks, hexpected]
    rfl
  | some expected =>
    obtain ⟨strategy, body⟩ := expected
    have hbody : ∀ line ∈ body, ¬ IsFenceLine line := fun line hline =>
      h.no_fence line (mem_bodyLines hexpected hline)
    have hlength : n + i.expectedLines.length = n + 1 + body.length + 2 := by
      rw [expectedLines, hexpected]
      simp only [blockLines, List.length_cons, List.length_append, List.length_nil]
      omega
    rw [hlength, expectedLines, expectedBlocks, hexpected]
    simp only [List.cons_append]
    rw [RawBlock.scan_directive (Directive.ofLine?_written (d := .expect strategy) trivial),
      RawBlock.scan_blockLines isLanguage_nil hbody]
    rfl

/-- **The lines of an item are read as its blocks, and no directive is left behind them.** -/
theorem scan_lines (h : i.IsWritable) (n : Nat) (rest : List Text) :
    (RawBlock.scan none Annotations.none n (i.lines ++ rest)).2 =
      i.commandBlock (n + i.directives.length) ::
        (i.expectedBlocks (n + i.directives.length + 3) ++
          (RawBlock.scan none Annotations.none (n + i.lines.length) rest).2) := by
  have hcommand : ∀ line ∈ [i.command], ¬ IsFenceLine line := by
    intro line hline
    rw [List.mem_singleton.mp hline]
    exact h.no_fence _ List.mem_cons_self
  have hlength : n + i.lines.length =
      n + i.directives.length + [i.command].length + 2 + i.expectedLines.length := by
    simp only [lines, blockLines, List.length_append, List.length_map, List.length_cons,
      List.length_nil]
    omega
  rw [hlength, lines, List.append_assoc, RawBlock.scan_directives h.directives,
    foldl_add_directives, List.append_assoc, RawBlock.scan_blockLines isLanguage_bash hcommand,
    scan_expectedLines h]
  rfl

/-! ## Blocks of items -/

/-- The code block of an item, whose command has its opening line at the number `n`. -/
def block (i : WrittenItem) (n : Nat) : CodeBlock where
  language := "bash".toList
  body := [i.command]
  startLine := n
  executable := true
  workingDir := i.workingDir
  env := i.env
  expected := i.expectedOutput

/-- A single line shows no output. -/
theorem ofRaw_commandBlock (i : WrittenItem) (n : Nat) :
    CodeBlock.ofRaw (i.commandBlock n) = { i.block n with expected := none } := by
  have hrun : CodeBlock.isExecutable (i.commandBlock n) = true := by
    have hshell : shellLanguages.contains (lower "bash".toList) = true := by decide
    rw [CodeBlock.isExecutable, commandBlock, hshell]
    rfl
  have hquiet : (Transcript.ofLines [i.command]).output? = none := by
    rw [Transcript.ofLines]
    split <;> rfl
  rw [CodeBlock.ofRaw, hrun]
  simp only [commandBlock, hquiet]
  rfl

/-- **The blocks of an item make one code block, which expects the output of the item.** -/
theorem foldl_attachOne (i : WrittenItem) (n m : Nat) (blocks : List CodeBlock) :
    (i.commandBlock n :: i.expectedBlocks m).foldl CodeBlock.attachOne blocks =
      i.block n :: blocks := by
  have hfirst : CodeBlock.attachOne blocks (i.commandBlock n) =
      { i.block n with expected := none } :: blocks := by
    rw [← ofRaw_commandBlock]
    rfl
  rw [List.foldl_cons, hfirst, expectedBlocks, block, expectedOutput]
  cases i.expected with
  | none => rfl
  | some expected => rfl

/-- The code blocks of items, the first of which starts on the line with the number `n`. -/
def blocksFrom (n : Nat) : List WrittenItem → List CodeBlock
  | [] => []
  | i :: rest => i.block (n + i.directives.length) :: blocksFrom (n + i.lines.length) rest

/-- **The lines of items are read as one code block for each of them.** -/
theorem attachOne_scan : ∀ {items : List WrittenItem}, (∀ i ∈ items, i.IsWritable) →
    ∀ (n : Nat) (blocks : List CodeBlock),
      (RawBlock.scan none Annotations.none n (items.flatMap lines)).2.foldl
        CodeBlock.attachOne blocks = (blocksFrom n items).reverse ++ blocks
  | [], _, _, _ => rfl
  | i :: items, h, n, blocks => by
    have hi : i.IsWritable := h i List.mem_cons_self
    -- no directive is left behind the first item, so the scan of the others starts as it did
    rw [List.flatMap_cons, scan_lines hi, ← List.cons_append, List.foldl_append, foldl_attachOne,
      attachOne_scan fun j hj => h j (List.mem_cons_of_mem i hj)]
    rw [blocksFrom, List.reverse_cons, List.append_assoc]
    rfl

theorem executable_blocksFrom : ∀ (n : Nat) (items : List WrittenItem),
    (blocksFrom n items).filter (·.executable) = blocksFrom n items
  | _, [] => rfl
  | n, i :: items => by
    rw [blocksFrom, List.filter_cons_of_pos rfl, executable_blocksFrom]

/-! ## Items of blocks -/

/-- The command of a written block is its one line. -/
theorem commands_block (h : i.IsWritable) (n : Nat) : (i.block n).commands = [i.command] := by
  have hstart : ∀ start : Text, ¬ start <+: i.command → start.isPrefixOf i.command = false :=
    fun _ hnot => Bool.eq_false_iff.mpr fun hp => hnot (List.isPrefixOf_iff_prefix.mp hp)
  have hprompt : isPrompted i.command = false := by
    rw [isPrompted, h.command_trimmed, startsWithAny, List.any_cons, List.any_cons,
      hstart ['$', ' '] h.no_prompt.1, hstart ['>', ' '] h.no_prompt.2]
    rfl
  have hcommand : commandIn? i.command = some i.command := by
    rw [commandIn?, h.command_trimmed]
    simp [h.command_ne, hstart ['#'] h.no_comment, hprompt]
  have hprompts : (i.block n).hasPrompts = false := by
    rw [CodeBlock.hasPrompts, block, List.any_cons, hprompt]
    rfl
  rw [CodeBlock.commands, hprompts, if_neg Bool.false_ne_true, block, List.filterMap_cons,
    hcommand]
  rfl

/-- **The item of a written block is the one that is meant.** -/
theorem ofBlock?_block (h : i.IsWritable) {d : Document} (hd : d.frontmatter = none)
    (timeout : Int) (n : Nat) : Item.ofBlock? d timeout (i.block n) = some (i.item timeout) := by
  have hdir : d.workingDir = none := by rw [Document.workingDir, hd]
  rw [Item.ofBlock?, commands_block h, hdir, Option.or_none]
  simp only [joinWith, List.isEmpty_iff, h.command_ne, if_false]
  rfl

theorem filterMap_blocksFrom {d : Document} (hd : d.frontmatter = none) (timeout : Int) :
    ∀ {items : List WrittenItem}, (∀ i ∈ items, i.IsWritable) → ∀ n,
      (blocksFrom n items).filterMap (Item.ofBlock? d timeout) = items.map (item timeout)
  | [], _, _ => rfl
  | i :: items, h, n => by
    have hi : i.IsWritable := h i List.mem_cons_self
    rw [blocksFrom, List.filterMap_cons, ofBlock?_block hi hd,
      filterMap_blocksFrom hd timeout fun j hj => h j (List.mem_cons_of_mem i hj)]
    rfl

/-! ## Whole documents -/

theorem isQuiet_expectedLines (h : i.IsWritable) : IsQuiet i.expectedLines := by
  cases hexpected : i.expected with
  | none =>
    rw [expectedLines, hexpected]
    exact IsQuiet.nil
  | some expected =>
    obtain ⟨strategy, body⟩ := expected
    rw [expectedLines, hexpected]
    exact (IsQuiet.directive (Directive.ofLine?_written (d := .expect strategy) trivial)).append
      (isQuiet_blockLines isLanguage_nil fun line hline =>
        h.no_fence line (mem_bodyLines hexpected hline))

/-- An item brings no heading. -/
theorem isQuiet_lines (h : i.IsWritable) : IsQuiet i.lines := by
  have hdirectives : IsQuiet (i.directives.map Directive.written) := by
    rw [List.map_eq_flatMap]
    exact IsQuiet.flatMap fun d hd => IsQuiet.directive (Directive.ofLine?_written (h.directives d hd))
  have hcommand : IsQuiet (blockLines "bash".toList [i.command]) := by
    refine isQuiet_blockLines isLanguage_bash fun line hline => ?_
    rw [List.mem_singleton.mp hline]
    exact h.no_fence _ List.mem_cons_self
  exact hdirectives.append (hcommand.append (isQuiet_expectedLines h))

theorem isUnbroken_expectedLines (h : i.IsWritable) : ∀ line ∈ i.expectedLines, IsUnbroken line := by
  cases hexpected : i.expected with
  | none =>
    rw [expectedLines, hexpected]
    intro line hline
    cases hline
  | some expected =>
    obtain ⟨strategy, body⟩ := expected
    rw [expectedLines, hexpected]
    intro line hline
    rcases List.mem_cons.mp hline with rfl | hline
    · exact Directive.isUnbroken_written (d := .expect strategy) trivial
    · exact isUnbroken_blockLines isLanguage_nil
        (fun l hl => h.unbroken l (mem_bodyLines hexpected hl)) line hline

theorem isUnbroken_lines (h : i.IsWritable) : ∀ line ∈ i.lines, IsUnbroken line := by
  intro line hline
  rcases List.mem_append.mp hline with hline | hline
  · obtain ⟨d, hd, rfl⟩ := List.mem_map.mp hline
    exact Directive.isUnbroken_written (h.directives d hd)
  · rcases List.mem_append.mp hline with hline | hline
    · refine isUnbroken_blockLines isLanguage_bash (fun l hl => ?_) line hline
      rw [List.mem_singleton.mp hl]
      exact h.unbroken _ List.mem_cons_self
    · exact isUnbroken_expectedLines h line hline

end WrittenItem

/-- The lines of a written document are those that were written. -/
theorem lines_verificationText {items : List WrittenItem} (h : ∀ i ∈ items, i.IsWritable) :
    lines (verificationText items) =
      "## Verification".toList :: items.flatMap WrittenItem.lines := by
  have hheading : IsUnbroken "## Verification".toList := by decide
  refine lines_endLines fun line hline => ?_
  rcases List.mem_cons.mp hline with rfl | hline
  · exact hheading
  · obtain ⟨i, hi, hline⟩ := List.mem_flatMap.mp hline
    exact WrittenItem.isUnbroken_lines (h i hi) line hline

/--
**The items that are written are those of the spec, in their order.**

Each one has its directory, its variables, its command and its expected output; it is to end with the
exit code zero, in the given time. No directive goes from one item to the next, and neither a directory
nor a value is taken for the end of a comment.
-/
theorem Document.spec?_verificationText (path : Path) (timeout : Int) {items : List WrittenItem}
    (hne : items ≠ []) (h : ∀ i ∈ items, i.IsWritable) :
    ∃ d, Document.read path (verificationText items) = .ok d ∧
      d.spec? timeout =
        some { file := path, line := 1, items := items.map (WrittenItem.item timeout) } := by
  obtain ⟨d, hread, hpath, hrecord, hsections⟩ := Document.read_section path
    (lines_verificationText h) rfl (IsQuiet.flatMap fun i hi => WrittenItem.isQuiet_lines (h i hi))
  refine ⟨d, hread, ?_⟩
  have hname : strip ((strip "## Verification".toList).drop 3) = verificationSection := by rfl
  rw [hname] at hsections
  have hfind : d.find? verificationSection = some
      { name := verificationSection, startLine := 1, body := items.flatMap WrittenItem.lines } := by
    rw [Document.find?, hsections]
    exact List.find?_cons_of_pos (beq_self_eq_true (fold verificationSection))
  have hblocks : (Section.mk verificationSection 1 (items.flatMap WrittenItem.lines)).executableBlocks =
      WrittenItem.blocksFrom 2 items := by
    rw [Section.executableBlocks, Section.blocks, CodeBlock.attach, WrittenItem.attachOne_scan h,
      List.append_nil, List.reverse_reverse, WrittenItem.executable_blocksFrom]
  rw [Document.spec?, hfind]
  simp only [hblocks, WrittenItem.filterMap_blocksFrom hrecord timeout h, List.isEmpty_map,
    List.isEmpty_iff, hne, if_false, hpath]

/-- Items whose texts look like the end of a comment, an assignment, a prompt or a heading, where they
are none. -/
theorem Document.spec?_verificationText_marks :
    let items : List WrittenItem :=
      [{ workingDir := some "build --> out".toList,
         env := [("MODE".toList, "a=b -->".toList), ("EMPTY".toList, [])],
         command := "echo '$ ls' # <!-- pave:run -->".toList,
         expected := some (.exact, ["$ ls".toList, [], "## Verification".toList, "~~~".toList]) },
       { command := "make test".toList }]
    items.flatMap WrittenItem.lines =
        ["<!-- pave:working_dir build --> out -->".toList, "<!-- pave:env MODE=a=b --> -->".toList,
          "<!-- pave:env EMPTY= -->".toList, "```bash".toList,
          "echo '$ ls' # <!-- pave:run -->".toList, "```".toList,
          "<!-- pave:expect:exact -->".toList, "```".toList, "$ ls".toList, [],
          "## Verification".toList, "~~~".toList, "```".toList, "```bash".toList,
          "make test".toList, "```".toList] ∧
      (items ≠ [] ∧ ∀ i ∈ items, i.IsWritable) ∧
      ∃ d, Document.read (Path.ofText "guide.md".toList) (verificationText items) = .ok d ∧
        d.spec? 7000 = some
          { file := Path.ofText "guide.md".toList, line := 1,
            items :=
              [{ command := "echo '$ ls' # <!-- pave:run -->".toList,
                 workingDir := some "build --> out".toList,
                 expected := some
                   { strategy := .exact, content := "$ ls\n\n## Verification\n~~~".toList },
                 timeout := 7000,
                 env := [("MODE".toList, "a=b -->".toList), ("EMPTY".toList, [])] },
               { command := "make test".toList, timeout := 7000 }] } := by
  intro items
  have hne : items ≠ [] := List.cons_ne_nil _ _
  have hwritable : ∀ i ∈ items, i.IsWritable := by decide +kernel
  refine ⟨?_, ⟨hne, hwritable⟩, Document.spec?_verificationText _ 7000 hne hwritable⟩
  -- the longest lines as their characters, which the evaluation would else take from bytes
  rw [show "<!-- pave:working_dir build --> out -->".toList = _ from String.toList_ofList,
    show "<!-- pave:env MODE=a=b --> -->".toList = _ from String.toList_ofList,
    show "<!-- pave:env EMPTY= -->".toList = _ from String.toList_ofList,
    show "<!-- pave:expect:exact -->".toList = _ from String.toList_ofList]
  decide +kernel

end DocAudit
