import DocAudit.Proofs.Markdown.SectionBlocks
import DocAudit.Proofs.Text.Joined
import DocAudit.Proofs.Text.Lines
import DocAudit.Verification.Spec

/-!
# Commands of a block

Output goes first, then blank lines and comments, and then the prompts. What stands behind a prompt is looked at
once more, but only for being empty. So a comment behind a prompt is a command, and it is the only way in which
one of the commands can be a comment.

## Contents

* `commandIn?_prompted`, `commandIn?_unprompted`: the command in a line
* `CodeBlock.commands_eq`: the commands of a block are in two parts of its lines
* `CodeBlock.filter_isComment_commands`: **the comments among the commands stand behind prompts**
* `Item.ofBlock?_eq`: the item of a block
* `CodeBlock.commands_plain`: **what the commands of a block are made of**
-/

namespace DocAudit

open Text

/-- A shell reads the text as a comment. -/
def isComment (s : Text) : Bool := ['#'].isPrefixOf s

/-- What the line has behind its prompt. -/
def behindPrompt (line : Text) : Text := strip ((strip line).drop 2)

/-! ## Lines -/

section Line

variable {line command : Text}

theorem isPrompted_strip (line : Text) : isPrompted (strip line) = isPrompted line := by
  rw [isPrompted, strip_strip, isPrompted]

/-- A line with a prompt is no comment. -/
theorem exists_strip_of_isPrompted (h : isPrompted line = true) :
    ∃ mark rest, strip line = mark :: rest ∧ mark ≠ '#' := by
  rw [isPrompted, startsWithAny, List.any_eq_true] at h
  obtain ⟨start, hstart, hprefix⟩ := h
  obtain ⟨rest, hrest⟩ := List.isPrefixOf_iff_prefix.mp hprefix
  rcases List.mem_pair.mp hstart with rfl | rfl
  · exact ⟨'$', ' ' :: rest, hrest.symm, by decide⟩
  · exact ⟨'>', ' ' :: rest, hrest.symm, by decide⟩

/-- **Behind a prompt everything is a command, unless nothing is there.** -/
theorem commandIn?_prompted (h : isPrompted line = true) :
    commandIn? line = if behindPrompt line = [] then none else some (behindPrompt line) := by
  obtain ⟨mark, rest, hline, hmark⟩ := exists_strip_of_isPrompted h
  rw [← isPrompted_strip] at h
  rw [commandIn?, behindPrompt]
  simp only [h, if_true, List.isEmpty_iff]
  rw [if_neg]
  simp [hline, hmark.symm]

/-- **Without a prompt, a line is a command when it is neither blank nor a comment.** -/
theorem commandIn?_unprompted (h : isPrompted line = false) :
    commandIn? line = if strip line = [] ∨ isComment (strip line) = true then none else some (strip line) := by
  rw [← isPrompted_strip] at h
  rw [commandIn?, isComment]
  simp only [h, Bool.or_eq_true, List.isEmpty_iff]
  split
  · rfl
  · next hnot => simp [not_or.mp hnot]

/-- A command is some part of its line, and nothing is left to trim. -/
theorem commandIn?_trimmed (h : commandIn? line = some command) :
    command ≠ [] ∧ strip command = command ∧ ∀ c ∈ command, c ∈ line := by
  cases hprompt : isPrompted line with
  | true =>
    rw [commandIn?_prompted hprompt] at h
    obtain ⟨hne, hcommand⟩ := Option.ite_none_left_eq_some.mp h
    obtain rfl := Option.some.inj hcommand
    exact ⟨hne, strip_strip _, fun c hc => mem_of_mem_strip (List.mem_of_mem_drop (mem_of_mem_strip hc))⟩
  | false =>
    rw [commandIn?_unprompted hprompt] at h
    obtain ⟨hne, hcommand⟩ := Option.ite_none_left_eq_some.mp h
    obtain rfl := Option.some.inj hcommand
    exact ⟨(not_or.mp hne).1, strip_strip _, fun c hc => mem_of_mem_strip hc⟩

/-- The command of a line is a comment only behind a prompt. -/
theorem filter_isComment_commandIn? (line : Text) :
    (commandIn? line).filter isComment =
      if isPrompted line = true ∧ isComment (behindPrompt line) = true then some (behindPrompt line)
      else none := by
  cases hprompt : isPrompted line with
  | true =>
    rw [commandIn?_prompted hprompt]
    by_cases hempty : behindPrompt line = []
    · simp [hempty, isComment]
    · rw [if_neg hempty, Option.filter_some]
      simp
  | false =>
    rw [commandIn?_unprompted hprompt]
    by_cases hplain : strip line = [] ∨ isComment (strip line) = true
    · simp [hplain]
    · rw [if_neg hplain, Option.filter_some]
      simp [(not_or.mp hplain).2]

end Line

/-! ## Blocks -/

namespace Transcript

/-- Behind a prompt, only lines with prompts are commands. -/
theorem commands_afterPrompt (started : Bool) (ls : List Text) :
    (afterPrompt started ls).commands = ls.filter isPrompted := by
  induction ls generalizing started with
  | nil => rfl
  | cons line rest ih =>
    rw [afterPrompt, List.filter_cons]
    split
    · simp only [ih]
    · split
      · exact ih started
      · exact ih true

/-- A session has its commands in the lines before the first prompt and in those with prompts. -/
theorem commands_ofLines (ls : List Text) :
    (ofLines ls).commands =
      ls.takeWhile (fun line => !isPrompted line) ++
        (ls.dropWhile fun line => !isPrompted line).filter isPrompted := by
  induction ls with
  | nil => rfl
  | cons line rest ih =>
    rw [ofLines, List.takeWhile_cons, List.dropWhile_cons]
    cases hprompt : isPrompted line with
    | true => simp [commands_afterPrompt, hprompt]
    | false => simp [ih]

end Transcript

namespace CodeBlock

variable {b : CodeBlock}

/-- The lines of a block that are no output: those before the first prompt and those with prompts. -/
def commandLines (b : CodeBlock) : List Text :=
  b.body.takeWhile (fun line => !isPrompted line) ++
    (b.body.dropWhile fun line => !isPrompted line).filter isPrompted

/-- **The commands of a block are those in the lines that are no output.** -/
theorem commands_eq (b : CodeBlock) : b.commands = b.commandLines.filterMap commandIn? := by
  rw [commands, commandLines]
  cases hprompts : b.hasPrompts with
  | true => rw [if_pos rfl, Transcript.commands_ofLines]
  | false =>
    have hnone : ∀ line ∈ b.body, (!isPrompted line) = true := by
      simpa [hasPrompts] using hprompts
    rw [List.takeWhile_eq_self_iff.mpr hnone, List.dropWhile_eq_nil_iff.mpr hnone]
    simp

theorem commandLines_sublist (b : CodeBlock) : b.commandLines.Sublist b.body := by
  conv_rhs => rw [← List.takeWhile_append_dropWhile (p := fun line => !isPrompted line) (l := b.body)]
  exact (List.Sublist.refl _).append List.filter_sublist

/-- No line with a prompt is output. -/
theorem filter_isPrompted_commandLines (b : CodeBlock) :
    b.commandLines.filter isPrompted = b.body.filter isPrompted := by
  conv_rhs => rw [← List.takeWhile_append_dropWhile (p := fun line => !isPrompted line) (l := b.body)]
  rw [commandLines, List.filter_append, List.filter_append, List.filter_filter]
  simp

theorem trimmed_of_mem_commands {command : Text} (h : command ∈ b.commands) :
    command ≠ [] ∧ strip command = command ∧ ∃ line ∈ b.body, ∀ c ∈ command, c ∈ line := by
  rw [commands_eq] at h
  obtain ⟨line, hline, hcommand⟩ := List.mem_filterMap.mp h
  obtain ⟨hne, htrimmed, hsub⟩ := commandIn?_trimmed hcommand
  exact ⟨hne, htrimmed, line, b.commandLines_sublist.subset hline, hsub⟩

/-- **The comments among the commands are those behind the prompts of the block, in their order.** -/
theorem filter_isComment_commands (b : CodeBlock) :
    b.commands.filter isComment = ((b.body.filter isPrompted).map behindPrompt).filter isComment := by
  rw [commands_eq, ← filter_isPrompted_commandLines, List.filter_filterMap, List.filter_map,
    List.filter_filter, ← List.filterMap_eq_map, List.filterMap_filter]
  refine List.filterMap_congr fun line _ => ?_
  rw [filter_isComment_commandIn?]
  simp [and_comm]

end CodeBlock

/-- **A block with a command makes an item.** -/
theorem Item.ofBlock?_eq {b : CodeBlock} (h : b.commands ≠ []) (d : Document) (timeout : Int) :
    Item.ofBlock? d timeout b = some
      { command := joinWith " && ".toList b.commands, workingDir := b.workingDir.or d.workingDir,
        expected := b.expected, timeout, env := b.env } := by
  have hpieces : ∀ piece ∈ b.commands, piece ≠ [] := fun _ hpiece =>
    (CodeBlock.trimmed_of_mem_commands hpiece).1
  have hne : (joinWith " && ".toList b.commands).isEmpty = false :=
    List.isEmpty_eq_false_iff.mpr (joinWith_ne_nil h hpieces)
  rw [Item.ofBlock?]
  simp only [hne]
  rfl

/-- The lines of the blocks of a document are lines of its text. -/
theorem Document.mem_lines_of_mem_blocks {path : Path} {text line : Text} {d : Document} {s : Section}
    {b : CodeBlock} (h : Document.read path text = .ok d) (hs : s ∈ d.sections) (hb : b ∈ s.blocks)
    (hline : line ∈ b.body) : line ∈ lines text := by
  obtain ⟨k, hk⟩ := List.mem_iff_getElem?.mp hs
  obtain ⟨i, f, -, -, -, -, hplain⟩ := (isIn_of_read h hk).mem_map_plain_blocks_iff.mp
    (List.mem_map_of_mem (f := CodeBlock.plain) hb)
  have hbody : b.body = ((lines text).drop (i + 1)).takeWhile fun line => !f.closes line :=
    congrArg CodeBlock.body hplain
  rw [hbody] at hline
  exact List.mem_of_mem_drop ((List.takeWhile_prefix _).subset hline)

/--
**What the commands of a block are made of.**

Every command is more than blanks, has no blanks around it, and stands on one line, and so does the command
line in which they are joined. The comments among them are the comments that stand behind a prompt, each of
which keeps the commands that follow it from being run. So no command is a comment exactly when no prompt of the
block has one behind it.
-/
theorem CodeBlock.commands_plain {b : CodeBlock} (h : ∀ line ∈ b.body, '\n' ∉ line) (d : Document)
    (timeout : Int) :
    (∀ command ∈ b.commands, command ≠ [] ∧ strip command = command ∧ '\n' ∉ command) ∧
    -- comments
    b.commands.filter isComment = ((b.body.filter isPrompted).map behindPrompt).filter isComment ∧
    ((∀ command ∈ b.commands, isComment command = false) ↔
      ∀ line ∈ b.body, isPrompted line = true → isComment (behindPrompt line) = false) ∧
    -- the item
    (Item.ofBlock? d timeout b = none ↔ b.commands = []) ∧
    ∀ item, Item.ofBlock? d timeout b = some item →
      item.command = joinWith " && ".toList b.commands ∧ '\n' ∉ item.command := by
  have hplain : ∀ command ∈ b.commands, command ≠ [] ∧ strip command = command ∧ '\n' ∉ command := by
    intro command hcommand
    obtain ⟨hne, htrimmed, line, hline, hsub⟩ := trimmed_of_mem_commands hcommand
    exact ⟨hne, htrimmed, fun hfeed => h line hline (hsub _ hfeed)⟩
  refine ⟨hplain, b.filter_isComment_commands, ?_, ?_, ?_⟩
  · have hnone : (∀ command ∈ b.commands, isComment command = false) ↔ b.commands.filter isComment = [] := by
      simp [List.filter_eq_nil_iff]
    rw [hnone, filter_isComment_commands, List.filter_eq_nil_iff, List.forall_mem_map, List.forall_mem_filter]
    simp only [Bool.not_eq_true]
  · constructor
    · intro hitem
      by_contra hne
      rw [Item.ofBlock?_eq hne] at hitem
      cases hitem
    · intro hnil
      rw [Item.ofBlock?, hnil]
      rfl
  · intro item hitem
    by_cases hnil : b.commands = []
    · rw [Item.ofBlock?, hnil] at hitem
      cases hitem
    · rw [Item.ofBlock?_eq hnil, Option.some.injEq] at hitem
      subst hitem
      refine ⟨rfl, fun hfeed => ?_⟩
      rcases mem_joinWith hfeed with ⟨command, hcommand, hmem⟩ | hsep
      · exact (hplain command hcommand).2.2 hmem
      · exact absurd hsep (by decide)

/-- Comments in front of the first prompt, as output, and behind a command. -/
def commentedBlock : CodeBlock where
  language := "bash".toList
  body := ["# first".toList, " make".toList, "$ ls # all".toList, "# out".toList, ">  cd".toList]
  startLine := 1
  executable := true

theorem CodeBlock.commands_plain_commented :
    (∀ line ∈ commentedBlock.body, '\n' ∉ line) ∧
      (∀ line ∈ commentedBlock.body, isPrompted line = true → isComment (behindPrompt line) = false) ∧
      commentedBlock.commands = ["make".toList, "ls # all".toList, "cd".toList] ∧
      ∀ command ∈ commentedBlock.commands, isComment command = false := by
  have hfeed : ∀ line ∈ commentedBlock.body, '\n' ∉ line := by decide
  have hprompts : ∀ line ∈ commentedBlock.body, isPrompted line = true →
      isComment (behindPrompt line) = false := by decide
  exact ⟨hfeed, hprompts, by decide, (commands_plain hfeed default 30000).2.2.1.mpr hprompts⟩

/-- A comment behind a prompt, and a command that the shell takes for a part of it. -/
def promptedComment : Text := "## Verification\n```bash\n$ # note\n$ echo hi\n```\n".toList

theorem CodeBlock.not_plain_promptedComment :
    ∃ d s b, Document.read (Path.ofText "doc.md".toList) promptedComment = .ok d ∧
      d.find? verificationSection = some s ∧ s.executableBlocks = [b] ∧
      b.commands = ["# note".toList, "echo hi".toList] ∧ isComment "# note".toList = true ∧
      d.spec? 30000 = some { file := Path.ofText "doc.md".toList, line := 1,
                             items := [{ command := "# note && echo hi".toList }] } := by
  have hread : Document.read (Path.ofText "doc.md".toList) promptedComment = .ok
      { path := Path.ofText "doc.md".toList, title := none,
        sections := [⟨"Verification".toList, 1, ["```bash".toList, "$ # note".toList, "$ echo hi".toList,
          "```".toList]⟩],
        lineCount := 5, frontmatter := none } := rfl
  have hblocks : Section.executableBlocks ⟨"Verification".toList, 1, ["```bash".toList, "$ # note".toList,
      "$ echo hi".toList, "```".toList]⟩ =
        [⟨"bash".toList, ["$ # note".toList, "$ echo hi".toList], 2, true, none, [], none⟩] := by decide +kernel
  refine ⟨_, _, _, hread, rfl, hblocks, rfl, by decide, ?_⟩
  show (if ((Section.executableBlocks _).filterMap (Item.ofBlock? _ _)).isEmpty then none else _) = _
  rw [hblocks]
  rfl

end DocAudit
