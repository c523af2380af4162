import DocAudit.Proofs.Text.Joined
import DocAudit.Proofs.Text.Lines
import DocAudit.Proofs.Text.Strip
import DocAudit.Proofs.Verification.Expectation
import DocAudit.Verification.Status

/-!
# Shown sessions

A block may show a session: commands behind prompts, and below each one the lines that it prints. Of
these lines the block keeps what stands behind the first one that is neither blank nor a comment, across
all prompts. What is kept stands in one piece in the real output, so a run that prints the session again
is as expected.

## Contents

* `Exchange`, `sessionText`, `sessionOutput`: a session, the text that shows it, and what it prints
* `Transcript.ofLines_session`: what a block keeps of a session
* `joinWith_infix_endLines`: lines next to each other are one piece of an output
* `Transcript.isMet_session`: **the output that a shown session is expected to give is met by it**
-/

namespace DocAudit

open Text

/-! ## Sessions -/

/-- A command of a session, and the lines that it prints. -/
structure Exchange where
  command : Text
  printed : List Text := []
  deriving DecidableEq, Repr

namespace Exchange

/-- The line with the prompt. -/
def promptLine (e : Exchange) : Text := '$' :: ' ' :: e.command

/-- The lines that show the exchange. -/
def lines (e : Exchange) : List Text := e.promptLine :: e.printed

/-- The exchange can be told from its lines: there is a command, nothing that is printed looks like a
prompt, and everything is on one line each. -/
structure IsPlain (e : Exchange) : Prop where
  command_said : isBlankText e.command = false
  no_prompt : ∀ line ∈ e.printed, ¬ "$ ".toList <+: strip line ∧ ¬ "> ".toList <+: strip line
  unbroken : ∀ line ∈ e.lines, IsUnbroken line

instance (e : Exchange) : Decidable e.IsPlain :=
  decidable_of_iff
    (isBlankText e.command = false ∧
      (∀ line ∈ e.printed, ¬ "$ ".toList <+: strip line ∧ ¬ "> ".toList <+: strip line) ∧
      ∀ line ∈ e.lines, IsUnbroken line)
    ⟨fun ⟨h₁, h₂, h₃⟩ => ⟨h₁, h₂, h₃⟩, fun ⟨h₁, h₂, h₃⟩ => ⟨h₁, h₂, h₃⟩⟩

end Exchange

/-- The lines that show a session. -/
def sessionLines (session : List Exchange) : List Text := session.flatMap Exchange.lines

/-- The text that shows a session. -/
def sessionText (session : List Exchange) : Text := joinWith ['\n'] (sessionLines session)

/-- What the commands of a session print, one after the other. -/
def sessionOutput (session : List Exchange) : Text := endLines (session.flatMap (·.printed))

/-! ## Lines with prompts -/

/-- A text that says something ends in white space behind a last character that is none. -/
theorem exists_last_not_blank {s : Text} (h : isBlankText s = false) :
    ∃ front c blanks, s = front ++ [c] ++ blanks ∧ isBlank c = false ∧
      ∀ b ∈ blanks, isBlank b = true := by
  induction s using List.reverseRecOn with
  | nil => cases h
  | append_singleton s c ih =>
    cases hc : isBlank c with
    | false => exact ⟨s, c, [], (List.append_nil _).symm, hc, by simp⟩
    | true =>
      have hs : isBlankText s = false := by simpa [isBlankText, hc] using h
      obtain ⟨front, d, blanks, rfl, hd, hblanks⟩ := ih hs
      refine ⟨front, d, blanks ++ [c], by simp, hd, ?_⟩
      intro b hb
      rcases List.mem_append.mp hb with hb | hb
      · exact hblanks b hb
      · rw [List.mem_singleton.mp hb]
        exact hc

namespace Exchange

variable {e : Exchange}

/-- A prompt with a command behind it stays in front of the command when the line is trimmed. -/
theorem strip_promptLine (h : isBlankText e.command = false) :
    ∃ t, strip e.promptLine = '$' :: ' ' :: t ∧ strip t = strip e.command := by
  obtain ⟨front, c, blanks, hcommand, hc, hblanks⟩ := exists_last_not_blank h
  refine ⟨front ++ [c], ?_, ?_⟩
  · have htrimmed : strip ('$' :: (' ' :: front ++ [c])) = '$' :: (' ' :: front ++ [c]) :=
      strip_cons_concat (' ' :: front) (by decide) hc
    have hend : strip ([] ++ '$' :: (' ' :: front ++ [c]) ++ blanks) = _ :=
      strip_blank_append _ (by simp) hblanks
    rw [promptLine, hcommand]
    rw [List.nil_append, htrimmed] at hend
    simpa using hend
  · have hend : strip ([] ++ (front ++ [c]) ++ blanks) = _ :=
      strip_blank_append _ (by simp) hblanks
    rw [hcommand]
    exact hend.symm

theorem isPrompted_promptLine (h : isBlankText e.command = false) :
    isPrompted e.promptLine = true := by
  obtain ⟨t, ht, -⟩ := strip_promptLine h
  rw [isPrompted, ht]
  rfl

/-- The command in the line is the one behind the prompt. -/
theorem commandIn?_promptLine (h : isBlankText e.command = false) :
    commandIn? e.promptLine = some (strip e.command) := by
  obtain ⟨t, ht, hcommand⟩ := strip_promptLine h
  have hprompt : isPrompted (strip e.promptLine) = true := by
    unfold isPrompted
    rw [strip_strip, ht]
    rfl
  have hsaid : (strip e.command).isEmpty = false := by
    rw [List.isEmpty_eq_false_iff]
    intro hnil
    rw [strip_eq_nil_iff.mp hnil] at h
    cases h
  rw [ht] at hprompt
  unfold commandIn?
  simp only [ht, hprompt]
  simp [hcommand, hsaid]

/-- What is printed looks like no prompt. -/
theorem IsPlain.isPrompted_eq_false (h : e.IsPlain) {line : Text} (hline : line ∈ e.printed) :
    isPrompted line = false := by
  obtain ⟨hdollar, hangle⟩ := h.no_prompt line hline
  have hstart : ∀ start : Text, ¬ start <+: strip line → start.isPrefixOf (strip line) = false :=
    fun _ hnot => Bool.eq_false_iff.mpr fun hp => hnot (List.isPrefixOf_iff_prefix.mp hp)
  rw [isPrompted, startsWithAny, List.any_cons, List.any_cons, hstart ['$', ' '] hdollar,
    hstart ['>', ' '] hangle]
  rfl

end Exchange

/-! ## What a block keeps of a session -/

namespace Transcript

/-- A line that is skipped as long as nothing was printed. -/
def isSkipped (line : Text) : Bool := isBlankText line || ['#'].isPrefixOf (strip line)

/-- What is kept of printed lines. Nothing is skipped once something was printed. -/
def kept (started : Bool) (printed : List Text) : List Text :=
  if started then printed else printed.dropWhile isSkipped

/-- Something was printed when a kept line is among the printed ones. -/
def startedAfter (started : Bool) (printed : List Text) : Bool :=
  started || !(printed.dropWhile isSkipped).isEmpty

/-- What is kept of lines that are printed in two parts. -/
theorem kept_append (started : Bool) (xs ys : List Text) :
    kept started (xs ++ ys) = kept started xs ++ kept (startedAfter started xs) ys := by
  unfold kept startedAfter
  cases started with
  | true => rfl
  | false =>
    rw [List.dropWhile_append]
    cases hxs : (xs.dropWhile isSkipped).isEmpty with
    | true => simp [List.isEmpty_iff.mp hxs]
    | false => simp

/-- A line of output: it is kept, or skipped before the first kept one. -/
theorem afterPrompt_cons_printed {line : Text} (h : isPrompted line = false) (started : Bool)
    (rest : List Text) :
    afterPrompt started (line :: rest) =
      { commands := (afterPrompt (startedAfter started [line]) rest).commands
        output := kept started [line] ++ (afterPrompt (startedAfter started [line]) rest).output } := by
  rw [afterPrompt, if_neg (by simp [h])]
  unfold kept startedAfter isSkipped
  cases started with
  | true => rfl
  | false =>
    by_cases hskip : (isBlankText line || ['#'].isPrefixOf (strip line)) = true
    · simp [hskip]
    · simp [hskip]

/-- Lines of output, one after the other. -/
theorem afterPrompt_append : ∀ {printed : List Text}, (∀ line ∈ printed, isPrompted line = false) →
    ∀ (started : Bool) (rest : List Text),
      afterPrompt started (printed ++ rest) =
        { commands := (afterPrompt (startedAfter started printed) rest).commands
          output := kept started printed ++
            (afterPrompt (startedAfter started printed) rest).output }
  | [], _, started, rest => by
    cases started <;> rfl
  | line :: printed, h, started, rest => by
    have hline := h line List.mem_cons_self
    have hstarted : startedAfter (startedAfter started [line]) printed =
        startedAfter started (line :: printed) := by
      unfold startedAfter
      cases started with
      | true => rfl
      | false =>
        cases hskip : isSkipped line <;> simp [hskip]
    rw [List.cons_append, afterPrompt_cons_printed hline,
      afterPrompt_append fun l hl => h l (List.mem_cons_of_mem line hl)]
    rw [hstarted, ← List.append_assoc, ← kept_append, List.singleton_append]

/-- **Of a session the prompts are kept as commands, and what is printed from the first line on that is
neither blank nor a comment.** -/
theorem afterPrompt_session : ∀ {session : List Exchange}, (∀ e ∈ session, e.IsPlain) →
    ∀ started : Bool,
      afterPrompt started (sessionLines session) =
        ⟨session.map Exchange.promptLine, kept started (session.flatMap (·.printed))⟩
  | [], _, started => by
    cases started <;> rfl
  | e :: session, h, started => by
    have he : e.IsPlain := h e List.mem_cons_self
    have hlines : sessionLines (e :: session) =
        e.promptLine :: (e.printed ++ sessionLines session) := rfl
    rw [hlines, afterPrompt, if_pos (Exchange.isPrompted_promptLine he.command_said),
      afterPrompt_append fun _ hl => he.isPrompted_eq_false hl,
      afterPrompt_session fun d hd => h d (List.mem_cons_of_mem e hd)]
    rw [List.flatMap_cons, kept_append, List.map_cons]

theorem ofLines_session {session : List Exchange} (h : ∀ e ∈ session, e.IsPlain) :
    ofLines (sessionLines session) =
      ⟨session.map Exchange.promptLine, (session.flatMap (·.printed)).dropWhile isSkipped⟩ := by
  cases session with
  | nil => rfl
  | cons e session =>
    have he : e.IsPlain := h e List.mem_cons_self
    have hprompt := Exchange.isPrompted_promptLine he.command_said
    have hafter := afterPrompt_session h false
    have hlines : sessionLines (e :: session) =
        e.promptLine :: (e.printed ++ sessionLines session) := rfl
    -- the first line is a prompt, so the block is read from there on as it is behind a prompt
    rw [hlines, afterPrompt, if_pos hprompt] at hafter
    rw [hlines, ofLines, hprompt, if_pos rfl]
    exact hafter

end Transcript

/-! ## Pieces of an output -/

/-- **Lines that are printed next to each other stand in one piece in the output.** -/
theorem joinWith_infix_endLines {ls printed : List Text} (h : ls <:+: printed) :
    joinWith ['\n'] ls <:+: endLines printed := by
  obtain ⟨before, after, rfl⟩ := h
  have hls : joinWith ['\n'] ls <+: endLines ls := by
    rcases List.eq_nil_or_concat ls with rfl | ⟨front, line, rfl⟩
    · exact List.nil_prefix
    · rw [List.concat_eq_append, joinWith_concat, endLines, List.flatMap_append]
      exact (List.prefix_append_right_inj _).mpr ⟨['\n'], by simp⟩
  obtain ⟨more, hmore⟩ := hls
  refine ⟨endLines before, more ++ endLines after, ?_⟩
  unfold endLines at *
  rw [List.flatMap_append, List.flatMap_append, ← hmore]
  simp

/-! ## Expected output of sessions -/

section Session

variable {session : List Exchange}

/-- The text of a session is cut into its lines again. -/
theorem splitAt_sessionText (hne : session ≠ []) (h : ∀ e ∈ session, e.IsPlain) :
    splitAt '\n' (sessionText session) = sessionLines session := by
  refine splitAt_joinWith ?_ ?_
  · obtain ⟨e, rest, rfl⟩ := List.exists_cons_of_ne_nil hne
    exact List.cons_ne_nil _ _
  · intro line hline hfeed
    obtain ⟨e, he, hline⟩ := List.mem_flatMap.mp hline
    have hbreak := (h e he).unbroken line hline '\n' hfeed
    revert hbreak
    decide

/-- **What a block shows of a session is part of what the session prints.** -/
theorem Transcript.output?_session (h : ∀ e ∈ session, e.IsPlain) {content : Text}
    (hcontent : (ofLines (sessionLines session)).output? = some content) :
    content <:+: sessionOutput session := by
  rw [ofLines_session h, output?] at hcontent
  simp only at hcontent
  split at hcontent
  · cases hcontent
  · rw [← Option.some.inj hcontent]
    exact joinWith_infix_endLines (List.dropWhile_suffix _).isInfix

/-- The commands of a block that shows a session are those behind the prompts. -/
theorem CodeBlock.commands_session (hne : session ≠ []) (h : ∀ e ∈ session, e.IsPlain)
    {b : CodeBlock} (hbody : b.body = sessionLines session) :
    b.commands = session.map fun e => strip e.command := by
  have hprompts : b.hasPrompts = true := by
    obtain ⟨e, rest, rfl⟩ := List.exists_cons_of_ne_nil hne
    rw [hasPrompts, hbody]
    exact List.any_eq_true.mpr ⟨e.promptLine, List.mem_cons_self,
      Exchange.isPrompted_promptLine (h e List.mem_cons_self).command_said⟩
  rw [commands, hprompts, if_pos rfl, hbody, Transcript.ofLines_session h, List.filterMap_map]
  rw [← List.filterMap_eq_map]
  exact List.filterMap_congr fun e he => Exchange.commandIn?_promptLine (h e he).command_said

/-- A command that ends as expected with the expected output passes, however output is compared. -/
theorem ItemResult.classify_of_met {item : Item} {stdout : Text}
    (hmet : outputMet item.expected stdout = .ok true) (m : Matching) :
    classify m item item.expectedExit stdout = .ok (.pass, none) := by
  unfold classify
  rw [if_neg (by simp)]
  cases hexpected : item.expected with
  | none => rfl
  | some e =>
    rw [hexpected, outputMet] at hmet
    simp only [hmet]
    rfl

end Session

/--
**The output that a shown session is expected to give is met by what the session prints.**

The lines with prompts are the commands, in order. What is expected is nothing, or one piece of what all
commands print; which lines were left out of the text does not matter. So the item of a shell block that
shows the session passes under all ways to compare output, when it prints the session again and ends as
expected.
-/
theorem Transcript.isMet_session {session : List Exchange} (hne : session ≠ [])
    (h : ∀ e ∈ session, e.IsPlain) :
    (ofLines (splitAt '\n' (sessionText session))).commands = session.map Exchange.promptLine ∧
      ((ofLines (splitAt '\n' (sessionText session))).output? = none ∨
        ∃ content, (ofLines (splitAt '\n' (sessionText session))).output? = some content ∧
          content <:+: sessionOutput session) ∧
      ∀ raw : RawBlock, raw.language = "bash".toList → raw.annotations.expect = none →
        raw.body = splitAt '\n' (sessionText session) →
        ∃ b, CodeBlock.attach [raw] = [b] ∧ b.executable = true ∧
          b.expected = ((ofLines raw.body).output?).map ({ strategy := .contains, content := · }) ∧
          ∀ (d : Document) (timeout : Int), ∃ item, Item.ofBlock? d timeout b = some item ∧
            item.command = joinWith " && ".toList (session.map fun e => strip e.command) ∧
            item.expected = b.expected ∧
            outputMet item.expected (sessionOutput session) = .ok true ∧
            ∀ m : Matching, ItemResult.classify m item item.expectedExit (sessionOutput session) =
              .ok (.pass, none) := by
  rw [splitAt_sessionText hne h]
  refine ⟨by rw [ofLines_session h], ?_, ?_⟩
  · cases hcontent : (ofLines (sessionLines session)).output? with
    | none => exact Or.inl rfl
    | some content => exact Or.inr ⟨content, rfl, output?_session h hcontent⟩
  · intro raw hlanguage hown hbody
    have hrun : CodeBlock.isExecutable raw = true := by
      have hshell : shellLanguages.contains (lower "bash".toList) = true := by decide
      rw [CodeBlock.isExecutable, hlanguage, hshell, Bool.or_true, Bool.true_or]
    have hattach : CodeBlock.attach [raw] = [CodeBlock.ofRaw raw] := by
      rw [CodeBlock.attach, List.foldl_cons, CodeBlock.attachOne_own hown]
      rfl
    have hexpected : (CodeBlock.ofRaw raw).expected =
        ((ofLines raw.body).output?).map ({ strategy := .contains, content := · }) := by
      rw [CodeBlock.ofRaw, hrun]
      rfl
    have hmet : outputMet (CodeBlock.ofRaw raw).expected (sessionOutput session) = .ok true := by
      rw [hexpected, hbody]
      cases hcontent : (ofLines (sessionLines session)).output? with
      | none => rfl
      | some content =>
        exact congrArg Except.ok (hasInfix_iff.mpr (output?_session h hcontent))
    have hcommands := CodeBlock.commands_session hne h (b := CodeBlock.ofRaw raw) hbody
    refine ⟨CodeBlock.ofRaw raw, hattach, hrun, hexpected, fun d timeout => ?_⟩
    have hitem := Item.ofBlock?_eq (b := CodeBlock.ofRaw raw) (by simp [hcommands, hne]) d timeout
    refine ⟨_, hitem, by rw [hcommands], rfl, hmet, ?_⟩
    intro m
    refine ItemResult.classify_of_met ?_ m
    exact hmet

/-- A session whose commands print blank lines, comments and single marks of prompts, before and after the
first line that is kept. -/
theorem Transcript.isMet_session_interleaved :
    let session : List Exchange :=
      [{ command := "make test".toList, printed := [[], "# building".toList, "ok 1".toList] },
       { command := " # note".toList },
       { command := "cat log ".toList,
         printed := [[], "# done".toList, "$".toList, "  >".toList] }]
    let raw : RawBlock :=
      { language := "bash".toList, body := splitAt '\n' (sessionText session), startLine := 3,
        annotations := {} }
    (session ≠ [] ∧ ∀ e ∈ session, e.IsPlain) ∧
      sessionText session =
        "$ make test\n\n# building\nok 1\n$  # note\n$ cat log \n\n# done\n$\n  >".toList ∧
      sessionOutput session = "\n# building\nok 1\n\n# done\n$\n  >\n".toList ∧
      (ofLines (splitAt '\n' (sessionText session))).commands =
        ["$ make test".toList, "$  # note".toList, "$ cat log ".toList] ∧
      (ofLines raw.body).output? = some "ok 1\n\n# done\n$\n  >".toList ∧
      ∃ b, CodeBlock.attach [raw] = [b] ∧ ∀ (d : Document) (timeout : Int),
        ∃ item, Item.ofBlock? d timeout b = some item ∧
          ∀ m : Matching, ItemResult.classify m item item.expectedExit (sessionOutput session) =
            .ok (.pass, none) := by
  intro session raw
  have hne : session ≠ [] := List.cons_ne_nil _ _
  have hplain : ∀ e ∈ session, e.IsPlain := by decide +kernel
  obtain ⟨hcommands, -, hblock⟩ := Transcript.isMet_session hne hplain
  obtain ⟨b, hattach, -, -, hitem⟩ := hblock raw rfl rfl rfl
  -- the written texts are taken as their characters, and only these are computed
  refine ⟨⟨hne, hplain⟩, Eq.trans (by decide +kernel) String.toList_ofList.symm,
    Eq.trans (by decide +kernel) String.toList_ofList.symm, hcommands,
    Eq.trans (by decide +kernel) (congrArg some String.toList_ofList.symm), b, hattach, fun d timeout => ?_⟩
  obtain ⟨item, hsome, -, -, -, hpass⟩ := hitem d timeout
  exact ⟨item, hsome, hpass⟩

end DocAudit
