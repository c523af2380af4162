import DocAudit.Proofs.Markdown.SectionBlocks
import DocAudit.Proofs.Text.Joined
import Mathlib

/-!
# The content of a block and the text

A block keeps the lines between its fences, and its content puts them together with line feeds. The text may
end these lines otherwise: with a carriage return in front of the line feed, or with one of the other
characters that end lines. So the content is a part of the text as it stands there, or only its lines are.

## Contents

* `LiesBetween`, `LiesBetween.unique`: the part of a text between two of its lines
* `liesBetween_of_getElem?`: the lines of that part, with their terminators
* `Document.read_verbatim`: **which blocks have the characters of the text as their content**
-/

namespace DocAudit

open Text

/-- The part `inner` of the text starts right behind the terminator of the line at `i`, and ends right before
the terminator in front of the line at `j`. -/
def LiesBetween (inner text : Text) (i j : Nat) : Prop :=
  ∃ ending, IsTerminator ending ∧ ((terminated text)[j - 1]?).map (·.2) = some ending ∧
    text = unterminated ((terminated text).take (i + 1)) ++ inner ++ ending ++
      unterminated ((terminated text).drop j)

/-- It is the only one. -/
theorem LiesBetween.unique {inner inner' text : Text} {i j : Nat} (h : LiesBetween inner text i j)
    (h' : LiesBetween inner' text i j) : inner = inner' := by
  obtain ⟨ending, -, hending, hcut⟩ := h
  obtain ⟨ending', -, hending', hcut'⟩ := h'
  obtain rfl := Option.some.inj (hending.symm.trans hending')
  have heq := hcut.symm.trans hcut'
  rwa [List.append_cancel_right_eq, List.append_cancel_right_eq, List.append_cancel_left_eq] at heq

section Between

variable {text : Text} {i m : Nat}

/-- All lines in front of another one have terminators. -/
theorem isTerminator_of_mem_take (hm : m < (lines text).length) :
    ∀ p ∈ (terminated text).take m, IsTerminator p.2 := by
  have hcut := isCut_terminated text
  rw [← List.take_append_drop m (terminated text)] at hcut
  refine hcut.isTerminator_of_append fun hnil => ?_
  rw [List.drop_eq_nil_iff] at hnil
  rw [lines, List.length_map] at hm
  omega

/-- **Between two lines stand the lines between them, each but the last with its terminator.** -/
theorem liesBetween_of_getElem? {last ending : Text} (him : i < m) (hm : m + 1 < (lines text).length)
    (hlast : (terminated text)[m]? = some (last, ending)) :
    LiesBetween (unterminated (((terminated text).take m).drop (i + 1)) ++ last) text i (m + 1) := by
  have hinside : (last, ending) ∈ (terminated text).take (m + 1) :=
    List.mem_iff_getElem?.mpr ⟨m, by rw [List.getElem?_take_of_lt (Nat.lt_succ_self m), hlast]⟩
  refine ⟨ending, isTerminator_of_mem_take hm _ hinside, by rw [Nat.add_sub_cancel, hlast]; rfl, ?_⟩
  have hone : unterminated [(last, ending)] = last ++ ending := by simp [unterminated]
  calc text = unterminated (terminated text) := (unterminated_terminated text).symm
    _ = unterminated ((terminated text).take (i + 1) ++
          (((terminated text).take m).drop (i + 1) ++ [(last, ending)]) ++
          (terminated text).drop (m + 1)) := by
      rw [← drop_take_succ (Nat.succ_le_of_lt him) hlast,
        ← take_eq_append (Nat.succ_le_succ (Nat.le_of_lt him)), List.take_append_drop]
    _ = _ := by simp only [unterminated_append, hone, List.append_assoc]

/-- **Lines that are put together with line feeds are the part of the text when it has line feeds there.** -/
theorem joinWith_eq_unterminated_iff {last ending : Text} (him : i < m) (hm : m + 1 < (lines text).length)
    (hlast : (terminated text)[m]? = some (last, ending)) :
    joinWith ['\n'] (((lines text).take (m + 1)).drop (i + 1)) =
        unterminated (((terminated text).take m).drop (i + 1)) ++ last ↔
      ∀ k p, i < k → k < m → (terminated text)[k]? = some p → p.2 = ['\n'] := by
  have hlines : ((lines text).take (m + 1)).drop (i + 1) =
      (((terminated text).take m).drop (i + 1)).map (·.1) ++ [last] := by
    rw [lines, ← List.map_take, ← List.map_drop, drop_take_succ (Nat.succ_le_of_lt him) hlast,
      List.map_append, List.map_singleton]
  have hterminators : ∀ p ∈ ((terminated text).take m).drop (i + 1), IsTerminator p.2 := fun p hp =>
    isTerminator_of_mem_take (Nat.lt_of_succ_lt hm) p (List.mem_of_mem_drop hp)
  have hjoin : joinWith ['\n'] (((lines text).take (m + 1)).drop (i + 1)) =
      endLines ((((terminated text).take m).drop (i + 1)).map (·.1)) ++ last := by
    rw [hlines, joinWith_concat]
    rfl
  rw [hjoin, List.append_cancel_right_eq, endLines_eq_unterminated_iff hterminators]
  constructor
  · exact fun hall k p hik hkm hk => hall p (mem_drop_take_iff.mpr ⟨k, hik, hkm, hk⟩)
  · intro hall p hp
    obtain ⟨k, hik, hkm, hk⟩ := mem_drop_take_iff.mp hp
    exact hall k p hik hkm hk

end Between

/--
**Which blocks have the characters of the text as their content.**

A block of a document begins at a line that opens a fence, and ends before the first line that closes it or at
the end of the text. Its content is the lines between, with line feeds between them. If there is such a line,
and lines in front of it, then the content is the part of the text between the two fences exactly when each
line of it but the last is ended by a line feed. How the lines of the fences are ended, or other lines of the
text, does not matter.
-/
theorem Document.read_verbatim {path : Path} {text : Text} {d : Document} {s : Section} {b : CodeBlock}
    (h : Document.read path text = .ok d) (hs : s ∈ d.sections) (hb : b ∈ s.blocks) :
    ∃ i f j, b.startLine = i + 1 ∧ OpensAt (lines text) f i ∧ EndsAt (lines text) f i j ∧
      b.content = joinWith ['\n'] (((lines text).take j).drop (i + 1)) ∧
      (j < (lines text).length → i + 1 < j → (∃ inner, LiesBetween inner text i j) ∧
        ∀ inner, LiesBetween inner text i j → (b.content = inner ↔
          ∀ k p, i < k → k + 1 < j → (terminated text)[k]? = some p → p.2 = ['\n'])) := by
  obtain ⟨k, hk⟩ := List.mem_iff_getElem?.mp hs
  obtain ⟨i, f, -, -, hopens, -, hplain⟩ := (isIn_of_read h hk).mem_map_plain_blocks_iff.mp
    (List.mem_map_of_mem (f := CodeBlock.plain) hb)
  obtain ⟨j, hends, hbody⟩ := exists_endsAt f hopens.lt_length
  have hcontent : b.content = joinWith ['\n'] (((lines text).take j).drop (i + 1)) := by
    rw [← hbody]
    exact congrArg (fun b => joinWith ['\n'] (CodeBlock.body b)) hplain
  refine ⟨i, f, j, congrArg CodeBlock.startLine hplain, hopens, hends, hcontent, fun hj hij => ?_⟩
  obtain ⟨m, rfl⟩ : ∃ m, j = m + 1 := ⟨j - 1, by omega⟩
  have him : i < m := Nat.lt_of_succ_lt_succ hij
  obtain ⟨⟨last, ending⟩, hlast⟩ : ∃ p, (terminated text)[m]? = some p := by
    rw [lines, List.length_map] at hj
    exact ⟨_, List.getElem?_eq_getElem (Nat.lt_of_succ_lt hj)⟩
  have hbetween := liesBetween_of_getElem? him hj hlast
  refine ⟨⟨_, hbetween⟩, fun inner hinner => ?_⟩
  obtain rfl := hinner.unique hbetween
  simp only [hcontent, joinWith_eq_unterminated_iff him hj hlast, Nat.succ_lt_succ_iff]

/-- The lines of the fences end in their own way. -/
def framedText : Text := "## Use\r\n```\x0ca\n\nb\r\n```\x0c".toList

/-- The section of the text. -/
def framedSection : Section where
  name := "Use".toList
  startLine := 1
  body := ["```".toList, "a".toList, [], "b".toList, "```".toList]

theorem Document.read_verbatim_framed :
    ∃ d s b, Document.read (Path.ofText "use.md".toList) framedText = .ok d ∧ s ∈ d.sections ∧
      b ∈ s.blocks ∧ b.startLine = 2 ∧ LiesBetween b.content framedText 1 5 := by
  have hread : Document.read (Path.ofText "use.md".toList) framedText =
      .ok ⟨Path.ofText "use.md".toList, none, [framedSection], 6, none⟩ := by cbv
  obtain ⟨b, hb, hstart⟩ : ∃ b ∈ framedSection.blocks, b.startLine = 2 := by decide
  have hlines : lines framedText =
      ["## Use".toList, "```".toList, "a".toList, [], "b".toList, "```".toList] := by decide
  have hopens : OpensAt (lines framedText) ⟨.backtick, 3, []⟩ 1 := by
    rw [hlines]
    exact ⟨by decide, by decide, _, rfl, by decide⟩
  have hends : EndsAt (lines framedText) ⟨.backtick, 3, []⟩ 1 5 := by
    rw [hlines]
    exact .of_closes (by decide) (by decide) rfl (by decide)
  obtain ⟨i, f, j, hplace, hopens', hends', -, hbetween⟩ :=
    read_verbatim hread List.mem_cons_self hb
  obtain rfl : i = 1 := Nat.succ.inj (hplace.symm.trans hstart)
  obtain rfl := hopens'.unique hopens
  obtain rfl := hends'.unique hends
  obtain ⟨⟨inner, hinner⟩, hiff⟩ := hbetween (by decide) (by decide)
  have hcontent : b.content = inner := (hiff inner hinner).mpr (by
    intro k p h1 h5 hp
    obtain rfl | rfl : k = 2 ∨ k = 3 := by omega
    · obtain rfl := Option.some.inj hp
      decide
    · obtain rfl := Option.some.inj hp
      decide)
  exact ⟨_, framedSection, b, hread, List.mem_cons_self, hb, hstart, hcontent ▸ hinner⟩

/-- The block holds other characters than stand between its fences: a carriage return is missing, and there
is a line feed in the place of a form feed. -/
def mixedText : Text := "## Use\r\n```\r\na\r\nb\x0cc\r\n```\r\n".toList

/-- The section of the text. -/
def mixedSection : Section where
  name := "Use".toList
  startLine := 1
  body := ["```".toList, "a".toList, "b".toList, "c".toList, "```".toList]

theorem Document.content_mixed :
    ∃ d s b, Document.read (Path.ofText "use.md".toList) mixedText = .ok d ∧ s ∈ d.sections ∧
      b ∈ s.blocks ∧ b.startLine = 2 ∧
      OpensAt (lines mixedText) ⟨.backtick, 3, []⟩ 1 ∧ EndsAt (lines mixedText) ⟨.backtick, 3, []⟩ 1 5 ∧
      5 < (lines mixedText).length ∧ LiesBetween "a\r\nb\x0cc".toList mixedText 1 5 ∧
      b.content = "a\nb\nc".toList := by
  have hread : Document.read (Path.ofText "use.md".toList) mixedText =
      .ok ⟨Path.ofText "use.md".toList, none, [mixedSection], 6, none⟩ := by cbv
  obtain ⟨b, hb, hstart, hcontent⟩ :
    ∃ b ∈ mixedSection.blocks, b.startLine = 2 ∧ b.content = "a\nb\nc".toList := by decide
  have hlines : lines mixedText =
      ["## Use".toList, "```".toList, "a".toList, "b".toList, "c".toList, "```".toList] := by decide
  refine ⟨_, mixedSection, b, hread, List.mem_cons_self, hb, hstart, ?_, ?_, by decide, ?_, hcontent⟩
  · rw [hlines]
    exact ⟨by decide, by decide, _, rfl, by decide⟩
  · rw [hlines]
    exact .of_closes (by decide) (by decide) rfl (by decide)
  · exact ⟨['\r', '\n'], Or.inl rfl, by decide, by decide⟩

end DocAudit
