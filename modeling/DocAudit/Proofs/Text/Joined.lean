import DocAudit.Text.Basic

/-!
# Joined texts

Texts that are put together with a separator between them, and cut at the separator again.

## Contents

* `cut_eq_some_iff`, `cut_eq_none`: a text cut at its first separator
* `not_mem_of_mem_splitAt`, `splitAt_append`: what the pieces are, and the first piece of a text
* `splitAt_joinWith`: **cutting gives the pieces back, when none has the separator in it**
* `mem_joinWith`, `joinWith_ne_nil`, `joinWith_concat`: the characters of the text, and its last piece
-/

namespace DocAudit.Text

variable {sep : Char}

/-- A text is cut at the first separator. -/
theorem cut_append {after : Text} :
    ∀ {before : Text}, sep ∉ before → cut sep (before ++ sep :: after) = some (before, after)
  | [], _ => by rw [List.nil_append, cut, if_pos rfl]
  | c :: before, h => by
    rw [List.mem_cons, not_or] at h
    rw [List.cons_append, cut, if_neg (Ne.symm h.1), cut_append h.2]
    rfl

/-- A text is cut at its first separator. -/
theorem cut_eq_some_iff {s before after : Text} :
    cut sep s = some (before, after) ↔ s = before ++ sep :: after ∧ sep ∉ before := by
  constructor
  · intro h
    induction s generalizing before with
    | nil => cases h
    | cons c rest ih =>
      rw [cut] at h
      split at h
      · next hc =>
        cases h
        exact ⟨by rw [hc]; rfl, List.not_mem_nil⟩
      · next hc =>
        obtain ⟨⟨before', after'⟩, hrest, he⟩ := Option.map_eq_some_iff.mp h
        cases he
        obtain ⟨rfl, hsep⟩ := ih hrest
        exact ⟨rfl, by rw [List.mem_cons, not_or]; exact ⟨Ne.symm hc, hsep⟩⟩
  · rintro ⟨rfl, hsep⟩
    exact cut_append hsep

theorem cut_eq_none {s : Text} (h : sep ∉ s) : cut sep s = none := by
  induction s with
  | nil => rfl
  | cons c s ih =>
    obtain ⟨hc, hs⟩ := List.ne_and_not_mem_of_not_mem_cons h
    rw [cut, if_neg hc.symm, ih hs]
    rfl

/-- A text without the separator is one piece. -/
theorem splitAt_of_not_mem : ∀ {piece : Text}, sep ∉ piece → splitAt sep piece = [piece]
  | [], _ => rfl
  | c :: r, h => by
    obtain ⟨hc, hr⟩ := List.ne_and_not_mem_of_not_mem_cons h
    rw [splitAt, if_neg hc.symm, splitAt_of_not_mem hr]

/-- No piece has the separator in it. -/
theorem not_mem_of_mem_splitAt {s piece : Text} (h : piece ∈ splitAt sep s) : sep ∉ piece := by
  induction s generalizing piece with
  | nil =>
    rw [List.mem_singleton.mp h]
    exact List.not_mem_nil
  | cons c s ih =>
    rw [splitAt] at h
    split at h
    · rcases List.mem_cons.mp h with rfl | h
      · exact List.not_mem_nil
      · exact ih h
    · next hc =>
      split at h
      · next hsplit => exact absurd hsplit (splitAt_ne_nil sep s)
      · next first rest hsplit =>
        rw [hsplit] at ih
        rcases List.mem_cons.mp h with rfl | h
        · exact List.not_mem_cons_of_ne_of_not_mem (Ne.symm hc) (ih List.mem_cons_self)
        · exact ih (List.mem_cons_of_mem first h)

/-- The first piece ends before the separator. -/
theorem splitAt_append : ∀ {piece : Text}, sep ∉ piece → ∀ rest : Text,
    splitAt sep (piece ++ sep :: rest) = piece :: splitAt sep rest
  | [], _, rest => by
    rw [List.nil_append, splitAt, if_pos rfl]
  | c :: r, h, rest => by
    obtain ⟨hc, hr⟩ := List.ne_and_not_mem_of_not_mem_cons h
    rw [List.cons_append, splitAt, if_neg hc.symm, splitAt_append hr]

/-- **Pieces that are joined are cut apart again.** -/
theorem splitAt_joinWith : ∀ {pieces : List Text}, pieces ≠ [] →
    (∀ piece ∈ pieces, sep ∉ piece) → splitAt sep (joinWith [sep] pieces) = pieces
  | [], hne, _ => absurd rfl hne
  | [piece], _, h => splitAt_of_not_mem (h piece List.mem_cons_self)
  | piece :: next :: rest, _, h => by
    have hrest : splitAt sep (joinWith [sep] (next :: rest)) = next :: rest :=
      splitAt_joinWith (List.cons_ne_nil next rest) fun p hp => h p (List.mem_cons_of_mem piece hp)
    rw [joinWith, List.append_assoc, List.singleton_append,
      splitAt_append (h piece List.mem_cons_self), hrest]

/-- Pieces that are not empty make no empty text. -/
theorem joinWith_ne_nil {sep : Text} : ∀ {pieces : List Text}, pieces ≠ [] →
    (∀ piece ∈ pieces, piece ≠ []) → joinWith sep pieces ≠ []
  | [], hne, _ => absurd rfl hne
  | [piece], _, h => h piece List.mem_cons_self
  | piece :: next :: rest, _, h => by
    rw [joinWith, List.append_assoc]
    exact List.append_ne_nil_of_left_ne_nil (h piece List.mem_cons_self) _

/-- A character of the text is one of a piece or of the separator. -/
theorem mem_joinWith {sep : Text} {c : Char} : ∀ {pieces : List Text}, c ∈ joinWith sep pieces →
    (∃ piece ∈ pieces, c ∈ piece) ∨ c ∈ sep
  | [], h => absurd h List.not_mem_nil
  | [piece], h => Or.inl ⟨piece, List.mem_cons_self, h⟩
  | piece :: next :: rest, h => by
    rw [joinWith, List.mem_append, List.mem_append] at h
    rcases h with (hpiece | hsep) | hrest
    · exact Or.inl ⟨piece, List.mem_cons_self, hpiece⟩
    · exact Or.inr hsep
    · rcases mem_joinWith hrest with ⟨later, hlater, hc⟩ | hsep
      · exact Or.inl ⟨later, List.mem_cons_of_mem piece hlater, hc⟩
      · exact Or.inr hsep

/-- The last piece, behind those before it. -/
theorem joinWith_concat (sep : Text) (pieces : List Text) (last : Text) :
    joinWith sep (pieces ++ [last]) = pieces.flatMap (· ++ sep) ++ last := by
  induction pieces with
  | nil => rfl
  | cons first pieces ih =>
    obtain ⟨next, rest, hne⟩ : ∃ next rest, pieces ++ [last] = next :: rest :=
      List.exists_cons_of_ne_nil (by simp)
    rw [List.cons_append, hne, joinWith, ← hne, ih, List.flatMap_cons]
    simp only [List.append_assoc]

end DocAudit.Text
