import DocAudit.Glob.Match
import DocAudit.Proofs.Glob.Spelling
import Mathlib.Data.List.Forall2

/-!
# Globs match by pieces

A text matches tokens when it falls into consecutive pieces, one for each token, and each piece fits
its token. Which piece fits which token is said here without the matcher.

## Contents

* `ClassItem.Contains`, `GlobToken.Fits`: the pieces of a token
* `GlobToken.mem_rests_iff`: a token leaves what stands behind a piece that fits
* `GlobToken.matchAll_iff`: the matcher finds pieces whenever there are some
* `PathPattern.globMatches_iff_pieces`: **the same for a pattern as it is written**
-/

namespace DocAudit

open Text

/-! ## Pieces of a token -/

namespace ClassItem

/-- The part of a class lists the character, or the character lies in its range by code point. -/
def Contains (c : Char) : ClassItem → Prop
  | single d => c = d
  | range low high => low.toNat ≤ c.toNat ∧ c.toNat ≤ high.toNat

/-- A range whose ends stand the wrong way round. -/
def IsReversed (item : ClassItem) : Prop :=
  ∃ low high : Char, item = range low high ∧ high.toNat < low.toNat

@[simp] theorem holds_iff {c : Char} {item : ClassItem} : item.holds c = true ↔ item.Contains c := by
  cases item with
  | single d => simp [holds, Contains]
  | range low high =>
    rw [holds, Bool.and_eq_true, decide_eq_true_eq, decide_eq_true_eq]
    exact Iff.rfl

/-- The matcher takes a character of a class that is not negated, and any other of one that is. -/
theorem any_holds_bne_iff {c : Char} {negated : Bool} {items : List ClassItem} :
    (items.any (·.holds c) != negated) = true ↔
      ((∃ item ∈ items, item.Contains c) ↔ negated = false) := by
  cases negated with
  | false => simp
  | true => simp

/-- A reversed range contains nothing. -/
theorem IsReversed.not_contains {item : ClassItem} (h : item.IsReversed) (c : Char) :
    ¬ item.Contains c := by
  obtain ⟨low, high, rfl, hlt⟩ := h
  rintro ⟨hlow, hhigh⟩
  omega

end ClassItem

namespace GlobToken

/-- The piece of a text fits the token. -/
def Fits : GlobToken → Text → Prop
  | literal c, piece => piece = [c]
  | anyOne, piece => ∃ c, piece = [c]
  | anyText, _ => True
  | anyDirs, piece => piece = [] ∨ piece.getLast? = some '/'
  | oneOf negated items, piece =>
    ∃ c, piece = [c] ∧ ((∃ item ∈ items, item.Contains c) ↔ negated = false)

/-- A class that lists reversed ranges only fits no character, and its negation every one. -/
theorem fits_oneOf_of_reversed {negated : Bool} {items : List ClassItem}
    (h : ∀ item ∈ items, item.IsReversed) (piece : Text) :
    Fits (oneOf negated items) piece ↔ negated = true ∧ ∃ c, piece = [c] := by
  have hnone : ∀ c, ¬ ∃ item ∈ items, ClassItem.Contains c item := by
    rintro c ⟨item, hi, hc⟩
    exact (h item hi).not_contains c hc
  simp only [Fits, hnone, false_iff, Bool.not_eq_false]
  constructor
  · rintro ⟨c, rfl, hn⟩
    exact ⟨hn, c, rfl⟩
  · rintro ⟨hn, c, rfl⟩
    exact ⟨c, rfl, hn⟩

/-! ## What a token leaves -/

theorem mem_ends_iff {s r : Text} : r ∈ ends s ↔ ∃ piece, s = piece ++ r := by
  induction s with
  | nil => simp [ends]
  | cons c s ih =>
    rw [ends, List.mem_cons, ih]
    constructor
    · rintro (rfl | ⟨piece, rfl⟩)
      · exact ⟨[], rfl⟩
      · exact ⟨c :: piece, rfl⟩
    · rintro ⟨piece, h⟩
      cases piece with
      | nil => exact Or.inl h.symm
      | cons d piece => exact Or.inr ⟨piece, (List.cons.inj h).2⟩

theorem mem_behindSlashes_iff {s r : Text} :
    r ∈ behindSlashes s ↔ ∃ piece, s = piece ++ '/' :: r := by
  induction s with
  | nil => simp [behindSlashes]
  | cons c s ih =>
    rw [behindSlashes]
    split
    · next hc =>
      subst hc
      rw [List.mem_cons, ih]
      constructor
      · rintro (rfl | ⟨piece, rfl⟩)
        · exact ⟨[], rfl⟩
        · exact ⟨'/' :: piece, rfl⟩
      · rintro ⟨piece, h⟩
        cases piece with
        | nil => exact Or.inl (List.cons.inj h).2.symm
        | cons d piece => exact Or.inr ⟨piece, (List.cons.inj h).2⟩
    · next hc =>
      rw [ih]
      constructor
      · rintro ⟨piece, rfl⟩
        exact ⟨c :: piece, rfl⟩
      · rintro ⟨piece, h⟩
        cases piece with
        | nil => exact absurd (List.cons.inj h).1 hc
        | cons d piece => exact ⟨piece, (List.cons.inj h).2⟩

/-- **A token leaves what stands behind a piece that fits.** -/
theorem mem_rests_iff {token : GlobToken} {s r : Text} :
    r ∈ token.rests s ↔ ∃ piece, token.Fits piece ∧ s = piece ++ r := by
  cases token with
  | literal c =>
    cases s with
    | nil => simp [rests, Fits]
    | cons d s => simp [rests, Fits, eq_comm]
  | anyOne =>
    cases s with
    | nil => simp [rests, Fits]
    | cons d s => simp [rests, Fits, eq_comm]
  | anyText => simp [rests, Fits, mem_ends_iff]
  | anyDirs =>
    rw [rests, List.mem_cons, mem_behindSlashes_iff]
    constructor
    · rintro (rfl | ⟨piece, rfl⟩)
      · exact ⟨[], Or.inl rfl, rfl⟩
      · exact ⟨piece ++ ['/'], Or.inr (by simp), by simp⟩
    · rintro ⟨piece, rfl | hlast, rfl⟩
      · exact Or.inl rfl
      · obtain ⟨front, rfl⟩ := List.getLast?_eq_some_iff.mp hlast
        exact Or.inr ⟨front, by simp⟩
  | oneOf negated items =>
    cases s with
    | nil => simp [rests, Fits]
    | cons d s =>
      rw [rests]
      constructor
      · intro h
        split at h
        · next hd =>
          rw [List.mem_singleton.mp h]
          exact ⟨[d], ⟨d, rfl, ClassItem.any_holds_bne_iff.mp hd⟩, rfl⟩
        · simp at h
      · rintro ⟨piece, ⟨c, rfl, hc⟩, h⟩
        obtain ⟨rfl, rfl⟩ := List.cons.inj h
        rw [if_pos (ClassItem.any_holds_bne_iff.mpr hc)]
        exact List.mem_singleton.mpr rfl

/-! ## The matcher -/

/-- What the tokens leave of some texts stands behind pieces that fit them in order. -/
theorem mem_foldl_rests_iff {tokens : List GlobToken} {left : List Text} {r : Text} :
    r ∈ tokens.foldl (fun left token => (left.flatMap token.rests).eraseDups) left ↔
      ∃ s ∈ left, ∃ pieces : List Text,
        List.Forall₂ Fits tokens pieces ∧ s = pieces.flatten ++ r := by
  -- every token leaves other texts, so the induction is for all of them
  induction tokens generalizing left with
  | nil =>
    constructor
    · intro h
      exact ⟨r, h, [], .nil, rfl⟩
    · rintro ⟨s, hs, pieces, hp, rfl⟩
      cases hp
      exact hs
  | cons token tokens ih =>
    rw [List.foldl_cons, ih]
    simp only [List.mem_eraseDups, List.mem_flatMap, mem_rests_iff]
    constructor
    · rintro ⟨s, ⟨t, ht, piece, hf, rfl⟩, pieces, hp, rfl⟩
      exact ⟨_, ht, piece :: pieces, .cons hf hp, by simp⟩
    · rintro ⟨t, ht, pieces, hp, rfl⟩
      cases hp with
      | @cons _ piece _ pieces hf hp =>
        exact ⟨pieces.flatten ++ r, ⟨_, ht, piece, hf, by simp⟩, pieces, hp, rfl⟩

/-- **The matcher finds pieces whenever there are some.** -/
theorem matchAll_iff {tokens : List GlobToken} {s : Text} :
    matchAll tokens s = true ↔
      ∃ pieces : List Text, pieces.flatten = s ∧ List.Forall₂ Fits tokens pieces := by
  rw [matchAll, List.contains_iff_mem, mem_foldl_rests_iff]
  constructor
  · rintro ⟨t, ht, pieces, hp, rfl⟩
    rw [List.append_nil, List.mem_singleton] at ht
    exact ⟨pieces, ht, hp⟩
  · rintro ⟨pieces, rfl, hp⟩
    exact ⟨_, List.mem_singleton.mpr rfl, pieces, hp, by rw [List.append_nil]⟩

end GlobToken

/-! ## Patterns as they are written -/

namespace PathPattern

open GlobToken

theorem globMatches_iff {path pattern : Text} {tokens : List GlobToken} (h : GlobToken.read pattern = .ok tokens) :
    globMatches path pattern = true ↔
      ∃ pieces : List Text, pieces.flatten = path ∧ List.Forall₂ Fits tokens pieces := by
  rw [globMatches, h]
  exact matchAll_iff

/-- A pattern that ends in a slash or a star covers what it matches, and what starts like it. -/
theorem covers_iff_of_isOpen {path pattern : Text} (h : isOpen pattern = true) :
    covers path pattern = true ↔ globMatches path pattern = true ∨ stem pattern <+: path := by
  rw [covers, h, Bool.true_and, Bool.or_eq_true, List.isPrefixOf_iff_prefix]

/--
**A pattern matches a path when the path falls into pieces that fit the tokens of the pattern.**

The tokens are those that the pattern spells, and it spells no others. In a class a reversed range says
nothing: of reversed ranges alone, a class has no character and its negation has all.
-/
theorem globMatches_iff_pieces {pattern : Text} {tokens : List GlobToken}
    (h : GlobToken.read pattern = .ok tokens) :
    Spells [] pattern tokens ∧ (∀ others, Spells [] pattern others → others = tokens) ∧
      (∀ path, globMatches path pattern = true ↔
        ∃ pieces : List Text, pieces.flatten = path ∧ List.Forall₂ Fits tokens pieces) ∧
      ∀ negated items, (∀ item ∈ items, ClassItem.IsReversed item) →
        ∀ piece, Fits (.oneOf negated items) piece ↔ negated = true ∧ ∃ c, piece = [c] := by
  refine ⟨read_eq_ok_iff.mp h, ?_, fun _ => globMatches_iff h, fun _ _ hr => fits_oneOf_of_reversed hr⟩
  intro others ho
  have hread : GlobToken.read pattern = .ok others := read_eq_ok_iff.mpr ho
  rw [h] at hread
  exact (Except.ok.inj hread).symm

/-- A component of any depth, a negated class with a bracket, a range and a reversed range in it, and a
star: the pieces of one path. -/
theorem globMatches_nested :
    GlobToken.read "src/**/[!]a-cz-x]*".toList = .ok
        [.literal 's', .literal 'r', .literal 'c', .literal '/', .anyDirs,
          .oneOf true [.single ']', .range 'a' 'c', .range 'z' 'x'], .anyText] ∧
      globMatches "src/lib/io/y.py".toList "src/**/[!]a-cz-x]*".toList = true := by
  have hread : GlobToken.read "src/**/[!]a-cz-x]*".toList = .ok
      [.literal 's', .literal 'r', .literal 'c', .literal '/', .anyDirs,
        .oneOf true [.single ']', .range 'a' 'c', .range 'z' 'x'], .anyText] := by cbv
  refine ⟨hread, ((globMatches_iff_pieces hread).2.2.1 _).mpr
    ⟨[['s'], ['r'], ['c'], ['/'], "lib/io/".toList, ['y'], ".py".toList], by decide, ?_⟩⟩
  simp only [List.forall₂_cons, List.forall₂_nil_left_iff, Fits, ClassItem.Contains]
  simp

end PathPattern

end DocAudit
