import DocAudit.Proofs.Glob.Pieces
import DocAudit.Proofs.Text.Strip
import Mathlib

/-!
# Open patterns

A pattern that ends in a slash or in a star covers more than the glob that it is: also every path that starts
like it. That test looks at the characters of the pattern without their meaning as a glob, and without the
slashes and stars at its end.

A pattern that ends in a slash names directories. The paths that it covers are not the paths below the
directories that it names, but for patterns without wildcards they are these and their neighbours. A star at the
end of a pattern stands for any text, however long; it is no member of a class, since a class ends with its
bracket. So the glob looks for a beginning of the path only, as the other test does, and a path is covered with
all that it can go on with.

## Contents

* `PathPattern.IsBelow`, `PathPattern.isBelow_iff_any`: a path below a directory that the pattern names
* `PathPattern.isBelow_of_startsWith`: a pattern without classes names the directory that it spells
* `PathPattern.isBelow_iff_startsWith`: a pattern without wildcards names no other
* `PathPattern.covers_directory`: **what a pattern covers that ends in a slash**
* `GlobToken.Spells.exists_concat`: a star at the end of a pattern is any text
* `PathPattern.globMatches_iff_prefix`: the glob looks for a beginning of the path
* `PathPattern.covers_extension`: **what is covered stays covered when the path goes on**
-/

namespace DocAudit

open Text

namespace GlobToken

variable {before pattern : Text} {tokens : List GlobToken}

/-- **A pattern without classes matches its own spelling.** -/
theorem Spells.fits_self (h : Spells before pattern tokens) (hclass : '[' ∉ pattern) :
    ∃ pieces : List Text, pieces.flatten = pattern ∧ List.Forall₂ Fits tokens pieces := by
  induction h with
  | nil => exact ⟨[], rfl, .nil⟩
  | @literal _ _ _ c _ _ ih =>
    obtain ⟨pieces, rfl, hfits⟩ := ih (List.not_mem_of_not_mem_cons hclass)
    exact ⟨[c] :: pieces, rfl, .cons rfl hfits⟩
  | anyOne _ ih =>
    obtain ⟨pieces, rfl, hfits⟩ := ih (List.not_mem_of_not_mem_cons hclass)
    exact ⟨['?'] :: pieces, rfl, .cons ⟨'?', rfl⟩ hfits⟩
  | anyText _ _ ih =>
    obtain ⟨pieces, rfl, hfits⟩ := ih (List.not_mem_of_not_mem_cons hclass)
    exact ⟨['*'] :: pieces, rfl, .cons trivial hfits⟩
  | @anyDirs _ rest _ _ _ ih =>
    have hrest : '[' ∉ rest := fun hmem => hclass (List.mem_append_right ['*', '*', '/'] hmem)
    obtain ⟨pieces, rfl, hfits⟩ := ih hrest
    exact ⟨['*', '*', '/'] :: pieces, rfl, .cons (Or.inr rfl) hfits⟩
  | lastDirs _ => exact ⟨[['*', '*']], rfl, .cons trivial .nil⟩
  | oneOf _ _ _ _ _ => exact absurd List.mem_cons_self hclass

/-- The character stands for itself in no pattern. -/
def isWildcard (c : Char) : Bool := c == '*' || c == '?' || c == '['

/-- Without wildcards, a pattern spells its own characters. -/
theorem Spells.eq_literals (h : Spells before pattern tokens)
    (hplain : ∀ c ∈ pattern, isWildcard c = false) : tokens = pattern.map .literal := by
  have hstar : ∀ {rest : Text}, ¬ ∀ c ∈ '*' :: rest, isWildcard c = false :=
    fun h => absurd (h '*' List.mem_cons_self) (by decide)
  induction h with
  | nil => rfl
  | literal _ _ ih => rw [ih fun c hc => hplain c (List.mem_cons_of_mem _ hc), List.map_cons]
  | anyOne _ _ => exact absurd (hplain '?' List.mem_cons_self) (by decide)
  | anyText _ _ _ => exact absurd hplain hstar
  | anyDirs _ _ _ => exact absurd hplain hstar
  | lastDirs _ => exact absurd hplain hstar
  | oneOf _ _ _ _ _ => exact absurd (hplain '[' List.mem_cons_self) (by decide)

/-- Characters that stand for themselves fit one text. -/
theorem flatten_of_fits_literals {s : Text} {pieces : List Text}
    (h : List.Forall₂ Fits (s.map .literal) pieces) : pieces.flatten = s := by
  induction s generalizing pieces with
  | nil =>
    cases h
    rfl
  | cons c s ih =>
    cases h with
    | cons hfits hrest =>
      obtain rfl := hfits
      rw [List.flatten_cons, ih hrest]
      rfl

/-! ## Stars at the end -/

/-- The last character is that of the rest, or of the part in front when there is no rest. -/
theorem getLast?_rest (part : Text) {rest : Text} (h : (part ++ rest).getLast? = some '*') :
    rest.getLast? = some '*' ∨ rest = [] ∧ part.getLast? = some '*' := by
  rw [List.getLast?_append] at h
  cases hrest : rest.getLast? with
  | none =>
    rw [hrest] at h
    exact Or.inr ⟨List.getLast?_eq_none_iff.mp hrest, h⟩
  | some c =>
    rw [hrest] at h
    exact Or.inl h

theorem Spells.eq_nil (h : Spells before [] tokens) : tokens = [] := by
  cases h
  rfl

/-- **A star at the end of a pattern stands for any text.** -/
theorem Spells.exists_concat (h : Spells before pattern tokens) (hstar : pattern.getLast? = some '*') :
    ∃ front, tokens = front ++ [.anyText] := by
  -- the last token is that of the rest, as long as there is a rest
  have hcons : ∀ {token : GlobToken} {tokens : List GlobToken}, (∃ front, tokens = front ++ [.anyText]) →
      ∃ front, token :: tokens = front ++ [.anyText] := by
    rintro token tokens ⟨front, rfl⟩
    exact ⟨token :: front, rfl⟩
  induction h with
  | nil => cases hstar
  | @literal _ rest _ c hc _ ih =>
    rcases getLast?_rest [c] hstar with hrest | ⟨-, hlast⟩
    · exact hcons (ih hrest)
    · exact absurd (Option.some.inj hlast) hc.1
  | @anyOne _ rest _ _ ih =>
    rcases getLast?_rest ['?'] hstar with hrest | ⟨-, hlast⟩
    · exact hcons (ih hrest)
    · exact absurd hlast (by decide)
  | @anyText _ rest _ _ hrest' ih =>
    rcases getLast?_rest ['*'] hstar with hrest | ⟨rfl, -⟩
    · exact hcons (ih hrest)
    · exact ⟨[], by rw [hrest'.eq_nil]; rfl⟩
  | @anyDirs _ rest _ _ _ ih =>
    rcases getLast?_rest ['*', '*', '/'] hstar with hrest | ⟨-, hlast⟩
    · exact hcons (ih hrest)
    · exact absurd hlast (by decide)
  | lastDirs _ => exact ⟨[], rfl⟩
  | @oneOf _ ms rest negated _ _ _ _ _ _ ih =>
    have hsplit : '[' :: (negation negated ++ (ms ++ ']' :: rest)) =
        ('[' :: (negation negated ++ ms) ++ [']']) ++ rest := by simp
    rw [hsplit] at hstar
    rcases getLast?_rest _ hstar with hrest | ⟨-, hlast⟩
    · exact hcons (ih hrest)
    · rw [List.getLast?_concat] at hlast
      exact absurd hlast (by decide)

/-- Pieces for tokens with any text behind them are pieces for the tokens, and one more of any kind. -/
theorem forall₂_fits_concat_iff {front : List GlobToken} {pieces : List Text} :
    List.Forall₂ Fits (front ++ [.anyText]) pieces ↔
      ∃ (first : List Text) (last : Text), pieces = first ++ [last] ∧ List.Forall₂ Fits front first := by
  constructor
  · intro h
    have hfirst : List.Forall₂ Fits front (pieces.take front.length) :=
      (List.forall₂_take_append pieces front [.anyText] h.flip).flip
    have hlast : List.Forall₂ Fits [.anyText] (pieces.drop front.length) :=
      (List.forall₂_drop_append pieces front [.anyText] h.flip).flip
    obtain ⟨last, rest, -, hrest, hdrop⟩ := List.forall₂_cons_left_iff.mp hlast
    rw [List.forall₂_nil_left_iff.mp hrest] at hdrop
    exact ⟨pieces.take front.length, last, by rw [← hdrop, List.take_append_drop], hfirst⟩
  · rintro ⟨first, last, rfl, hfirst⟩
    exact List.rel_append hfirst (.cons trivial .nil)

end GlobToken

namespace PathPattern

open GlobToken

variable {pattern path : Text} {tokens : List GlobToken}

/-! ## Paths below a directory -/

/-- The path is below a directory that the pattern names: the pattern, as a glob, matches a beginning of it. -/
def IsBelow (path pattern : Text) : Prop := ∃ front, front <+: path ∧ globMatches front pattern = true

/-- Only the beginnings of a path are to be tried. -/
theorem isBelow_iff_any : IsBelow path pattern ↔ path.inits.any (globMatches · pattern) = true := by
  simp only [IsBelow, List.any_eq_true, List.mem_inits]

theorem globMatches_self (h : GlobToken.read pattern = .ok tokens) (hclass : '[' ∉ pattern) :
    globMatches pattern pattern = true :=
  (globMatches_iff h).mpr ((read_eq_ok_iff.mp h).fits_self hclass)

/-- A pattern without classes names the directory that it spells. -/
theorem isBelow_of_startsWith (h : GlobToken.read pattern = .ok tokens) (hclass : '[' ∉ pattern)
    (hstart : pattern <+: path) : IsBelow path pattern :=
  ⟨pattern, hstart, globMatches_self h hclass⟩

/-- A pattern without wildcards names no other directory than the one that it spells. -/
theorem isBelow_iff_startsWith (h : GlobToken.read pattern = .ok tokens)
    (hplain : ∀ c ∈ pattern, isWildcard c = false) : IsBelow path pattern ↔ pattern <+: path := by
  constructor
  · rintro ⟨front, hfront, hmatches⟩
    obtain ⟨pieces, rfl, hfits⟩ := (globMatches_iff h).mp hmatches
    rw [(read_eq_ok_iff.mp h).eq_literals hplain] at hfits
    rwa [flatten_of_fits_literals hfits] at hfront
  · refine isBelow_of_startsWith h fun hmem => ?_
    exact absurd (hplain '[' hmem) (by decide)

/-! ## The name in front of the slashes -/

/-- A pattern that ends in a slash is its stem and the slashes behind it. -/
theorem stem_append (h : pattern.getLast? = some '/') :
    ∃ slashes, pattern = stem pattern ++ slashes ∧ slashes ≠ [] ∧ (∀ c ∈ slashes, c = '/') ∧
      (stem pattern).getLast? ≠ some '/' := by
  have hstar : dropEnd (· == '*') pattern = pattern := by
    rw [dropEnd_eq_self_iff, h]
    rintro c hc
    obtain rfl := Option.some.inj hc
    rfl
  obtain ⟨slashes, hpattern, hslashes, hlast⟩ := exists_dropEnd_append (· == '/') pattern
  rw [stem, hstar]
  refine ⟨slashes, hpattern, ?_, fun c hc => beq_iff_eq.mp (hslashes c hc), fun hc => ?_⟩
  · rintro rfl
    rw [List.append_nil] at hpattern
    exact absurd (hlast '/' (hpattern ▸ h)) (by decide)
  · exact absurd (hlast '/' hc) (by decide)

/--
**What a pattern covers that ends in a slash.**

It covers a path when the glob matches the whole path, or when the path starts with the pattern without the
slashes at its end, character by character. So a pattern without classes covers, besides paths below a
directory that it names, only those that start with its characters and do not go on with its slashes. Without
any wildcards, it covers all of both.
-/
theorem covers_directory (hread : GlobToken.read pattern = .ok tokens)
    (hslash : pattern.getLast? = some '/') :
    ∃ name slashes : Text, pattern = name ++ slashes ∧ slashes ≠ [] ∧ (∀ c ∈ slashes, c = '/') ∧
      name.getLast? ≠ some '/' ∧
      (∀ path, covers path pattern = true ↔ globMatches path pattern = true ∨ name <+: path) ∧
      ('[' ∉ pattern → ∀ path, covers path pattern = true →
        IsBelow path pattern ∨ name <+: path ∧ ¬ pattern <+: path) ∧
      ((∀ c ∈ pattern, isWildcard c = false) → ∀ path, covers path pattern = true ↔
        IsBelow path pattern ∨ name <+: path ∧ ¬ pattern <+: path) := by
  obtain ⟨slashes, hpattern, hne, hall, hlast⟩ := stem_append hslash
  have hcovers : ∀ path, covers path pattern = true ↔
      globMatches path pattern = true ∨ stem pattern <+: path := by
    intro path
    refine covers_iff_of_isOpen ?_
    rw [isOpen, hslash]
    rfl
  -- a path that starts with the stem starts with the whole pattern or does not
  have hsound : '[' ∉ pattern → ∀ path, covers path pattern = true →
      IsBelow path pattern ∨ stem pattern <+: path ∧ ¬ pattern <+: path := by
    intro hclass path hcovered
    rcases (hcovers path).mp hcovered with hmatches | hstart
    · exact Or.inl ⟨path, List.prefix_rfl, hmatches⟩
    · by_cases hwhole : pattern <+: path
      · exact Or.inl (isBelow_of_startsWith hread hclass hwhole)
      · exact Or.inr ⟨hstart, hwhole⟩
  refine ⟨stem pattern, slashes, hpattern, hne, hall, hlast, hcovers, hsound, fun hplain path => ?_⟩
  have hclass : '[' ∉ pattern := fun hmem => absurd (hplain '[' hmem) (by decide)
  refine ⟨hsound hclass path, ?_⟩
  rintro (hbelow | ⟨hstart, -⟩)
  · have hstem : stem pattern <+: pattern := ⟨slashes, hpattern.symm⟩
    exact (hcovers path).mpr (Or.inr (hstem.trans ((isBelow_iff_startsWith hread hplain).mp hbelow)))
  · exact (hcovers path).mpr (Or.inr hstart)

/-- The pattern `src/` covers what is below the directory that it spells. -/
theorem covers_directory_src :
    GlobToken.read "src/".toList = .ok ("src/".toList.map .literal) ∧ "src/".toList.getLast? = some '/' ∧
      covers "src/lib/a.py".toList "src/".toList = true := by
  have hread : GlobToken.read "src/".toList = .ok ("src/".toList.map .literal) := by cbv
  have hslash : "src/".toList.getLast? = some '/' := by decide
  have hplain : ∀ c ∈ "src/".toList, isWildcard c = false := by simp [isWildcard]
  obtain ⟨_, _, _, _, _, _, _, _, hcovers⟩ := covers_directory hread hslash
  have hbelow : IsBelow "src/lib/a.py".toList "src/".toList :=
    (isBelow_iff_startsWith hread hplain).mpr ⟨"lib/a.py".toList, by decide⟩
  exact ⟨hread, hslash, (hcovers hplain _).mpr (Or.inl hbelow)⟩

/-- The pattern `src/` covers a path beside the directory, and `src/*/` misses one below a directory that it
names. -/
theorem covers_beside :
    covers "src-old/a.py".toList "src/".toList = true ∧ ¬ IsBelow "src-old/a.py".toList "src/".toList ∧
      covers "src/lib/a.py".toList "src/*/".toList = false ∧
      IsBelow "src/lib/a.py".toList "src/*/".toList := by
  have hbeside : "src-old/a.py".toList.inits.any (globMatches · "src/".toList) = false := by cbv
  refine ⟨by cbv, ?_, by cbv, ?_⟩
  · rw [isBelow_iff_any, hbeside]
    exact Bool.false_ne_true
  · exact ⟨"src/lib/".toList, ⟨"a.py".toList, rfl⟩, by cbv⟩

/-! ## Paths that go on -/

/-- **The glob looks for a beginning of the path, for what stands in front of the star.** -/
theorem globMatches_iff_prefix {front : List GlobToken} (h : GlobToken.read pattern = .ok (front ++ [.anyText])) :
    globMatches path pattern = true ↔
      ∃ pieces : List Text, pieces.flatten <+: path ∧ List.Forall₂ Fits front pieces := by
  rw [globMatches_iff h]
  constructor
  · rintro ⟨pieces, rfl, hfits⟩
    obtain ⟨first, last, rfl, hfirst⟩ := forall₂_fits_concat_iff.mp hfits
    exact ⟨first, ⟨last, by simp⟩, hfirst⟩
  · rintro ⟨pieces, ⟨more, rfl⟩, hfits⟩
    exact ⟨pieces ++ [more], by simp, forall₂_fits_concat_iff.mpr ⟨pieces, more, rfl, hfits⟩⟩

/--
**What is covered stays covered when the path goes on.**

A pattern that ends in a star is a glob for the beginnings of paths, or no glob at all. In both cases the paths
that start with the characters of the pattern, without the stars and slashes at its end, are covered as well. So
there are two ways for a path to be covered, and each of them looks at a beginning of the path only.
-/
theorem covers_extension (hstar : pattern.getLast? = some '*') :
    (∀ tokens, GlobToken.read pattern = .ok tokens → ∃ front, tokens = front ++ [.anyText] ∧
      ∀ path, globMatches path pattern = true ↔
        ∃ pieces : List Text, pieces.flatten <+: path ∧ List.Forall₂ Fits front pieces) ∧
    (∀ path, covers path pattern = true ↔ globMatches path pattern = true ∨ stem pattern <+: path) ∧
    ∀ path more, covers path pattern = true → covers (path ++ more) pattern = true := by
  have hglob : ∀ tokens, GlobToken.read pattern = .ok tokens → ∃ front, tokens = front ++ [.anyText] ∧
      ∀ path, globMatches path pattern = true ↔
        ∃ pieces : List Text, pieces.flatten <+: path ∧ List.Forall₂ Fits front pieces := by
    intro tokens hread
    obtain ⟨front, rfl⟩ := (read_eq_ok_iff.mp hread).exists_concat hstar
    exact ⟨front, rfl, fun path => globMatches_iff_prefix hread⟩
  have hopen : isOpen pattern = true := by
    rw [isOpen, hstar]
    rfl
  refine ⟨hglob, fun path => covers_iff_of_isOpen hopen, fun path more hcovered => ?_⟩
  have hlonger : path <+: path ++ more := List.prefix_append path more
  rw [covers_iff_of_isOpen hopen] at hcovered ⊢
  rcases hcovered with hmatches | hstart
  · left
    cases hread : GlobToken.read pattern with
    | error fault =>
      rw [globMatches, hread] at hmatches
      cases hmatches
    | ok tokens =>
      obtain ⟨front, -, hfront⟩ := hglob tokens hread
      obtain ⟨pieces, hpieces, hfits⟩ := (hfront path).mp hmatches
      exact (hfront _).mpr ⟨pieces, hpieces.trans hlonger, hfits⟩
  · exact Or.inr (hstart.trans hlonger)

/-- A star that is a member of a class in front of the last one, and stars that are no component. -/
theorem covers_extension_class :
    ("docs/[*]?*".toList.getLast? = some '*' ∧ covers "docs/*a".toList "docs/[*]?*".toList = true ∧
        covers "docs/*a/b.md".toList "docs/[*]?*".toList = true) ∧
      "docs/a**".toList.getLast? = some '*' ∧ GlobToken.read "docs/a**".toList = .error .partialComponent ∧
        covers "docs/ab".toList "docs/a**".toList = true ∧
        covers "docs/ab/c.md".toList "docs/a**".toList = true := by
  have hclass : "docs/[*]?*".toList.getLast? = some '*' := by decide
  have hstars : "docs/a**".toList.getLast? = some '*' := by decide
  have hclassCovers : covers "docs/*a".toList "docs/[*]?*".toList = true := by cbv
  have hstarsCover : covers "docs/ab".toList "docs/a**".toList = true := by cbv
  exact ⟨⟨hclass, hclassCovers, (covers_extension hclass).2.2 _ "/b.md".toList hclassCovers⟩, hstars, by cbv,
    hstarsCover, (covers_extension hstars).2.2 _ "/c.md".toList hstarsCover⟩

end PathPattern

end DocAudit
