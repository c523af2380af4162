import DocAudit.Glob.Match
import DocAudit.Proofs.Glob.Spelling
import DocAudit.Proofs.Text.Strip

/-!
# Which texts are globs

Read from left to right, a pattern is divided into characters and classes, and a class is taken as a whole. It
is a glob when every bracket outside of classes opens one, and when the stars outside of classes stand alone, or
two of them as a whole component. This is said here of the pattern as it is written, without the reader and
without tokens.

## Contents

* `PatternPart`, `PatternPart.Divide`: the characters and classes of a pattern
* `PatternPart.divide_char_cons`, `PatternPart.divide_bracket_cons`: **a pattern is divided in one way only**
* `PatternPart.StarsStand`: where stars can stand, told run by run
* `GlobToken.exists_readFrom_iff`: **the reader accepts what is divided with all its stars in their places**
-/

namespace DocAudit

open Text

/-- A part of a pattern: a character outside of classes, or a class. -/
inductive PatternPart
  | char (c : Char)
  | cls (negated : Bool) (ms : Text)
  deriving DecidableEq, Repr

namespace PatternPart

/-- The part as it is written: a class stands in brackets, with its sign in front of its members. -/
def text : PatternPart → Text
  | char c => [c]
  | cls negated ms => '[' :: (GlobToken.negation negated ++ (ms ++ [']']))

/-- The part can be read: a character that opens no class, or a class with members. A sign behind its bracket
is no member. -/
def IsReadable : PatternPart → Prop
  | char c => c ≠ '['
  | cls negated ms => GlobToken.IsMembers ms ∧ (negated = false → ms.head? ≠ some '!')

@[simp] theorem isReadable_char_iff {c : Char} : (char c).IsReadable ↔ c ≠ '[' := Iff.rfl

/-- The parts of a text that is read from left to right. -/
def Divide (parts : List PatternPart) (s : Text) : Prop :=
  parts.flatMap text = s ∧ ∀ part ∈ parts, part.IsReadable

/-! ## One division -/

section Divide

variable {parts : List PatternPart} {s : Text} {c : Char}

/-- A part is written with at least one character. -/
theorem text_ne_nil (part : PatternPart) : part.text ≠ [] := by
  cases part <;> exact List.cons_ne_nil _ _

theorem divide_nil : Divide parts [] ↔ parts = [] := by
  constructor
  · rintro ⟨htext, -⟩
    cases parts with
    | nil => rfl
    | cons part parts =>
      rw [List.flatMap_cons, List.append_eq_nil_iff] at htext
      exact absurd htext.1 part.text_ne_nil
  · rintro rfl
    exact ⟨rfl, by simp⟩

theorem divide_cons {part : PatternPart} :
    Divide (part :: parts) s ↔ part.IsReadable ∧ ∃ rest, s = part.text ++ rest ∧ Divide parts rest := by
  unfold Divide
  rw [List.flatMap_cons, List.forall_mem_cons]
  constructor
  · rintro ⟨rfl, hpart, hparts⟩
    exact ⟨hpart, _, rfl, rfl, hparts⟩
  · rintro ⟨hpart, rest, rfl, rfl, hparts⟩
    exact ⟨rfl, hpart, hparts⟩

/-- A character that opens no class is a part for itself. -/
theorem divide_char_cons (hc : c ≠ '[') :
    Divide parts (c :: s) ↔ ∃ rest, parts = char c :: rest ∧ Divide rest s := by
  constructor
  · intro h
    cases parts with
    | nil => cases h.1
    | cons part parts =>
      obtain ⟨-, rest, hs, hrest⟩ := divide_cons.mp h
      cases part with
      | char d =>
        obtain ⟨rfl, rfl⟩ := List.cons.inj hs
        exact ⟨parts, rfl, hrest⟩
      | cls negated ms => exact absurd (List.cons.inj hs).1 hc
  · rintro ⟨rest, rfl, hrest⟩
    exact divide_cons.mpr ⟨hc, s, rfl, hrest⟩

/-- A bracket opens the class that the reader finds behind it. -/
theorem divide_bracket_cons :
    Divide parts ('[' :: s) ↔ ∃ negated ms after rest,
      GlobToken.class? s = some (negated, ms, after) ∧ parts = cls negated ms :: rest ∧ Divide rest after := by
  constructor
  · intro h
    cases parts with
    | nil => cases h.1
    | cons part parts =>
      obtain ⟨hpart, after, hs, hrest⟩ := divide_cons.mp h
      cases part with
      | char d => exact absurd (List.cons.inj hs).1.symm hpart
      | cls negated ms =>
        refine ⟨negated, ms, after, parts, GlobToken.class?_eq_some_iff.mpr ⟨?_, hpart⟩, rfl, hrest⟩
        simpa [text] using hs
  · rintro ⟨negated, ms, after, rest, hclass, rfl, hrest⟩
    obtain ⟨rfl, hpart⟩ := GlobToken.class?_eq_some_iff.mp hclass
    exact divide_cons.mpr ⟨hpart, after, by simp [text], hrest⟩

/-- **A text is divided in one way only.** -/
theorem Divide.unique {parts' : List PatternPart} (h : Divide parts s) (h' : Divide parts' s) :
    parts = parts' := by
  induction parts generalizing parts' s with
  | nil =>
    obtain rfl : [] = s := h.1
    exact (divide_nil.mp h').symm
  | cons part parts ih =>
    obtain ⟨hpart, rest, hs, hrest⟩ := divide_cons.mp h
    cases part with
    | char c =>
      rw [hs] at h'
      obtain ⟨rest', rfl, hrest'⟩ := (divide_char_cons hpart).mp h'
      rw [ih hrest hrest']
    | cls negated ms =>
      have hclass : GlobToken.class? (GlobToken.negation negated ++ (ms ++ ']' :: rest)) =
          some (negated, ms, rest) := GlobToken.class?_eq_some_iff.mpr ⟨rfl, hpart⟩
      have hs' : s = '[' :: (GlobToken.negation negated ++ (ms ++ ']' :: rest)) := by simpa [text] using hs
      rw [hs'] at h'
      obtain ⟨negated', ms', after', rest', hclass', rfl, hrest'⟩ := divide_bracket_cons.mp h'
      rw [hclass] at hclass'
      cases hclass'
      rw [ih hrest hrest']

end Divide

/-! ## Stars -/

/-- A list starts with a run of one member, and another one or none follows. -/
theorem exists_run {α : Type} [DecidableEq α] (a : α) (l : List α) :
    ∃ n rest, l = List.replicate n a ++ rest ∧ rest.head? ≠ some a := by
  induction l with
  | nil => exact ⟨0, [], rfl, by simp⟩
  | cons b l ih =>
    by_cases hb : b = a
    · obtain ⟨n, rest, rfl, hrest⟩ := ih
      exact ⟨n + 1, rest, by rw [hb]; rfl, hrest⟩
    · exact ⟨0, b :: l, rfl, by simpa using hb⟩

/-- A star outside of classes. -/
abbrev star : PatternPart := char '*'

/-- A slash outside of classes. -/
abbrev slash : PatternPart := char '/'

/-- How `n` stars in a row can stand, between the parts next to them: one star everywhere, and two as a whole
component. -/
def Stands (before? : Option PatternPart) (n : Nat) (after? : Option PatternPart) : Prop :=
  n = 1 ∨ n = 2 ∧ (∀ part ∈ before?, part = slash) ∧ ∀ part ∈ after?, part = slash

/-- All stars among the parts can stand where they do: every longest run of stars can. `last?` is the part in
front of these parts. -/
def StarsStand (last? : Option PatternPart) (parts : List PatternPart) : Prop :=
  ∀ before n after, parts = before ++ (List.replicate n star ++ after) → 0 < n →
    before.getLast?.or last? ≠ some star → after.head? ≠ some star →
      Stands (before.getLast?.or last?) n after.head?

section Stars

variable {last? : Option PatternPart} {part : PatternPart} {parts before after : List PatternPart} {n : Nat}

/-- The part in front of what follows some parts. -/
theorem getLast?_cons_or (part : PatternPart) (parts : List PatternPart) (last? : Option PatternPart) :
    (part :: parts).getLast?.or last? = parts.getLast?.or (some part) := by
  rw [List.getLast?_cons]
  cases parts.getLast? <;> rfl

theorem getLast?_replicate_append_or (hn : 0 < n) (parts : List PatternPart) (last? : Option PatternPart) :
    (List.replicate n part ++ parts).getLast?.or last? = parts.getLast?.or (some part) := by
  rw [List.getLast?_append, List.getLast?_replicate, if_neg hn.ne', Option.or_assoc]
  rfl

theorem starsStand_nil : StarsStand last? [] := by
  intro before n after h hn
  simp only [List.nil_eq, List.append_eq_nil_iff, List.replicate_eq_nil_iff] at h
  omega

/-- A part that is no star only stands in front of the others. -/
theorem starsStand_cons (hpart : part ≠ star) :
    StarsStand last? (part :: parts) ↔ StarsStand (some part) parts := by
  constructor
  · intro h before n after hparts hn hbefore hafter
    rw [← getLast?_cons_or part before last?] at hbefore ⊢
    exact h (part :: before) n after (by rw [hparts]; rfl) hn hbefore hafter
  · intro h before n after hparts hn hbefore hafter
    cases before with
    | nil =>
      obtain ⟨m, rfl⟩ := Nat.exists_eq_add_of_lt hn
      rw [List.nil_append, Nat.zero_add, List.replicate_succ] at hparts
      exact absurd (List.cons.inj hparts).1 hpart
    | cons first before =>
      obtain ⟨rfl, hrest⟩ := List.cons.inj hparts
      rw [getLast?_cons_or] at hbefore ⊢
      exact h before n after hrest hn hbefore hafter

/-- A run of stars ends where no star follows. -/
theorem replicate_star_append_inj {m : Nat} (h : List.replicate m star ++ before = List.replicate n star ++ after)
    (hbefore : before.head? ≠ some star) (hafter : after.head? ≠ some star) : m = n ∧ before = after := by
  induction m generalizing n with
  | zero =>
    cases n with
    | zero => exact ⟨rfl, h⟩
    | succ n =>
      obtain rfl : before = star :: (List.replicate n star ++ after) := h
      exact absurd rfl hbefore
  | succ m ih =>
    cases n with
    | zero =>
      obtain rfl : star :: (List.replicate m star ++ before) = after := h
      exact absurd rfl hafter
    | succ n =>
      obtain ⟨rfl, hsame⟩ := ih (List.cons.inj h).2
      exact ⟨rfl, hsame⟩

/-- A longest run of stars at the start can stand there, and the stars behind it can. -/
theorem starsStand_run (hlast : last? ≠ some star) (hn : 0 < n) (hparts : parts.head? ≠ some star) :
    StarsStand last? (List.replicate n star ++ parts) ↔
      Stands last? n parts.head? ∧ StarsStand (some star) parts := by
  constructor
  · intro h
    refine ⟨h [] n parts rfl hn hlast hparts, fun before m after hsplit hm hbefore hafter => ?_⟩
    rw [← getLast?_replicate_append_or hn before last?] at hbefore ⊢
    exact h _ m after (by rw [hsplit, List.append_assoc]) hm hbefore hafter
  · rintro ⟨hrun, h⟩ before m after hsplit hm hbefore hafter
    rcases List.append_eq_append_iff.mp hsplit with ⟨before', rfl, hsplit'⟩ | ⟨rest, hstars, hsplit'⟩
    · rw [getLast?_replicate_append_or hn] at hbefore ⊢
      exact h before' m after hsplit' hm hbefore hafter
    · -- stars stand in front of every other place in the run
      have hnil : before = [] := by
        by_contra hne
        have hmem : before.getLast hne ∈ List.replicate n star := by
          rw [hstars]
          exact List.mem_append_left rest (List.getLast_mem hne)
        rw [List.getLast?_eq_some_getLast hne, List.eq_of_mem_replicate hmem] at hbefore
        exact hbefore rfl
      rw [hnil, List.nil_append] at hstars hsplit
      obtain ⟨rfl, rfl⟩ := replicate_star_append_inj hsplit hparts hafter
      rw [hnil]
      exact hrun

end Stars

/-- The first part is a character that opens no class when the text starts with it. -/
theorem Divide.head?_eq_char_iff {parts : List PatternPart} {s : Text} {c : Char} (h : Divide parts s)
    (hc : c ≠ '[') : parts.head? = some (char c) ↔ s.head? = some c := by
  cases parts with
  | nil =>
    rw [← h.1]
    simp
  | cons part parts =>
    obtain ⟨-, rest, rfl, -⟩ := divide_cons.mp h
    cases part with
    | char d => simp [text]
    | cls negated ms => simp [text, hc.symm]

/-- Nothing but a slash can follow the parts in front when nothing but a slash follows their text. -/
theorem Divide.forall_head?_eq_slash_iff {parts : List PatternPart} {s : Text} (h : Divide parts s) :
    (∀ part ∈ parts.head?, part = slash) ↔ ∀ c ∈ s.head?, c = '/' := by
  have hslash := h.head?_eq_char_iff (c := '/') (by decide)
  cases parts with
  | nil =>
    rw [← h.1]
    simp
  | cons part parts =>
    obtain ⟨-, rest, hs, -⟩ := divide_cons.mp h
    obtain ⟨c, text, htext⟩ := List.exists_cons_of_ne_nil part.text_ne_nil
    rw [htext] at hs
    subst hs
    simpa using hslash

end PatternPart

/-! ## Globs -/

open PatternPart

/-- The text is a glob, or the rest of one behind the part `last?`: it can be divided, and all stars can stand
where they do. -/
def IsGlob (last? : Option PatternPart) (s : Text) : Prop := ∃ parts, Divide parts s ∧ StarsStand last? parts

namespace IsGlob

variable {last? : Option PatternPart} {s : Text}

theorem nil : IsGlob last? [] := ⟨[], divide_nil.mpr rfl, starsStand_nil⟩

theorem char_cons_iff {c : Char} (hclass : c ≠ '[') (hstar : c ≠ '*') :
    IsGlob last? (c :: s) ↔ IsGlob (some (char c)) s := by
  have hpart : char c ≠ star := fun h => hstar (PatternPart.char.inj h)
  constructor
  · rintro ⟨parts, hparts, hstars⟩
    obtain ⟨rest, rfl, hrest⟩ := (divide_char_cons hclass).mp hparts
    exact ⟨rest, hrest, (starsStand_cons hpart).mp hstars⟩
  · rintro ⟨rest, hrest, hstars⟩
    exact ⟨char c :: rest, (divide_char_cons hclass).mpr ⟨rest, rfl, hrest⟩, (starsStand_cons hpart).mpr hstars⟩

theorem class_iff {negated : Bool} {ms after : Text} (h : GlobToken.class? s = some (negated, ms, after)) :
    IsGlob last? ('[' :: s) ↔ IsGlob (some (cls negated ms)) after := by
  have hpart : cls negated ms ≠ star := nofun
  constructor
  · rintro ⟨parts, hparts, hstars⟩
    obtain ⟨negated', ms', after', rest, hclass, rfl, hrest⟩ := divide_bracket_cons.mp hparts
    cases h.symm.trans hclass
    exact ⟨rest, hrest, (starsStand_cons hpart).mp hstars⟩
  · rintro ⟨rest, hrest, hstars⟩
    exact ⟨_, divide_bracket_cons.mpr ⟨negated, ms, after, rest, h, rfl, hrest⟩,
      (starsStand_cons hpart).mpr hstars⟩

/-- Every bracket outside of classes opens one. -/
theorem exists_class (h : IsGlob last? ('[' :: s)) : ∃ found, GlobToken.class? s = some found := by
  obtain ⟨parts, hparts, -⟩ := h
  obtain ⟨negated, ms, after, -, hclass, -⟩ := divide_bracket_cons.mp hparts
  exact ⟨_, hclass⟩

/-- Stars in a row are parts in a row. -/
theorem divide_stars_iff {n : Nat} {parts : List PatternPart} :
    Divide parts (List.replicate n '*' ++ s) ↔ ∃ rest, parts = List.replicate n star ++ rest ∧ Divide rest s := by
  induction n generalizing parts with
  | zero => simp
  | succ n ih =>
    rw [List.replicate_succ, List.cons_append, divide_char_cons (by decide)]
    simp only [ih]
    constructor
    · rintro ⟨-, rfl, rest, rfl, hrest⟩
      exact ⟨rest, rfl, hrest⟩
    · rintro ⟨rest, rfl, hrest⟩
      exact ⟨_, rfl, rest, rfl, hrest⟩

/-- A longest run of stars is one star, or two as a whole component. -/
theorem stars_iff {n : Nat} (hlast : last? ≠ some star) (hn : 0 < n) (hs : s.head? ≠ some '*') :
    IsGlob last? (List.replicate n '*' ++ s) ↔
      (n = 1 ∨ n = 2 ∧ (∀ part ∈ last?, part = slash) ∧ ∀ c ∈ s.head?, c = '/') ∧ IsGlob (some star) s := by
  have hrun : ∀ rest, Divide rest s → (StarsStand last? (List.replicate n star ++ rest) ↔
      (n = 1 ∨ n = 2 ∧ (∀ part ∈ last?, part = slash) ∧ ∀ c ∈ s.head?, c = '/') ∧
        StarsStand (some star) rest) := by
    intro rest hrest
    have hhead : rest.head? ≠ some star := fun h => hs ((hrest.head?_eq_char_iff (by decide)).mp h)
    rw [starsStand_run hlast hn hhead, Stands, hrest.forall_head?_eq_slash_iff]
  constructor
  · rintro ⟨parts, hparts, hstars⟩
    obtain ⟨rest, rfl, hrest⟩ := divide_stars_iff.mp hparts
    obtain ⟨hstands, hstars⟩ := (hrun rest hrest).mp hstars
    exact ⟨hstands, rest, hrest, hstars⟩
  · rintro ⟨hstands, rest, hrest, hstars⟩
    exact ⟨_, divide_stars_iff.mpr ⟨rest, rfl, hrest⟩, (hrun rest hrest).mpr ⟨hstands, hstars⟩⟩

/-- A star alone can stand everywhere. -/
theorem star_cons_iff (hlast : last? ≠ some star) (hs : s.head? ≠ some '*') :
    IsGlob last? ('*' :: s) ↔ IsGlob (some star) s := by
  have hrun := stars_iff hlast Nat.one_pos hs
  simpa using hrun

/-- Two stars are a whole component. -/
theorem component (h : IsGlob last? ('*' :: '*' :: s)) (hlast : last? ≠ some star) :
    (∀ part ∈ last?, part = slash) ∧ ∀ c ∈ s.head?, c = '/' := by
  obtain ⟨n, rest, rfl, hrest⟩ := exists_run '*' s
  have hrun : IsGlob last? (List.replicate (n + 2) '*' ++ rest) := h
  rcases ((stars_iff hlast (by omega) hrest).mp hrun).1 with hone | ⟨htwo, hcomponent⟩
  · omega
  · obtain rfl : n = 0 := by omega
    exact hcomponent

/-- Two stars can stand as a whole component. -/
theorem of_component (hlast : ∀ part ∈ last?, part = slash) (hs : ∀ c ∈ s.head?, c = '/')
    (h : IsGlob (some star) s) : IsGlob last? ('*' :: '*' :: s) := by
  refine (stars_iff (n := 2) ?_ (by decide) ?_).mpr ⟨.inr ⟨rfl, hlast, hs⟩, h⟩
  · rintro rfl
    cases hlast star rfl
  · intro h
    cases hs '*' h

end IsGlob

/-! ## What the reader accepts -/

namespace GlobToken

/-- The tokens of the rest come behind the first one. -/
theorem exists_cons_map_eq_ok_iff {token : GlobToken} {read : Except GlobFault (List GlobToken)} :
    (∃ tokens, (token :: ·) <$> read = .ok tokens) ↔ ∃ tokens, read = .ok tokens := by
  simp only [cons_map_eq_ok_iff]
  constructor
  · rintro ⟨tokens, rest, h, -⟩
    exact ⟨rest, h⟩
  · rintro ⟨rest, h⟩
    exact ⟨_, rest, h, rfl⟩

/-- **The reader accepts a text when it can be divided with all its stars in their places.** Of the part in front
the reader knows whether a component starts behind it. -/
theorem exists_readFrom_iff {position : Nat} {fresh : Bool} {s : Text} {last? : Option PatternPart}
    (hfresh : fresh = true ↔ ∀ part ∈ last?, part = slash) (hlast : last? = some star → s.head? ≠ some '*') :
    (∃ tokens, readFrom position fresh s = .ok tokens) ↔ IsGlob last? s := by
  -- the part in front changes with every part that is read, and `hfresh` follows it
  fun_induction readFrom position fresh s generalizing last? with
  | case1 => exact iff_of_true ⟨_, rfl⟩ .nil
  | case2 => exact iff_of_true ⟨_, rfl⟩ (.of_component (hfresh.mp rfl) (by simp) .nil)
  | case3 _ _ hstale =>
    refine iff_of_false (by simp) fun h => hstale (hfresh.mpr ?_)
    exact (h.component fun h => hlast h rfl).1
  | case4 position after ih =>
    have hafter : (∃ tokens, readFrom (position + 3) true after = .ok tokens) ↔ IsGlob (some slash) after :=
      ih (by simp) (by simp)
    rw [exists_cons_map_eq_ok_iff, hafter]
    have hslash : IsGlob (some star) ('/' :: after) ↔ IsGlob (some slash) after :=
      IsGlob.char_cons_iff (by decide) (by decide)
    constructor
    · intro h
      exact .of_component (hfresh.mp rfl) (by simp) (hslash.mpr h)
    · intro h
      have hrun := IsGlob.stars_iff (n := 2) (fun h => hlast h rfl) (by decide) (by simp) |>.mp h
      exact hslash.mp hrun.2
  | case5 _ _ _ hstale =>
    refine iff_of_false (by simp) fun h => hstale (hfresh.mpr ?_)
    exact (h.component fun h => hlast h rfl).1
  | case6 _ _ rest hnil hslash =>
    refine iff_of_false (by simp) fun h => ?_
    have hnext := (h.component fun h => hlast h rfl).2
    cases rest with
    | nil => exact hnil rfl
    | cons c rest =>
      obtain rfl := hnext c rfl
      exact hslash rest rfl
  | case7 position fresh rest hstar ih =>
    have hrest : rest.head? ≠ some '*' := by
      intro h
      obtain ⟨rest, rfl⟩ := List.head?_eq_some_iff.mp h
      exact hstar rest rfl
    rw [exists_cons_map_eq_ok_iff, IsGlob.star_cons_iff (fun h => hlast h rfl) hrest]
    exact ih (by simp) fun _ => hrest
  | case8 position fresh rest ih =>
    rw [exists_cons_map_eq_ok_iff, IsGlob.char_cons_iff (by decide) (by decide)]
    exact ih (by simp) (by simp)
  | case9 position fresh rest hclass =>
    refine iff_of_false (by simp) fun h => ?_
    obtain ⟨found, hfound⟩ := h.exists_class
    cases hclass.symm.trans hfound
  | case10 position fresh rest negated ms after hclass ih =>
    rw [exists_cons_map_eq_ok_iff, IsGlob.class_iff hclass]
    exact ih (by simp) (by simp)
  | case11 position fresh c rest _ hstar hone hclass ih =>
    rw [exists_cons_map_eq_ok_iff, IsGlob.char_cons_iff hclass hstar]
    exact ih (by simp) (by simpa using fun h => absurd h hstar)

end GlobToken

/-! ## What a fault tells -/

/-- What a fault tells of a text is so: at the position a bracket stands outside of classes with no class from
there on, or a run of stars starts somewhere with two stars that are no whole component. -/
def GlobFault.IsTrueOf (s : Text) : GlobFault → Prop
  | .unclosedClass position => ∃ parts front rest, Divide parts front ∧ s = front ++ '[' :: rest ∧
      front.length = position ∧ ∀ negated ms after, (cls negated ms).IsReadable →
        '[' :: rest ≠ (cls negated ms).text ++ after
  | .partialComponent => ∃ parts front rest, Divide parts front ∧ s = front ++ '*' :: '*' :: rest ∧
      parts.getLast? ≠ some star ∧ ¬ ((∀ part ∈ parts.getLast?, part = slash) ∧ ∀ c ∈ rest.head?, c = '/')

namespace GlobToken

/-- Parts and one more part behind them. -/
theorem divide_concat {parts : List PatternPart} {front : Text} (h : Divide parts front) (part : PatternPart)
    (hpart : part.IsReadable) : Divide (parts ++ [part]) (front ++ part.text) := by
  refine ⟨?_, ?_⟩
  · rw [List.flatMap_append, h.1, List.flatMap_singleton]
  · intro p hp
    rcases List.mem_append.mp hp with hp | hp
    · exact h.2 p hp
    · rwa [List.mem_singleton.mp hp]

theorem error_of_cons_map_eq_error {token : GlobToken} {read : Except GlobFault (List GlobToken)}
    {fault : GlobFault} (h : (token :: ·) <$> read = .error fault) : read = .error fault := by
  cases read with
  | error _ => cases h; rfl
  | ok _ => cases h

/-- What a fault tells of the whole text is so. -/
theorem isTrueOf_of_readFrom {position : Nat} {fresh : Bool} {s front : Text} {parts : List PatternPart}
    {fault : GlobFault} (h : readFrom position fresh s = .error fault) (hparts : Divide parts front)
    (hposition : front.length = position) (hfresh : fresh = true ↔ ∀ part ∈ parts.getLast?, part = slash)
    (hlast : parts.getLast? = some star → s.head? ≠ some '*') : fault.IsTrueOf (front ++ s) := by
  -- the parts in front grow with every part that is read
  fun_induction readFrom position fresh s generalizing parts front with
  | case1 => cases h
  | case2 => cases h
  | case3 _ _ hstale =>
    cases h
    exact ⟨parts, front, [], hparts, rfl, fun h => hlast h rfl, fun h => hstale (hfresh.mpr h.1)⟩
  | case4 position after ih =>
    have hrest := ih (error_of_cons_map_eq_error h) (divide_concat (divide_concat (divide_concat hparts
      star (by simp)) star (by simp)) slash (by simp))
      (by simp [text, hposition]) (by simp) (by simp)
    simpa [text] using hrest
  | case5 _ _ after hstale =>
    cases h
    exact ⟨parts, front, '/' :: after, hparts, rfl, fun h => hlast h rfl, fun h => hstale (hfresh.mpr h.1)⟩
  | case6 _ _ rest hnil hslash =>
    cases h
    refine ⟨parts, front, rest, hparts, rfl, fun h => hlast h rfl, fun h => ?_⟩
    cases rest with
    | nil => exact hnil rfl
    | cons c rest =>
      obtain rfl := h.2 c rfl
      exact hslash rest rfl
  | case7 position fresh rest hstar ih =>
    have hrest := ih (error_of_cons_map_eq_error h) (divide_concat hparts star (by simp))
      (by simp [text, hposition]) (by simp) fun _ hhead => by
        obtain ⟨rest, rfl⟩ := List.head?_eq_some_iff.mp hhead
        exact hstar rest rfl
    simpa [text] using hrest
  | case8 position fresh rest ih =>
    have hrest := ih (error_of_cons_map_eq_error h) (divide_concat hparts (char '?') (by simp))
      (by simp [text, hposition]) (by simp) (by simp)
    simpa [text] using hrest
  | case9 position fresh rest hclass =>
    cases h
    refine ⟨parts, front, rest, hparts, rfl, hposition, fun negated ms after hreadable hrest => ?_⟩
    have hrest' : rest = negation negated ++ (ms ++ ']' :: after) := by simpa [text] using hrest
    cases hclass.symm.trans (class?_eq_some_iff.mpr ⟨hrest', hreadable⟩)
  | case10 position fresh rest negated ms after hclass ih =>
    obtain ⟨rfl, hreadable⟩ := class?_eq_some_iff.mp hclass
    have hrest := ih (error_of_cons_map_eq_error h) (divide_concat hparts (cls negated ms) hreadable)
      (by simp [text, hposition]; omega) (by simp) (by simp)
    simpa [text] using hrest
  | case11 position fresh c rest _ hstar hone hclass ih =>
    have hrest := ih (error_of_cons_map_eq_error h) (divide_concat hparts (char c) hclass)
      (by simp [text, hposition]) (by simp) (by simpa using fun h => absurd h hstar)
    simpa [text] using hrest

end GlobToken

end DocAudit
