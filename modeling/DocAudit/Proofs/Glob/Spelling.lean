import DocAudit.Glob.Token

/-!
# The spelling of globs

Which patterns spell which tokens, as a grammar beside the reader. The grammar looks at what stands
before a place in the pattern, where the reader only keeps whether a component starts there.

## Contents

* `ClassItem.Lists`: the members of a class and the parts that they list
* `GlobToken.Spells`: the grammar of patterns
* `GlobToken.read_eq_ok_iff`: **the reader accepts exactly what the grammar spells**
-/

namespace DocAudit

open Text

/-! ## Members of a class -/

namespace ClassItem

/-- The members list the parts: from left to right, a sign between two members makes a range of the
three, and every other member stands for itself. -/
inductive Lists : Text → List ClassItem → Prop
  | nil : Lists [] []
  | range {low high : Char} {ms : Text} {items : List ClassItem} (h : Lists ms items) :
    Lists (low :: '-' :: high :: ms) (.range low high :: items)
  | single {c : Char} {ms : Text} {items : List ClassItem}
      (hc : ∀ high rest, ms ≠ '-' :: high :: rest) (h : Lists ms items) :
    Lists (c :: ms) (.single c :: items)

theorem lists_ofMembers (ms : Text) : Lists ms (ofMembers ms) := by
  fun_induction ofMembers ms with
  | case1 low high rest ih => exact .range ih
  | case2 c rest hne ih =>
    exact .single (fun high rest' he => hne high rest' he) ih
  | case3 => exact .nil

/-- **The members list one sequence of parts only.** -/
theorem Lists.eq_ofMembers {ms : Text} {items : List ClassItem} (h : Lists ms items) :
    items = ofMembers ms := by
  induction h with
  | nil => rfl
  | range _ ih => rw [ofMembers, ih]
  | single hc _ ih =>
    rw [ofMembers, ih]
    exact hc

end ClassItem

namespace GlobToken

/-- The characters can be the members of a class: there is one at least, and a closing bracket only in
the first place. -/
def IsMembers (ms : Text) : Prop := ms ≠ [] ∧ ']' ∉ ms.tail

/-- The sign after the opening bracket of a class that is negated. -/
def negation (negated : Bool) : Text := if negated then ['!'] else []

/-- Reading members stops at the first closing bracket. -/
theorem members?_eq_some_iff {s ms after : Text} :
    members? s = some (ms, after) ↔ s = ms ++ ']' :: after ∧ ']' ∉ ms := by
  induction s generalizing ms with
  | nil => simp [members?]
  | cons c rest ih =>
    by_cases hc : c = ']'
    · subst hc
      rw [members?]
      constructor
      · intro h
        obtain ⟨rfl, rfl⟩ := Prod.mk.inj (Option.some.inj h)
        exact ⟨rfl, List.not_mem_nil⟩
      · rintro ⟨hs, hn⟩
        cases ms with
        | nil => simp at hs; rw [hs]
        | cons m ms => simp at hs; exact absurd hs.1 (by simp at hn; exact hn.1)
    · rw [members?]
      · rw [Option.map_eq_some_iff]
        constructor
        · rintro ⟨⟨ms', after'⟩, hr, he⟩
          obtain ⟨rfl, rfl⟩ := Prod.mk.inj he
          obtain ⟨hs, hn⟩ := ih.mp hr
          exact ⟨by rw [hs]; rfl, by simp [hn, Ne.symm hc]⟩
        · rintro ⟨hs, hn⟩
          cases ms with
          | nil => simp at hs; exact absurd hs.1 hc
          | cons m ms =>
            obtain ⟨rfl, hs'⟩ := List.cons.inj hs
            exact ⟨(ms, after), ih.mpr ⟨hs', fun hm => hn (List.mem_cons_of_mem _ hm)⟩, rfl⟩
      · intro h
        exact hc h

theorem classBody?_eq_some_iff {s ms after : Text} :
    classBody? s = some (ms, after) ↔ s = ms ++ ']' :: after ∧ IsMembers ms := by
  unfold IsMembers classBody?
  split
  · next rest =>
    rw [Option.map_eq_some_iff]
    constructor
    · rintro ⟨⟨ms', after'⟩, hr, he⟩
      obtain ⟨rfl, rfl⟩ := Prod.mk.inj he
      obtain ⟨hs, hn⟩ := members?_eq_some_iff.mp hr
      exact ⟨by rw [hs]; rfl, by simp, hn⟩
    · rintro ⟨hs, hne, hn⟩
      obtain ⟨m, ms, rfl⟩ := List.exists_cons_of_ne_nil hne
      obtain ⟨rfl, hs'⟩ := List.cons.inj hs
      exact ⟨(ms, after), members?_eq_some_iff.mpr ⟨hs', hn⟩, rfl⟩
  · next hs =>
    constructor
    · intro h
      split at h
      · simp at h
      · next hne =>
        obtain ⟨rfl, hn⟩ := members?_eq_some_iff.mp h
        refine ⟨rfl, ?_, fun hm => hn (List.mem_of_mem_tail hm)⟩
        rintro rfl
        exact hne after h
    · rintro ⟨rfl, hne, hn⟩
      obtain ⟨m, ms, rfl⟩ := List.exists_cons_of_ne_nil hne
      have hm : ']' ≠ m := by
        rintro rfl
        exact hs (ms ++ ']' :: after) rfl
      rw [members?_eq_some_iff.mpr ⟨rfl, by simp [hm]; exact hn⟩]

/-- The body of a class whose sign has been read. -/
theorem map_classBody?_eq_some_iff {sign negated : Bool} {s ms after : Text} :
    ((classBody? s).map fun (ms, after) => (sign, ms, after)) = some (negated, ms, after) ↔
      negated = sign ∧ s = ms ++ ']' :: after ∧ IsMembers ms := by
  rw [Option.map_eq_some_iff]
  constructor
  · rintro ⟨⟨ms', after'⟩, hr, he⟩
    simp only [Prod.mk.injEq] at he
    obtain ⟨rfl, rfl, rfl⟩ := he
    exact ⟨rfl, classBody?_eq_some_iff.mp hr⟩
  · rintro ⟨rfl, h⟩
    exact ⟨(ms, after), classBody?_eq_some_iff.mpr h, rfl⟩

/-- A class is an optional sign, its members and the closing bracket. Without the sign the members do
not start with it. -/
theorem class?_eq_some_iff {s ms after : Text} {negated : Bool} :
    class? s = some (negated, ms, after) ↔
      s = negation negated ++ (ms ++ ']' :: after) ∧ IsMembers ms ∧
        (negated = false → ms.head? ≠ some '!') := by
  unfold class? negation
  split
  · next rest =>
    rw [map_classBody?_eq_some_iff]
    constructor
    · rintro ⟨rfl, rfl, hm⟩
      exact ⟨rfl, hm, by simp⟩
    · rintro ⟨hs, hm, hsign⟩
      cases negated with
      | false =>
        obtain ⟨m, ms, rfl⟩ := List.exists_cons_of_ne_nil hm.1
        obtain ⟨rfl, -⟩ := List.cons.inj hs
        exact absurd rfl (hsign rfl)
      | true => exact ⟨rfl, (List.cons.inj hs).2, hm⟩
  · next hs =>
    rw [map_classBody?_eq_some_iff]
    constructor
    · rintro ⟨rfl, rfl, hm⟩
      refine ⟨rfl, hm, fun _ hh => ?_⟩
      obtain ⟨m, ms, rfl⟩ := List.exists_cons_of_ne_nil hm.1
      simp only [List.head?_cons, Option.some.injEq] at hh
      subst hh
      exact hs _ rfl
    · rintro ⟨rfl, hm, -⟩
      cases negated with
      | false => exact ⟨rfl, rfl, hm⟩
      | true => exact absurd rfl (hs (ms ++ ']' :: after))

/-! ## Patterns -/

/-- A component starts after the text: at the start of the pattern, and behind a slash. -/
def StartsComponent (before : Text) : Prop := before = [] ∨ before.getLast? = some '/'

/-- After one more character, a component starts when the character is a slash. -/
theorem slash_iff_startsComponent (before : Text) (c : Char) :
    (c == '/') = true ↔ StartsComponent (before ++ [c]) := by
  simp [StartsComponent]

/-- After `before`, the rest of a pattern spells the tokens. -/
inductive Spells : Text → Text → List GlobToken → Prop
  | nil {before : Text} : Spells before [] []
  | literal {before rest : Text} {tokens : List GlobToken} {c : Char}
      (hc : c ≠ '*' ∧ c ≠ '?' ∧ c ≠ '[') (h : Spells (before ++ [c]) rest tokens) :
    Spells before (c :: rest) (.literal c :: tokens)
  | anyOne {before rest : Text} {tokens : List GlobToken}
      (h : Spells (before ++ ['?']) rest tokens) :
    Spells before ('?' :: rest) (.anyOne :: tokens)
  | anyText {before rest : Text} {tokens : List GlobToken} (hr : rest.head? ≠ some '*')
      (h : Spells (before ++ ['*']) rest tokens) :
    Spells before ('*' :: rest) (.anyText :: tokens)
  | anyDirs {before rest : Text} {tokens : List GlobToken} (hb : StartsComponent before)
      (h : Spells (before ++ ['*', '*'] ++ ['/']) rest tokens) :
    Spells before ('*' :: '*' :: '/' :: rest) (.anyDirs :: tokens)
  | lastDirs {before : Text} (hb : StartsComponent before) :
    Spells before ['*', '*'] [.anyText]
  | oneOf {before ms rest : Text} {negated : Bool} {items : List ClassItem}
      {tokens : List GlobToken} (hm : IsMembers ms) (hs : negated = false → ms.head? ≠ some '!')
      (hi : ClassItem.Lists ms items)
      (h : Spells (before ++ '[' :: negation negated ++ ms ++ [']']) rest tokens) :
    Spells before ('[' :: (negation negated ++ (ms ++ ']' :: rest))) (.oneOf negated items :: tokens)

/-- Reading a token and then the rest succeeds when reading the rest does. -/
theorem cons_map_eq_ok_iff {token : GlobToken} {read : Except GlobFault (List GlobToken)}
    {tokens : List GlobToken} :
    (token :: ·) <$> read = .ok tokens ↔ ∃ rest, read = .ok rest ∧ token :: rest = tokens := by
  constructor
  · intro h
    cases read with
    | error fault => cases h
    | ok rest => cases h; exact ⟨rest, rfl, rfl⟩
  · rintro ⟨rest, rfl, rfl⟩
    rfl

/-- What the reader accepts is spelled. It knows of the text before a place whether a component starts
after it. -/
theorem spells_of_readFrom {position : Nat} {fresh : Bool} {s before : Text}
    {tokens : List GlobToken} (hf : fresh = true ↔ StartsComponent before)
    (h : readFrom position fresh s = .ok tokens) : Spells before s tokens := by
  -- the text before the place grows with every token, and `hf` follows it
  fun_induction readFrom position fresh s generalizing before tokens with
  | case1 =>
    cases h
    exact .nil
  | case2 =>
    cases h
    exact .lastDirs (hf.mp rfl)
  | case3 => cases h
  | case4 position after ih =>
    obtain ⟨rest, hr, rfl⟩ := cons_map_eq_ok_iff.mp h
    exact .anyDirs (hf.mp rfl) (ih (slash_iff_startsComponent _ '/') hr)
  | case5 => cases h
  | case6 => cases h
  | case7 position fresh rest hne ih =>
    obtain ⟨tokens, hr, rfl⟩ := cons_map_eq_ok_iff.mp h
    refine .anyText ?_ (ih (slash_iff_startsComponent before '*') hr)
    intro hh
    obtain ⟨rest', rfl⟩ := List.head?_eq_some_iff.mp hh
    exact hne rest' rfl
  | case8 position fresh rest ih =>
    obtain ⟨tokens, hr, rfl⟩ := cons_map_eq_ok_iff.mp h
    exact .anyOne (ih (slash_iff_startsComponent before '?') hr)
  | case9 => cases h
  | case10 position fresh rest negated ms after hclass ih =>
    obtain ⟨tokens, hr, rfl⟩ := cons_map_eq_ok_iff.mp h
    obtain ⟨rfl, hm, hs⟩ := class?_eq_some_iff.mp hclass
    exact .oneOf hm hs (ClassItem.lists_ofMembers ms)
      (ih (slash_iff_startsComponent _ ']') hr)
  | case11 position fresh c rest _ hstar hone hclass ih =>
    obtain ⟨tokens, hr, rfl⟩ := cons_map_eq_ok_iff.mp h
    exact .literal ⟨hstar, hone, hclass⟩ (ih (slash_iff_startsComponent before c) hr)

/-- What is spelled is accepted. -/
theorem readFrom_of_spells {before s : Text} {tokens : List GlobToken}
    (h : Spells before s tokens) : ∀ {position : Nat} {fresh : Bool},
      (fresh = true ↔ StartsComponent before) → readFrom position fresh s = .ok tokens := by
  induction h with
  | nil =>
    intro position fresh _
    rw [readFrom]
  | literal hc _ ih =>
    intro position fresh _
    rw [readFrom]
    · exact cons_map_eq_ok_iff.mpr ⟨_, ih (slash_iff_startsComponent _ _), rfl⟩
    -- the equations of the signs do not apply
    all_goals simp [hc]
  | anyOne _ ih =>
    intro position fresh _
    rw [readFrom]
    exact cons_map_eq_ok_iff.mpr ⟨_, ih (slash_iff_startsComponent _ '?'), rfl⟩
  | anyText hr _ ih =>
    intro position fresh _
    rw [readFrom]
    · exact cons_map_eq_ok_iff.mpr ⟨_, ih (slash_iff_startsComponent _ '*'), rfl⟩
    · rintro rest rfl
      exact hr rfl
  | anyDirs hb _ ih =>
    intro position fresh hf
    rw [readFrom, if_pos (hf.mpr hb)]
    exact cons_map_eq_ok_iff.mpr ⟨_, ih (slash_iff_startsComponent _ '/'), rfl⟩
  | lastDirs hb =>
    intro position fresh hf
    rw [readFrom, if_pos (hf.mpr hb)]
  | @oneOf _ ms rest negated _ _ hm hs hi _ ih =>
    intro position fresh _
    have hclass : class? (negation negated ++ (ms ++ ']' :: rest)) = some (negated, ms, rest) :=
      class?_eq_some_iff.mpr ⟨rfl, hm, hs⟩
    rw [readFrom]
    split
    · next hnone => rw [hclass] at hnone; cases hnone
    · next hsome =>
      rw [hclass] at hsome
      simp only [Option.some.injEq, Prod.mk.injEq] at hsome
      obtain ⟨rfl, rfl, rfl⟩ := hsome
      rw [← hi.eq_ofMembers]
      exact cons_map_eq_ok_iff.mpr ⟨_, ih (slash_iff_startsComponent _ ']'), rfl⟩

/-- **The reader accepts exactly the patterns that the grammar spells, with the same tokens.** -/
theorem read_eq_ok_iff {pattern : Text} {tokens : List GlobToken} :
    read pattern = .ok tokens ↔ Spells [] pattern tokens :=
  ⟨spells_of_readFrom (by simp [StartsComponent]),
    fun h => readFrom_of_spells h (by simp [StartsComponent])⟩

end GlobToken

end DocAudit
