import DocAudit.Proofs.Glob.Division
import DocAudit.Proofs.Glob.Pieces
import DocAudit.Proofs.Regex.Parts

/-!
# Globs as regular expressions

Every token of a glob can be written as a part of a regular expression. Characters stand for themselves behind a
backslash where they would mean something, a reversed range is left out of its class, and a class of which nothing
is left takes no character, or any when it is negated.

## Contents

* `GlobToken.expression`: the text of the expression, `GlobToken.regex`: the expression itself
* `GlobToken.ofText_expression`: **the reader of expressions accepts the text for any tokens**
* `GlobToken.matchesAll_regex_iff`: **the expression matches what the tokens match**
* `PathPattern.compile_iff_isGlob`: **the patterns that are compiled, and what they match then**
-/

namespace DocAudit

open Text

/-! ## The expression of a token -/

namespace ClassItem

/-- A part of a class as it is written in an expression. -/
def expression : ClassItem → Text
  | single c => Regex.quoted c
  | range low high => if low ≤ high then Regex.quoted low ++ '-' :: Regex.quoted high else []

/-- The tokens of what is written. -/
def lexed : ClassItem → List Regex.Token
  | single c => [.quoted c]
  | range low high => if low ≤ high then [.quoted low, .plain '-', .quoted high] else []

/-- The part of a set that is read from them. -/
def setItem? : ClassItem → Option SetItem
  | single c => some (.range c.toNat c.toNat)
  | range low high => if low ≤ high then some (.range low.toNat high.toNat) else none

theorem cuts_expression (item : ClassItem) : Regex.Token.Cuts item.expression item.lexed := by
  cases item with
  | single c => exact Regex.Token.cuts_quoted c
  | range low high =>
    simp only [expression, lexed]
    split
    · exact (Regex.Token.cuts_quoted low).append
        ((Regex.Token.cuts_plain (s := ['-']) (by decide)).append (Regex.Token.cuts_quoted high))
    · exact Regex.Token.cuts_nil

/-- A part is left out of the text, of its tokens and of the set alike. -/
theorem isNone_setItem?_iff (item : ClassItem) :
    (item.expression = [] ↔ item.setItem? = none) ∧ (item.lexed = [] ↔ item.setItem? = none) := by
  cases item with
  | single c => simp [expression, lexed, setItem?, Regex.quoted_ne_nil]
  | range low high =>
    simp only [expression, lexed, setItem?]
    split <;> simp

end ClassItem

namespace GlobToken

/-- The part of an expression that matches what the token matches. -/
def expression : GlobToken → Text
  | literal c => Regex.quoted c
  | anyOne => ['.']
  | anyText => ['.', '*']
  | anyDirs => ['(', '?', ':', '.', '*', '/', ')', '?']
  | oneOf negated items =>
    let body := items.flatMap ClassItem.expression
    if body = [] then if negated then ['.'] else ['(', '?', '!', ')']
    else '[' :: ((if negated then ['^'] else []) ++ (body ++ [']']))

/-- The tokens of that part. -/
def lexed : GlobToken → List Regex.Token
  | literal c => [.quoted c]
  | anyOne => [.plain '.']
  | anyText => [.plain '.', .plain '*']
  | anyDirs => ['(', '?', ':', '.', '*', '/', ')', '?'].map .plain
  | oneOf negated items =>
    let body := items.flatMap ClassItem.lexed
    if body = [] then if negated then [.plain '.'] else ['(', '?', '!', ')'].map .plain
    else .plain '[' :: ((if negated then [.plain '^'] else []) ++ (body ++ [.plain ']']))

/-- What is read from them. -/
def regex : GlobToken → Regex
  | literal c => .char c.toNat
  | anyOne => .any
  | anyText => .repeated .greedy 0 none .any
  | anyDirs =>
    .repeated .greedy 0 (some 1) (.scoped {} {} (.seq (.repeated .greedy 0 none .any) (.char '/'.toNat)))
  | oneOf negated items =>
    let set := items.filterMap ClassItem.setItem?
    if set = [] then if negated then .any else .ahead true .empty
    else .set negated set

end GlobToken

/-! ## Reading the expression -/

namespace GlobToken

open Regex (Token State)

theorem cuts_expression (token : GlobToken) : Token.Cuts token.expression token.lexed := by
  have hplain : ∀ s : Text, '\\' ∉ s → Token.Cuts s (s.map .plain) := fun _ => Token.cuts_plain
  cases token with
  | literal c => exact Token.cuts_quoted c
  | anyOne => exact hplain _ (by decide)
  | anyText => exact hplain _ (by decide)
  | anyDirs => exact hplain _ (by decide)
  | oneOf negated items =>
    have hbody : Token.Cuts (items.flatMap ClassItem.expression) (items.flatMap ClassItem.lexed) :=
      .flatMap ClassItem.cuts_expression items
    have hnil : items.flatMap ClassItem.expression = [] ↔ items.flatMap ClassItem.lexed = [] := by
      simp only [List.flatMap_eq_nil_iff, ClassItem.isNone_setItem?_iff]
    simp only [expression, lexed, hnil]
    split
    · cases negated <;> exact hplain _ (by decide)
    · cases negated
      · exact (hplain ['['] (by decide)).append (hbody.append (hplain [']'] (by decide)))
      · exact (hplain ['[', '^'] (by decide)).append (hbody.append (hplain [']'] (by decide)))

/-- What follows a token is no sign for repetitions. -/
theorem head?_flatMap_lexed (tokens : List GlobToken) :
    ∀ t ∈ (tokens.flatMap lexed).head?, t.is '?' = false ∧ t.is '+' = false := by
  cases tokens with
  | nil => simp
  | cons token tokens =>
    have hhead : ∃ t ts, token.lexed = t :: ts ∧ t.is '?' = false ∧ t.is '+' = false := by
      cases token with
      | literal c => exact ⟨_, _, rfl, Regex.Token.quoted_is (by decide), Regex.Token.quoted_is (by decide)⟩
      | anyOne => exact ⟨_, _, rfl, rfl, rfl⟩
      | anyText => exact ⟨_, _, rfl, rfl, rfl⟩
      | anyDirs => exact ⟨_, _, rfl, rfl, rfl⟩
      | oneOf negated items =>
        simp only [lexed]
        split
        · cases negated <;> exact ⟨_, _, rfl, rfl, rfl⟩
        · exact ⟨_, _, rfl, rfl, rfl⟩
    obtain ⟨t, ts, htoken, ht⟩ := hhead
    rw [List.flatMap_cons, htoken]
    rintro _ ⟨⟩
    exact ht

/-- The parts of a class start with a character that is written to stand for itself. -/
theorem exists_quoted_of_mem_head? {items : List ClassItem} :
    ∀ t ∈ (items.flatMap ClassItem.lexed).head?, ∃ c, t = Token.quoted c := by
  induction items with
  | nil => simp
  | cons item items ih =>
    rw [List.flatMap_cons]
    cases item with
    | single c =>
      rintro _ ⟨⟩
      exact ⟨c, rfl⟩
    | range low high =>
      simp only [ClassItem.lexed]
      split
      · rintro _ ⟨⟩
        exact ⟨low, rfl⟩
      · exact ih

/-- So no other sign stands in front of them, nor in front of the bracket behind them. -/
theorem head?_flatMap_items {c : Char} (hc : c ∈ Regex.signs) (hclose : c ≠ ']') (items : List ClassItem)
    (rest : List Token) :
    ∀ t ∈ (items.flatMap ClassItem.lexed ++ Token.plain ']' :: rest).head?, t.is c = false := by
  have hquoted : ∀ t ∈ (items.flatMap ClassItem.lexed).head?, ∃ d, t = Token.quoted d :=
    exists_quoted_of_mem_head?
  generalize items.flatMap ClassItem.lexed = ts at hquoted ⊢
  cases ts with
  | nil =>
    rintro _ ⟨⟩
    exact beq_eq_false_iff_ne.mpr hclose.symm
  | cons t ts =>
    rintro _ ⟨⟩
    obtain ⟨d, rfl⟩ := hquoted t rfl
    exact Regex.Token.quoted_is hc

/-- The reader finds the parts of a class that are not left out, up to the closing bracket. -/
theorem run_setItems_lexed {items : List ClassItem} {n : Nat} {first : Bool} {s : State} {rest : List Token}
    (hn : (items.flatMap ClassItem.lexed).length < n)
    (hfirst : first = true → items.flatMap ClassItem.lexed ≠ []) :
    (Regex.setItems first n).run (s.facing (items.flatMap ClassItem.lexed ++ Token.plain ']' :: rest)) =
      .ok (items.filterMap ClassItem.setItem?, s.facing rest) := by
  induction items generalizing n first with
  | nil =>
    obtain rfl : first = false := by
      rw [← Bool.not_eq_true]
      exact fun h => hfirst h rfl
    obtain ⟨m, rfl⟩ : ∃ m, n = m + 1 := ⟨n - 1, by omega⟩
    exact Regex.run_setItems_close
  | cons item items ih =>
    rw [List.flatMap_cons, List.length_append] at hn
    rw [List.flatMap_cons] at hfirst
    rw [List.flatMap_cons, List.append_assoc]
    cases item with
    | single c =>
      simp only [ClassItem.lexed, List.length_singleton] at hn
      obtain ⟨m, rfl⟩ : ∃ m, n = m + 1 := ⟨n - 1, by omega⟩
      exact Regex.run_setItems_single (head?_flatMap_items (by decide) (by decide) items rest)
        (ih (by omega) nofun)
    | range low high =>
      by_cases hle : low ≤ high
      · simp only [ClassItem.lexed, hle, if_true, List.length_cons] at hn
        obtain ⟨m, rfl⟩ : ∃ m, n = m + 1 := ⟨n - 1, by omega⟩
        simp only [ClassItem.lexed, ClassItem.setItem?, hle, if_true, List.filterMap_cons]
        exact Regex.run_setItems_range hle (ih (by omega) nofun)
      · -- nothing is written for a range that holds nothing, so the next part still comes first
        simp only [ClassItem.lexed, hle, if_false, List.nil_append, List.length_nil] at hn hfirst
        simp only [ClassItem.lexed, ClassItem.setItem?, hle, if_false, List.nil_append, List.filterMap_cons]
        exact ih (by omega) hfirst

theorem run_bracketed_lexed {items : List ClassItem} {negated : Bool} {s : State} {rest : List Token}
    (hitems : items.flatMap ClassItem.lexed ≠ []) :
    Regex.bracketed.run (s.facing ((if negated then [Token.plain '^'] else []) ++
        (items.flatMap ClassItem.lexed ++ Token.plain ']' :: rest))) =
      .ok (.set negated (items.filterMap ClassItem.setItem?), s.facing rest) := by
  have hsign : (Regex.Reading.accept '^').run (s.facing ((if negated then [Token.plain '^'] else []) ++
      (items.flatMap ClassItem.lexed ++ Token.plain ']' :: rest))) =
        .ok (negated, s.facing (items.flatMap ClassItem.lexed ++ Token.plain ']' :: rest)) := by
    cases negated with
    | false => exact Regex.Reading.run_accept_of_ne (head?_flatMap_items (by decide) (by decide) items rest)
    | true => exact Regex.Reading.run_accept_of_is rfl
  have hget : (get : Regex.Reading State).run
      (s.facing (items.flatMap ClassItem.lexed ++ Token.plain ']' :: rest)) =
      .ok (s.facing (items.flatMap ClassItem.lexed ++ Token.plain ']' :: rest),
        s.facing (items.flatMap ClassItem.lexed ++ Token.plain ']' :: rest)) := rfl
  rw [Regex.bracketed, Regex.Reading.run_bind_of_ok hsign, Regex.Reading.run_bind_of_ok hget]
  rw [Regex.Reading.run_bind_of_ok (run_setItems_lexed ?_ fun _ => hitems)]
  · rfl
  · rw [State.facing, List.length_append]
    omega

/-- The group of directories, which may be left out. -/
theorem run_parts_anyDirs {m : Nat} {rest : List Token} (done : List Regex) (s : State)
    (hrest : ∀ t ∈ rest.head?, t.is '?' = false ∧ t.is '+' = false) :
    (Regex.parts (m + 7) 2 false true done).run (s.facing (anyDirs.lexed ++ rest)) =
      (Regex.parts (m + 5) 2 false true (anyDirs.regex :: done)).run (s.facing rest) := by
  have hinner : (Regex.parts (m + 4) 4 false false []).run
      (s.facing (Token.plain '.' :: Token.plain '*' :: Token.quoted '/' ::
        Token.plain ')' :: Token.plain '?' :: rest)) =
      .ok (.seq (.repeated .greedy 0 none .any) (.char '/'.toNat),
        s.facing (Token.plain ')' :: Token.plain '?' :: rest)) := by
    rw [Regex.run_parts_any (by decide), Regex.run_parts_repeated (by decide) (.inl ⟨rfl, rfl⟩) rfl,
      Regex.run_parts_quoted (by decide), Regex.run_parts_close (by decide)]
    · rfl
    · rintro _ ⟨⟩
      exact ⟨rfl, rfl⟩
  exact (Regex.run_parts_group (by decide) hinner).trans
    (Regex.run_parts_repeated (by decide) (.inr ⟨rfl, rfl⟩) rfl hrest)

/-- A class. Where nothing of its members is left, a part stands for it that takes nothing, or anything. -/
theorem run_parts_oneOf {negated : Bool} {items : List ClassItem} {n : Nat} {rest : List Token}
    (done : List Regex) (s : State) (hn : (oneOf negated items).lexed.length + rest.length < n) :
    ∃ n', rest.length < n' ∧
      (Regex.parts n 2 false true done).run (s.facing ((oneOf negated items).lexed ++ rest)) =
        (Regex.parts n' 2 false true ((oneOf negated items).regex :: done)).run (s.facing rest) := by
  have hnil : items.filterMap ClassItem.setItem? = [] ↔ items.flatMap ClassItem.lexed = [] := by
    simp only [List.filterMap_eq_nil_iff, List.flatMap_eq_nil_iff, ClassItem.isNone_setItem?_iff]
  simp only [lexed] at hn
  simp only [lexed, regex, hnil]
  split
  · next hempty =>
    rw [if_pos hempty] at hn
    cases negated with
    | false =>
      simp only [Bool.false_eq_true, if_false, List.length_map, List.length_cons, List.length_nil] at hn
      obtain ⟨m, rfl⟩ : ∃ m, n = m + 4 := ⟨n - 4, by omega⟩
      exact ⟨m + 3, by omega, Regex.run_parts_never (by decide)⟩
    | true =>
      simp only [if_true, List.length_singleton] at hn
      obtain ⟨m, rfl⟩ : ∃ m, n = m + 1 := ⟨n - 1, by omega⟩
      exact ⟨m, by omega, Regex.run_parts_any (by decide)⟩
  · next hitems =>
    rw [if_neg hitems, List.length_cons] at hn
    obtain ⟨m, rfl⟩ : ∃ m, n = m + 1 := ⟨n - 1, by omega⟩
    refine ⟨m, by omega, ?_⟩
    rw [List.cons_append, List.append_assoc, List.append_assoc, List.singleton_append,
      Regex.run_parts_set (by decide),
      Regex.Reading.run_bind_of_ok (run_bracketed_lexed hitems)]

/-- **The reader makes of each token the part that is meant.** Less fuel is left, but enough for what follows. -/
theorem run_parts_token {token : GlobToken} {n : Nat} {rest : List Token} (done : List Regex) (s : State)
    (hn : token.lexed.length + rest.length < n) (hrest : ∀ t ∈ rest.head?, t.is '?' = false ∧ t.is '+' = false) :
    ∃ n', rest.length < n' ∧ (Regex.parts n 2 false true done).run (s.facing (token.lexed ++ rest)) =
      (Regex.parts n' 2 false true (token.regex :: done)).run (s.facing rest) := by
  cases token with
  | literal c =>
    obtain ⟨m, rfl⟩ : ∃ m, n = m + 1 := ⟨n - 1, by omega⟩
    exact ⟨m, by simp [lexed] at hn; omega, Regex.run_parts_quoted (by decide)⟩
  | anyOne =>
    obtain ⟨m, rfl⟩ : ∃ m, n = m + 1 := ⟨n - 1, by omega⟩
    exact ⟨m, by simp [lexed] at hn; omega, Regex.run_parts_any (by decide)⟩
  | anyText =>
    simp only [lexed, List.length_cons, List.length_nil] at hn
    obtain ⟨m, rfl⟩ : ∃ m, n = m + 2 := ⟨n - 2, by omega⟩
    refine ⟨m, by omega, ?_⟩
    exact (Regex.run_parts_any (by decide)).trans
      (Regex.run_parts_repeated (by decide) (.inl ⟨rfl, rfl⟩) rfl hrest)
  | anyDirs =>
    simp only [lexed, List.length_map, List.length_cons, List.length_nil] at hn
    obtain ⟨m, rfl⟩ : ∃ m, n = m + 7 := ⟨n - 7, by omega⟩
    exact ⟨m + 5, by omega, run_parts_anyDirs done s hrest⟩
  | oneOf negated items => exact run_parts_oneOf done s hn

/-- The reader goes through all tokens. -/
theorem run_parts_tokens {tokens : List GlobToken} {n : Nat} (done : List Regex) (s : State)
    (hn : (tokens.flatMap lexed).length < n) :
    (Regex.parts n 2 false true done).run (s.facing (tokens.flatMap lexed)) =
      .ok (.ofList (done.reverse ++ tokens.map regex), s.facing []) := by
  induction tokens generalizing n done with
  | nil =>
    obtain ⟨m, rfl⟩ : ∃ m, n = m + 1 := ⟨n - 1, by simp at hn; omega⟩
    rw [List.map_nil, List.append_nil]
    exact Regex.run_parts_nil (by decide)
  | cons token tokens ih =>
    rw [List.flatMap_cons, List.length_append] at hn
    obtain ⟨m, hm, htoken⟩ := run_parts_token done s hn (head?_flatMap_lexed tokens)
    rw [List.flatMap_cons, htoken, ih (token.regex :: done) hm]
    simp

/-- Nothing in the expression is deep. -/
theorem depth_regex (token : GlobToken) : token.regex.depth ≤ 2 := by
  cases token with
  | literal c => exact Nat.zero_le 2
  | anyOne => decide
  | anyText => decide
  | anyDirs => decide
  | oneOf negated items =>
    simp only [regex]
    split
    · cases negated <;> decide
    · exact Nat.zero_le 2

theorem depth_ofList {rs : List Regex} (h : ∀ r ∈ rs, r.depth ≤ 2) : (Regex.ofList rs).depth ≤ 2 := by
  fun_induction Regex.ofList rs with
  | case1 => decide
  | case2 r => exact h r List.mem_cons_self
  | case3 r rest _ ih =>
    exact Nat.max_le.mpr ⟨h r List.mem_cons_self, ih fun r hr => h r (List.mem_cons_of_mem _ hr)⟩

/-- **The reader of expressions accepts what is written for any tokens.** A dot takes every character, also at the
end of a line. -/
theorem ofText_expression (tokens : List GlobToken) :
    Regex.ofText { dotAll := true } (tokens.flatMap expression) =
      .ok ({ dotAll := true }, .ofList (tokens.map regex)) := by
  have hcuts := (Token.Cuts.flatMap cuts_expression tokens).ofText?_eq
  have hdepth : (Regex.ofList (tokens.map regex)).depth ≤ 2 := by
    refine depth_ofList fun r hr => ?_
    obtain ⟨token, -, rfl⟩ := List.mem_map.mp hr
    exact depth_regex token
  -- every part takes at least one token, and there is more fuel than tokens
  have hfuel : (tokens.flatMap lexed).length < 4 * (tokens.flatMap lexed).length + 3 := by omega
  have hparts := run_parts_tokens [] { rest := [], modes := { dotAll := true } } hfuel
  have hrun : (Regex.alternatives (4 * (tokens.flatMap lexed).length + 4) 0 false true).run
      { rest := tokens.flatMap lexed, modes := { dotAll := true } } =
        .ok (.ofList (tokens.map regex), { rest := [], modes := { dotAll := true } }) :=
    Regex.run_alternatives hparts (by simp)
  rw [Regex.ofText, hcuts]
  simp only [hrun]
  have hshallow : ¬ Regex.depthLimit < (Regex.ofList (tokens.map regex)).depth := by
    rw [Regex.depthLimit]
    omega
  change (if Regex.depthLimit < (Regex.ofList (tokens.map regex)).depth then throw Regex.Fault.tooDeep else
    pure (({ dotAll := true } : Modes), Regex.ofList (tokens.map regex))) = _
  rw [if_neg hshallow]
  rfl

/-! ## What the expression matches -/

section Matching

variable {m : Modes} (hcase : m.ignoreCase = false) (hall : m.dotAll = true)

include hcase

theorem holds_range_iff {low high : Char} {c : Char} :
    (SetItem.range low.toNat high.toNat).holds m c = true ↔ low.toNat ≤ c.toNat ∧ c.toNat ≤ high.toNat := by
  rw [SetItem.holds, Modes.spellings, hcase]
  simp

theorem holds_single_iff {c d : Char} : (SetItem.range d.toNat d.toNat).holds m c = true ↔ c = d := by
  rw [holds_range_iff hcase]
  constructor
  · rintro ⟨hle, hge⟩
    exact Char.toNat_inj.mp (Nat.le_antisymm hge hle)
  · rintro rfl
    exact ⟨Nat.le_refl _, Nat.le_refl _⟩

/-- A set holds the characters of the class that it was written for. -/
theorem any_holds_setItem?_eq {items : List ClassItem} {c : Char} :
    (items.filterMap ClassItem.setItem?).any (·.holds m c) = items.any (·.holds c) := by
  rw [List.any_filterMap]
  congr 1
  funext item
  rw [Bool.eq_iff_iff, ClassItem.holds_iff]
  cases item with
  | single d => exact holds_single_iff hcase
  | range low high =>
    by_cases hle : low ≤ high
    · simp only [ClassItem.setItem?, hle, if_true]
      exact holds_range_iff hcase
    · simp only [ClassItem.setItem?, hle, if_false]
      exact iff_of_false nofun fun hc => hle (Nat.le_trans hc.1 hc.2)

theorem takes_char {d : Char} : Regex.Takes m (.char d.toNat) (· = [d]) := by
  refine Regex.takes_set.congr fun piece => ?_
  simp [holds_single_iff hcase]

include hall

/-- The part that is written for a token takes the pieces that fit it. -/
theorem takes_regex (token : GlobToken) : Regex.Takes m token.regex token.Fits := by
  cases token with
  | literal c => exact takes_char hcase
  | anyOne => exact Regex.takes_any hall
  | anyText => exact Regex.takes_anyText hall
  | anyDirs =>
    -- a group that names no modes keeps those around it
    have hmodes : (m.union {}).without {} = m := by simp [Modes.union, Modes.without]
    have hdirs := ((Regex.takes_anyText hall).seq (takes_char hcase (d := '/')))
    rw [← hmodes] at hdirs
    refine hdirs.scoped.optional.congr fun piece => ?_
    simp [Fits, List.getLast?_eq_some_iff]
  | oneOf negated items =>
    simp only [regex]
    split
    · next hempty =>
      have hnone : ∀ c, ¬ ∃ item ∈ items, ClassItem.Contains c item := by
        intro c h
        have hany : items.any (·.holds c) = true := by simpa using h
        rw [← any_holds_setItem?_eq hcase, hempty] at hany
        cases hany
      cases negated with
      | false => exact Regex.takes_never.congr fun piece => by simp [Fits, hnone]
      | true => exact (Regex.takes_any hall).congr fun piece => by simp [Fits, hnone]
    · refine Regex.takes_set.congr fun piece => ?_
      simp only [any_holds_setItem?_eq hcase, ClassItem.any_holds_bne_iff, Fits]

end Matching

/-- **The expression matches the texts that the tokens match.** -/
theorem matchesAll_regex_eq (tokens : List GlobToken) (s : Text) :
    Regex.matchesAll { dotAll := true } (.ofList (tokens.map regex)) s = matchAll tokens s := by
  rw [Bool.eq_iff_iff, matchAll_iff]
  exact (Regex.Takes.ofList (takes_regex rfl rfl) tokens).matchesAll_iff

end GlobToken

/-! ## Compiled patterns -/

namespace PathPattern

open GlobToken

/-- Why a pattern cannot be compiled: it is no glob, or what is written for it is no expression. -/
inductive CompileFault
  | glob (fault : GlobFault)
  | expression (fault : Regex.Fault)
  deriving DecidableEq, Repr

/-- The expression of a pattern with its modes. -/
def compile (pattern : Text) : Except CompileFault (Modes × Regex) :=
  match GlobToken.read pattern with
  | .error fault => .error (.glob fault)
  | .ok tokens =>
    match Regex.ofText { dotAll := true } (tokens.flatMap expression) with
    | .error fault => .error (.expression fault)
    | .ok compiled => .ok compiled

theorem compile_of_read_eq_ok {pattern : Text} {tokens : List GlobToken}
    (h : GlobToken.read pattern = .ok tokens) :
    compile pattern = .ok ({ dotAll := true }, .ofList (tokens.map regex)) := by
  rw [compile, h]
  simp only [ofText_expression]

theorem compile_of_read_eq_error {pattern : Text} {fault : GlobFault} (h : GlobToken.read pattern = .error fault) :
    compile pattern = .error (.glob fault) := by
  rw [compile, h]

/-- The patterns that are read are the globs. -/
theorem exists_read_iff {pattern : Text} : (∃ tokens, GlobToken.read pattern = .ok tokens) ↔ IsGlob none pattern :=
  exists_readFrom_iff (by simp) (by simp)

/--
**A pattern is compiled when it is a glob, and then its expression matches what the pattern matches.**

A glob is divided into characters and classes with all its stars in their places. Every other pattern is refused
with a fault that tells of a place where it is none. What is written for a pattern is never refused as an
expression.
-/
theorem compile_iff_isGlob (pattern : Text) :
    ((∃ compiled, compile pattern = .ok compiled) ↔ IsGlob none pattern) ∧
      (fault? pattern = none ↔ IsGlob none pattern) ∧
      (IsGlob none pattern ∨ ∃ fault : GlobFault, compile pattern = .error (.glob fault) ∧
        fault? pattern = some fault ∧ fault.IsTrueOf pattern) ∧
      (∀ fault, compile pattern ≠ .error (.expression fault)) ∧
      ∀ path, globMatches path pattern = match compile pattern with
        | .ok (m, r) => Regex.matchesAll m r path
        | .error _ => false := by
  rw [← exists_read_iff, fault?]
  simp only [globMatches]
  cases hread : GlobToken.read pattern with
  | ok tokens =>
    have hok : ∃ tokens', (Except.ok tokens : Except GlobFault (List GlobToken)) = .ok tokens' := ⟨tokens, rfl⟩
    rw [compile_of_read_eq_ok hread]
    refine ⟨iff_of_true ⟨_, rfl⟩ hok, iff_of_true rfl hok, .inl hok, by simp, fun path => ?_⟩
    exact (matchesAll_regex_eq tokens path).symm
  | error fault =>
    have herror : ¬ ∃ tokens, (Except.error fault : Except GlobFault (List GlobToken)) = .ok tokens := by simp
    have htrue : fault.IsTrueOf ([] ++ pattern) :=
      isTrueOf_of_readFrom hread (PatternPart.divide_nil.mpr rfl) rfl (by simp) (by simp)
    rw [compile_of_read_eq_error hread]
    exact ⟨iff_of_false (by simp) herror, iff_of_false (by simp) herror, .inr ⟨fault, rfl, rfl, htrue⟩, by simp,
      fun _ => rfl⟩

end PathPattern

end DocAudit
