import DocAudit.Regex.Match
import DocAudit.Regex.Reader
import Mathlib.Data.List.Forall2

/-!
# Parts of expressions

The reader of expressions goes through tokens and keeps a state. What it does with the tokens at hand is told here
for the parts that expressions for patterns are made of, whatever tokens follow. The matcher is told what has to
follow, and goes back when it does not. So an expression is described by the pieces of text that it can take: it
matches when what follows holds behind one of them.

## Contents

* `Regex.signs`, `Regex.quoted`: a character that is written to stand for itself
* `Regex.Token.Cuts`: how a text is cut into tokens, also in front of another one
* `Regex.run_parts_plain` and its like: **what the reader makes of the tokens at hand**, one lemma for each kind of
  part
* `Regex.run_setItems_single`, `Regex.run_setItems_range`: the same inside of a set
* `Regex.Takes`: an expression and the pieces that it can take
* `Regex.Takes.seq`, `Regex.Takes.optional`, `Regex.takes_anyText`, `Regex.Takes.ofList`: pieces of compound
  expressions
* `Regex.Takes.matchesAll_iff`: **a whole text matches when it is such a piece**
-/

namespace DocAudit

open Text

namespace Regex

/-! ## Characters that stand for themselves -/

/-- The characters that can mean something in an expression. -/
def signs : Text := "()[]\x7B\x7D?*+-|^$\\.&~# \t\n\r\x0B\x0C".toList

/-- The character as it is written to stand for itself. -/
def quoted (c : Char) : Text := if c ∈ signs then ['\\', c] else [c]

theorem quoted_ne_nil (c : Char) : quoted c ≠ [] := by
  unfold quoted
  split <;> simp

namespace Token

/-- The token of a character that is written to stand for itself. -/
def quoted (c : Char) : Token := ⟨decide (c ∈ signs), c⟩

/-- A character that is no backslash is a token of its own. -/
def plain (c : Char) : Token := ⟨false, c⟩

/-- The text is cut into the tokens, whatever follows it. -/
def Cuts (s : Text) (ts : List Token) : Prop := ∀ rest, ofText? (s ++ rest) = (ofText? rest).map (ts ++ ·)

theorem cuts_nil : Cuts [] [] := by
  intro rest
  simp

theorem Cuts.append {s s' : Text} {ts ts' : List Token} (h : Cuts s ts) (h' : Cuts s' ts') :
    Cuts (s ++ s') (ts ++ ts') := by
  intro rest
  rw [List.append_assoc, h, h', Option.map_map]
  simp [Function.comp_def]

theorem ofText?_cons {c : Char} {s : Text} (hc : c ≠ '\\') :
    ofText? (c :: s) = (ofText? s).map (plain c :: ·) := by
  rw [ofText?]
  · rfl
  · rintro rfl
    exact absurd rfl hc
  · rintro _ _ rfl
    exact absurd rfl hc

theorem cuts_plain {s : Text} (hs : '\\' ∉ s) : Cuts s (s.map plain) := by
  intro rest
  induction s with
  | nil => simp
  | cons c s ih =>
    obtain ⟨hc, hs⟩ := List.ne_and_not_mem_of_not_mem_cons hs
    rw [List.cons_append, ofText?_cons hc.symm, ih hs, Option.map_map]
    rfl

theorem cuts_quoted (c : Char) : Cuts (Regex.quoted c) [quoted c] := by
  unfold Regex.quoted quoted
  by_cases hc : c ∈ signs
  · intro rest
    rw [if_pos hc, decide_eq_true hc]
    rfl
  · rw [if_neg hc, decide_eq_false hc]
    refine cuts_plain (s := [c]) ?_
    rintro hmem
    rw [← List.mem_singleton.mp hmem] at hc
    exact hc (by decide)

theorem Cuts.flatMap {α : Type} {f : α → Text} {g : α → List Token} (h : ∀ a, Cuts (f a) (g a)) (l : List α) :
    Cuts (l.flatMap f) (l.flatMap g) := by
  induction l with
  | nil => exact cuts_nil
  | cons a l ih => exact (h a).append ih

theorem Cuts.ofText?_eq {s : Text} {ts : List Token} (h : Cuts s ts) : ofText? s = some ts := by
  have hnil := h []
  simpa [ofText?] using hnil

end Token

/-! ## Reading token by token -/

/-- The state in front of tokens. -/
def State.facing (s : State) (ts : List Token) : State := { s with rest := ts }

namespace Reading

variable {α β : Type} {s s' : State} {t : Token} {rest : List Token} {c : Char}

theorem run_bind_of_ok {x : Reading α} {f : α → Reading β} {a : α} (h : x.run s = .ok (a, s')) :
    (x >>= f).run s = (f a).run s' := by
  rw [StateT.run_bind, h]
  rfl

theorem run_peek : peek.run (s.facing rest) = .ok (rest.head?, s.facing rest) := rfl

theorem run_next : next.run (s.facing rest) = .ok (rest.head?, s.facing rest.tail) := rfl

theorem run_demand : demand.run (s.facing (t :: rest)) = .ok (t, s.facing rest) := rfl

theorem run_accept_of_is (h : t.is c = true) :
    (accept c).run (s.facing (t :: rest)) = .ok (true, s.facing rest) := by
  rw [accept, run_bind_of_ok run_peek]
  simp only [List.head?_cons, h, if_true]
  rw [run_bind_of_ok run_next]
  rfl

theorem run_accept_of_ne (h : ∀ t ∈ rest.head?, t.is c = false) :
    (accept c).run (s.facing rest) = .ok (false, s.facing rest) := by
  rw [accept, run_bind_of_ok run_peek]
  cases rest with
  | nil => rfl
  | cons t rest =>
    simp only [List.head?_cons, h t rfl]
    rfl

theorem run_expect (h : t.is c = true) :
    (expect c).run (s.facing (t :: rest)) = .ok ((), s.facing rest) := by
  rw [expect, run_bind_of_ok (run_accept_of_is h)]
  rfl

theorem run_enter {depth : Nat} (h : depth ≤ depthLimit) : (enter depth).run s = .ok ((), s) := by
  rw [enter, if_neg (by omega)]
  rfl

end Reading

open Reading

section Parts

variable {n depth : Nat} {first : Bool} {done : List Regex} {s : State} {rest : List Token} {t : Token}

theorem run_parts_nil (hdepth : depth ≤ depthLimit) :
    (parts (n + 1) depth false first done).run (s.facing []) = .ok (.ofList done.reverse, s.facing []) := by
  rw [parts, run_bind_of_ok (run_enter hdepth), run_bind_of_ok run_peek]
  rfl

theorem run_parts_close (hdepth : depth ≤ depthLimit) :
    (parts (n + 1) depth false first done).run (s.facing (Token.plain ')' :: rest)) =
      .ok (.ofList done.reverse, s.facing (Token.plain ')' :: rest)) := by
  rw [parts, run_bind_of_ok (run_enter hdepth), run_bind_of_ok run_peek]
  rfl

theorem run_parts_any (hdepth : depth ≤ depthLimit) :
    (parts (n + 1) depth false first done).run (s.facing (Token.plain '.' :: rest)) =
      (parts n depth false first (.any :: done)).run (s.facing rest) := by
  rw [parts, run_bind_of_ok (run_enter hdepth), run_bind_of_ok run_peek]
  rfl

theorem run_parts_set (hdepth : depth ≤ depthLimit) :
    (parts (n + 1) depth false first done).run (s.facing (Token.plain '[' :: rest)) =
      (bracketed >>= fun r => parts n depth false first (r :: done)).run (s.facing rest) := by
  rw [parts, run_bind_of_ok (run_enter hdepth), run_bind_of_ok run_peek]
  rfl

/-- Behind a backslash, a sign is no letter and no digit. -/
theorem escapes_of_sign : ∀ c ∈ signs, anchorEscape? c = none ∧ categoryEscape? c = none ∧
    (∀ n ∈ controlEscape? c, n = c.toNat) ∧ c.isDigit = false ∧ isOctalDigit c = false ∧ c.isAlphanum = false := by
  have hall : signs.all (fun c => (anchorEscape? c).isNone && (categoryEscape? c).isNone &&
      (controlEscape? c).all (· == c.toNat) && !c.isDigit && !isOctalDigit c && !c.isAlphanum) = true := by decide
  intro c hc
  simpa [and_assoc, Option.all_eq_true] using List.all_eq_true.mp hall c hc

theorem run_pointEscape {c : Char} (hc : c.isAlphanum = false) : (pointEscape c).run s = .ok (c.toNat, s) := by
  have hne : ∀ d : Char, d.isAlphanum = true → (c == d) = false := by
    intro d hd
    rw [beq_eq_false_iff_ne]
    rintro rfl
    rw [hc] at hd
    cases hd
  rw [pointEscape, hne 'x' rfl, hne 'u' rfl, hne 'U' rfl, hne 'N' rfl, hc]
  rfl

/-- An escaped sign is the character itself. -/
theorem run_escape_of_sign {c : Char} (hc : c ∈ signs) : (escape c).run s = .ok (.char c.toNat, s) := by
  obtain ⟨hanchor, hcategory, hcontrol, hdigit, -, halnum⟩ := escapes_of_sign c hc
  rw [escape, hanchor, hcategory]
  cases h : controlEscape? c with
  | some n =>
    obtain rfl := hcontrol n h
    rfl
  | none =>
    have hzero : (c == '0') = false := by
      rw [beq_eq_false_iff_ne]
      rintro rfl
      cases hdigit
    simp only [hzero, hdigit, Bool.false_eq_true, if_false]
    rw [run_bind_of_ok (run_pointEscape halnum)]
    rfl

/-- So it is in a set. -/
theorem run_setEscape_of_sign {c : Char} (hc : c ∈ signs) :
    (setEscape c).run s = .ok (.range c.toNat c.toNat, s) := by
  obtain ⟨-, hcategory, hcontrol, -, hoctal, halnum⟩ := escapes_of_sign c hc
  rw [setEscape, hcategory]
  cases h : controlEscape? c with
  | some n =>
    obtain rfl := hcontrol n h
    rfl
  | none =>
    simp only [hoctal, Bool.false_eq_true, if_false]
    rw [run_bind_of_ok (run_pointEscape halnum)]
    rfl

theorem beq_eq_false_of_mem_signs {c d : Char} (hc : c ∉ signs) (hd : d ∈ signs) : (c == d) = false := by
  rw [beq_eq_false_iff_ne]
  rintro rfl
  exact hc hd

theorem run_parts_plain {c : Char} (hdepth : depth ≤ depthLimit) (hc : c ∉ signs) :
    (parts (n + 1) depth false first done).run (s.facing (Token.plain c :: rest)) =
      (parts n depth false first (.char c.toNat :: done)).run (s.facing rest) := by
  have hne : ∀ d ∈ signs, (c == d) = false := fun d hd => beq_eq_false_of_mem_signs hc hd
  rw [parts, run_bind_of_ok (run_enter hdepth), run_bind_of_ok run_peek]
  simp only [List.head?_cons, Token.is, Token.plain, hne '|' (by decide), hne ')' (by decide), Bool.and_false,
    Bool.or_self, Bool.false_eq_true, if_false, Bool.false_and]
  rw [run_bind_of_ok run_next]
  split
  all_goals try exact absurd (by decide) hc
  simp only [hne '?' (by decide), hne '*' (by decide), hne '+' (by decide), hne '\x7B' (by decide), Bool.or_self,
    Bool.false_eq_true, if_false]
  rfl

theorem run_parts_quoted {c : Char} (hdepth : depth ≤ depthLimit) :
    (parts (n + 1) depth false first done).run (s.facing (Token.quoted c :: rest)) =
      (parts n depth false first (.char c.toNat :: done)).run (s.facing rest) := by
  by_cases hc : c ∈ signs
  · rw [Token.quoted, decide_eq_true hc, parts, run_bind_of_ok (run_enter hdepth), run_bind_of_ok run_peek]
    simp only [List.head?_cons, Token.is, Bool.not_true, Bool.false_and, Bool.or_self, Bool.false_eq_true,
      if_false, if_true]
    rw [run_bind_of_ok run_next]
    simp only [List.tail_cons]
    rw [run_bind_of_ok (run_escape_of_sign hc)]
  · rw [Token.quoted, decide_eq_false hc]
    exact run_parts_plain hdepth hc

theorem run_appetite (h : ∀ t ∈ rest.head?, t.is '?' = false ∧ t.is '+' = false) :
    appetite.run (s.facing rest) = .ok (.greedy, s.facing rest) := by
  rw [appetite, run_bind_of_ok (run_accept_of_ne fun t ht => (h t ht).1)]
  simp only [Bool.false_eq_true, if_false]
  rw [run_bind_of_ok (run_accept_of_ne fun t ht => (h t ht).2)]
  rfl

/-- A sign for a number of turns repeats the last part. -/
theorem run_parts_repeated {c : Char} {k : Count} {r : Regex} (hdepth : depth ≤ depthLimit)
    (hk : c = '*' ∧ k = ⟨0, none⟩ ∨ c = '?' ∧ k = ⟨0, some 1⟩) (hr : repeatable? (r :: done) = some r)
    (h : ∀ t ∈ rest.head?, t.is '?' = false ∧ t.is '+' = false) :
    (parts (n + 1) depth false first (r :: done)).run (s.facing (Token.plain c :: rest)) =
      (parts n depth false first (.repeated .greedy k.least k.most r :: done)).run (s.facing rest) := by
  have hlast : (repeatLast (r :: done) k).run (s.facing rest) =
      .ok (.repeated .greedy k.least k.most r :: done, s.facing rest) := by
    rw [repeatLast]
    simp only [hr]
    rw [run_bind_of_ok (run_appetite h)]
    rfl
  rw [parts, run_bind_of_ok (run_enter hdepth), run_bind_of_ok run_peek, ← run_bind_of_ok hlast]
  rcases hk with ⟨rfl, rfl⟩ | ⟨rfl, rfl⟩
  · rfl
  · rfl

theorem run_alternatives {r : Regex} {s' : State} {top : Bool}
    (h : (parts n (depth + 2) false top []).run s' = .ok (r, s.facing rest))
    (hrest : ∀ t ∈ rest.head?, t.is '|' = false) :
    (alternatives (n + 1) depth false top).run s' = .ok (r, s.facing rest) := by
  rw [alternatives, run_bind_of_ok h, run_bind_of_ok (run_accept_of_ne hrest)]
  rfl

/-- A group that changes nothing. -/
theorem run_parts_group {r : Regex} {ts : List Token} (hdepth : depth ≤ depthLimit)
    (h : (parts n (depth + 2) false false []).run (s.facing ts) = .ok (r, s.facing (Token.plain ')' :: rest))) :
    (parts (n + 3) depth false first done).run
        (s.facing (Token.plain '(' :: Token.plain '?' :: Token.plain ':' :: ts)) =
      (parts (n + 2) depth false first (.scoped {} {} r :: done)).run (s.facing rest) := by
  have hgroup : (group (n + 2) depth false .plain).run (s.facing ts) = .ok (.scoped {} {} r, s.facing rest) := by
    rw [group, run_bind_of_ok (run_alternatives h (by simp [Token.is, Token.plain])),
      run_bind_of_ok (run_expect rfl)]
    · rfl
    -- the opening is none of the others
    all_goals
      intros
      contradiction
  rw [parts, run_bind_of_ok (run_enter hdepth), run_bind_of_ok run_peek]
  exact run_bind_of_ok (f := fun body => parts (n + 2) depth false first (body :: done)) hgroup

/-- A group that nothing follows. -/
theorem run_parts_never (hdepth : depth + 2 ≤ depthLimit) :
    (parts (n + 4) depth false first done).run
        (s.facing (Token.plain '(' :: Token.plain '?' :: Token.plain '!' :: Token.plain ')' :: rest)) =
      (parts (n + 3) depth false first (.ahead true .empty :: done)).run (s.facing rest) := by
  have hgroup : (group (n + 3) depth false (.look false true)).run (s.facing (Token.plain ')' :: rest)) =
      .ok (.ahead true .empty, s.facing rest) := by
    rw [group, run_bind_of_ok (run_alternatives (run_parts_close hdepth) (by simp [Token.is, Token.plain])),
      run_bind_of_ok (run_expect rfl)]
    rfl
  rw [parts, run_bind_of_ok (run_enter (by omega)), run_bind_of_ok run_peek]
  exact run_bind_of_ok (f := fun body => parts (n + 3) depth false first (body :: done)) hgroup

theorem Token.quoted_is {c d : Char} (hd : d ∈ signs) : (Token.quoted c).is d = false := by
  by_cases hc : c ∈ signs
  · simp [Token.is, Token.quoted, hc]
  · simp [Token.is, Token.quoted, beq_eq_false_of_mem_signs hc hd]

theorem run_setPart {c : Char} : (setPart (Token.quoted c)).run s = .ok (.range c.toNat c.toNat, s) := by
  by_cases hc : c ∈ signs
  · rw [setPart, Token.quoted, decide_eq_true hc, if_pos rfl]
    exact run_setEscape_of_sign hc
  · rw [setPart, Token.quoted, decide_eq_false hc]
    rfl

theorem run_setItems_close :
    (setItems false (n + 1)).run (s.facing (Token.plain ']' :: rest)) = .ok ([], s.facing rest) := by
  rw [setItems, run_bind_of_ok run_demand]
  rfl

theorem run_setItems_single {c : Char} {items : List SetItem} {s' : State}
    (hrest : ∀ t ∈ rest.head?, t.is '-' = false) (h : (setItems false n).run (s.facing rest) = .ok (items, s')) :
    (setItems first (n + 1)).run (s.facing (Token.quoted c :: rest)) =
      .ok (.range c.toNat c.toNat :: items, s') := by
  rw [setItems, run_bind_of_ok run_demand, Token.quoted_is (by decide)]
  simp only [Bool.false_and, Bool.false_eq_true, if_false]
  rw [run_bind_of_ok run_setPart, run_bind_of_ok (run_accept_of_ne hrest)]
  simp only [Bool.false_eq_true, if_false]
  rw [run_bind_of_ok h]
  rfl

theorem run_setItems_range {low high : Char} {items : List SetItem} {s' : State} (hle : low ≤ high)
    (h : (setItems false n).run (s.facing rest) = .ok (items, s')) :
    (setItems first (n + 1)).run (s.facing (Token.quoted low :: Token.plain '-' :: Token.quoted high :: rest)) =
      .ok (.range low.toNat high.toNat :: items, s') := by
  have hrange : rangeOf? (.range low.toNat low.toNat) (.range high.toNat high.toNat) =
      some (.range low.toNat high.toNat) := if_pos hle
  rw [setItems, run_bind_of_ok run_demand, Token.quoted_is (by decide)]
  simp only [Bool.false_and, Bool.false_eq_true, if_false]
  rw [run_bind_of_ok run_setPart, run_bind_of_ok (run_accept_of_is rfl)]
  simp only [if_true]
  rw [run_bind_of_ok run_demand, Token.quoted_is (by decide)]
  simp only [Bool.false_eq_true, if_false]
  rw [run_bind_of_ok run_setPart]
  simp only [hrange]
  rw [run_bind_of_ok h]
  rfl

end Parts

end Regex

/-! ## What an expression takes -/

namespace Spot

/-- The position behind a piece of what comes next, in front of the rest. -/
def past (s : Spot) (piece rest : Text) : Spot := { s with before := piece.reverse ++ s.before, after := rest }

variable {s : Spot} {piece piece' rest rest' : Text}

@[simp] theorem past_after : (s.past piece rest).after = rest := rfl

theorem past_past : (s.past piece rest).past piece' rest' = s.past (piece ++ piece') rest' := by
  simp [past]

end Spot

namespace Regex

/-- The pieces that the expression can take are those of a kind. -/
def Takes (m : Modes) (r : Regex) (P : Text → Prop) : Prop :=
  ∀ (s : Spot) (next : Follow), (run m r s next).isSome = true ↔
    ∃ piece rest, s.after = piece ++ rest ∧ P piece ∧ (next (s.past piece rest)).isSome = true

variable {m : Modes} {r t : Regex} {P Q : Text → Prop}

theorem Takes.congr (h : Takes m r P) (hPQ : ∀ piece, P piece ↔ Q piece) : Takes m r Q := by
  obtain rfl : P = Q := funext fun piece => propext (hPQ piece)
  exact h

theorem takes_empty : Takes m .empty (· = []) := by
  intro s next
  constructor
  · intro h
    exact ⟨[], s.after, rfl, rfl, h⟩
  · rintro ⟨_, rest, hrest, rfl, h⟩
    obtain rfl : s.after = rest := hrest
    exact h

/-- Matching one character that satisfies a condition. -/
theorem isSome_step?_bind_iff {p : Char → Bool} {s : Spot} {next : Follow} :
    ((s.step? p).bind next).isSome = true ↔
      ∃ piece rest, s.after = piece ++ rest ∧ (∃ c, piece = [c] ∧ p c = true) ∧
        (next (s.past piece rest)).isSome = true := by
  unfold Spot.step?
  constructor
  · intro h
    split at h
    · cases h
    · next c rest hafter =>
      split at h
      · next hc => exact ⟨[c], rest, hafter, ⟨c, rfl, hc⟩, h⟩
      · cases h
  · rintro ⟨_, rest, hafter, ⟨c, rfl, hc⟩, h⟩
    rw [hafter]
    simp only [List.singleton_append, hc, if_true]
    exact h

theorem takes_set {negated : Bool} {items : List SetItem} :
    Takes m (.set negated items) fun piece => ∃ c, piece = [c] ∧ (items.any (·.holds m c) != negated) = true :=
  fun _ _ => isSome_step?_bind_iff

/-! The equations of the matcher that the lemmas below need. -/

variable {s : Spot} {next : Follow}

theorem run_any : run m .any s next = (s.step? fun c => m.dotAll || c != '\n').bind next := rfl

theorem run_seq : run m (.seq r t) s next = run m r s fun s => run m t s next := rfl

theorem run_greedy {least : Nat} {most : Option Nat} :
    run m (.repeated .greedy least most r) s next =
      greedy (run m r) (min least (s.after.length + 2)) most
        (min least (s.after.length + 2) + (s.after.length + 2)) none s next := rfl

theorem greedy_zero_succ {body : Spot → Follow → Option Spot} {most : Option Nat} {turns : Nat}
    {last : Option Spot} :
    greedy body 0 most (turns + 1) last s next =
      if most = some 0 || last.any (·.isAt s) then next s
      else match body s fun t => greedy body 0 (most.map (· - 1)) turns (some s) t next with
        | some e => some e
        | none => next s := rfl

theorem takes_any (hm : m.dotAll = true) : Takes m .any fun piece => ∃ c, piece = [c] := by
  intro s next
  rw [run_any, isSome_step?_bind_iff]
  simp only [hm, Bool.true_or, and_true]

/-- Nothing follows nothing. -/
theorem takes_never : Takes m (.ahead true .empty) fun _ => False := by
  intro s next
  have hrun : run m (.ahead true .empty) s next = none := rfl
  simp [hrun]

theorem Takes.scoped (h : Takes ((m.union on).without off) r P) : Takes m (.scoped on off r) P := h

theorem Takes.seq (hr : Takes m r P) (ht : Takes m t Q) :
    Takes m (.seq r t) fun piece => ∃ front back, piece = front ++ back ∧ P front ∧ Q back := by
  intro s next
  rw [run_seq, hr]
  constructor
  · rintro ⟨front, after, hafter, hfront, h⟩
    obtain ⟨back, rest, hrest, hback, hnext⟩ := (ht _ _).mp h
    obtain rfl : after = back ++ rest := hrest
    rw [Spot.past_past] at hnext
    exact ⟨front ++ back, rest, by rw [hafter, List.append_assoc], ⟨front, back, rfl, hfront, hback⟩, hnext⟩
  · rintro ⟨_, rest, hafter, ⟨front, back, rfl, hfront, hback⟩, hnext⟩
    refine ⟨front, back ++ rest, by rw [hafter, List.append_assoc], hfront,
      (ht _ _).mpr ⟨back, rest, rfl, hback, ?_⟩⟩
    rw [Spot.past_past]
    exact hnext

/-- Parts one after the other, the last one with nothing behind it. -/
theorem run_ofList_cons {rs : List Regex} {s : Spot} {next : Follow} :
    run m (ofList (r :: rs)) s next = run m r s fun s => run m (ofList rs) s next := by
  cases rs <;> rfl

/-- The pieces that parts can take one after the other. -/
theorem Takes.ofList {α : Type} {f : α → Regex} {P : α → Text → Prop} (h : ∀ a, Takes m (f a) (P a))
    (l : List α) : Takes m (ofList (l.map f)) fun piece =>
      ∃ pieces : List Text, pieces.flatten = piece ∧ List.Forall₂ P l pieces := by
  induction l with
  | nil =>
    refine takes_empty.congr fun piece => ?_
    simp [eq_comm]
  | cons a l ih =>
    have hseq : Takes m (.seq (f a) (Regex.ofList (l.map f))) _ := (h a).seq ih
    intro s next
    rw [List.map_cons, run_ofList_cons]
    refine (hseq.congr fun piece => ?_) s next
    constructor
    · rintro ⟨front, _, rfl, hfront, pieces, rfl, hpieces⟩
      exact ⟨front :: pieces, rfl, .cons hfront hpieces⟩
    · rintro ⟨_, rfl, hpieces⟩
      cases hpieces with
      | cons hfront hpieces => exact ⟨_, _, rfl, hfront, _, rfl, hpieces⟩

/-! ## Repetitions -/

theorem isSome_again_or_next_iff {again next : Option Spot} :
    (match again with
      | some e => some e
      | none => next).isSome = true ↔ again.isSome = true ∨ next.isSome = true := by
  cases again <;> simp

/-- One turn or none. -/
theorem Takes.optional (h : Takes m r P) :
    Takes m (.repeated .greedy 0 (some 1) r) fun piece => piece = [] ∨ P piece := by
  intro s next
  have hagain : ∀ turns last t, greedy (run m r) 0 (some 0) turns last t next = next t := by
    intro turns last t
    cases turns <;> rfl
  have hrun : (run m (.repeated .greedy 0 (some 1) r) s next).isSome = true ↔
      (run m r s next).isSome = true ∨ (next s).isSome = true := by
    have hfirst : run m (.repeated .greedy 0 (some 1) r) s next = greedy (run m r) 0 (some 1)
        (s.after.length + 1 + 1) none s next := by
      rw [run_greedy, Nat.zero_min, Nat.zero_add]
    rw [hfirst, greedy_zero_succ]
    simp only [Option.map_some, hagain]
    exact isSome_again_or_next_iff
  rw [hrun, h]
  constructor
  · rintro (⟨piece, rest, hafter, hpiece, hnext⟩ | hnext)
    · exact ⟨piece, rest, hafter, .inr hpiece, hnext⟩
    · exact ⟨[], s.after, rfl, .inl rfl, hnext⟩
  · rintro ⟨piece, rest, hafter, rfl | hpiece, hnext⟩
    · obtain rfl : s.after = rest := hafter
      exact .inr hnext
    · exact .inl ⟨piece, rest, hafter, hpiece, hnext⟩

/-- Any number of characters. Every turn leaves less of the text, so no turn is the last one before its end. -/
theorem isSome_greedy_any_iff (hm : m.dotAll = true) {turns : Nat} {last : Option Spot} {s : Spot}
    {next : Follow} (hturns : s.after.length < turns) (hlast : last.any (·.isAt s) = false) :
    (greedy (run m .any) 0 none turns last s next).isSome = true ↔
      ∃ piece rest, s.after = piece ++ rest ∧ (next (s.past piece rest)).isSome = true := by
  induction turns generalizing last s with
  | zero => omega
  | succ turns ih =>
    have hstep : (greedy (run m .any) 0 none (turns + 1) last s next).isSome = true ↔
        (run m .any s fun t => greedy (run m .any) 0 none turns (some s) t next).isSome = true ∨
          (next s).isSome = true := by
      rw [greedy_zero_succ]
      simp only [hlast, Option.map_none]
      exact isSome_again_or_next_iff
    have hgo : ∀ c rest, s.after = c :: rest →
        ((greedy (run m .any) 0 none turns (some s) (s.past [c] rest) next).isSome = true ↔
          ∃ piece rest', rest = piece ++ rest' ∧ (next (s.past (c :: piece) rest')).isSome = true) := by
      intro c rest hafter
      have hlength : s.after.length = rest.length + 1 := by rw [hafter]; rfl
      -- the text behind the turn is shorter, so the turn was no empty one
      rw [ih (by simp; omega) (by simp [Spot.isAt, hlength])]
      simp only [Spot.past_past, Spot.past_after, List.singleton_append]
    rw [hstep, takes_any hm]
    constructor
    · rintro (⟨_, rest, hafter, ⟨c, rfl⟩, h⟩ | h)
      · obtain ⟨piece, rest', rfl, hnext⟩ := (hgo c rest hafter).mp h
        exact ⟨c :: piece, rest', by simpa using hafter, hnext⟩
      · exact ⟨[], s.after, rfl, h⟩
    · rintro ⟨piece, rest, hafter, h⟩
      cases piece with
      | nil =>
        obtain rfl : s.after = rest := hafter
        exact .inr h
      | cons c piece =>
        exact .inl ⟨[c], piece ++ rest, hafter, ⟨c, rfl⟩, (hgo c _ hafter).mpr ⟨piece, rest, rfl, h⟩⟩

theorem takes_anyText (hm : m.dotAll = true) : Takes m (.repeated .greedy 0 none .any) fun _ => True := by
  intro s next
  rw [run_greedy]
  simp only [Nat.zero_min, Nat.zero_add, true_and]
  exact isSome_greedy_any_iff hm (by omega) rfl

/-! ## Whole texts -/

/-- The expression matches the whole text. -/
def matchesAll (m : Modes) (r : Regex) (s : Text) : Bool :=
  (run m r { before := [], after := s } fun e => if e.after.isEmpty then some e else none).isSome

/-- **A whole text matches when it is a piece that the expression can take.** -/
theorem Takes.matchesAll_iff (h : Takes m r P) {s : Text} : matchesAll m r s = true ↔ P s := by
  rw [matchesAll, h]
  constructor
  · rintro ⟨piece, rest, hafter, hpiece, hend⟩
    have hrest : rest = [] := by
      cases rest with
      | nil => rfl
      | cons c rest => cases hend
    obtain rfl : s = piece := by simpa [hrest] using hafter
    exact hpiece
  · intro hs
    exact ⟨s, [], by simp, hs, rfl⟩

end Regex

end DocAudit
