import DocAudit.Proofs.Text.Joined
import DocAudit.Report.Wording
import Mathlib

/-!
# Annotations read back

A workflow reads an annotation by the grammar of its commands. The message of an annotation is escaped and
always comes back; the name of the file is not, so it comes back only when nothing in it means something to
the reader.

## Contents

* `unescaped`, `unescaped_escaped`: **the escapes of a message are decoded again**
* `unescaped_eq_self_iff`: the values in which nothing is decoded
* `cutColons_eq_some_iff`: a command ends at the first two colons
* `Note.read?`, `Note.read?_written_iff`: **the commands that are read back, for any properties**
* `workflowNote_read`: **the annotations that are one line, and those that are read back**
-/

namespace DocAudit.Report

open Text

/-! ## Escapes -/

/-- A value with its escapes decoded. -/
def unescaped : Text → Text
  | '%' :: '2' :: '5' :: s => '%' :: unescaped s
  | '%' :: '0' :: 'D' :: s => '\r' :: unescaped s
  | '%' :: '0' :: 'A' :: s => '\n' :: unescaped s
  | c :: s => c :: unescaped s
  | [] => []

/-- What is decoded in a value. -/
def escapes : List Text := ["%25".toList, "%0D".toList, "%0A".toList]

/-- Only a percent sign starts an escape. -/
theorem unescaped_cons {c : Char} (hc : c ≠ '%') (s : Text) : unescaped (c :: s) = c :: unescaped s := by
  rw [unescaped]
  all_goals
    intro rest h
    exact absurd h hc

theorem unescaped_escapeChar (c : Char) (s : Text) : unescaped (escapeChar c ++ s) = c :: unescaped s := by
  unfold escapeChar
  split
  · next h => rw [h]; rfl
  · next hpercent =>
    split
    · next h => rw [h]; rfl
    · split
      · next h => rw [h]; rfl
      · exact unescaped_cons hpercent s

/-- **A message that was escaped is decoded again.** -/
theorem unescaped_escaped (message : Text) : unescaped (escaped message) = message := by
  unfold escaped
  induction message with
  | nil => rfl
  | cons c message ih => rw [List.flatMap_cons, unescaped_escapeChar, ih]

theorem length_unescaped_le (s : Text) : (unescaped s).length ≤ s.length := by
  fun_induction unescaped s with
  | case1 s ih => simp only [List.length_cons]; omega
  | case2 s ih => simp only [List.length_cons]; omega
  | case3 s ih => simp only [List.length_cons]; omega
  | case4 c s _ _ _ ih => exact Nat.succ_le_succ ih
  | case5 => exact Nat.le_refl 0

/-- Decoding an escape makes a value shorter, so a value that keeps its length is as it was. -/
theorem unescaped_eq_self_of_length {s : Text} (h : s.length ≤ (unescaped s).length) : unescaped s = s := by
  fun_induction unescaped s with
  | case1 s ih => have := length_unescaped_le s; simp only [List.length_cons] at h; omega
  | case2 s ih => have := length_unescaped_le s; simp only [List.length_cons] at h; omega
  | case3 s ih => have := length_unescaped_le s; simp only [List.length_cons] at h; omega
  | case4 c s _ _ _ ih => rw [ih (Nat.le_of_succ_le_succ h)]
  | case5 => rfl

/-- **Nothing is decoded exactly in a value without escapes.** -/
theorem unescaped_eq_self_iff {s : Text} : unescaped s = s ↔ ∀ e ∈ escapes, ¬ e <:+: s := by
  -- A value that starts with an escape is neither: decoding it makes it shorter.
  have hescape : ∀ {c : Char} {e : Text} (rest : Text), e ∈ escapes → e.length = 3 →
      (c :: unescaped rest = e ++ rest ↔ ∀ e' ∈ escapes, ¬ e' <:+: e ++ rest) := by
    intro c e rest he hlength
    refine iff_of_false (fun heq => ?_) fun hfree => hfree e he (List.prefix_append e rest).isInfix
    have hle := length_unescaped_le rest
    have hsame := congrArg List.length heq
    rw [List.length_cons, List.length_append, hlength] at hsame
    omega
  fun_induction unescaped s with
  | case1 rest => exact hescape rest (e := "%25".toList) (by decide) rfl
  | case2 rest => exact hescape rest (e := "%0D".toList) (by decide) rfl
  | case3 rest => exact hescape rest (e := "%0A".toList) (by decide) rfl
  | case4 c s hpercent hreturn hfeed ih =>
    have hstart : ∀ e ∈ escapes, ¬ e <+: c :: s := by
      simp only [escapes, List.mem_cons, List.not_mem_nil, or_false, forall_eq_or_imp, forall_eq]
      refine ⟨?_, ?_, ?_⟩ <;> rintro ⟨rest, h⟩ <;> cases h
      · exact hpercent rest rfl rfl
      · exact hreturn rest rfl rfl
      · exact hfeed rest rfl rfl
    calc c :: unescaped s = c :: s
      _ ↔ unescaped s = s := by rw [List.cons.injEq, eq_self, true_and]
      _ ↔ ∀ e ∈ escapes, ¬ e <:+: s := ih
      _ ↔ ∀ e ∈ escapes, ¬ e <:+: c :: s := by
        refine forall₂_congr fun e he => ?_
        rw [List.infix_cons_iff, not_or, and_iff_right (hstart e he)]
  | case5 => decide

/-! ## Reading -/

/-- The sign around the head of a command. -/
def colons : Text := [':', ':']

/-- The text before the first two colons, and the text behind them. -/
def cutColons : Text → Option (Text × Text)
  | ':' :: ':' :: s => some ([], s)
  | c :: s => (cutColons s).map fun (before, after) => (c :: before, after)
  | [] => none

/-- **A text is cut at the first two colons**: there are none in what is before them, nor at its end. -/
theorem cutColons_eq_some_iff {s before after : Text} :
    cutColons s = some (before, after) ↔ s = before ++ colons ++ after ∧ ¬ colons <:+: before ++ [':'] := by
  fun_induction cutColons s generalizing before with
  | case1 s =>
    cases before with
    | nil =>
      have hnone : ¬ colons <:+: [] ++ [':'] := by decide
      rw [and_iff_left hnone]
      constructor <;> intro h <;> cases h <;> rfl
    | cons c before =>
      refine iff_of_false (fun h => ?_) fun ⟨h, hnone⟩ => hnone (List.IsPrefix.isInfix ?_)
      · cases h
      · -- Both are beginnings of the text, and the two colons are not the longer one.
        have hbefore : c :: before ++ [':'] <+: colons ++ s := ⟨':' :: after, by
          show c :: before ++ [':'] ++ ':' :: after = ':' :: ':' :: s
          rw [h]
          simp [colons]⟩
        exact List.prefix_of_prefix_length_le (List.prefix_append colons s) hbefore (by simp [colons])
  | case2 c s hcolons ih =>
    cases before with
    | nil =>
      refine iff_of_false (fun h => ?_) fun h => ?_
      · obtain ⟨r, -, hr⟩ := Option.map_eq_some_iff.mp h
        cases hr
      · cases h.1
        exact hcolons after rfl rfl
    | cons c' before =>
      have hstart : ¬ colons <+: c :: s := by
        rintro ⟨rest, h⟩
        cases h
        exact hcolons rest rfl rfl
      constructor
      · intro h
        obtain ⟨⟨before, after⟩, hcut, he⟩ := Option.map_eq_some_iff.mp h
        cases he
        obtain ⟨hs, hnone⟩ := ih.mp hcut
        have hbefore : c :: before ++ [':'] <+: c :: s := ⟨':' :: after, by rw [hs]; simp [colons]⟩
        refine ⟨by rw [hs]; rfl, fun hwithin => ?_⟩
        rcases List.infix_cons_iff.mp hwithin with hfirst | hrest
        · exact hstart (hfirst.trans hbefore)
        · exact hnone hrest
      · rintro ⟨h, hnone⟩
        cases h
        rw [ih.mpr ⟨rfl, fun hwithin => hnone (hwithin.trans (List.suffix_cons c (before ++ [':'])).isInfix)⟩]
        rfl
  | case3 =>
    refine iff_of_false (fun h => ?_) fun h => ?_
    · cases h
    · have hlength := congrArg List.length h.1
      simp [colons] at hlength

/-- Two colons are in one of two texts, or where these meet. -/
theorem colons_infix_append_iff {s t : Text} :
    colons <:+: s ++ t ↔ colons <:+: s ∨ colons <:+: t ∨ [':'] <:+ s ∧ [':'] <+: t := by
  rw [List.infix_append_iff_ne_nil]
  refine or_congr_right (or_congr_right ⟨?_, fun h => ⟨[':'], [':'], by decide, by decide, rfl, h⟩⟩)
  rintro ⟨l, l', hl, hl', heq, hs, ht⟩
  obtain ⟨c, l, rfl⟩ := List.exists_cons_of_ne_nil hl
  obtain ⟨c', l', rfl⟩ := List.exists_cons_of_ne_nil hl'
  cases l with
  | nil =>
    cases heq
    exact ⟨hs, ht⟩
  | cons d l =>
    have hlength := congrArg List.length heq
    simp only [colons, List.length_append, List.length_cons, List.length_nil] at hlength
    omega

theorem not_infix_colons {s : Text} (h : ':' ∉ s) : ¬ colons <:+: s ++ [':'] := by
  rw [colons_infix_append_iff, not_or, not_or]
  exact ⟨fun hs => h (hs.subset List.mem_cons_self), by decide,
    fun hs => h (hs.1.subset List.mem_cons_self)⟩

/-- A command for a workflow: its level, its properties with their values, and its message. -/
structure Note where
  level : Text
  properties : List (Text × Text)
  message : Text
deriving DecidableEq

namespace Note

/-- A property as it is written. -/
def property (p : Text × Text) : Text := p.1 ++ '=' :: p.2

/-- The level and the properties as they are written. -/
def head (level : Text) (properties : List (Text × Text)) : Text :=
  level ++ if properties = [] then [] else ' ' :: joinWith [','] (properties.map property)

/-- A command as it is written. Only the message is escaped. -/
def written (n : Note) : Text := colons ++ head n.level n.properties ++ colons ++ escaped n.message

/-- A property as it is read: the key is before the first sign, and the value is decoded. -/
def property? (s : Text) : Option (Text × Text) :=
  (cut '=' s).map fun (key, value) => (key, unescaped value)

/-- The level is before the first space, and the properties are between the commas behind it. -/
def head? (s : Text) : Option (Text × List (Text × Text)) :=
  match cut ' ' s with
  | none => some (s, [])
  | some (level, about) => ((splitAt ',' about).mapM property?).map (level, ·)

/-- A command as it is read. Its head ends at the first two colons, whether a space ends the level or
these colons do, since a space is no colon. -/
def read? : Text → Option Note
  | ':' :: ':' :: s => do
    let (s, message) ← cutColons s
    let (level, properties) ← head? s
    return ⟨level, properties, unescaped message⟩
  | _ => none

/-! ### One property -/

theorem property?_property {p : Text × Text} (hkey : '=' ∉ p.1) :
    property? (property p) = some (p.1, unescaped p.2) := by
  rw [property?, property, cut_append hkey]
  rfl

/-- A property is at least as long as it is written again, and as long only when it is written so. -/
theorem length_property_le {s : Text} {p : Text × Text} (h : property? s = some p) :
    (property p).length ≤ s.length ∧
      (s.length ≤ (property p).length → s = property p ∧ unescaped p.2 = p.2) := by
  obtain ⟨⟨key, value⟩, hcut, rfl⟩ := Option.map_eq_some_iff.mp h
  obtain ⟨rfl, -⟩ := cut_eq_some_iff.mp hcut
  have hle := length_unescaped_le value
  simp only [property, List.length_append, List.length_cons]
  refine ⟨by omega, fun hlength => ?_⟩
  have hsame : unescaped value = value := unescaped_eq_self_of_length (by omega)
  exact ⟨by rw [hsame], by rw [hsame, hsame]⟩

/-! ### All properties -/

theorem mapM_property?_eq_some_iff {pieces : List Text} {properties : List (Text × Text)} :
    pieces.mapM property? = some properties ↔
      List.Forall₂ (fun piece p => property? piece = some p) pieces properties := by
  induction pieces generalizing properties with
  | nil =>
    rw [List.mapM_nil, List.forall₂_nil_left_iff]
    exact ⟨fun h => (Option.some.inj h).symm, fun h => by rw [h]; rfl⟩
  | cons piece pieces ih =>
    rw [List.mapM_cons, List.forall₂_cons_left_iff]
    simp only [Option.bind_eq_bind, Option.bind_eq_some_iff, ih, Option.pure_def, Option.some.injEq]
    constructor
    · rintro ⟨p, hp, rest, hrest, rfl⟩
      exact ⟨p, rest, hp, hrest, rfl⟩
    · rintro ⟨p, rest, hp, hrest, rfl⟩
      exact ⟨p, hp, rest, hrest, rfl⟩

/-- The same for all pieces together. -/
theorem sum_length_property_le {pieces : List Text} {properties : List (Text × Text)}
    (h : List.Forall₂ (fun piece p => property? piece = some p) pieces properties) :
    ((properties.map property).map List.length).sum ≤ (pieces.map List.length).sum ∧
      ((pieces.map List.length).sum ≤ ((properties.map property).map List.length).sum →
        pieces = properties.map property ∧ ∀ p ∈ properties, unescaped p.2 = p.2) := by
  induction h with
  | nil => exact ⟨Nat.le_refl 0, fun _ => ⟨rfl, fun p hp => absurd hp List.not_mem_nil⟩⟩
  | cons hp _ ih =>
    obtain ⟨hle, hsame⟩ := length_property_le hp
    obtain ⟨hsum, hrest⟩ := ih
    simp only [List.map_cons, List.sum_cons, List.forall_mem_cons]
    refine ⟨Nat.add_le_add hle hsum, fun hlength => ?_⟩
    obtain ⟨hpiece, hvalue⟩ := hsame (by omega)
    obtain ⟨hpieces, hvalues⟩ := hrest (by omega)
    exact ⟨by rw [← hpiece, ← hpieces], hvalue, hvalues⟩

/-! ### The head -/

theorem length_joinWith (sep : Char) (pieces : List Text) :
    (joinWith [sep] pieces).length = (pieces.map List.length).sum + (pieces.length - 1) := by
  induction pieces with
  | nil => rfl
  | cons piece pieces ih =>
    cases pieces with
    | nil => simp [joinWith]
    | cons next rest =>
      rw [joinWith, List.length_append, List.length_append, ih]
      simp only [List.map_cons, List.sum_cons, List.length_cons, List.length_nil]
      omega

/-- **A head is read back when no value has a comma or an escape in it.** -/
theorem head?_head {level : Text} {properties : List (Text × Text)} (hlevel : ' ' ∉ level)
    (hkeys : ∀ p ∈ properties, ',' ∉ p.1 ∧ '=' ∉ p.1)
    (hvalues : ∀ p ∈ properties, ',' ∉ p.2 ∧ unescaped p.2 = p.2) :
    head? (head level properties) = some (level, properties) := by
  rcases eq_or_ne properties [] with rfl | hne
  · rw [head, if_pos rfl, List.append_nil, head?, cut_eq_none hlevel]
  · have hcommas : ∀ piece ∈ properties.map property, ',' ∉ piece := by
      intro piece hpiece
      obtain ⟨p, hp, rfl⟩ := List.mem_map.mp hpiece
      rw [property, List.mem_append, List.mem_cons, not_or, not_or]
      exact ⟨(hkeys p hp).1, by decide, (hvalues p hp).1⟩
    have hread : (properties.map property).mapM property? = some properties := by
      refine mapM_property?_eq_some_iff.mpr (List.forall₂_map_left_iff.mpr ?_)
      refine List.forall₂_same.mpr fun p hp => ?_
      rw [property?_property (hkeys p hp).2, (hvalues p hp).2]
    have hpieces : splitAt ',' (joinWith [','] (properties.map property)) = properties.map property :=
      splitAt_joinWith (mt List.map_eq_nil_iff.mp hne) hcommas
    rw [head, if_neg hne, head?, cut_append hlevel]
    show Option.map _ ((splitAt ',' (joinWith [','] (properties.map property))).mapM property?) = _
    rw [hpieces, hread]
    rfl

/-- A head is at least as long as it is written again, and as long only when it is written so. -/
theorem length_head_le {s level : Text} {properties : List (Text × Text)}
    (h : head? s = some (level, properties)) :
    (head level properties).length ≤ s.length ∧ (s.length ≤ (head level properties).length →
      s = head level properties ∧ ∀ p ∈ properties, ',' ∉ p.2 ∧ unescaped p.2 = p.2) := by
  unfold head? at h
  split at h
  · cases h
    rw [head, if_pos rfl, List.append_nil]
    exact ⟨Nat.le_refl _, fun _ => ⟨rfl, fun p hp => absurd hp List.not_mem_nil⟩⟩
  · next level' about hcut =>
    obtain ⟨properties', hread, he⟩ := Option.map_eq_some_iff.mp h
    cases he
    obtain ⟨rfl, -⟩ := cut_eq_some_iff.mp hcut
    have hpieces := mapM_property?_eq_some_iff.mp hread
    have hcount := hpieces.length_eq
    have hne : properties ≠ [] := by
      rintro rfl
      exact splitAt_ne_nil ',' about (List.forall₂_nil_right_iff.mp hpieces)
    have habout := length_joinWith ',' (splitAt ',' about)
    rw [joinWith_splitAt] at habout
    obtain ⟨hle, hsame⟩ := sum_length_property_le hpieces
    rw [head, if_neg hne]
    simp only [List.length_append, List.length_cons, length_joinWith, List.length_map]
    refine ⟨by omega, fun hlength => ?_⟩
    obtain ⟨heq, hvalues⟩ := hsame (by omega)
    refine ⟨by rw [← heq, joinWith_splitAt], fun p hp => ⟨fun hcomma => ?_, hvalues p hp⟩⟩
    have hmem : property p ∈ splitAt ',' about := heq ▸ List.mem_map_of_mem hp
    exact not_mem_of_mem_splitAt hmem (List.mem_append_right _ (List.mem_cons_of_mem _ hcomma))

/-- **A command is read back exactly when no value has a comma or an escape in it and its head has no two
colons before those that end it.** -/
theorem read?_written_iff {n : Note} (hlevel : ' ' ∉ n.level)
    (hkeys : ∀ p ∈ n.properties, ',' ∉ p.1 ∧ '=' ∉ p.1) :
    read? n.written = some n ↔ (∀ p ∈ n.properties, ',' ∉ p.2 ∧ unescaped p.2 = p.2) ∧
      ¬ colons <:+: head n.level n.properties ++ [':'] := by
  have hread : read? n.written =
      (cutColons (head n.level n.properties ++ colons ++ escaped n.message)).bind fun (s, message) =>
        (head? s).bind fun (level, properties) => some ⟨level, properties, unescaped message⟩ := by
    rw [written, List.append_assoc colons, List.append_assoc colons]
    rfl
  rw [hread]
  constructor
  · intro h
    obtain ⟨⟨s, message⟩, hcut, h⟩ := Option.bind_eq_some_iff.mp h
    obtain ⟨⟨level, properties⟩, hhead, he⟩ := Option.bind_eq_some_iff.mp h
    cases he
    obtain ⟨hs, hnone⟩ := cutColons_eq_some_iff.mp hcut
    obtain ⟨-, hsame⟩ := length_head_le hhead
    -- A longer head would have the two colons in it that end the written one.
    have hlength : s.length ≤ (head level properties).length := by
      by_contra hlonger
      have hwritten : head level properties ++ colons <+: s ++ colons ++ message := ⟨_, hs⟩
      have hfound : s ++ [':'] <+: s ++ colons ++ message := ⟨':' :: message, by simp [colons]⟩
      have hcolons := List.prefix_of_prefix_length_le hwritten hfound (by simp [colons]; omega)
      exact hnone ((List.suffix_append _ colons).isInfix.trans hcolons.isInfix)
    obtain ⟨rfl, hvalues⟩ := hsame hlength
    exact ⟨hvalues, hnone⟩
  · rintro ⟨hvalues, hnone⟩
    rw [cutColons_eq_some_iff.mpr ⟨rfl, hnone⟩]
    show (head? (head n.level n.properties)).bind _ = _
    rw [head?_head hlevel hkeys hvalues, unescaped_escaped]
    rfl

end Note

/-! ## Annotations -/

/-- A level: none of its characters ends it or the line. Letters do not. -/
def IsLevel (level : Text) : Prop := ∀ c ∈ level, c ∉ [' ', ':', '\r', '\n']

/-- What an annotation says about where it belongs. -/
def place (file : Option Text) (line : Option Int) : List (Text × Text) :=
  (file.map ("file".toList, ·)).toList ++ (line.map fun n => ("line".toList, ofInt n)).toList

/-- Nothing in the name of a file means anything to the reader of an annotation. Without a line the name
stands in front of two colons. -/
structure IsPlainName (line : Option Int) (file : Text) : Prop where
  comma : ',' ∉ file
  colons : ¬ colons <:+: file
  ending : line = none → ¬ [':'] <:+ file
  escapes : ∀ e ∈ escapes, ¬ e <:+: file

variable {level : Text}

theorem workflowNote_eq_written (level message : Text) (file : Option Text) (line : Option Int) :
    workflowNote level message file line = (Note.mk level (place file line) message).written := by
  unfold workflowNote Note.written Note.head
  cases file <;> cases line <;> simp [place, Note.property, joinWith, colons]

/-- A digit or a sign. -/
theorem not_mem_ofInt {c : Char} (hdigit : c.isDigit = false) (hsign : c ≠ '-') (n : Int) : c ∉ ofInt n := by
  have hdigits : ∀ n : Nat, c ∉ ofNat n := fun n hc => by
    rw [Nat.isDigit_of_mem_toDigits (by decide) (by decide) hc] at hdigit
    cases hdigit
  cases n with
  | ofNat n => exact hdigits n
  | negSucc n => exact List.not_mem_cons_of_ne_of_not_mem hsign (hdigits (n + 1))

theorem ofInt_inj {m n : Int} : ofInt m = ofInt n ↔ m = n := by
  have hnat : ∀ {a b : Nat}, ofNat a = ofNat b → a = b := fun {a b} h => by
    rw [← Nat.ofDigitChars_ten_toDigits (n := a), ← Nat.ofDigitChars_ten_toDigits (n := b)]
    exact congrArg (Nat.ofDigitChars 10 · 0) h
  have hsign : ∀ a : Nat, '-' ∉ ofNat a := fun a h =>
    absurd (Nat.isDigit_of_mem_toDigits (by decide) (by decide) h) (by decide)
  refine ⟨fun h => ?_, congrArg ofInt⟩
  cases m with
  | ofNat a =>
    cases n with
    | ofNat b => exact congrArg Int.ofNat (hnat h)
    | negSucc b =>
      have h : ofNat a = '-' :: ofNat (b + 1) := h
      exact absurd (h ▸ List.mem_cons_self) (hsign a)
  | negSucc a =>
    cases n with
    | ofNat b =>
      have h : '-' :: ofNat (a + 1) = ofNat b := h
      exact absurd (h ▸ List.mem_cons_self) (hsign b)
    | negSucc b => exact congrArg Int.negSucc (Nat.succ.inj (hnat (List.tail_eq_of_cons_eq h)))

/-- No line ends are left in a message. -/
theorem not_mem_escaped {c : Char} (hc : c = '\r' ∨ c = '\n') (message : Text) : c ∉ escaped message := by
  intro h
  obtain ⟨c', -, h⟩ := List.mem_flatMap.mp h
  unfold escapeChar at h
  split at h
  · rcases hc with rfl | rfl <;> revert h <;> decide
  · split at h
    · rcases hc with rfl | rfl <;> revert h <;> decide
    · next hreturn =>
      split at h
      · rcases hc with rfl | rfl <;> revert h <;> decide
      · next hfeed =>
        rw [List.mem_singleton] at h
        rcases hc with rfl | rfl
        · exact hreturn h.symm
        · exact hfeed h.symm

/-- **A line end in an annotation stands in the name of the file.** -/
theorem mem_workflowNote_iff {c : Char} (hc : c = '\r' ∨ c = '\n') (hlevel : c ∉ level) (message : Text)
    (file : Option Text) (line : Option Int) :
    c ∈ workflowNote level message file line ↔ ∃ f ∈ file, c ∈ f := by
  have hmessage := not_mem_escaped hc message
  have hline : ∀ n : Int, c ∉ ofInt n := by
    rcases hc with rfl | rfl
    · exact not_mem_ofInt rfl (by decide)
    · exact not_mem_ofInt rfl (by decide)
  rcases hc with rfl | rfl <;> cases file <;> cases line <;>
    simp [workflowNote, joinWith, hlevel, hmessage, hline]

/-- The head of an annotation has no two colons too early when the name of the file has none. -/
theorem not_colons_infix_head_iff (hlevel : ':' ∉ level) (file : Option Text) (line : Option Int) :
    ¬ colons <:+: Note.head level (place file line) ++ [':'] ↔
      ∀ f ∈ file, ¬ colons <:+: f ∧ (line = none → ¬ [':'] <:+ f) := by
  have hdigits : ∀ n : Int, ':' ∉ ofInt n := not_mem_ofInt rfl (by decide)
  cases file with
  | none =>
    refine iff_of_true (not_infix_colons ?_) fun f hf => by cases hf
    cases line <;> simp [Note.head, place, Note.property, joinWith, hlevel, hdigits]
  | some f =>
    -- What stands before the name ends in a sign that is no colon.
    have hstart : ∀ rest : Text,
        colons <:+: level ++ " file=".toList ++ (f ++ rest) ↔ colons <:+: f ++ rest := by
      intro rest
      have hbefore : ':' ∉ level ++ " file=".toList := by
        rw [List.mem_append, not_or]
        exact ⟨hlevel, by decide⟩
      rw [colons_infix_append_iff, or_iff_right fun h => hbefore (h.subset List.mem_cons_self)]
      refine or_iff_left fun h => ?_
      exact hbefore (h.1.subset List.mem_cons_self)
    cases line with
    | none =>
      have hhead : Note.head level (place (some f) none) ++ [':'] = level ++ " file=".toList ++ (f ++ [':']) := by
        simp [Note.head, place, Note.property, joinWith]
      have hend : ¬ colons <:+: [':'] := by decide
      rw [hhead, hstart, colons_infix_append_iff, or_iff_right hend, and_iff_left (List.prefix_refl _), not_or]
      simp only [Option.mem_def, Option.some.injEq, forall_eq', forall_const]
    | some n =>
      have hhead : Note.head level (place (some f) (some n)) ++ [':'] =
          level ++ " file=".toList ++ (f ++ (",line=".toList ++ ofInt n ++ [':'])) := by
        simp [Note.head, place, Note.property, joinWith]
      have hend : ¬ colons <:+: ",line=".toList ++ ofInt n ++ [':'] := by
        refine not_infix_colons ?_
        rw [List.mem_append, not_or]
        exact ⟨by decide, hdigits n⟩
      have hmeet : ¬ [':'] <+: ",line=".toList ++ ofInt n ++ [':'] := by
        rintro ⟨rest, h⟩
        cases List.head_eq_of_cons_eq h
      rw [hhead, hstart, colons_infix_append_iff, or_iff_right hend, iff_false_intro hmeet, and_false, or_false]
      simp only [Option.mem_def, Option.some.injEq, forall_eq', reduceCtorEq, false_implies, and_true]

/-- The number of the line has no comma and no escape in it. -/
theorem forall_mem_place_iff (file : Option Text) (line : Option Int) :
    (∀ p ∈ place file line, ',' ∉ p.2 ∧ unescaped p.2 = p.2) ↔
      ∀ f ∈ file, ',' ∉ f ∧ ∀ e ∈ escapes, ¬ e <:+: f := by
  have hline : ∀ p ∈ (line.map fun n => ("line".toList, ofInt n)).toList, ',' ∉ p.2 ∧ unescaped p.2 = p.2 := by
    intro p hp
    obtain ⟨n, -, rfl⟩ := Option.map_eq_some_iff.mp (Option.mem_toList.mp hp)
    refine ⟨not_mem_ofInt rfl (by decide) n, unescaped_eq_self_iff.mpr fun e he hwithin => ?_⟩
    have hpercent : ∀ e ∈ escapes, '%' ∈ e := by decide
    exact not_mem_ofInt rfl (by decide) n (hwithin.subset (hpercent e he))
  rw [place, List.forall_mem_append, and_iff_left hline]
  cases file with
  | none => exact iff_of_true (fun p hp => absurd hp List.not_mem_nil) fun f hf => by cases hf
  | some f =>
    simp only [Option.map_some, Option.toList_some, List.mem_singleton, forall_eq, Option.mem_def,
      Option.some.injEq, forall_eq', unescaped_eq_self_iff]

theorem place_inj {file file' : Option Text} {line line' : Option Int} (h : place file' line' = place file line) :
    file' = file ∧ line' = line := by
  cases file <;> cases file' <;> cases line <;> cases line' <;> simp_all [place, ofInt_inj]

/-- **Annotations as a workflow reads them.** The message is escaped and stands in nobody's way, and the name of
the file is written as it is. So an annotation is one line exactly when the name has no line ends in it, and it
is read back exactly when nothing in the name means anything to the reader. Then file and line are those that
were meant. -/
theorem workflowNote_read (hlevel : IsLevel level) (message : Text) (file : Option Text) (line : Option Int) :
    ((∀ c ∈ ['\r', '\n'], c ∉ workflowNote level message file line) ↔
        ∀ f ∈ file, ∀ c ∈ ['\r', '\n'], c ∉ f) ∧
      (Note.read? (workflowNote level message file line) = some ⟨level, place file line, message⟩ ↔
        ∀ f ∈ file, IsPlainName line f) ∧
      ∀ file' line', place file' line' = place file line → file' = file ∧ line' = line := by
  have hspace : ' ' ∉ level := fun h => hlevel ' ' h (by decide)
  have hcolon : ':' ∉ level := fun h => hlevel ':' h (by decide)
  have hreturn : '\r' ∉ level := fun h => hlevel '\r' h (by decide)
  have hfeed : '\n' ∉ level := fun h => hlevel '\n' h (by decide)
  refine ⟨?_, ?_, fun file' line' => place_inj⟩
  · simp only [List.forall_mem_cons, List.not_mem_nil, false_implies, implies_true, and_true,
      mem_workflowNote_iff (.inl rfl) hreturn, mem_workflowNote_iff (.inr rfl) hfeed, not_exists, not_and]
    exact ⟨fun h f hf => ⟨h.1 f hf, h.2 f hf⟩, fun h => ⟨fun f hf => (h f hf).1, fun f hf => (h f hf).2⟩⟩
  · have hkeys : ∀ p ∈ place file line, ',' ∉ p.1 ∧ '=' ∉ p.1 := by
      cases file <;> cases line <;> simp [place]
    rw [workflowNote_eq_written, Note.read?_written_iff (n := ⟨level, place file line, message⟩) hspace hkeys,
      forall_mem_place_iff, not_colons_infix_head_iff hcolon]
    constructor
    · rintro ⟨hvalues, hcolons⟩ f hf
      exact ⟨(hvalues f hf).1, (hcolons f hf).1, (hcolons f hf).2, (hvalues f hf).2⟩
    · intro h
      exact ⟨fun f hf => ⟨(h f hf).comma, (h f hf).escapes⟩,
        fun f hf => ⟨(h f hf).colons, (h f hf).ending⟩⟩

/-- An error in a line of a document, with every sign in its message that could end the annotation. -/
def pageMessage : Text := "50% done\r\nsee a::b".toList

theorem workflowNote_read_page :
    (∀ c ∈ ['\r', '\n'],
        c ∉ workflowNote "error".toList pageMessage (some "docs/a.md".toList) (some 7)) ∧
      Note.read? (workflowNote "error".toList pageMessage (some "docs/a.md".toList) (some 7)) =
        some ⟨"error".toList, place (some "docs/a.md".toList) (some 7), pageMessage⟩ := by
  have hlevel : IsLevel "error".toList := by simp [IsLevel]
  obtain ⟨hline, hread, -⟩ := workflowNote_read hlevel pageMessage (some "docs/a.md".toList) (some 7)
  refine ⟨hline.mpr fun f hf => ?_, hread.mpr fun f hf => ?_⟩
  · cases hf
    simp
  · cases hf
    exact ⟨by decide, by decide, by decide, by decide⟩

/-- An error in a file of the given name. -/
def noteOn (file : String) : Text := errorNote "boom".toList (some file.toList)

/-- Names of files that end the annotation early, forge its message and a property, and name another file. -/
theorem workflowNote_misread :
    IsLevel "error".toList ∧
      '\n' ∈ noteOn "a\nb.md" ∧
      Note.read? (noteOn "a::b.md") =
        some ⟨"error".toList, [("file".toList, "a".toList)], "b.md::boom".toList⟩ ∧
      Note.read? (noteOn "a.md,line=7") =
        some ⟨"error".toList, [("file".toList, "a.md".toList), ("line".toList, "7".toList)], "boom".toList⟩ ∧
      Note.read? (noteOn "a%25.md") =
        some ⟨"error".toList, [("file".toList, "a%.md".toList)], "boom".toList⟩ := by
  refine ⟨by simp [IsLevel], by decide +kernel, by decide +kernel, by decide +kernel, by decide +kernel⟩

end DocAudit.Report
