import DocAudit.Markdown.Directive
import DocAudit.Proofs.Text.Joined
import DocAudit.Proofs.Text.Lines
import DocAudit.Proofs.Text.Strip

/-!
# Directives as comments

The parts of a directive are written as a comment, with any white space where a comment may have some, and
are read back. Only such comments have parts.

## Contents

* `Directive.Parts.spread`, `Directive.Parts.comment`: the comment of the parts, with white space or with spaces
* `Directive.split?_spread`: **its parts are these**
* `Directive.split?_exact`: **and every line with parts is the comment of its parts**
* `Directive.written`, `Directive.ofLine?_written`: **a written directive is understood**
-/

namespace DocAudit

namespace Directive

open Text

/-! ## Pieces of a text -/

theorem after?_append (start s : Text) : after? start (start ++ s) = some s := by
  rw [after?, if_pos (List.isPrefixOf_iff_prefix.mpr (List.prefix_append start s)),
    List.drop_left]

theorem before?_append (ending s : Text) : before? ending (s ++ ending) = some s := by
  rw [before?, if_pos (List.isSuffixOf_iff_suffix.mpr (List.suffix_append s ending)),
    List.length_append, Nat.add_sub_cancel, List.take_left]

/-- The text before the ending is followed by it. -/
theorem before?_eq_some_iff {ending s t : Text} : before? ending s = some t ↔ s = t ++ ending := by
  constructor
  · intro h
    rw [before?] at h
    split at h
    · next hsuffix =>
      obtain ⟨front, rfl⟩ := List.isSuffixOf_iff_suffix.mp hsuffix
      rw [List.length_append, Nat.add_sub_cancel, List.take_left] at h
      rw [Option.some.inj h]
    · cases h
  · rintro rfl
    exact before?_append ending t

/-- The text behind the start is led by it. -/
theorem after?_eq_some_iff {start s t : Text} : after? start s = some t ↔ s = start ++ t := by
  constructor
  · intro h
    rw [after?] at h
    split at h
    · next hprefix =>
      obtain ⟨rest, rfl⟩ := List.isPrefixOf_iff_prefix.mp hprefix
      rw [List.drop_left] at h
      rw [Option.some.inj h]
    · cases h
  · rintro rfl
    exact after?_append start t

/-- The letters of key and argument are no white space. -/
theorem isBlank_eq_false_of_isKeyChar {c : Char} (h : isKeyChar c = true) : isBlank c = false := by
  simp only [isKeyChar, isArgChar, Bool.or_eq_true, Bool.and_eq_true, decide_eq_true_eq,
    beq_iff_eq] at h
  rcases h with ⟨hlow, hhigh⟩ | rfl
  · have h1 : 'a'.toNat ≤ c.toNat := hlow
    have h2 : c.toNat ≤ 'z'.toNat := hhigh
    have h3 : 'a'.toNat = 97 := rfl
    have h4 : 'z'.toNat = 122 := rfl
    simp only [isBlank, Bool.or_eq_false_iff, Bool.and_eq_false_iff, decide_eq_false_iff_not,
      beq_eq_false_iff_ne]
    omega
  · decide

/-- They end no line. -/
theorem isBreak_eq_false_of_isKeyChar {c : Char} (h : isKeyChar c = true) : isBreak c = false := by
  cases hbreak : isBreak c with
  | false => rfl
  | true =>
    have hblank := isBlank_of_isBreak hbreak
    rw [isBlank_eq_false_of_isKeyChar h] at hblank
    cases hblank

/-- White space is none of the letters of key and argument, and no colon. -/
theorem not_letter_of_isBlank {c : Char} (h : isBlank c = true) :
    isKeyChar c = false ∧ isArgChar c = false ∧ c ≠ ':' := by
  have hkey : isKeyChar c = false := by
    cases hc : isKeyChar c with
    | false => rfl
    | true =>
      rw [isBlank_eq_false_of_isKeyChar hc] at h
      cases h
  refine ⟨hkey, (Bool.or_eq_false_iff.mp hkey).1, ?_⟩
  rintro rfl
  revert h
  decide

/-! ## Comments -/

/-- The argument as it is written behind the key. -/
def argText : Option Text → Text
  | none => []
  | some arg => ':' :: arg

/-- So many spaces. -/
def spaces (n : Nat) : Text := List.replicate n ' '

theorem isBlank_of_mem_spaces {n : Nat} {c : Char} (h : c ∈ spaces n) : isBlank c = true := by
  rw [List.eq_of_mem_replicate h]
  decide

namespace Parts

/-- What stands in a comment behind key and argument: the body between spaces. -/
def middle (p : Parts) (gap trail : Nat) : Text := spaces gap ++ p.body ++ spaces trail

/-- The parts as a comment, with so many spaces before the key, before the body and behind it. -/
def comment (p : Parts) (lead gap trail : Nat) : Text :=
  "<!--".toList ++
    (spaces lead ++ ("pave:".toList ++ (p.key ++ (argText p.arg ++ (p.middle gap trail ++ "-->".toList)))))

/-- The parts as a comment, with these texts before the key, before the body and behind it. -/
def spread (p : Parts) (lead gap trail : Text) : Text :=
  "<!--".toList ++
    (lead ++ ("pave:".toList ++ (p.key ++ (argText p.arg ++ (gap ++ p.body ++ trail ++ "-->".toList)))))

/-- The parts can be written: key and argument have letters of their kind, and the body is trimmed and
on one line. -/
structure Writable (p : Parts) : Prop where
  key_ne : p.key ≠ []
  key : ∀ c ∈ p.key, isKeyChar c = true
  arg_ne : ∀ arg, p.arg = some arg → arg ≠ []
  arg : ∀ arg, p.arg = some arg → ∀ c ∈ arg, isArgChar c = true
  body : strip p.body = p.body
  body_feed : '\n' ∉ p.body

/-- The texts are white space, and there is some before a body. -/
structure Fits (p : Parts) (lead gap trail : Text) : Prop where
  blank_lead : ∀ c ∈ lead, isBlank c = true
  blank_gap : ∀ c ∈ gap, isBlank c = true
  blank_trail : ∀ c ∈ trail, isBlank c = true
  gap_ne : p.body = [] ∨ gap ≠ []

end Parts

section Written

variable {p : Parts} {lead gap trail : Text}

/-- White space or the end of the comment stands behind key and argument. -/
theorem head?_middle (h : p.Fits lead gap trail) {c : Char}
    (hc : (gap ++ p.body ++ trail ++ "-->".toList).head? = some c) :
    isKeyChar c = false ∧ isArgChar c = false ∧ c ≠ ':' := by
  cases gap with
  | cons b gap =>
    cases hc
    exact not_letter_of_isBlank (h.blank_gap c List.mem_cons_self)
  | nil =>
    rw [h.gap_ne.resolve_right fun hne => hne rfl] at hc
    cases trail with
    | cons b trail =>
      cases hc
      exact not_letter_of_isBlank (h.blank_trail c List.mem_cons_self)
    | nil =>
      cases hc
      decide

/-- The body is read from between the white space. -/
theorem body?_middle (h : p.Writable) (hfits : p.Fits lead gap trail) :
    body? (gap ++ p.body ++ trail) = some p.body := by
  have hstrip : strip (gap ++ p.body ++ trail) = p.body := by
    rw [strip_blank_append _ hfits.blank_gap hfits.blank_trail, h.body]
  cases hm : gap ++ p.body ++ trail with
  | nil =>
    rw [hm] at hstrip
    rw [← hstrip]
    rfl
  | cons c rest =>
    have hc : isBlank c = true := by
      cases gap with
      | cons b gap =>
        cases hm
        exact hfits.blank_gap c List.mem_cons_self
      | nil =>
        rw [hfits.gap_ne.resolve_right fun hne => hne rfl] at hm
        have htrail : trail = c :: rest := hm
        exact hfits.blank_trail c (htrail ▸ List.mem_cons_self)
    have hfeed : p.body.contains '\n' = false := by
      rw [List.contains_eq_mem, decide_eq_false h.body_feed]
    rw [body?, hc, ← hm, hstrip, hfeed]
    rfl

theorem arg?_argText (h : p.Writable) (hfits : p.Fits lead gap trail) :
    arg? (argText p.arg ++ (gap ++ p.body ++ trail ++ "-->".toList)) =
      some (p.arg, gap ++ p.body ++ trail ++ "-->".toList) := by
  cases harg : p.arg with
  | none =>
    rw [argText, List.nil_append, arg?.eq_def]
    split
    · next r hr =>
      exact absurd rfl (head?_middle hfits (by rw [hr]; rfl)).2.2
    · rfl
  | some arg =>
    obtain ⟨htake, hdrop⟩ := span_run (h.arg arg harg)
      fun c hc => (head?_middle hfits (c := c) hc).2.1
    rw [argText, List.cons_append, arg?, htake, hdrop, if_neg (by simp [h.arg_ne arg harg])]

/-- A comment starts and ends with an angle bracket. -/
theorem strip_spread : strip (p.spread lead gap trail) = p.spread lead gap trail := by
  have hends : p.spread lead gap trail = '<' :: ("!--".toList ++ (lead ++
      ("pave:".toList ++ (p.key ++ (argText p.arg ++ (gap ++ p.body ++ trail ++ "--".toList))))) ++
        ['>']) := by
    rw [Parts.spread]
    simp
  rw [hends]
  exact strip_cons_concat _ (by decide) (by decide)

/-- **The parts of a comment are those that it was written with.** -/
theorem split?_spread (h : p.Writable) (hfits : p.Fits lead gap trail) :
    split? (p.spread lead gap trail) = some p := by
  obtain ⟨htake, hdrop⟩ : (p.key ++ (argText p.arg ++ (gap ++ p.body ++ trail ++ "-->".toList))).takeWhile
        isKeyChar = p.key ∧
      (p.key ++ (argText p.arg ++ (gap ++ p.body ++ trail ++ "-->".toList))).dropWhile isKeyChar =
        argText p.arg ++ (gap ++ p.body ++ trail ++ "-->".toList) := by
    -- a colon, white space or the end of the comment stands behind the key
    refine span_run h.key fun c hc => ?_
    cases harg : p.arg with
    | none =>
      rw [harg] at hc
      exact (head?_middle hfits hc).1
    | some arg =>
      rw [harg] at hc
      cases hc
      decide
  have hstart : stripStart (lead ++ ("pave:".toList ++
      (p.key ++ (argText p.arg ++ (gap ++ p.body ++ trail ++ "-->".toList))))) =
        "pave:".toList ++ (p.key ++ (argText p.arg ++ (gap ++ p.body ++ trail ++ "-->".toList))) :=
    (span_run hfits.blank_lead fun c hc => by cases hc; decide).2
  rw [split?, strip_spread, Parts.spread, after?_append]
  simp only [Option.bind_eq_bind, Option.bind_some, hstart, after?_append, htake, hdrop,
    arg?_argText h hfits, before?_append, body?_middle h hfits]
  rw [if_neg (by simp [h.key_ne])]
  rfl

end Written

variable {p : Parts} {lead gap trail : Nat}

theorem comment_eq_spread : p.comment lead gap trail = p.spread (spaces lead) (spaces gap) (spaces trail) :=
  rfl

/-- Spaces fit, when there is one before a body. -/
theorem fits_spaces (hgap : p.body = [] ∨ 0 < gap) :
    p.Fits (spaces lead) (spaces gap) (spaces trail) where
  blank_lead := fun _ => isBlank_of_mem_spaces
  blank_gap := fun _ => isBlank_of_mem_spaces
  blank_trail := fun _ => isBlank_of_mem_spaces
  gap_ne := hgap.imp_right fun hpos => by
    refine List.ne_nil_of_length_pos ?_
    rwa [spaces, List.length_replicate]

theorem split?_comment (h : p.Writable) (hgap : p.body = [] ∨ 0 < gap) :
    split? (p.comment lead gap trail) = some p := by
  rw [comment_eq_spread]
  exact split?_spread h (fits_spaces hgap)

/-- A comment is one line when its body is. -/
theorem isUnbroken_comment (h : p.Writable) (hbody : IsUnbroken p.body) :
    IsUnbroken (p.comment lead gap trail) := by
  have hspaces : ∀ n, IsUnbroken (spaces n) := by
    intro n c hc
    rw [List.eq_of_mem_replicate hc]
    decide
  have harg : IsUnbroken (argText p.arg) := by
    cases ha : p.arg with
    | none => exact fun c hc => by cases hc
    | some arg =>
      exact isUnbroken_cons.mpr ⟨by decide, fun c hc =>
        isBreak_eq_false_of_isKeyChar (Bool.or_eq_true_iff.mpr (Or.inl (h.arg arg ha c hc)))⟩
  have hkey : IsUnbroken p.key := fun c hc => isBreak_eq_false_of_isKeyChar (h.key c hc)
  simp only [Parts.comment, Parts.middle, isUnbroken_append]
  exact ⟨by decide, hspaces lead, by decide, hkey, harg, ⟨⟨hspaces gap, hbody⟩, hspaces trail⟩,
    by decide⟩

/-! ## What a comment is made of -/

/-- What is read as an argument stands behind a colon. -/
theorem eq_of_arg? {s t : Text} {arg : Option Text} (h : arg? s = some (arg, t)) :
    s = argText arg ++ t ∧ ∀ a, arg = some a → a ≠ [] ∧ ∀ c ∈ a, isArgChar c = true := by
  rw [arg?.eq_def] at h
  split at h
  · next r =>
    simp only at h
    split at h
    · cases h
    · next hne =>
      cases h
      refine ⟨?_, fun a ha => ?_⟩
      · rw [argText, List.cons_append, List.takeWhile_append_dropWhile]
      · cases ha
        exact ⟨by simpa using hne, fun c hc => List.mem_takeWhile_imp hc⟩
  · cases h
    exact ⟨rfl, fun a ha => by cases ha⟩

/-- What is read as a body stands between white space. -/
theorem exists_of_body? {s body : Text} (h : body? s = some body) :
    strip body = body ∧ '\n' ∉ body ∧ ∃ gap trail, s = gap ++ body ++ trail ∧
      (∀ c ∈ gap, isBlank c = true) ∧ (∀ c ∈ trail, isBlank c = true) ∧ (body = [] ∨ gap ≠ []) := by
  cases s with
  | nil =>
    cases h
    exact ⟨rfl, List.not_mem_nil, [], [], rfl, nofun, nofun, Or.inl rfl⟩
  | cons c r =>
    rw [body?] at h
    split at h
    · cases h
    · next hblank =>
      split at h
      · cases h
      · next hfeed =>
        cases h
        obtain ⟨trail, hcut, htrail⟩ := exists_strip_append (c :: r)
        refine ⟨strip_strip _, by simpa using hfeed, _, trail, hcut,
          fun b hb => List.mem_takeWhile_imp hb, htrail, Or.inr ?_⟩
        rw [List.takeWhile_cons, if_pos (by simpa using hblank)]
        exact List.cons_ne_nil _ _

/-- White space around the line does not matter. -/
theorem split?_strip (line : Text) : split? (strip line) = split? line := by
  rw [split?, strip_strip, ← split?]

/-- **A line with parts is the comment of its parts.** -/
theorem exists_spread_of_split? {line : Text} {p : Parts} (h : split? line = some p) :
    p.Writable ∧ ∃ lead gap trail, p.Fits lead gap trail ∧ strip line = p.spread lead gap trail := by
  rw [split?] at h
  simp only [Option.bind_eq_bind, Option.bind_eq_some_iff] at h
  obtain ⟨inner, hinner, named, hnamed, h⟩ := h
  split at h
  · cases h
  next hkey =>
  obtain ⟨⟨arg, tail⟩, harg, h⟩ := Option.bind_eq_some_iff.mp h
  obtain ⟨middle, hmiddle, h⟩ := Option.bind_eq_some_iff.mp h
  obtain ⟨body, hbody, h⟩ := Option.bind_eq_some_iff.mp h
  cases h
  obtain ⟨htail, hletters⟩ := eq_of_arg? harg
  obtain ⟨hstrip, hfeed, gap, trail, rfl, hgap, htrail, hne⟩ := exists_of_body? hbody
  rw [after?_eq_some_iff] at hinner hnamed
  have hrest : tail = gap ++ body ++ trail ++ "-->".toList := before?_eq_some_iff.mp hmiddle
  refine ⟨⟨by simpa using hkey, fun c hc => List.mem_takeWhile_imp hc, fun a ha => (hletters a ha).1,
    fun a ha => (hletters a ha).2, hstrip, hfeed⟩, inner.takeWhile isBlank, gap, trail,
    ⟨fun c hc => List.mem_takeWhile_imp hc, hgap, htrail, hne⟩, ?_⟩
  calc strip line = "<!--".toList ++ inner := hinner
    _ = "<!--".toList ++ (inner.takeWhile isBlank ++ stripStart inner) := by
      rw [stripStart, List.takeWhile_append_dropWhile]
    _ = "<!--".toList ++ (inner.takeWhile isBlank ++ ("pave:".toList ++
          (named.takeWhile isKeyChar ++ named.dropWhile isKeyChar))) := by
      rw [hnamed, List.takeWhile_append_dropWhile]
    _ = _ := by rw [htail, hrest, Parts.spread]

/--
**A comment has the parts that it was written with, and every line with parts is such a comment.**

However many spaces stand at the places where a comment may have them, the parts are read back; a body can
hold the end of a comment, colons and spaces. The other way round, the trimmed line is the comment of the
parts that are read, with some white space at these places, and so there is no other way to split it.
-/
theorem split?_exact :
    (∀ p lead gap trail, p.Writable → (p.body = [] ∨ 0 < gap) →
      split? (p.comment lead gap trail) = some p) ∧
    ∀ line p, split? line = some p ↔
      p.Writable ∧ ∃ lead gap trail, p.Fits lead gap trail ∧ strip line = p.spread lead gap trail := by
  refine ⟨fun p lead gap trail h hgap => split?_comment h hgap, fun line p => ⟨exists_spread_of_split?, ?_⟩⟩
  rintro ⟨hp, lead, gap, trail, hfits, hline⟩
  rw [← split?_strip, hline]
  exact split?_spread hp hfits

/-- The body ends like the comment, and has a colon and two spaces in it. -/
def nestedParts : Parts where
  key := "env".toList
  arg := some "exact".toList
  body := "A=<!-- 1: 2  --> -->".toList

theorem split?_exact_nested : nestedParts.Writable ∧
    split? "<!--  pave:env:exact A=<!-- 1: 2  --> -->-->".toList = some nestedParts := by
  have hwritable : nestedParts.Writable :=
    { key_ne := by decide
      key := List.all_eq_true.mp (by decide)
      arg_ne := by
        rintro _ ⟨⟩
        decide
      arg := by
        rintro _ ⟨⟩
        exact List.all_eq_true.mp (by decide)
      body := by decide
      body_feed := by decide }
  have hline : "<!--  pave:env:exact A=<!-- 1: 2  --> -->-->".toList = nestedParts.comment 2 1 0 := by
    decide +kernel
  have hsplit := split?_exact.1 nestedParts 2 1 0 hwritable (Or.inr Nat.one_pos)
  exact ⟨hwritable, by rw [hline, hsplit]⟩

/-! ## Written directives -/

/-- The parts of a directive. -/
def parts : Directive → Parts
  | run => { key := "run".toList, arg := none, body := [] }
  | expect strategy => { key := "expect".toList, arg := some strategy.name, body := [] }
  | workingDir dir => { key := "working_dir".toList, arg := none, body := dir }
  | env name value => { key := "env".toList, arg := none, body := name ++ '=' :: value }

/-- The directive as a comment, its parts one space apart. -/
def written (d : Directive) : Text :=
  d.parts.comment 1 (if d.parts.body.isEmpty then 0 else 1) 1

/-- The texts of the directive are trimmed and on one line, those that need to be there are not empty,
and the name of a variable has no `=` in it. -/
def IsWritable : Directive → Prop
  | run => True
  | expect _ => True
  | workingDir dir => dir ≠ [] ∧ strip dir = dir ∧ IsUnbroken dir
  | env name value =>
    (name ≠ [] ∧ strip name = name ∧ IsUnbroken name ∧ '=' ∉ name) ∧
      strip value = value ∧ IsUnbroken value

instance : ∀ d : Directive, Decidable d.IsWritable
  | run => isTrue trivial
  | expect _ => isTrue trivial
  | workingDir dir => inferInstanceAs (Decidable (dir ≠ [] ∧ strip dir = dir ∧ IsUnbroken dir))
  | env name value => inferInstanceAs (Decidable
      ((name ≠ [] ∧ strip name = name ∧ IsUnbroken name ∧ '=' ∉ name) ∧
        strip value = value ∧ IsUnbroken value))

variable {d : Directive}

theorem isUnbroken_body (h : d.IsWritable) : IsUnbroken d.parts.body := by
  cases d with
  | run => exact fun c hc => by cases hc
  | expect strategy => exact fun c hc => by cases hc
  | workingDir dir => exact h.2.2
  | env name value =>
    obtain ⟨⟨-, -, hname, -⟩, -, hvalue⟩ := h
    exact isUnbroken_append.mpr ⟨hname, isUnbroken_cons.mpr ⟨by decide, hvalue⟩⟩

theorem strip_body (h : d.IsWritable) : strip d.parts.body = d.parts.body := by
  cases d with
  | run => rfl
  | expect strategy => rfl
  | workingDir dir => exact h.2.1
  | env name value =>
    obtain ⟨⟨-, hname, -, -⟩, hvalue, -⟩ := h
    have hsign : strip ['='] = ['='] := by decide
    exact strip_append hname (strip_append hsign hvalue)

/-- Every key can be written. -/
theorem key_parts (d : Directive) :
    d.parts.key ≠ [] ∧ ∀ c ∈ d.parts.key, isKeyChar c = true := by
  have hkeys : ∀ key ∈ ["run".toList, "expect".toList, "working_dir".toList, "env".toList],
      key ≠ [] ∧ key.all isKeyChar = true := by decide
  rw [← List.all_eq_true]
  refine hkeys _ ?_
  cases d with
  | run => exact .head _
  | expect strategy => exact .tail _ (.head _)
  | workingDir dir => exact .tail _ (.tail _ (.head _))
  | env name value => exact .tail _ (.tail _ (.tail _ (.head _)))

/-- The name of a strategy is the only argument there is. -/
theorem arg_parts {arg : Text} (harg : d.parts.arg = some arg) :
    arg ≠ [] ∧ ∀ c ∈ arg, isArgChar c = true := by
  rw [← List.all_eq_true]
  cases d with
  | expect strategy =>
    cases harg
    cases strategy <;> decide
  | run => cases harg
  | workingDir dir => cases harg
  | env name value => cases harg

theorem writable_parts (h : d.IsWritable) : d.parts.Writable where
  key_ne := (key_parts d).1
  key := (key_parts d).2
  arg_ne := fun _ harg => (arg_parts harg).1
  arg := fun _ harg => (arg_parts harg).2
  body := strip_body h
  body_feed := fun hfeed => by
    have hbreak := isUnbroken_body h _ hfeed
    revert hbreak
    decide

/-- An assignment is read as a variable when it has a name. -/
theorem ofParts?_env {name value : Text} (hkey : p.key = "env".toList)
    (hcut : cut '=' p.body = some (name, value)) (hname : isBlankText name = false) :
    ofParts? p = some (env (strip name) (strip value)) := by
  rw [ofParts?, hkey, if_neg (by decide), if_neg (by decide), if_neg (by decide),
    if_pos (by decide), hcut]
  simp only
  rw [if_neg (by simp [hname])]

/-- The parts of a directive make sense together. -/
theorem ofParts?_parts (h : d.IsWritable) : ofParts? d.parts = some d := by
  cases d with
  | run => rfl
  | expect strategy => cases strategy <;> rfl
  | workingDir dir =>
    obtain ⟨hne, -, -⟩ := h
    show (if dir.isEmpty then none else some (workingDir dir)) = _
    rw [if_neg (by simp [hne])]
  | env name value =>
    obtain ⟨⟨hne, hname, -, hsep⟩, hvalue, -⟩ := h
    rw [ofParts?_env rfl (cut_append hsep) (isBlankText_eq_false hne hname), hname, hvalue]

/-- **A directive that is written is understood.** -/
theorem ofLine?_written (h : d.IsWritable) : ofLine? d.written = some d := by
  rw [ofLine?, written, split?_comment (writable_parts h)]
  · exact ofParts?_parts h
  · cases hbody : d.parts.body with
    | nil => exact Or.inl rfl
    | cons c rest => exact Or.inr Nat.one_pos

theorem isUnbroken_written (h : d.IsWritable) : IsUnbroken d.written :=
  isUnbroken_comment (writable_parts h) (isUnbroken_body h)

end Directive

end DocAudit
