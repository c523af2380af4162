import DocAudit.Proofs.Lint.Anchors
import DocAudit.Proofs.Lint.Fading
import DocAudit.Proofs.Text.Joined
import DocAudit.Proofs.Text.Strip
import Mathlib

/-!
# Links with titles

A link can have a title behind its destination. The check of files looks at the first word of the target only,
and so the title makes no difference to it. The check of anchors takes the whole target, so that what follows
the first sign is the anchor, and the title is a part of it.

## Contents

* `Lint.Link.written`, `Lint.exists_links_split`: **a link stands in its line and can be given another target**
* `Lint.linksIn`, `Lint.report`: all links of a text, and what is reported about them
* `Lint.normalizeAnchor_append`: an anchor, character by character
* `Lint.isSome_report_iff`: **when a link is reported**
* `Lint.TitledLink`: a link with and without its title
* `Lint.TitledLink.reported_iff`: **when the two of them are reported**
-/

namespace DocAudit.Lint

open Text

/-! ## Links in a line -/

namespace Link

/-- The link as it stands in a line. -/
def written (l : Link) : Text := '[' :: l.text ++ ']' :: '(' :: l.target ++ [')']

/-- The link can be read from a line: its parts end where they should, and there is a target. -/
structure IsReadable (l : Link) : Prop where
  text : ']' ∉ l.text
  target : ')' ∉ l.target
  ne_nil : l.target ≠ []

theorem at?_of_ne {c : Char} (h : c ≠ '[') (r : Text) : at? (c :: r) = none := by
  unfold at?
  split
  · next heq => exact absurd (List.cons.inj heq).1 h
  · rfl

end Link

theorem parenthesised?_of_ne {c : Char} (h : c ≠ '(') (r : Text) : parenthesised? (c :: r) = none := by
  unfold parenthesised?
  split
  · next heq => exact absurd (List.cons.inj heq).1 h
  · rfl

theorem parenthesised?_eq_some_iff {s inner rest : Text} :
    parenthesised? s = some (inner, rest) ↔ s = '(' :: inner ++ ')' :: rest ∧ ')' ∉ inner ∧ inner ≠ [] := by
  cases s with
  | nil => simp [parenthesised?]
  | cons c r =>
    by_cases hc : c = '('
    · subst hc
      rw [parenthesised?]
      cases hcut : cut ')' r with
      | none =>
        refine iff_of_false (Option.some_ne_none _).symm ?_
        rintro ⟨hr, hinner, -⟩
        have hr' : r = inner ++ ')' :: rest := (List.cons.inj hr).2
        rw [hr', cut_append hinner] at hcut
        cases hcut
      | some found =>
        obtain ⟨inner', rest'⟩ := found
        obtain ⟨rfl, hinner'⟩ := cut_eq_some_iff.mp hcut
        simp only [List.isEmpty_iff]
        constructor
        · intro h
          obtain ⟨hne, hfound⟩ := Option.ite_none_left_eq_some.mp h
          cases hfound
          exact ⟨rfl, hinner', hne⟩
        · rintro ⟨hr, hinner, hne⟩
          have hr' : inner' ++ ')' :: rest' = inner ++ ')' :: rest := (List.cons.inj hr).2
          rw [hr', cut_append hinner] at hcut
          cases hcut
          rw [if_neg hne]
    · rw [parenthesised?_of_ne hc]
      refine iff_of_false (Option.some_ne_none _).symm ?_
      rintro ⟨hs, -⟩
      exact hc (List.cons.inj hs).1

/-- **A link is read where it is written.** -/
theorem Link.at?_eq_some_iff {s rest : Text} {l : Link} :
    Link.at? s = some (l, rest) ↔ s = l.written ++ rest ∧ l.IsReadable := by
  cases s with
  | nil => simp [at?, written]
  | cons c r =>
    by_cases hc : c = '['
    · subst hc
      rw [at?]
      cases hcut : cut ']' r with
      | none =>
        refine iff_of_false (Option.some_ne_none _).symm ?_
        rintro ⟨hr, hl⟩
        have hr' : r = l.text ++ ']' :: ('(' :: l.target ++ ')' :: rest) := by
          simpa [written] using (List.cons.inj hr).2
        rw [hr', cut_append hl.text] at hcut
        cases hcut
      | some found =>
        obtain ⟨text, after⟩ := found
        obtain ⟨rfl, htext⟩ := cut_eq_some_iff.mp hcut
        simp only [Option.map_eq_some_iff, Prod.exists, parenthesised?_eq_some_iff, Prod.mk.injEq]
        constructor
        · rintro ⟨target, rest', ⟨rfl, htarget, hne⟩, rfl, rfl⟩
          exact ⟨by simp [written], htext, htarget, hne⟩
        · rintro ⟨hr, hl⟩
          have hr' : text ++ ']' :: after = l.text ++ ']' :: ('(' :: l.target ++ ')' :: rest) := by
            simpa [written] using (List.cons.inj hr).2
          rw [hr', cut_append hl.text] at hcut
          cases hcut
          exact ⟨l.target, rest, ⟨by simp, hl.target, hl.ne_nil⟩, rfl, rfl⟩
    · rw [at?_of_ne hc]
      refine iff_of_false (Option.some_ne_none _).symm ?_
      rintro ⟨hs, -⟩
      exact hc (List.cons.inj hs).1

/-- What is read between parentheses depends on the text before a target only in being there. -/
theorem isSome_parenthesised?_congr {front target target' rest : Text} (hfront : front ≠ [])
    (h : ')' ∉ target ∧ target ≠ []) (h' : ')' ∉ target' ∧ target' ≠ []) :
    (parenthesised? (front ++ target' ++ ')' :: rest)).isSome =
      (parenthesised? (front ++ target ++ ')' :: rest)).isSome := by
  obtain ⟨c, front, rfl⟩ := List.exists_cons_of_ne_nil hfront
  by_cases hc : c = '('
  · subst hc
    by_cases hmem : ')' ∈ front
    · obtain ⟨inner, more, rfl, hinner⟩ := List.eq_append_cons_of_mem hmem
      have hcut : ∀ x : Text, cut ')' (inner ++ ')' :: more ++ x ++ ')' :: rest) =
          some (inner, more ++ x ++ ')' :: rest) := fun x => by
        have hinner' : cut ')' (inner ++ ')' :: (more ++ x ++ ')' :: rest)) = _ := cut_append hinner
        simpa using hinner'
      simp only [List.cons_append, parenthesised?, hcut]
      split <;> rfl
    · have hread : ∀ x : Text, ')' ∉ x ∧ x ≠ [] →
          parenthesised? ('(' :: front ++ x ++ ')' :: rest) = some (front ++ x, rest) := fun x hx => by
        refine parenthesised?_eq_some_iff.mpr ⟨by simp, ?_, by simp [hx.2]⟩
        rw [List.mem_append, not_or]
        exact ⟨hmem, hx.1⟩
      rw [hread target h, hread target' h']
      rfl
  · simp only [List.cons_append, parenthesised?_of_ne hc]

/-- Another target does not make a link of what stands in front. -/
theorem Link.at?_cons_congr {c : Char} {front label target target' rest : Text}
    (h : ')' ∉ target ∧ target ≠ []) (h' : ')' ∉ target' ∧ target' ≠ [])
    (hnone : Link.at? (c :: front ++ written ⟨label, target⟩ ++ rest) = none) :
    Link.at? (c :: front ++ written ⟨label, target'⟩ ++ rest) = none := by
  by_cases hc : c = '['
  · subst hc
    -- the first closing bracket stands in front of the target
    obtain ⟨text, behind, hsplit, htext⟩ :
        ∃ text behind, front ++ '[' :: label ++ [']'] = text ++ ']' :: behind ∧ ']' ∉ text :=
      List.eq_append_cons_of_mem (by simp)
    have hread : ∀ x : Text, Link.at? ('[' :: front ++ written ⟨label, x⟩ ++ rest) =
        (parenthesised? ((behind ++ ['(']) ++ x ++ ')' :: rest)).map fun q => (⟨text, q.1⟩, q.2) := fun x => by
      have hline : front ++ written ⟨label, x⟩ ++ rest =
          text ++ ']' :: ((behind ++ ['(']) ++ x ++ ')' :: rest) := by
        have := congrArg (· ++ '(' :: x ++ ')' :: rest) hsplit
        simpa [written] using this
      rw [List.cons_append, List.cons_append, hline, at?, cut_append htext]
    rw [hread, ← Option.not_isSome_iff_eq_none, Option.isSome_map] at hnone ⊢
    rwa [isSome_parenthesised?_congr (by simp) h h']
  · rw [List.cons_append, List.cons_append, at?_of_ne hc]

theorem links_cons_of_none {c : Char} {r : Text} (h : Link.at? (c :: r) = none) : links (c :: r) = links r := by
  rw [links, scan_cons, h, links]

theorem links_written {l : Link} (h : l.IsReadable) (rest : Text) :
    links (l.written ++ rest) = l :: links rest := by
  have hat : Link.at? (l.written ++ rest) = some (l, rest) := Link.at?_eq_some_iff.mpr ⟨rfl, h⟩
  obtain ⟨c, r, hr, hle⟩ : ∃ c r, l.written ++ rest = c :: r ∧ rest.length ≤ r.length :=
    ⟨'[', _, rfl, by simp; omega⟩
  rw [hr] at hat ⊢
  rw [links, scan_cons, hat, links]
  exact if_pos hle

/--
**A link stands in its line, and the line has the same other links when the link has another target.**

The induction is on the line: what the scan goes over has no link in it, and has none with another target in the
link behind it.
-/
theorem exists_links_split {line : Text} {before after : List Link} {l : Link}
    (h : links line = before ++ l :: after) :
    ∃ pre post, line = pre ++ l.written ++ post ∧ l.IsReadable ∧ ∀ target, ')' ∉ target ∧ target ≠ [] →
      links (pre ++ Link.written ⟨l.text, target⟩ ++ post) = before ++ ⟨l.text, target⟩ :: after := by
  induction hlength : line.length using Nat.strong_induction_on generalizing line before with
  | _ n ih =>
    subst hlength
    cases line with
    | nil =>
      rw [links, scan_nil] at h
      cases (List.append_eq_nil_iff.mp h.symm).2
    | cons c r =>
      cases hat : Link.at? (c :: r) with
      | none =>
        rw [links_cons_of_none hat] at h
        obtain ⟨pre, post, rfl, hl, hother⟩ := ih r.length (Nat.lt_succ_self _) h rfl
        refine ⟨c :: pre, post, rfl, hl, fun target htarget => ?_⟩
        have hnone : Link.at? (c :: (pre ++ Link.written ⟨l.text, target⟩ ++ post)) = none :=
          Link.at?_cons_congr ⟨hl.target, hl.ne_nil⟩ htarget hat
        rw [List.cons_append, List.cons_append, links_cons_of_none hnone, hother target htarget]
      | some found =>
        obtain ⟨m, rest⟩ := found
        obtain ⟨hline, hm⟩ := Link.at?_eq_some_iff.mp hat
        rw [hline, links_written hm] at h
        cases before with
        | nil =>
          obtain ⟨rfl, rfl⟩ := List.cons.inj h
          refine ⟨[], rest, hline, hm, fun target htarget => ?_⟩
          exact links_written (l := ⟨m.text, target⟩) ⟨hm.text, htarget.1, htarget.2⟩ rest
        | cons first before =>
          obtain ⟨rfl, hrest⟩ := List.cons.inj h
          have hlt : rest.length < (c :: r).length := by
            rw [hline, List.length_append]
            exact Nat.lt_add_of_pos_left (Nat.succ_pos _)
          obtain ⟨pre, post, rfl, hl, hother⟩ := ih rest.length hlt hrest rfl
          refine ⟨m.written ++ pre, post, by simp [hline], hl, fun target htarget => ?_⟩
          have hnew := links_written hm (pre ++ Link.written ⟨l.text, target⟩ ++ post)
          rw [hother target htarget] at hnew
          simpa using hnew

/-! ## All links of a text -/

/-- The links of lines with the numbers of their lines, of which the first is `n`. -/
def linksFrom (n : Nat) (p : Prose) : List (Nat × Link) :=
  (Prose.numberedFrom n p).flatMap fun (n, line) => (links line).map fun link => (n, link)

/-- The links of a text with the numbers of their lines. -/
def linksIn (p : Prose) : List (Nat × Link) := linksFrom 1 p

/-- The links in front of a line and those behind it do not depend on the line. -/
theorem linksIn_append_cons (front back : Prose) (line : Text) :
    linksIn (front ++ some line :: back) =
      linksFrom 1 front ++ (links line).map (fun link => (front.length + 1, link)) ++
        linksFrom (front.length + 2) back := by
  rw [linksIn, linksFrom, Prose.numberedFrom_append, Prose.numberedFrom, List.flatMap_append,
    List.flatMap_cons, Nat.add_comm 1, ← List.append_assoc]
  rfl

/-- What is reported about the link in the line of the number, when something is. -/
def report (s : LintScope) (own : List Text) (q : Nat × Link) : Option (Nat × Text) :=
  (anchorFault? s own q.2).toOption.join.map fun message => (q.1, message)

/-- **The check of anchors finds what it reports about each link, in their order.** -/
theorem deadAnchors_eq {s : LintScope} {p : Prose} {found : List (Nat × Text)} (h : deadAnchors s p = .ok found) :
    found = (linksIn p).filterMap (report s (anchors p)) := by
  rw [Outcome.eq_of_filterMapM h]
  refine List.filterMap_congr fun q _ => ?_
  obtain ⟨n, link⟩ := q
  simp only [report]
  cases anchorFault? s (anchors p) link with
  | error failure => rfl
  | ok message? => rfl

/-! ## Blanks in targets -/

/-- White space has no part in schemes and anchors. -/
theorem of_isBlank {c : Char} (h : isBlank c = true) :
    isSchemeChar c = false ∧ c ≠ ':' ∧ c ≠ '#' ∧ (lowerIn [] [] c).filter isAnchorChar = [] := by
  have hcodes : ∀ n ∈ blankCodes, isSchemeChar (Char.ofNat n) = false ∧ Char.ofNat n ≠ ':' ∧
      Char.ofNat n ≠ '#' := by decide +kernel
  have hc := hcodes c.toNat (toNat_mem_blankCodes h)
  rw [Char.ofNat_toNat] at hc
  refine ⟨hc.1, hc.2.1, hc.2.2, ?_⟩
  by_cases hspace : c = ' '
  · rw [hspace]
    decide
  · refine List.filter_eq_nil_iff.mpr fun x hx hanchor => ?_
    -- the anchor of a heading has all of these characters, and the mark of a space besides
    have hmem : x ∈ anchorOf c :=
      List.mem_filter.mpr ⟨List.mem_map.mpr ⟨x, hx, if_neg (by rintro rfl; cases hanchor)⟩, hanchor⟩
    rw [anchorOf_of_isBlank h hspace] at hmem
    exact absurd hmem List.not_mem_nil

/-- **An anchor, character by character.** -/
theorem normalizeAnchor_eq (s : Text) :
    normalizeAnchor s = s.flatMap fun c => (lowerIn [] [] c).filter isAnchorChar := by
  have hchar : ∀ before after c, (lowerIn before after c).filter isAnchorChar =
      (lowerIn [] [] c).filter isAnchorChar := by
    intro before after c
    rw [lowerIn, lowerIn]
    split
    · split <;> split <;> decide
    · rfl
  have hfrom : ∀ before s : Text, (lowerFrom before s).filter isAnchorChar =
      s.flatMap fun c => (lowerIn [] [] c).filter isAnchorChar := by
    intro before s
    induction s generalizing before with
    | nil => rfl
    | cons c s ih => rw [lowerFrom, List.filter_append, hchar, ih, List.flatMap_cons]
  exact hfrom [] s

theorem normalizeAnchor_append (s t : Text) :
    normalizeAnchor (s ++ t) = normalizeAnchor s ++ normalizeAnchor t := by
  simp only [normalizeAnchor_eq, List.flatMap_append]

theorem normalizeAnchor_of_blank {s : Text} (h : ∀ c ∈ s, isBlank c = true) : normalizeAnchor s = [] := by
  rw [normalizeAnchor_eq, List.flatMap_eq_nil_iff]
  exact fun c hc => (of_isBlank (h c hc)).2.2.2

theorem normalizeAnchor_stripEnd (s : Text) : normalizeAnchor (stripEnd s) = normalizeAnchor s := by
  obtain ⟨ending, hs, hending, -⟩ := exists_dropEnd_append isBlank s
  conv_rhs => rw [hs, normalizeAnchor_append, normalizeAnchor_of_blank hending, List.append_nil]
  rfl

/-- What stands behind a text makes a scheme of it only when it goes on with the characters of one. -/
theorem hasScheme_append {s rest : Text} (hs : s ≠ [])
    (hrest : ∀ c, rest.head? = some c → isSchemeChar c = false ∧ c ≠ ':') : hasScheme (s ++ rest) = hasScheme s := by
  obtain ⟨c, r, rfl⟩ := List.exists_cons_of_ne_nil hs
  rw [List.cons_append, hasScheme, hasScheme, List.dropWhile_append]
  split
  · next hempty =>
    rw [List.isEmpty_iff.mp hempty]
    cases rest with
    | nil => rfl
    | cons b rest =>
      obtain ⟨hscheme, hcolon⟩ := hrest b rfl
      rw [List.dropWhile_cons, hscheme]
      simp [hcolon]
  · next hne =>
    obtain ⟨b, behind, hbehind⟩ := List.exists_cons_of_ne_nil (fun hnil => hne (List.isEmpty_iff.mpr hnil))
    rw [hbehind]
    rfl

/-! ## What is reported -/

/-- The anchors that a target can lead to: those of the text itself, or those of the file, when there is one
that can be read. -/
def anchorsAt? (s : LintScope) (own : List Text) (file : Text) : Outcome (Option (List Text)) :=
  if file = [] then .ok (some own)
  else (s.tree.isFile? s.cwd (resolve s file)).map fun isFile =>
    if isFile then anchorsOfFile? s (resolve s file) else none

/-- What is said about an anchor that is not defined. -/
def complaint (file anchor : Text) : Text :=
  if file = [] then "dead anchor '#".toList ++ anchor ++ "' (section not found)".toList
  else "dead anchor '".toList ++ file ++ '#' :: anchor ++ "' (section not found in target file)".toList

section Report

variable {s : LintScope} {own : List Text} {link : Link} {n : Nat} {file anchor : Text}

/-- The check of a link, by the anchors that its target can lead to. -/
theorem anchorFault?_eq (h : cut '#' (strip link.target) = some (file, anchor)) :
    anchorFault? s own link =
      if hasScheme (strip link.target) = true ∨ anchor = [] then .ok none
      else (anchorsAt? s own file).map fun known? => known?.bind fun known =>
        if normalizeAnchor anchor ∈ known then none else some (complaint file anchor) := by
  unfold anchorFault? anchorsAt? complaint
  simp only [h, List.isEmpty_iff, List.contains_iff_mem]
  by_cases hscheme : hasScheme (strip link.target) = true
  · rw [if_pos hscheme, if_pos (Or.inl hscheme)]
    rfl
  by_cases hanchor : anchor = []
  · rw [if_neg hscheme, if_pos hanchor, if_pos (Or.inr hanchor)]
    rfl
  rw [if_neg hscheme, if_neg hanchor, if_neg (not_or.mpr ⟨hscheme, hanchor⟩)]
  by_cases hfile : file = []
  · simp only [if_pos hfile, Except.map, Option.bind_some]
    split <;> rfl
  · simp only [if_neg hfile]
    cases s.tree.isFile? s.cwd (resolve s file) with
    | error failure => rfl
    | ok isFile =>
      cases isFile with
      | false => rfl
      | true =>
        cases anchorsOfFile? s (resolve s file) with
        | none =>
          simp only [Except.map, if_true, Option.bind_none]
          rfl
        | some known =>
          simp only [Except.map, if_true, Option.bind_some]
          show (if normalizeAnchor anchor ∈ known then Except.ok none else Except.ok _) = _
          split <;> rfl

/-- Without a sign there is no anchor to look for. -/
theorem anchorFault?_of_cut_eq_none (h : cut '#' (strip link.target) = none) :
    anchorFault? s own link = .ok none := by
  unfold anchorFault?
  simp only [h]
  split <;> rfl

theorem report_eq_none (h : cut '#' (strip link.target) = none) : report s own (n, link) = none := by
  rw [report, anchorFault?_of_cut_eq_none h]
  rfl

/-- **A link is reported when its target has no scheme and an anchor that is not among those it can lead to.** -/
theorem isSome_report_iff (h : cut '#' (strip link.target) = some (file, anchor)) :
    (report s own (n, link)).isSome = true ↔ hasScheme (strip link.target) = false ∧ anchor ≠ [] ∧
      ∃ known, anchorsAt? s own file = .ok (some known) ∧ normalizeAnchor anchor ∉ known := by
  rw [report, anchorFault?_eq h, Option.isSome_map]
  by_cases hquiet : hasScheme (strip link.target) = true ∨ anchor = []
  · rw [if_pos hquiet]
    refine iff_of_false Bool.false_ne_true ?_
    rintro ⟨hscheme, hanchor, -⟩
    rw [hscheme] at hquiet
    exact hquiet.elim Bool.false_ne_true hanchor
  · obtain ⟨hscheme, hanchor⟩ := not_or.mp hquiet
    rw [Bool.not_eq_true] at hscheme
    rw [if_neg hquiet]
    simp only [hscheme, ne_eq, hanchor, not_false_eq_true, true_and]
    cases anchorsAt? s own file with
    | error failure =>
      refine iff_of_false Bool.false_ne_true ?_
      rintro ⟨known, hknown, -⟩
      cases hknown
    | ok known? =>
      cases known? with
      | none =>
        refine iff_of_false Bool.false_ne_true ?_
        rintro ⟨known, hknown, -⟩
        cases hknown
      | some known => by_cases hmem : normalizeAnchor anchor ∈ known <;> simp [Except.map, Except.toOption, hmem]

end Report

/-! ## Titles -/

/-- A link with white space and a title behind its destination, which is one word. -/
structure TitledLink where
  label : Text
  lead : Text
  dest : Text
  gap : Text
  title : Text
  lead_blank : isBlankText lead = true
  dest_ne : dest ≠ []
  dest_plain : dest.any isBlank = false
  gap_ne : gap ≠ []
  gap_blank : isBlankText gap = true
  title_said : isBlankText title = false

namespace TitledLink

/-- The link with its title. -/
def titled (t : TitledLink) : Link := ⟨t.label, t.lead ++ (t.dest ++ (t.gap ++ t.title))⟩

/-- The link without the title. -/
def bare (t : TitledLink) : Link := ⟨t.label, t.lead ++ t.dest⟩

variable (t : TitledLink)

theorem isBlank_of_mem_lead {c : Char} (h : c ∈ t.lead) : isBlank c = true :=
  List.all_eq_true.mp t.lead_blank c h

theorem isBlank_of_mem_gap {c : Char} (h : c ∈ t.gap) : isBlank c = true :=
  List.all_eq_true.mp t.gap_blank c h

theorem isBlank_of_mem_dest {c : Char} (h : c ∈ t.dest) : isBlank c = false :=
  Bool.eq_false_iff.mpr (List.any_eq_false.mp t.dest_plain c h)

theorem head?_gap_append {c : Char} (rest : Text) (h : (t.gap ++ rest).head? = some c) : isBlank c = true := by
  obtain ⟨b, more, hgap⟩ := List.exists_cons_of_ne_nil t.gap_ne
  rw [hgap] at h
  obtain rfl := Option.some.inj h
  exact t.isBlank_of_mem_gap (hgap ▸ List.mem_cons_self)

/-- **The first word of both targets is the destination.** -/
theorem head?_words_target : (words t.titled.target).head? = some t.dest ∧
    (words t.bare.target).head? = some t.dest := by
  refine ⟨head?_words (fun _ => t.isBlank_of_mem_lead) t.dest_ne (fun _ => t.isBlank_of_mem_dest)
    fun _ => t.head?_gap_append t.title, ?_⟩
  have hbare : (words (t.lead ++ (t.dest ++ []))).head? = some t.dest :=
    head?_words (fun _ => t.isBlank_of_mem_lead) t.dest_ne (fun _ => t.isBlank_of_mem_dest) (by simp)
  rwa [List.append_nil] at hbare

/-- **The check of files does not look at the title.** -/
theorem linkFault?_bare (s : LintScope) : linkFault? s t.bare = linkFault? s t.titled := by
  obtain ⟨htitled, hbare⟩ := t.head?_words_target
  rw [linkFault?, linkFault?, htitled, hbare]

theorem strip_bare : strip t.bare.target = t.dest := by
  have hdest : strip t.dest = t.dest := strip_eq_self_iff.mpr
    ⟨fun _ hc => t.isBlank_of_mem_dest (List.mem_of_head? hc),
      fun _ hc => t.isBlank_of_mem_dest (List.mem_of_getLast? hc)⟩
  have hstrip : strip (t.lead ++ t.dest ++ []) = strip t.dest :=
    strip_blank_append t.dest (fun _ => t.isBlank_of_mem_lead) (by simp)
  rw [List.append_nil, hdest] at hstrip
  exact hstrip

/-- The whole target has the title in it, without white space behind it. -/
theorem strip_titled : strip t.titled.target = t.dest ++ (t.gap ++ stripEnd t.title) := by
  obtain ⟨ending, htitle, hending, hlast⟩ := exists_dropEnd_append isBlank t.title
  have hsaid : stripEnd t.title ≠ [] := stripEnd_ne_nil t.title_said
  have htrimmed : strip (t.dest ++ (t.gap ++ stripEnd t.title)) = t.dest ++ (t.gap ++ stripEnd t.title) := by
    refine strip_eq_self_iff.mpr ⟨fun c hc => ?_, fun c hc => hlast c ?_⟩
    · rw [List.head?_append_of_ne_nil _ t.dest_ne] at hc
      exact t.isBlank_of_mem_dest (List.mem_of_head? hc)
    · rw [List.getLast?_append_of_ne_nil _ (by simp [hsaid]), List.getLast?_append_of_ne_nil _ hsaid] at hc
      exact hc
  have htarget : t.titled.target = t.lead ++ (t.dest ++ (t.gap ++ stripEnd t.title)) ++ ending := by
    rw [titled]
    conv_lhs => rw [htitle]
    simp only [List.append_assoc, stripEnd]
  rw [htarget, strip_blank_append _ (fun _ => t.isBlank_of_mem_lead) hending, htrimmed]

theorem hasScheme_titled : hasScheme (strip t.titled.target) = hasScheme t.dest := by
  rw [strip_titled]
  refine hasScheme_append t.dest_ne fun c hc => ?_
  obtain ⟨hscheme, hcolon, -⟩ := of_isBlank (t.head?_gap_append _ hc)
  exact ⟨hscheme, hcolon⟩

section Report

variable {t} {s : LintScope} {own : List Text} {n : Nat} {file anchor : Text}

/-- The title belongs to the anchor in the destination. -/
theorem isSome_report_titled_iff (h : cut '#' t.dest = some (file, anchor)) :
    (report s own (n, t.titled)).isSome = true ↔ hasScheme t.dest = false ∧
      ∃ known, anchorsAt? s own file = .ok (some known) ∧
        normalizeAnchor anchor ++ normalizeAnchor t.title ∉ known := by
  obtain ⟨hdest, hfile⟩ := cut_eq_some_iff.mp h
  have hcut : cut '#' (strip t.titled.target) = some (file, anchor ++ (t.gap ++ stripEnd t.title)) := by
    rw [strip_titled, hdest]
    exact cut_eq_some_iff.mpr ⟨by simp, hfile⟩
  have hanchor : normalizeAnchor (anchor ++ (t.gap ++ stripEnd t.title)) =
      normalizeAnchor anchor ++ normalizeAnchor t.title := by
    rw [normalizeAnchor_append, normalizeAnchor_append, normalizeAnchor_of_blank fun _ => t.isBlank_of_mem_gap,
      normalizeAnchor_stripEnd, List.nil_append]
  rw [isSome_report_iff hcut, hasScheme_titled, hanchor]
  simp [t.gap_ne]

theorem isSome_report_bare_iff (h : cut '#' t.dest = some (file, anchor)) :
    (report s own (n, t.bare)).isSome = true ↔ hasScheme t.dest = false ∧ anchor ≠ [] ∧
      ∃ known, anchorsAt? s own file = .ok (some known) ∧ normalizeAnchor anchor ∉ known := by
  rw [isSome_report_iff (by rw [strip_bare]; exact h), strip_bare]

theorem report_bare_eq_none (h : '#' ∉ t.dest) : report s own (n, t.bare) = none :=
  report_eq_none (by rw [strip_bare]; exact cut_eq_none h)

/-- Where the destination has no anchor, a sign in the title makes one. -/
theorem isSome_report_titled_iff_of_not_mem (h : '#' ∉ t.dest) :
    (report s own (n, t.titled)).isSome = true ↔ hasScheme t.dest = false ∧
      ∃ file anchor known, cut '#' t.title = some (file, anchor) ∧ isBlankText anchor = false ∧
        anchorsAt? s own (t.dest ++ t.gap ++ file) = .ok (some known) ∧ normalizeAnchor anchor ∉ known := by
  have hgap : '#' ∉ t.gap := fun hmem => (of_isBlank (t.isBlank_of_mem_gap hmem)).2.2.1 rfl
  cases htitle : cut '#' t.title with
  | none =>
    have hnot : '#' ∉ t.title := fun hmem => by
      obtain ⟨before, after, heq, hbefore⟩ := List.eq_append_cons_of_mem hmem
      rw [heq, cut_append hbefore] at htitle
      cases htitle
    have hcut : cut '#' (strip t.titled.target) = none := by
      rw [strip_titled]
      refine cut_eq_none ?_
      simp only [List.mem_append, not_or]
      exact ⟨h, hgap, fun hmem => hnot (mem_of_mem_stripEnd hmem)⟩
    rw [report_eq_none hcut]
    refine iff_of_false Bool.false_ne_true ?_
    rintro ⟨-, file, anchor, known, hfound, -⟩
    cases hfound
  | some found =>
    obtain ⟨file, anchor⟩ := found
    obtain ⟨heq, hfile⟩ := cut_eq_some_iff.mp htitle
    have hcut : cut '#' (strip t.titled.target) = some (t.dest ++ t.gap ++ file, stripEnd anchor) := by
      rw [strip_titled, heq, stripEnd_append_cons _ (by decide)]
      refine cut_eq_some_iff.mpr ⟨by simp, ?_⟩
      simp only [List.mem_append, not_or]
      exact ⟨⟨h, hgap⟩, hfile⟩
    rw [isSome_report_iff hcut, hasScheme_titled, normalizeAnchor_stripEnd]
    have hsaid : stripEnd anchor ≠ [] ↔ isBlankText anchor = false := by
      rw [← Bool.not_eq_true, not_iff_not, stripEnd_eq_nil_iff]
    rw [hsaid]
    simp

end Report

/--
**When a link with a title is reported, and when the same link without the title is.**

The link stands in its line, and without its title it leaves the other links as they are. The check of files
finds the same in both texts. The check of anchors finds what it reports about each link, and it takes the title
for the end of the anchor: what it looks for is put together from both. Where the destination has no anchor, a
sign in the title makes one, and the words in front of it are taken for the name of a file.
-/
theorem reported_iff {line : Text} {before after : List Link} (h : links line = before ++ t.titled :: after) :
    ∃ pre post, line = pre ++ t.titled.written ++ post ∧
      links (pre ++ t.bare.written ++ post) = before ++ t.bare :: after ∧
      ∀ (s : LintScope) (front back : Prose),
        -- the check of files
        brokenLinks s (front ++ some (pre ++ t.bare.written ++ post) :: back) =
          brokenLinks s (front ++ some line :: back) ∧
        -- the check of anchors
        (∃ others others' n, linksIn (front ++ some line :: back) = others ++ (n, t.titled) :: others' ∧
          linksIn (front ++ some (pre ++ t.bare.written ++ post) :: back) = others ++ (n, t.bare) :: others') ∧
        (∀ p found, deadAnchors s p = .ok found → found = (linksIn p).filterMap (report s (anchors p))) ∧
        ∀ own n,
          (∀ file anchor, cut '#' t.dest = some (file, anchor) →
            ((report s own (n, t.titled)).isSome = true ↔ hasScheme t.dest = false ∧
              ∃ known, anchorsAt? s own file = .ok (some known) ∧
                normalizeAnchor anchor ++ normalizeAnchor t.title ∉ known) ∧
            ((report s own (n, t.bare)).isSome = true ↔ hasScheme t.dest = false ∧ anchor ≠ [] ∧
              ∃ known, anchorsAt? s own file = .ok (some known) ∧ normalizeAnchor anchor ∉ known)) ∧
          ('#' ∉ t.dest → report s own (n, t.bare) = none ∧
            ((report s own (n, t.titled)).isSome = true ↔ hasScheme t.dest = false ∧
              ∃ file anchor known, cut '#' t.title = some (file, anchor) ∧ isBlankText anchor = false ∧
                anchorsAt? s own (t.dest ++ t.gap ++ file) = .ok (some known) ∧
                normalizeAnchor anchor ∉ known)) := by
  obtain ⟨pre, post, hline, hread, hother⟩ := exists_links_split h
  have htarget : ')' ∉ t.lead ++ t.dest ∧ t.lead ++ t.dest ≠ [] := by
    refine ⟨fun hmem => hread.target ?_, by simp [t.dest_ne]⟩
    rw [titled]
    simp only [List.mem_append] at hmem ⊢
    exact hmem.elim Or.inl fun hmem => Or.inr (Or.inl hmem)
  have hbare : links (pre ++ t.bare.written ++ post) = before ++ t.bare :: after := hother _ htarget
  refine ⟨pre, post, hline, hbare, fun s front back => ⟨?_, ?_, fun p found => deadAnchors_eq, fun own n =>
    ⟨fun file anchor hcut => ⟨isSome_report_titled_iff hcut, isSome_report_bare_iff hcut⟩, fun hsign =>
      ⟨report_bare_eq_none hsign, isSome_report_titled_iff_of_not_mem hsign⟩⟩⟩⟩
  · refine Outcome.filterMapM_congr ?_
    show (linksIn _).map _ = (linksIn _).map _
    rw [linksIn_append_cons, linksIn_append_cons, hbare, h]
    simp only [List.map_append, List.map_cons, List.map_map, linkFault?_bare]
  · refine ⟨linksFrom 1 front ++ before.map (fun link => (front.length + 1, link)),
      after.map (fun link => (front.length + 1, link)) ++ linksFrom (front.length + 2) back,
      front.length + 1, ?_, ?_⟩
    · rw [linksIn_append_cons, h]
      simp
    · rw [linksIn_append_cons, hbare]
      simp

/-- A link to a section of the same text, with the title of a guide. -/
def toSetup : TitledLink where
  label := ['a']
  lead := []
  dest := "#setup".toList
  gap := [' ']
  title := "\"Guide\"".toList
  lead_blank := by decide
  dest_ne := by decide
  dest_plain := by decide
  gap_ne := by decide
  gap_blank := by decide
  title_said := by decide

theorem reported_iff_toSetup :
    links "[a](#setup \"Guide\") [b](c.md)".toList = [] ++ toSetup.titled :: [⟨['b'], "c.md".toList⟩] ∧
      (report loneScope ["setup".toList] (2, toSetup.titled)).isSome = true ∧
      ¬ (report loneScope ["setup".toList] (2, toSetup.bare)).isSome = true := by
  have hlinks : links "[a](#setup \"Guide\") [b](c.md)".toList =
      [] ++ toSetup.titled :: [⟨['b'], "c.md".toList⟩] := by cbv
  obtain ⟨_, _, -, -, hreports⟩ := reported_iff toSetup hlinks
  obtain ⟨-, -, -, hown⟩ := hreports loneScope [] []
  obtain ⟨htitled, hbare⟩ := (hown ["setup".toList] 2).1 [] "setup".toList (by decide)
  refine ⟨hlinks, htitled.mpr ⟨by decide, _, rfl, by decide⟩, fun hreported => ?_⟩
  obtain ⟨-, -, known, hknown, hmem⟩ := hbare.mp hreported
  cases hknown
  exact hmem (by decide)

/-- A heading, and a link to it with a title or without. -/
def setupText (title : Text) : Text := "## Setup\n[a](#setup".toList ++ title ++ ")\n".toList

theorem not_reported_untitled :
    deadAnchors loneScope (Prose.ofLines (lines (setupText " \"Guide\"".toList))) =
        .ok [(2, "dead anchor '#setup \"Guide\"' (section not found)".toList)] ∧
      deadAnchors loneScope (Prose.ofLines (lines (setupText []))) = .ok [] := by
  have htitled : Prose.ofLines (lines (setupText " \"Guide\"".toList)) =
      [some "## Setup".toList, some "[a](#setup \"Guide\")".toList] := by decide +kernel
  have hbare : Prose.ofLines (lines (setupText [])) =
      [some "## Setup".toList, some "[a](#setup)".toList] := by decide +kernel
  rw [htitled, hbare]
  constructor
  · rw [show "dead anchor '#setup \"Guide\"' (section not found)".toList = _ from String.toList_ofList]
    cbv
  · cbv

end TitledLink

end DocAudit.Lint
