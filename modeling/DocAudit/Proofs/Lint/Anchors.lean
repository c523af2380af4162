import DocAudit.Proofs.Lint.Hidden
import DocAudit.Proofs.Markdown.Outline
import DocAudit.Proofs.Text.Lines
import DocAudit.Proofs.Text.Strip
import Mathlib

/-!
# Anchors of sections

A document has a section for each heading of the second level, and the check of links takes an anchor from each
heading that it finds. Both read headings in their own way: the name of a section is all that follows the
signs, and the text of a heading ends before a closing run of signs.

## Contents

* `Lint.anchorOf`, `Lint.headingAnchor_eq`: an anchor, character by character
* `Lint.IsClosed`, `Lint.headingAnchor_dropClosing_iff`: when a closing run makes a difference to the anchor
* `Lint.exists_headingText?`: the text of a heading in a line
* `Lint.anchorFault?_eq_none`: a link to an anchor that is defined is not dead
* `Document.anchors_sections`: **each section can be linked to**
-/

namespace DocAudit

open Text

namespace Lint

/-! ## Anchors by characters -/

/-- What a character of a heading gives to the anchor. -/
def anchorOf (c : Char) : Text :=
  ((lowerIn [] [] c).map fun c => if c = ' ' then '-' else c).filter isAnchorChar

/-- The neighbours of a character matter for a capital sigma only, and no form of it belongs to an anchor. -/
theorem filter_lowerIn (before after : Text) (c : Char) :
    ((lowerIn before after c).map fun c => if c = ' ' then '-' else c).filter isAnchorChar = anchorOf c := by
  rw [anchorOf, lowerIn, lowerIn]
  split
  · split <;> split <;> decide
  · rfl

/-- **The anchor of a heading, character by character.** -/
theorem headingAnchor_eq (s : Text) : headingAnchor s = (strip s).flatMap anchorOf := by
  have hfrom : ∀ before s : Text, ((lowerFrom before s).map fun c => if c = ' ' then '-' else c).filter
      isAnchorChar = s.flatMap anchorOf := by
    intro before s
    induction s generalizing before with
    | nil => rfl
    | cons c s ih =>
      rw [lowerFrom, List.map_append, List.filter_append, filter_lowerIn, ih, List.flatMap_cons]
  exact hfrom [] (strip s)

/-- The code points of white space. -/
def blankCodes : List Nat :=
  [9, 10, 11, 12, 13, 28, 29, 30, 31, 32, 0x85, 0xA0, 0x1680, 0x2000, 0x2001, 0x2002, 0x2003, 0x2004, 0x2005,
    0x2006, 0x2007, 0x2008, 0x2009, 0x200A, 0x2028, 0x2029, 0x202F, 0x205F, 0x3000]

theorem toNat_mem_blankCodes {c : Char} (h : isBlank c = true) : c.toNat ∈ blankCodes := by
  simp only [isBlank, Bool.or_eq_true, Bool.and_eq_true, decide_eq_true_eq, beq_iff_eq] at h
  generalize c.toNat = n at h
  rcases h with (((((((((⟨hl, hh⟩ | ⟨hl, hh⟩) | rfl) | rfl) | rfl) | ⟨hl, hh⟩) | rfl) | rfl) | rfl) | rfl) | rfl
  all_goals first | decide | (interval_cases n <;> decide)

/-- Of white space, only spaces leave something in an anchor. -/
theorem anchorOf_of_isBlank {c : Char} (h : isBlank c = true) (hc : c ≠ ' ') : anchorOf c = [] := by
  have hcodes : ∀ n ∈ blankCodes, Char.ofNat n ≠ ' ' → anchorOf (Char.ofNat n) = [] := by decide +kernel
  have := hcodes c.toNat (toNat_mem_blankCodes h)
  rw [Char.ofNat_toNat] at this
  exact this hc

theorem flatMap_anchorOf_signs {signs : Text} (h : ∀ c ∈ signs, c = '#') : signs.flatMap anchorOf = [] := by
  rw [List.flatMap_eq_nil_iff]
  rintro c hc
  rw [h c hc]
  decide

/-- Blanks give nothing to an anchor when there is no space among them. -/
theorem flatMap_anchorOf_blanks {blanks : Text} (h : ∀ c ∈ blanks, isBlank c = true) :
    blanks.flatMap anchorOf = [] ↔ ' ' ∉ blanks := by
  rw [List.flatMap_eq_nil_iff]
  constructor
  · intro hnil hspace
    exact absurd (hnil ' ' hspace) (by decide)
  · intro hspace c hc
    exact anchorOf_of_isBlank (h c hc) fun heq => hspace (heq ▸ hc)

/-! ## Characters of anchors -/

/-- The characters of an anchor have no other lower case. -/
theorem lowerIn_of_isAnchorChar {c : Char} (h : isAnchorChar c = true) (before after : Text) :
    lowerIn before after c = [c] := by
  have hlt : c.toNat < 128 := by
    simp only [isAnchorChar, isAsciiDigit, Bool.or_eq_true, Bool.and_eq_true, decide_eq_true_eq, beq_iff_eq,
      Char.le_def, UInt32.le_iff_toNat_le] at h
    rcases h with (⟨-, h⟩ | ⟨-, h⟩) | rfl
    · exact Nat.lt_of_le_of_lt h (by decide)
    · exact Nat.lt_of_le_of_lt h (by decide)
    · decide
  have hcodes : ∀ n < 128, isAnchorChar (Char.ofNat n) = true → Char.ofNat n ≠ 'Σ' ∧ Char.ofNat n ≠ 'İ' ∧
      lowerChar (Char.ofNat n) = Char.ofNat n := by decide +kernel
  have := hcodes c.toNat hlt
  rw [Char.ofNat_toNat] at this
  obtain ⟨hsigma, hdotted, hlower⟩ := this h
  rw [lowerIn, if_neg hsigma, if_neg hdotted, hlower]

theorem lower_eq_self {s : Text} (h : ∀ c ∈ s, isAnchorChar c = true) : lower s = s := by
  have hfrom : ∀ before : Text, lowerFrom before s = s := by
    induction s with
    | nil => exact fun _ => rfl
    | cons c s ih =>
      obtain ⟨hc, hs⟩ := List.forall_mem_cons.mp h
      intro before
      rw [lowerFrom, lowerIn_of_isAnchorChar hc, ih hs, List.singleton_append]
  exact hfrom []

/-- **The anchor of a heading is what links to it are compared with.** -/
theorem normalizeAnchor_headingAnchor (s : Text) : normalizeAnchor (headingAnchor s) = headingAnchor s := by
  have hchars : ∀ c ∈ headingAnchor s, isAnchorChar c = true := fun c hc => (List.mem_filter.mp hc).2
  rw [normalizeAnchor, lower_eq_self hchars, List.filter_eq_self]
  exact hchars

/-! ## Closing runs of signs -/

/-- The text ends with a run of signs behind white space that holds a space. -/
def IsClosed (s : Text) : Prop :=
  ∃ front blanks signs, s = front ++ blanks ++ signs ∧ ' ' ∈ blanks ∧ (∀ c ∈ blanks, isBlank c = true) ∧
    signs ≠ [] ∧ ∀ c ∈ signs, c = '#'

/-- **A trimmed text is what is left without a closing run, with white space and the run behind it.** -/
theorem exists_dropClosing_append {s : Text} (hs : strip s = s) :
    ∃ blanks signs, s = dropClosing s ++ blanks ++ signs ∧ (∀ c ∈ blanks, isBlank c = true) ∧
      (∀ c ∈ signs, c = '#') ∧ (signs = [] → blanks = []) ∧ strip (dropClosing s) = dropClosing s := by
  obtain ⟨hfirst, hlast⟩ := strip_eq_self_iff.mp hs
  have hend : stripEnd s = s := dropEnd_eq_self_iff.mpr hlast
  obtain ⟨signs, hsigns, hall, -⟩ := exists_dropEnd_append (· == '#') s
  obtain ⟨blanks, hblanks, hblank, hfront⟩ := exists_dropEnd_append isBlank (dropEnd (· == '#') s)
  have hdrop : dropClosing s = dropEnd isBlank (dropEnd (· == '#') s) := by rw [dropClosing, hend]; rfl
  rw [← hdrop] at hblanks hfront
  refine ⟨blanks, signs, by rw [← hblanks]; exact hsigns, hblank, fun c hc => beq_iff_eq.mp (hall c hc), ?_,
    strip_eq_self_iff.mpr ⟨fun c hc => hfirst c ?_, hfront⟩⟩
  · rintro rfl
    rw [List.append_nil] at hsigns
    rw [← hsigns] at hblanks hdrop
    have hself : dropClosing s = s := hdrop.trans hend
    rw [hself] at hblanks
    exact List.append_cancel_left_eq s _ _ |>.mp (hblanks.symm.trans (List.append_nil s).symm)
  · rw [hsigns, hblanks, List.append_assoc, List.head?_append, hc]
    rfl

/-- What is left without a closing run stands in front of the white space. -/
theorem dropClosing_append {front blanks signs : Text} (hs : stripEnd (front ++ blanks ++ signs) =
    front ++ blanks ++ signs) (hne : blanks ≠ []) (hblanks : ∀ c ∈ blanks, isBlank c = true)
    (hsigns : ∀ c ∈ signs, c = '#') : dropClosing (front ++ blanks ++ signs) = stripEnd front := by
  have hlast : dropEnd (· == '#') (front ++ blanks) = front ++ blanks := by
    refine dropEnd_eq_self_iff.mpr fun c hc => ?_
    rw [List.getLast?_append_of_ne_nil front hne] at hc
    have hblank := hblanks c (List.mem_of_getLast? hc)
    cases hsign : c == '#' with
    | false => rfl
    | true =>
      rw [beq_iff_eq.mp hsign] at hblank
      cases hblank
  rw [dropClosing, hs, dropEnd_append_of_pos _ fun c hc => beq_iff_eq.mpr (hsigns c hc), hlast, stripEnd,
    dropEnd_append_of_pos _ hblanks, stripEnd]

/-- A text is closed when there is a space between what is left and the run of signs. -/
theorem isClosed_iff {s blanks signs : Text} (hs : strip s = s) (hsplit : s = dropClosing s ++ blanks ++ signs)
    (hblanks : ∀ c ∈ blanks, isBlank c = true) (hsigns : ∀ c ∈ signs, c = '#')
    (hnone : signs = [] → blanks = []) : IsClosed s ↔ ' ' ∈ blanks := by
  constructor
  · rintro ⟨front, blanks', signs', hclosed, hspace, hblanks', -, hsigns'⟩
    -- the space is in one of the parts behind what is left, and not among the signs
    have hend : stripEnd s = s := dropEnd_eq_self_iff.mpr (strip_eq_self_iff.mp hs).2
    obtain ⟨tail, hfront, -, -⟩ := exists_dropEnd_append isBlank front
    have hleft : dropClosing s = stripEnd front := by
      rw [hclosed] at hend ⊢
      exact dropClosing_append hend (List.ne_nil_of_mem hspace) hblanks' hsigns'
    have hbehind : blanks ++ signs = tail ++ blanks' ++ signs' := by
      rw [hleft, List.append_assoc] at hsplit
      refine List.append_cancel_left_eq (stripEnd front) _ _ |>.mp ?_
      rw [← hsplit, hclosed, List.append_assoc tail, ← List.append_assoc (stripEnd front) tail, stripEnd,
        ← hfront, List.append_assoc]
    have hmem : ' ' ∈ blanks ++ signs := by
      rw [hbehind]
      exact List.mem_append_left signs' (List.mem_append_right tail hspace)
    exact (List.mem_append.mp hmem).resolve_right fun hsign => absurd (hsigns ' ' hsign) (by decide)
  · intro hspace
    refine ⟨dropClosing s, blanks, signs, hsplit, hspace, hblanks, fun hnil => ?_, hsigns⟩
    rw [hnone hnil] at hspace
    cases hspace

/-- **A closing run makes a difference to the anchor when there is a space in front of it.** -/
theorem headingAnchor_dropClosing_iff {s : Text} (hs : strip s = s) :
    headingAnchor (dropClosing s) = headingAnchor s ↔ ¬ IsClosed s := by
  obtain ⟨blanks, signs, hsplit, hblanks, hsigns, hnone, hstrip⟩ := exists_dropClosing_append hs
  have hanchor : headingAnchor s = headingAnchor (dropClosing s) ++ blanks.flatMap anchorOf := by
    rw [headingAnchor_eq, headingAnchor_eq, hs, hstrip]
    conv_lhs => rw [hsplit, List.flatMap_append, List.flatMap_append, flatMap_anchorOf_signs hsigns,
      List.append_nil]
  rw [hanchor, List.self_eq_append_right, flatMap_anchorOf_blanks hblanks,
    isClosed_iff hs hsplit hblanks hsigns hnone]

/-! ## Headings of lines -/

theorem dropClosing_stripEnd (s : Text) : dropClosing (stripEnd s) = dropClosing s := by
  rw [dropClosing, dropClosing, show stripEnd (stripEnd s) = stripEnd s from List.rdropWhile_idempotent _ _]

theorem mem_of_mem_dropClosing {c : Char} {s : Text} (h : c ∈ dropClosing s) : c ∈ s :=
  (List.rdropWhile_prefix _ _).subset ((List.rdropWhile_prefix _ _).subset ((List.rdropWhile_prefix _ _).subset h))

/-- Where nothing is left, there were white space and signs only. -/
theorem blank_or_sign_of_dropClosing_eq_nil {s : Text} (h : dropClosing s = []) :
    ∀ c ∈ s, isBlank c = true ∨ c = '#' := by
  obtain ⟨after, hafter, hafterBlank, -⟩ := exists_dropEnd_append isBlank s
  obtain ⟨signs, hsigns, hall, -⟩ := exists_dropEnd_append (· == '#') (stripEnd s)
  obtain ⟨blanks, hblanks, hblank, -⟩ := exists_dropEnd_append isBlank (dropEnd (· == '#') (stripEnd s))
  have hparts : s = blanks ++ signs ++ after := by
    have hnil : dropEnd isBlank (dropEnd (· == '#') (stripEnd s)) = [] := h
    rw [hnil, List.nil_append] at hblanks
    rw [← hblanks, ← hsigns]
    exact hafter
  intro c hc
  rw [hparts, List.mem_append, List.mem_append] at hc
  rcases hc with (hc | hc) | hc
  · exact Or.inl (hblank c hc)
  · exact Or.inr (beq_iff_eq.mp (hall c hc))
  · exact Or.inl (hafterBlank c hc)

/-- The text of a heading starts behind the white space, and at least one character belongs to it. -/
theorem headingText?_cons {before rest : Text} {c : Char} (hbefore : ∀ c ∈ before, isBlank c = true)
    (hc : isBlank c = false) (hline : '\n' ∉ c :: rest) :
    headingText? (' ' :: (before ++ c :: rest)) =
      some (if (dropClosing (c :: rest)).isEmpty then [c] else dropClosing (c :: rest)) := by
  have hblanks : (' ' :: (before ++ c :: rest)).takeWhile isBlank = ' ' :: before := by
    rw [← List.cons_append]
    refine (span_run (List.forall_mem_cons.mpr ⟨by decide, hbefore⟩) fun d hd => ?_).1
    obtain rfl := Option.some.inj hd
    exact hc
  have hdrop : (' ' :: (before ++ c :: rest)).drop (' ' :: before).length = c :: rest := by
    rw [← List.cons_append, List.drop_left]
  have hfeed : (dropClosing (c :: rest)).contains '\n' = false := by
    rw [List.contains_eq_mem, decide_eq_false_iff_not]
    exact fun hmem => hline (mem_of_mem_dropClosing hmem)
  simp only [headingText?, hblanks, hdrop, hfeed, Bool.false_eq_true, if_false]

/-- **The text of a heading has the anchor of what follows the signs, without white space and a closing run.** -/
theorem exists_headingText? {r : Text} (hr : strip r ≠ []) (hline : '\n' ∉ r) :
    ∃ text, headingText? (' ' :: r) = some text ∧
      headingAnchor text = headingAnchor (dropClosing (strip r)) := by
  have hsplit := List.takeWhile_append_dropWhile (p := isBlank) (l := r)
  have hstrip : strip r = stripEnd (r.dropWhile isBlank) := rfl
  have hnot := List.head?_dropWhile_not isBlank r
  cases hrest : r.dropWhile isBlank with
  | nil =>
    rw [hstrip, hrest] at hr
    exact absurd rfl hr
  | cons c rest =>
    rw [hrest] at hsplit hstrip hnot
    have hc : isBlank c = false := by simpa using hnot
    have hfeed : '\n' ∉ c :: rest := fun hmem => hline (hsplit ▸ List.mem_append_right _ hmem)
    rw [← hsplit, headingText?_cons (fun d hd => List.mem_takeWhile_imp hd) hc hfeed, hsplit, hstrip,
      dropClosing_stripEnd]
    refine ⟨_, rfl, ?_⟩
    split
    · next hempty =>
      -- only the first sign is left in this case, which is as good as nothing
      have hnil := List.isEmpty_iff.mp hempty
      have hsign := blank_or_sign_of_dropClosing_eq_nil hnil c List.mem_cons_self
      rw [hc] at hsign
      rw [hnil, hsign.resolve_left Bool.false_ne_true]
      decide
    · rfl

/-- A heading that starts the line defines its anchor. -/
theorem mem_lineAnchors {r : Text} (hr : strip r ≠ []) (hline : '\n' ∉ r) :
    headingAnchor (dropClosing (strip r)) ∈ lineAnchors ('#' :: '#' :: ' ' :: r) := by
  obtain ⟨text, htext, hanchor⟩ := exists_headingText? hr hline
  have hheading : Heading.ofLine? ('#' :: '#' :: ' ' :: r) = some ⟨2, text⟩ := by
    have hcount : signCount? ('#' :: '#' :: ' ' :: r) = some 2 := rfl
    rw [Heading.ofLine?, hcount]
    simp only [List.drop_succ_cons, List.drop_zero, htext, Option.map_some]
  rw [lineAnchors, hheading, ← hanchor]
  exact List.mem_append_left _ List.mem_cons_self

/-- The anchors of a text are those of its prose lines. -/
theorem mem_anchors {ls : List Text} {i : Nat} {line anchor : Text} (hprose : (proseMask ls)[i]? = some false)
    (hline : ls[i]? = some line) (hanchor : anchor ∈ lineAnchors line) :
    anchor ∈ anchors (Prose.ofLines ls) := by
  have hnumbered : (1 + i, line) ∈ (Prose.ofLines ls).numbered :=
    Prose.mem_numberedFrom_iff.mpr ⟨i, rfl, Prose.getElem?_ofLines.mpr ⟨hprose, hline⟩⟩
  exact List.mem_flatMap.mpr ⟨_, hnumbered, hanchor⟩

/-- What the reader of documents takes as the name of a heading that starts the line. -/
theorem strip_drop_strip {r : Text} (h : ['#', '#', ' '] <+: strip ('#' :: '#' :: ' ' :: r)) :
    strip r ≠ [] ∧ strip ((strip ('#' :: '#' :: ' ' :: r)).drop 3) = strip r := by
  obtain ⟨name, hname⟩ := h
  obtain ⟨ending, hending, hblank, hlast⟩ := exists_dropEnd_append isBlank ('#' :: '#' :: ' ' :: r)
  have hstrip : strip ('#' :: '#' :: ' ' :: r) = dropEnd isBlank ('#' :: '#' :: ' ' :: r) := rfl
  rw [← hstrip, ← hname] at hending hlast
  have hr : r = name ++ ending := by simpa using hending
  have hsame : strip r = strip name := by
    rw [hr, ← List.nil_append name]
    exact strip_blank_append name (fun c hc => absurd hc List.not_mem_nil) hblank
  refine ⟨?_, by rw [hsame, ← hname]; rfl⟩
  rw [hsame, ne_eq, strip_eq_nil_iff, isBlankText, List.all_eq_true]
  intro hall
  -- a trimmed line does not end with white space, not even with the space behind the signs
  obtain ⟨c, hc⟩ : ∃ c, (['#', '#', ' '] ++ name).getLast? = some c := ⟨_, List.getLast?_cons⟩
  have hcblank : isBlank c = true := by
    rw [List.getLast?_append] at hc
    cases hend : name.getLast? with
    | none =>
      rw [hend] at hc
      cases hc
      decide
    | some d =>
      rw [hend] at hc
      cases hc
      exact hall c (List.mem_of_getLast? hend)
  rw [hlast c hc] at hcblank
  cases hcblank

/-! ## Links to anchors -/

variable {scope : LintScope} {own : List Text}

/-- **A link to an anchor that is defined is not dead.** -/
theorem anchorFault?_eq_none {s : Text} {link : Link} (hmem : headingAnchor s ∈ own)
    (hlink : strip link.target = '#' :: headingAnchor s) : anchorFault? scope own link = .ok none := by
  have hscheme : hasScheme ('#' :: headingAnchor s) = false := rfl
  have hcut : cut '#' ('#' :: headingAnchor s) = some ([], headingAnchor s) := by rw [cut, if_pos rfl]
  have hown : own.contains (normalizeAnchor (headingAnchor s)) = true := by
    rw [normalizeAnchor_headingAnchor]
    exact List.contains_iff_mem.mpr hmem
  simp only [anchorFault?, hlink, hscheme, hcut, hown, Bool.false_eq_true, if_false, if_true,
    List.isEmpty_nil]
  split <;> rfl

/-- What the check of links reports is wrong with a link of a line, and with none to a defined anchor. -/
theorem exists_of_mem_deadAnchors {p : Prose} {found : List (Nat × Text)}
    (h : deadAnchors scope p = .ok found) {f : Nat × Text} (hf : f ∈ found) :
    ∃ line link, (f.1, line) ∈ p.numbered ∧ link ∈ links line ∧
      anchorFault? scope (anchors p) link = .ok (some f.2) ∧
      ∀ s, headingAnchor s ∈ anchors p → strip link.target ≠ '#' :: headingAnchor s := by
  obtain ⟨line, link, hline, hlink, hfault⟩ := exists_of_mem_faultsOf h hf
  refine ⟨line, link, hline, hlink, hfault, fun s hs htarget => ?_⟩
  rw [anchorFault?_eq_none hs htarget] at hfault
  cases hfault

end Lint

/--
**Each section of a document can be linked to.**

The heading of a section that starts its line is also a heading for the check of links, which takes another
text from it: it does not count a run of signs at the end, and the white space in front of that. So the anchor
of this text is defined, and no link to it is dead. It is the anchor of the name of the section, unless the
name ends with such a run behind a space.
-/
theorem Document.anchors_sections {path : Path} {text : Text} {d : Document} {s : Section} {line : Text}
    (h : Document.read path text = .ok d) (hs : s ∈ d.sections)
    (hline : (lines text)[s.startLine - 1]? = some line) (hstart : ['#', '#', ' '] <+: line) :
    Lint.headingAnchor (Lint.dropClosing s.name) ∈ Lint.anchors (Prose.ofLines (lines text)) ∧
      (Lint.headingAnchor (Lint.dropClosing s.name) = Lint.headingAnchor s.name ↔ ¬ Lint.IsClosed s.name) ∧
      (¬ Lint.IsClosed s.name → Lint.headingAnchor s.name ∈ Lint.anchors (Prose.ofLines (lines text))) ∧
      -- the check of links
      ∀ scope : LintScope,
        (∀ link : Lint.Link, strip link.target = '#' :: Lint.headingAnchor (Lint.dropClosing s.name) →
          Lint.anchorFault? scope (Lint.anchors (Prose.ofLines (lines text))) link = .ok none) ∧
        ∀ found, Lint.deadAnchors scope (Prose.ofLines (lines text)) = .ok found →
          ∀ f ∈ found, ∃ line link, (f.1, line) ∈ (Prose.ofLines (lines text)).numbered ∧
            link ∈ Lint.links line ∧
            Lint.anchorFault? scope (Lint.anchors (Prose.ofLines (lines text))) link = .ok (some f.2) ∧
            strip link.target ≠ '#' :: Lint.headingAnchor (Lint.dropClosing s.name) := by
  obtain ⟨i, line', hmarked, hplace, hname⟩ := exists_markedAt h hs
  obtain ⟨hprose, hline', hmark⟩ := hmarked
  obtain rfl : line' = line := by
    rw [hplace, Nat.add_sub_cancel, hline'] at hline
    exact Option.some.inj hline
  obtain ⟨r, rfl⟩ := hstart
  have hne : strip r ≠ [] := (Lint.strip_drop_strip hmark).1
  have hname : s.name = strip r := hname.trans (Lint.strip_drop_strip hmark).2
  have hfeed : '\n' ∉ r := fun hmem => by
    have := isUnbroken_of_mem_lines (List.mem_of_getElem? hline') '\n' (List.mem_append_right _ hmem)
    cases this
  have hmem : Lint.headingAnchor (Lint.dropClosing s.name) ∈
      Lint.anchors (Prose.ofLines (lines text)) := by
    rw [hname]
    exact Lint.mem_anchors hprose hline' (Lint.mem_lineAnchors hne hfeed)
  have hiff : Lint.headingAnchor (Lint.dropClosing s.name) = Lint.headingAnchor s.name ↔
      ¬ Lint.IsClosed s.name := Lint.headingAnchor_dropClosing_iff (by rw [hname, strip_strip])
  refine ⟨hmem, hiff, fun hopen => hiff.mpr hopen ▸ hmem, fun scope => ⟨fun link hlink => ?_, ?_⟩⟩
  · exact Lint.anchorFault?_eq_none hmem hlink
  · intro found hfound f hf
    obtain ⟨line, link, hnumbered, hlink, hfault, hother⟩ := Lint.exists_of_mem_deadAnchors hfound hf
    exact ⟨line, link, hnumbered, hlink, hfault, hother _ hmem⟩

/-- A heading of which the name is the text, and one with a closing run. -/
def guideText : Text := "# Guide\n## Set up\n## Use ##\n[a](#set-up) [b](#use)\n".toList

/-- The sections of the text. -/
def guideSections : List Section :=
  [⟨"Set up".toList, 2, []⟩, ⟨"Use ##".toList, 3, ["[a](#set-up) [b](#use)".toList]⟩]

theorem Document.anchors_sections_guide :
    ∃ d, Document.read (Path.ofText "guide.md".toList) guideText = .ok d ∧ d.sections = guideSections ∧
      Lint.headingAnchor "Set up".toList ∈ Lint.anchors (Prose.ofLines (lines guideText)) ∧
      Lint.headingAnchor "Use".toList ∈ Lint.anchors (Prose.ofLines (lines guideText)) := by
  have hread : Document.read (Path.ofText "guide.md".toList) guideText =
      .ok ⟨Path.ofText "guide.md".toList, some "Guide".toList, guideSections, 4, none⟩ := by
    rw [show guideText = _ from String.toList_ofList]
    cbv
  have hfirst : (lines guideText)[guideSections[0].startLine - 1]? = some "## Set up".toList := by decide
  have hsecond : (lines guideText)[guideSections[1].startLine - 1]? = some "## Use ##".toList := by decide
  obtain ⟨-, hiff, hopen, -⟩ := anchors_sections hread List.mem_cons_self hfirst ⟨"Set up".toList, rfl⟩
  obtain ⟨hclosed, -⟩ := anchors_sections hread (List.mem_cons_of_mem _ List.mem_cons_self) hsecond
    ⟨"Use ##".toList, rfl⟩
  exact ⟨_, hread, rfl, hopen (hiff.mp (by cbv)), hclosed⟩

/-- An indented heading, and one of which the name is closed behind a space. -/
def misledText : Text := " ## Set up\n## Use ##\n[a](#set-up) [b](#use-)\n".toList

/-- The sections of the text. -/
def misledSections : List Section :=
  [⟨"Set up".toList, 1, []⟩, ⟨"Use ##".toList, 2, ["[a](#set-up) [b](#use-)".toList]⟩]

theorem Document.anchors_sections_missing :
    (∃ d, Document.read (Path.ofText "guide.md".toList) misledText = .ok d ∧ d.sections = misledSections) ∧
      (∀ s ∈ misledSections,
        Lint.headingAnchor s.name ∉ Lint.anchors (Prose.ofLines (lines misledText))) ∧
      ∀ scope : LintScope, Lint.deadAnchors scope (Prose.ofLines (lines misledText)) =
        .ok [(3, "dead anchor '#set-up' (section not found)".toList),
          (3, "dead anchor '#use-' (section not found)".toList)] := by
  have hread : Document.read (Path.ofText "guide.md".toList) misledText =
      .ok ⟨Path.ofText "guide.md".toList, none, misledSections, 3, none⟩ := by
    rw [show misledText = _ from String.toList_ofList]
    cbv
  have hprose : Prose.ofLines (lines misledText) =
      [some " ## Set up".toList, some "## Use ##".toList, some "[a](#set-up) [b](#use-)".toList] := by
    rw [show misledText = _ from String.toList_ofList]
    decide +kernel
  have hanchors : Lint.anchors (Prose.ofLines (lines misledText)) = ["use".toList] := by
    rw [hprose]
    decide +kernel
  refine ⟨⟨_, hread, rfl⟩, ?_, fun scope => ?_⟩
  · rw [hanchors]
    decide +kernel
  · rw [hprose, show "dead anchor '#set-up' (section not found)".toList = _ from String.toList_ofList,
      show "dead anchor '#use-' (section not found)".toList = _ from String.toList_ofList]
    cbv

end DocAudit
