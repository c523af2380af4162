import DocAudit.Markdown.Block
import DocAudit.Proofs.Markdown.Outline
import DocAudit.Proofs.Text.Strip

/-!
# One line of a scan

Which lines open and close fences is told by their trimmed texts. Every scan of lines makes the same four
cases of a line: it stands inside of an open fence, it closes one, it opens one, or it stands outside. Here
each scan has one equation for each case, so that nothing else needs to look into the scans.

## Contents

* `Fence.run?_eq_some_iff`: the run of marks at the start of a line
* `Fence.opening?_eq_some_iff`: the fence that a line opens
* `Fence.closes_iff`: **a fence is closed by its mark alone, at least as often**
* `Fence.line_cases`: the four cases
* `Fence.step_inside` and its like, for `Fence.step` and `RawBlock.scan`
* `Fence.fenced_eq_false_iff`: which lines are not fenced
* `RawBlock.scan_outline`: **the fenced blocks of the lines are those of the sections, in their order**
* `CodeBlock.attach_moved`: what is made of the blocks does not depend on where they stand
-/

namespace DocAudit

open Text

/-! ## Fence lines -/

namespace Fence

/-- The characters at the start of a text that are a mark. -/
theorem takeWhile_mark (mark : FenceMark) (s : Text) :
    s.takeWhile (· == mark.char) =
      List.replicate (s.takeWhile (· == mark.char)).length mark.char := by
  rw [List.eq_replicate_iff]
  exact ⟨rfl, fun c hc => by simpa using List.mem_takeWhile_imp hc⟩

/-- A run of marks ends before another character. -/
theorem span_mark {mark : FenceMark} {rest : Text} (size : Nat) (h : rest.head? ≠ some mark.char) :
    (List.replicate size mark.char ++ rest).takeWhile (· == mark.char) =
        List.replicate size mark.char ∧
      (List.replicate size mark.char ++ rest).dropWhile (· == mark.char) = rest := by
  refine span_run (fun c hc => by rw [List.eq_of_mem_replicate hc]; exact beq_self_eq_true _) ?_
  intro c hc
  rw [beq_eq_false_iff_ne]
  rintro rfl
  exact h hc

/-- **A run is the longest one of its mark, three times or more, with a text on one line behind it.** -/
theorem run?_eq_some_iff {line rest : Text} {mark : FenceMark} {size : Nat} :
    run? line = some (mark, size, rest) ↔
      strip line = List.replicate size mark.char ++ rest ∧ 3 ≤ size ∧
        rest.head? ≠ some mark.char ∧ '\n' ∉ rest := by
  unfold run?
  constructor
  · intro h
    simp only at h
    split at h
    · cases h
    · next mark' hmark =>
      split at h
      · next hcond =>
        simp only [Option.some.injEq, Prod.mk.injEq] at h
        obtain ⟨rfl, rfl, rfl⟩ := h
        rw [Bool.and_eq_true, decide_eq_true_eq] at hcond
        refine ⟨?_, hcond.1, ?_, by simpa using hcond.2⟩
        · rw [← takeWhile_mark, List.takeWhile_append_dropWhile]
        · intro hhead
          have hnot := List.head?_dropWhile_not (· == mark'.char) (strip line)
          rw [hhead] at hnot
          simp at hnot
      · cases h
  · rintro ⟨hline, hsize, hhead, hfeed⟩
    obtain ⟨htake, hdrop⟩ := span_mark size hhead
    have hcond : (3 ≤ size && !rest.contains '\n') = true := by simp [hsize, hfeed]
    have hread : (if 3 ≤ ((List.replicate size mark.char ++ rest).takeWhile (· == mark.char)).length &&
          !((List.replicate size mark.char ++ rest).dropWhile (· == mark.char)).contains '\n' then
        some (mark, ((List.replicate size mark.char ++ rest).takeWhile (· == mark.char)).length,
          (List.replicate size mark.char ++ rest).dropWhile (· == mark.char))
        else none) = some (mark, size, rest) := by
      rw [htake, hdrop, List.length_replicate, if_pos hcond]
    obtain ⟨n, rfl⟩ : ∃ n, size = n + 1 := ⟨size - 1, by omega⟩
    rw [hline]
    cases mark with
    | backtick => exact hread
    | tilde => exact hread

/-- **The fence that a line opens.** -/
theorem opening?_eq_some_iff {line : Text} {f : Fence} :
    opening? line = some f ↔
      ∃ rest, strip line = f.text ++ rest ∧ 3 ≤ f.size ∧ rest.head? ≠ some f.mark.char ∧
        '\n' ∉ rest ∧ (f.mark = .backtick → '`' ∉ rest) ∧ f.info = strip rest := by
  unfold opening?
  constructor
  · intro h
    split at h
    · cases h
    · next mark size rest hrun =>
      obtain ⟨hline, hsize, hhead, hfeed⟩ := run?_eq_some_iff.mp hrun
      split at h
      · cases h
      · next hcond =>
        cases h
        refine ⟨rest, hline, hsize, hhead, hfeed, ?_, rfl⟩
        intro hm hc
        exact hcond (by simp [show mark = .backtick from hm, hc])
  · rintro ⟨rest, hline, hsize, hhead, hfeed, hback, hinfo⟩
    rw [run?_eq_some_iff.mpr ⟨hline, hsize, hhead, hfeed⟩]
    have hcond : ¬ (decide (f.mark = .backtick) && rest.contains '`') = true := by
      simpa using hback
    simp only
    rw [if_neg hcond, ← hinfo]

/-- A line that starts with no mark opens no fence. -/
theorem opening?_eq_none {line : Text}
    (h : ∀ mark : FenceMark, (strip line).head? ≠ some mark.char) : opening? line = none := by
  cases ho : opening? line with
  | none => rfl
  | some f =>
    obtain ⟨rest, hline, hsize, -⟩ := opening?_eq_some_iff.mp ho
    obtain ⟨n, hn⟩ : ∃ n, f.size = n + 1 := ⟨f.size - 1, by omega⟩
    refine absurd ?_ (h f.mark)
    rw [hline, text, hn]
    rfl

/-- **A fence is closed by its mark alone, at least as often.** -/
theorem closes_iff {f : Fence} {line : Text} :
    f.closes line = true ↔
      ∃ n, 3 ≤ n ∧ f.size ≤ n ∧ strip line = List.replicate n f.mark.char := by
  unfold closes
  constructor
  · intro h
    split at h
    · cases h
    · next mark size rest hrun =>
      obtain ⟨hline, hsize, hhead, -⟩ := run?_eq_some_iff.mp hrun
      simp only [Bool.and_eq_true, beq_iff_eq, decide_eq_true_eq] at h
      obtain ⟨⟨rfl, hle⟩, hblank⟩ := h
      refine ⟨size, hsize, hle, ?_⟩
      -- what is blank behind the run would be trimmed off the line
      have hrest : rest = [] := by
        cases hlast : rest.getLast? with
        | none => exact List.getLast?_eq_none_iff.mp hlast
        | some c =>
          have hc : isBlank c = true := List.all_eq_true.mp hblank c (List.mem_of_getLast? hlast)
          have hnot := (strip_eq_self_iff.mp (strip_strip line)).2 c (by
            rw [hline, List.getLast?_append, hlast]
            rfl)
          rw [hc] at hnot
          cases hnot
      rw [hline, hrest, List.append_nil]
  · rintro ⟨n, hn, hle, hline⟩
    rw [run?_eq_some_iff.mpr ⟨by rw [hline, List.append_nil], hn, by simp, by simp⟩]
    simp [hle, isBlankText]

end Fence

/-! ## One line -/

section Line

variable {f : Fence} {line : Text}

namespace Fence

/-- A line inside of an open fence, one that closes it, one that opens a fence, or one outside. -/
theorem line_cases (fence : Option Fence) (line : Text) :
    (∃ f, fence = some f ∧ f.closes line = false) ∨ (∃ f, fence = some f ∧ f.closes line = true) ∨
      (∃ f, fence = none ∧ opening? line = some f) ∨ (fence = none ∧ opening? line = none) := by
  cases fence with
  | some f =>
    cases hc : f.closes line with
    | false => exact Or.inl ⟨f, rfl, hc⟩
    | true => exact Or.inr (Or.inl ⟨f, rfl, hc⟩)
  | none =>
    cases ho : opening? line with
    | some f => exact Or.inr (Or.inr (Or.inl ⟨f, rfl, rfl⟩))
    | none => exact Or.inr (Or.inr (Or.inr ⟨rfl, rfl⟩))

theorem step_inside (h : f.closes line = false) : step (some f) line = (some f, false) := by
  unfold step
  simp [h]

theorem step_closing (h : f.closes line = true) : step (some f) line = (none, true) := by
  unfold step
  simp [h]

theorem step_opening (h : opening? line = some f) : step none line = (some f, true) := by
  unfold step
  simp [h]

theorem step_outside (h : opening? line = none) : step none line = (none, false) := by
  unfold step
  simp [h]

theorem fenced_cons (fence : Option Fence) (line : Text) (rest : List Text) :
    fenced fence (line :: rest) =
      (fence.isSome || (step fence line).2) :: fenced (step fence line).1 rest := rfl

/-- **A line is not fenced when no fence is open and it opens none.** -/
theorem fenced_eq_false_iff {fence : Option Fence} {line : Text} :
    (fence.isSome || (step fence line).2) = false ↔ fence = none ∧ opening? line = none := by
  constructor
  · intro h
    rcases line_cases fence line with ⟨f, rfl, -⟩ | ⟨f, rfl, -⟩ | ⟨f, rfl, hopens⟩ | houtside
    · cases h
    · cases h
    · rw [step_opening hopens] at h
      cases h
    · exact houtside
  · rintro ⟨rfl, hopens⟩
    rw [step_outside hopens]
    rfl

theorem after_cons (fence : Option Fence) (line : Text) (rest : List Text) :
    after fence (line :: rest) = after (step fence line).1 rest := rfl

theorem after_append (fence : Option Fence) (xs ys : List Text) :
    after fence (xs ++ ys) = after (after fence xs) ys :=
  List.foldl_append

end Fence

namespace RawBlock

variable (pending : Annotations) (n : Nat) (rest : List Text)

theorem scan_some_cons :
    scan (some f) pending n (line :: rest) =
      if f.closes line then ([], (scan none Annotations.none (n + 1) rest).2)
      else (line :: (scan (some f) pending (n + 1) rest).1, (scan (some f) pending (n + 1) rest).2) := rfl

theorem scan_none_cons :
    scan none pending n (line :: rest) =
      match Fence.opening? line with
      | some f => ([], { language := (words f.info).headD [],
                         body := (scan (some f) Annotations.none (n + 1) rest).1, startLine := n,
                         annotations := pending } :: (scan (some f) Annotations.none (n + 1) rest).2)
      | none => ([], (scan none (pending.afterLine line) (n + 1) rest).2) := rfl

theorem scan_inside (h : f.closes line = false) :
    scan (some f) pending n (line :: rest) =
      (line :: (scan (some f) pending (n + 1) rest).1, (scan (some f) pending (n + 1) rest).2) := by
  rw [scan_some_cons, if_neg (by simp [h])]

theorem scan_closing (h : f.closes line = true) :
    scan (some f) pending n (line :: rest) =
      ([], (scan none Annotations.none (n + 1) rest).2) := by
  rw [scan_some_cons, if_pos h]

theorem scan_opening (h : Fence.opening? line = some f) :
    scan none pending n (line :: rest) =
      ([], { language := (words f.info).headD [],
             body := (scan (some f) Annotations.none (n + 1) rest).1, startLine := n,
             annotations := pending } :: (scan (some f) Annotations.none (n + 1) rest).2) := by
  rw [scan_none_cons, h]

theorem scan_outside (h : Fence.opening? line = none) :
    scan none pending n (line :: rest) =
      ([], (scan none (pending.afterLine line) (n + 1) rest).2) := by
  rw [scan_none_cons, h]

end RawBlock

end Line

/-! ## Directives -/

namespace Directive

variable {line : Text} {d : Directive}

/-- A directive starts as a comment. -/
theorem prefix_of_ofLine? (h : ofLine? line = some d) : "<!--".toList <+: strip line := by
  obtain ⟨p, hsplit, -⟩ := Option.bind_eq_some_iff.mp h
  obtain ⟨inner, hinner, -⟩ := Option.bind_eq_some_iff.mp hsplit
  rw [after?] at hinner
  split at hinner
  · next hp => exact List.isPrefixOf_iff_prefix.mp hp
  · cases hinner

/-- A directive opens no fence. -/
theorem opening?_eq_none (h : ofLine? line = some d) : Fence.opening? line = none := by
  obtain ⟨rest, hrest⟩ := prefix_of_ofLine? h
  refine Fence.opening?_eq_none fun mark => ?_
  rw [← hrest]
  cases mark <;> simp [FenceMark.char]

/-- A directive is no heading. -/
theorem isHeading_eq_false (h : ofLine? line = some d) : isHeading line = false := by
  obtain ⟨rest, hrest⟩ := prefix_of_ofLine? h
  rw [isHeading, ← hrest]
  rfl

end Directive

/-! ## Headings -/

/-- A heading opens no fence. -/
theorem Fence.opening?_of_isHeading {line : Text} (h : isHeading line = true) :
    opening? line = none := by
  obtain ⟨name, hname⟩ := List.isPrefixOf_iff_prefix.mp h
  refine opening?_eq_none fun mark => ?_
  rw [← hname]
  cases mark <;> simp [FenceMark.char]

/-- A heading drops all directives before it. -/
theorem Annotations.afterLine_of_isHeading {line : Text} (h : isHeading line = true)
    (a : Annotations) : a.afterLine line = Annotations.none := by
  have hblank : isBlankText line = false := by
    obtain ⟨name, hname⟩ := List.isPrefixOf_iff_prefix.mp h
    rw [Bool.eq_false_iff, ne_eq, ← strip_eq_nil_iff, ← hname]
    exact List.cons_ne_nil _ _
  cases hd : Directive.ofLine? line with
  | some d =>
    rw [Directive.isHeading_eq_false hd] at h
    cases h
  | none => rw [afterLine, hd, hblank, if_neg Bool.false_ne_true]

/-! ## The whole scan -/

namespace RawBlock

/-- Outside of fences, the scan has no lines of an open block to give. -/
theorem fst_scan_none (pending : Annotations) (n : Nat) (ls : List Text) :
    (scan none pending n ls).1 = [] := by
  cases ls with
  | nil => rfl
  | cons line rest =>
    cases h : Fence.opening? line with
    | some f => rw [scan_opening pending n rest h]
    | none => rw [scan_outside pending n rest h]

/--
**The fenced blocks of the lines are those before the first heading and those of the sections.**

A heading stands outside of fences and drops the directives before it, so that the scan starts behind it
as it starts in a section.
-/
theorem scan_outline (fence : Option Fence) (pending : Annotations) (n : Nat) (ls : List Text) :
    (scan fence pending n ls).1 = (scan fence pending n (Document.outline fence n ls).1).1 ∧
      (scan fence pending n ls).2 = (scan fence pending n (Document.outline fence n ls).1).2 ++
        (Document.outline fence n ls).2.flatMap fun s =>
          (scan none Annotations.none (s.startLine + 1) s.body).2 := by
  induction ls generalizing fence pending n with
  | nil => exact ⟨rfl, rfl⟩
  | cons line rest ih =>
    rw [Document.outline_cons]
    rcases Fence.line_cases fence line with
      ⟨f, rfl, h⟩ | ⟨f, rfl, h⟩ | ⟨f, rfl, h⟩ | ⟨rfl, h⟩
    · obtain ⟨hbody, hblocks⟩ := ih (some f) pending (n + 1)
      rw [Fence.step_inside h, if_neg (by simp), scan_inside _ _ _ h, scan_inside _ _ _ h]
      exact ⟨congrArg (line :: ·) hbody, hblocks⟩
    · obtain ⟨-, hblocks⟩ := ih none Annotations.none (n + 1)
      rw [Fence.step_closing h, if_neg (by simp), scan_closing _ _ _ h, scan_closing _ _ _ h]
      exact ⟨rfl, hblocks⟩
    · obtain ⟨hbody, hblocks⟩ := ih (some f) Annotations.none (n + 1)
      rw [Fence.step_opening h, if_neg (by simp), scan_opening _ _ _ h, scan_opening _ _ _ h, hbody,
        hblocks]
      exact ⟨rfl, rfl⟩
    · obtain ⟨-, hblocks⟩ := ih none (pending.afterLine line) (n + 1)
      rw [Fence.step_outside h, scan_outside _ _ _ h, hblocks]
      by_cases hheading : isHeading line = true
      · rw [if_pos (by simp [hheading]), Annotations.afterLine_of_isHeading hheading]
        exact ⟨rfl, rfl⟩
      · rw [if_neg (by simp [hheading]), scan_outside _ _ _ h]
        exact ⟨rfl, rfl⟩

end RawBlock

/-! ## Where blocks stand -/

/-- The block at the place that `f` gives for its own. -/
def RawBlock.moved (f : Nat → Nat) (raw : RawBlock) : RawBlock :=
  { raw with startLine := f raw.startLine }

/-- The block at the place that `f` gives for its own. -/
def CodeBlock.moved (f : Nat → Nat) (b : CodeBlock) : CodeBlock :=
  { b with startLine := f b.startLine }

namespace CodeBlock

variable (f : Nat → Nat)

theorem expecting_moved (b : CodeBlock) (output : ExpectedOutput) :
    (b.moved f).expecting output = (b.expecting output).moved f := by
  unfold expecting
  show (if b.executable && b.expected.isNone then _ else _) = _
  split <;> rfl

theorem attachOne_moved (blocks : List CodeBlock) (raw : RawBlock) :
    attachOne (blocks.map (moved f)) (raw.moved f) = (attachOne blocks raw).map (moved f) := by
  have hannotations : (raw.moved f).annotations = raw.annotations := rfl
  rw [attachOne, attachOne, hannotations]
  cases raw.annotations.expect with
  | none => rfl
  | some strategy =>
    cases blocks with
    | nil => rfl
    | cons b rest => exact congrArg (· :: rest.map (moved f)) (expecting_moved f b _)

/-- **What is made of fenced blocks does not depend on where they stand.** -/
theorem attach_moved (raws : List RawBlock) :
    attach (raws.map (RawBlock.moved f)) = (attach raws).map (moved f) := by
  have hfold : raws.foldl (fun blocks raw => attachOne blocks (raw.moved f)) ([].map (moved f)) =
      (raws.foldl attachOne []).map (moved f) :=
    List.foldl_hom (List.map (moved f)) (attachOne_moved f)
  rw [attach, attach, List.map_reverse, ← hfold, List.foldl_map]
  rfl

end CodeBlock

end DocAudit
