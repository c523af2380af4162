import DocAudit.Text.Blank
import DocAudit.Text.Lines

/-!
# Written lines

How the lines of a text and their terminators follow each other, and that lines written one after the
other, each with a line feed behind it, are read back.

## Contents

* `IsUnbroken`, `IsTerminator`: texts inside of a line and texts behind one
* `terminated_append`: the first line of a text
* `lines_endLines`: **the lines of written lines are these, when none has a line boundary in it**
* `IsCut`, `isCut_terminated`: which lines with which terminators a text is cut into
* `endLines_eq_unterminated_iff`: lines of which all terminators are line feeds
* `lines_append`: **the lines of two texts, one behind the other**
* `lines_normalizeBreaks`: the lines of a text that is read with line feeds for carriage returns
-/

namespace DocAudit.Text

/-- The lines in one text, each with a line feed behind it. -/
def endLines (ls : List Text) : Text := ls.flatMap (· ++ ['\n'])

/-- No character of the text ends a line. -/
def IsUnbroken (s : Text) : Prop := ∀ c ∈ s, isBreak c = false

-- through the list, not through the range of all characters
instance (s : Text) : Decidable (IsUnbroken s) := List.decidableBAll _ s

/-- What ends a line is white space. -/
theorem isBlank_of_isBreak {c : Char} (h : isBreak c = true) : isBlank c = true := by
  simp only [isBreak, isBlank, Bool.or_eq_true, Bool.and_eq_true, decide_eq_true_eq,
    beq_iff_eq] at h ⊢
  omega

theorem isUnbroken_append {s t : Text} : IsUnbroken (s ++ t) ↔ IsUnbroken s ∧ IsUnbroken t :=
  List.forall_mem_append

theorem isUnbroken_cons {c : Char} {s : Text} :
    IsUnbroken (c :: s) ↔ isBreak c = false ∧ IsUnbroken s :=
  List.forall_mem_cons

/-- What ends a line: one character that ends lines, or carriage return and line feed. -/
def IsTerminator (ending : Text) : Prop :=
  ending = ['\r', '\n'] ∨ ∃ c, isBreak c = true ∧ ending = [c]

/-- **The first line of a text is the one that stands at its start with its terminator.** Behind a
carriage return alone, the text does not go on with a line feed. -/
theorem terminated_append {line ending rest : Text} (hline : IsUnbroken line)
    (hending : IsTerminator ending) (hrest : ending = ['\r'] → rest.head? ≠ some '\n') :
    terminated (line ++ (ending ++ rest)) = (line, ending) :: terminated rest := by
  induction line with
  | nil =>
    rw [List.nil_append]
    rcases hending with rfl | ⟨c, hc, rfl⟩
    · rfl
    · rw [List.singleton_append, terminated, if_pos hc]
      rintro r rfl rfl
      exact hrest rfl rfl
  | cons c line ih =>
    obtain ⟨hc, hline⟩ := isUnbroken_cons.mp hline
    rw [List.cons_append, terminated, if_neg (by simp [hc]), ih hline]
    rintro r rfl -
    exact absurd hc (by decide)

/-- A text without line boundaries is one line, unless it is empty. -/
theorem terminated_of_isUnbroken {line : Text} (hline : IsUnbroken line) (hne : line ≠ []) :
    terminated line = [(line, [])] := by
  induction line with
  | nil => exact absurd rfl hne
  | cons c line ih =>
    obtain ⟨hc, hline⟩ := isUnbroken_cons.mp hline
    have hfeed : ∀ r, c = '\r' → line = '\n' :: r → False := by
      rintro r rfl -
      exact absurd hc (by decide)
    rw [terminated.eq_3 c line hfeed, if_neg (by simp [hc])]
    cases line with
    | nil => rfl
    | cons d line => rw [ih hline (List.cons_ne_nil d line)]

/-- **Lines that are written are read back.** -/
theorem lines_endLines : ∀ {ls : List Text}, (∀ line ∈ ls, IsUnbroken line) →
    lines (endLines ls) = ls
  | [], _ => rfl
  | line :: rest, h => by
    have hrest : lines (endLines rest) = rest :=
      lines_endLines fun l hl => h l (List.mem_cons_of_mem _ hl)
    have hfeed : IsTerminator ['\n'] := Or.inr ⟨'\n', by decide, rfl⟩
    rw [endLines, List.flatMap_cons, List.append_assoc, lines]
    show (terminated (line ++ (['\n'] ++ endLines rest))).map (·.1) = _
    rw [terminated_append (h line List.mem_cons_self) hfeed (by simp), List.map_cons]
    exact congrArg (line :: ·) hrest

theorem unterminated_cons (line ending : Text) (ls : List (Text × Text)) :
    unterminated ((line, ending) :: ls) = line ++ (ending ++ unterminated ls) := by
  rw [unterminated, List.flatMap_cons, List.append_assoc]
  rfl

theorem unterminated_append (front behind : List (Text × Text)) :
    unterminated (front ++ behind) = unterminated front ++ unterminated behind :=
  List.flatMap_append

/-! ## How a text is cut -/

/-- Lines with their terminators as a text is cut into them: a terminator is missing only behind a last
line that is not empty, and what follows a carriage return alone does not start with a line feed. -/
inductive IsCut : List (Text × Text) → Prop
  | nil : IsCut []
  | last {line : Text} : IsUnbroken line → line ≠ [] → IsCut [(line, [])]
  | cons {line ending : Text} {rest : List (Text × Text)} : IsUnbroken line → IsTerminator ending →
      (ending = ['\r'] → (unterminated rest).head? ≠ some '\n') → IsCut rest →
      IsCut ((line, ending) :: rest)

/-- A character in front does not change how the rest is cut, unless it ends a line. -/
theorem IsCut.cons_char {c : Char} {line ending : Text} {rest : List (Text × Text)}
    (hc : isBreak c = false) (h : IsCut ((line, ending) :: rest)) :
    IsCut ((c :: line, ending) :: rest) := by
  cases h with
  | last hline _ => exact last (isUnbroken_cons.mpr ⟨hc, hline⟩) (List.cons_ne_nil c line)
  | cons hline hending hrest h => exact cons (isUnbroken_cons.mpr ⟨hc, hline⟩) hending hrest h

/-- **A text is cut in this way.** -/
theorem isCut_terminated (s : Text) : IsCut (terminated s) := by
  fun_induction terminated s with
  | case1 => exact IsCut.nil
  | case2 r ih =>
    refine IsCut.cons (by simp [IsUnbroken]) (Or.inl rfl) ?_ ih
    simp
  | case3 c r hfeed hc ih =>
    refine IsCut.cons (by simp [IsUnbroken]) (Or.inr ⟨c, hc, rfl⟩) ?_ ih
    rw [unterminated_terminated]
    intro hreturn hhead
    obtain ⟨r', rfl⟩ := List.head?_eq_some_iff.mp hhead
    exact hfeed r' (List.singleton_inj.mp hreturn) rfl
  | case4 c r _ hc _ _ =>
    exact IsCut.last (isUnbroken_cons.mpr ⟨by simpa using hc, by simp [IsUnbroken]⟩)
      (List.cons_ne_nil c [])
  | case5 c r _ hc line ending rest h ih =>
    rw [h] at ih
    exact ih.cons_char (by simpa using hc)

/-- No line that is cut out has a line boundary in it. -/
theorem IsCut.isUnbroken {ls : List (Text × Text)} (h : IsCut ls) : ∀ p ∈ ls, IsUnbroken p.1 := by
  induction h with
  | nil => exact fun p hp => absurd hp List.not_mem_nil
  | last hline _ => exact List.forall_mem_singleton.mpr hline
  | cons hline _ _ _ ih => exact List.forall_mem_cons.mpr ⟨hline, ih⟩

theorem isUnbroken_of_mem_lines {s line : Text} (h : line ∈ lines s) : IsUnbroken line := by
  obtain ⟨p, hp, rfl⟩ := List.mem_map.mp h
  exact (isCut_terminated s).isUnbroken p hp

/-- Only the last line can be without a terminator. -/
theorem IsCut.isTerminator_of_append {front rest : List (Text × Text)} (h : IsCut (front ++ rest))
    (hrest : rest ≠ []) : ∀ p ∈ front, IsTerminator p.2 := by
  induction front with
  | nil => exact fun p hp => absurd hp List.not_mem_nil
  | cons first front ih =>
    rw [List.cons_append] at h
    generalize hbehind : front ++ rest = behind at h
    cases h with
    | last _ _ => exact absurd (List.append_eq_nil_iff.mp hbehind).2 hrest
    | cons _ hending _ h => exact List.forall_mem_cons.mpr ⟨hending, ih (hbehind ▸ h)⟩

/-- **Line feeds behind lines are their terminators when all of these are line feeds.** -/
theorem endLines_eq_unterminated_iff {ls : List (Text × Text)} (h : ∀ p ∈ ls, IsTerminator p.2) :
    endLines (ls.map (·.1)) = unterminated ls ↔ ∀ p ∈ ls, p.2 = ['\n'] := by
  induction ls with
  | nil => exact iff_of_true rfl fun p hp => absurd hp List.not_mem_nil
  | cons p ls ih =>
    obtain ⟨hending, hrest⟩ := List.forall_mem_cons.mp h
    obtain ⟨line, ending⟩ := p
    have hcancel : endLines (((line, ending) :: ls).map (·.1)) = unterminated ((line, ending) :: ls) ↔
        '\n' :: endLines (ls.map (·.1)) = ending ++ unterminated ls := by
      simp only [endLines, unterminated, List.map_cons, List.flatMap_cons, List.append_assoc,
        List.append_cancel_left_eq, List.singleton_append]
    rw [hcancel, List.forall_mem_cons, ← ih hrest]
    rcases hending with rfl | ⟨c, -, rfl⟩
    · simp
    · rw [List.singleton_append, List.cons.injEq, List.singleton_inj, eq_comm (a := '\n')]

/-! ## Two texts -/

/-- The text ends with a line feed, unless it is empty. -/
def EndsLine (s : Text) : Prop := s = [] ∨ s.getLast? = some '\n'

instance (s : Text) : Decidable (EndsLine s) := inferInstanceAs (Decidable (_ ∨ _))

theorem EndsLine.tail {c : Char} {s : Text} (h : EndsLine (c :: s)) : EndsLine s := by
  rcases h with h | h
  · cases h
  · cases s with
    | nil => exact Or.inl rfl
    | cons d s => exact Or.inr (by rwa [List.getLast?_cons_cons] at h)

/-- Behind a line feed, the lines start anew. -/
theorem terminated_append_of_endsLine {s : Text} (h : EndsLine s) (t : Text) :
    terminated (s ++ t) = terminated s ++ terminated t := by
  fun_induction terminated s with
  | case1 => rfl
  | case2 r ih =>
    show terminated ('\r' :: '\n' :: (r ++ t)) = _
    rw [terminated, ih h.tail.tail]
    rfl
  | case3 c r hfeed hc ih =>
    -- a carriage return does not end the text, so that no line feed of `t` comes behind it
    have hnext : ∀ r', c = '\r' → r ++ t = '\n' :: r' → False := by
      rintro r' rfl hr
      cases r with
      | nil => exact absurd h (by simp [EndsLine])
      | cons d r =>
        rw [List.cons_append, List.cons.injEq] at hr
        exact hfeed r rfl (by rw [hr.1])
    rw [List.cons_append, terminated.eq_3 c (r ++ t) hnext, if_pos hc, ih h.tail]
    rfl
  | case4 c r _ hc hr _ =>
    have hnil : r = [] := by rw [← unterminated_terminated r, hr]; rfl
    rw [hnil] at h
    rcases h with h | h
    · cases h
    · cases Option.some.inj h
      exact absurd (by decide) hc
  | case5 c r _ hc line ending rest hr ih =>
    have hnext : ∀ r', c = '\r' → r ++ t = '\n' :: r' → False := by
      rintro r' rfl -
      exact hc (by decide)
    rw [List.cons_append, terminated.eq_3 c (r ++ t) hnext, if_neg hc, ih h.tail, hr]
    rfl

/-- **Behind a line feed, the lines of a text are its own.** -/
theorem lines_append {s : Text} (h : EndsLine s) (t : Text) : lines (s ++ t) = lines s ++ lines t := by
  rw [lines, terminated_append_of_endsLine h, List.map_append]
  rfl

/-! ## Line feeds for carriage returns -/

theorem normalizeBreaks_cons {c : Char} {r : Text} (h : ∀ r', c = '\r' → r = '\n' :: r' → False) :
    normalizeBreaks (c :: r) = (if c = '\r' then '\n' else c) :: normalizeBreaks r := normalizeBreaks.eq_3 c r h

/-- A text is cut into the same lines when it is read with line feeds for carriage returns. Only the terminators
are others. -/
theorem terminated_normalizeBreaks (s : Text) : terminated (normalizeBreaks s) =
    (terminated s).map fun cut => (cut.1, normalizeBreaks cut.2) := by
  -- a line feed that was read for something does not go together with what stands in front of it
  have hbreak : ∀ {c : Char} (rest : Text), isBreak c = true → c ≠ '\r' →
      terminated (c :: rest) = ([], [c]) :: terminated rest := fun {c} rest hc hreturn => by
    show terminated ([] ++ ([c] ++ rest)) = _
    exact terminated_append (fun _ hmem => absurd hmem List.not_mem_nil) (Or.inr ⟨c, hc, rfl⟩)
      fun hending => absurd (List.singleton_inj.mp hending) hreturn
  fun_induction terminated s with
  | case1 => rfl
  | case2 r ih =>
    show terminated ('\n' :: normalizeBreaks r) = _
    rw [hbreak _ (by decide) (by decide), ih]
    rfl
  | case3 c r hfeed hc ih =>
    have hread : isBreak (if c = '\r' then '\n' else c) = true ∧ (if c = '\r' then '\n' else c) ≠ '\r' := by
      split
      · decide
      · next hreturn => exact ⟨hc, hreturn⟩
    have hending : normalizeBreaks [c] = [if c = '\r' then '\n' else c] :=
      normalizeBreaks_cons fun _ _ hnil => absurd hnil (List.cons_ne_nil _ _).symm
    rw [normalizeBreaks_cons hfeed, hbreak _ hread.1 hread.2, ih, ← hending]
    rfl
  | case4 c r hfeed hc hr ih =>
    have hreturn : c ≠ '\r' := by
      rintro rfl
      exact hc (by decide)
    rw [normalizeBreaks_cons hfeed, if_neg hreturn, terminated.eq_3 c _ fun _ hc' => absurd hc' hreturn, if_neg hc,
      ih, hr]
    rfl
  | case5 c r hfeed hc line ending rest hr ih =>
    have hreturn : c ≠ '\r' := by
      rintro rfl
      exact hc (by decide)
    rw [normalizeBreaks_cons hfeed, if_neg hreturn, terminated.eq_3 c _ fun _ hc' => absurd hc' hreturn, if_neg hc,
      ih, hr]
    rfl

/-- **Reading line feeds for carriage returns does not change the lines.** -/
theorem lines_normalizeBreaks (s : Text) : lines (normalizeBreaks s) = lines s := by
  rw [lines, terminated_normalizeBreaks, List.map_map]
  rfl

end DocAudit.Text
