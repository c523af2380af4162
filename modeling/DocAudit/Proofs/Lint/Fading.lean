import DocAudit.Proofs.Lint.Settled

/-!
# Lines that fade

Mending leaves every terminator where it is, and still a line can be lost: one of blanks only, when nothing
holds its place. At the end of a text an empty line without a terminator is none, and behind a carriage return an
empty line and its line feed are taken for the end of the line before. All other lines keep their places.

## Contents

* `settled`: terminated lines as they are cut again after their texts were changed
* `fadingFrom`, `fadingLines`: the lines that are lost then
* `KeepsLines`: line by line the same terminator, and the same text or what mending leaves of it
* `lintText_keepsLines`: **the lines are kept when none fades, and otherwise exactly those are lost**
-/

namespace DocAudit

open Text

/-! ## Cutting again -/

/-- Lines that stand with their terminators. Only the last one can be without, and it can be empty. -/
inductive IsTerminated : List (Text × Text) → Prop
  | nil : IsTerminated []
  | last {line : Text} : IsUnbroken line → IsTerminated [(line, [])]
  | cons {line ending : Text} {rest : List (Text × Text)} : IsUnbroken line → IsTerminator ending →
      IsTerminated rest → IsTerminated ((line, ending) :: rest)

/-- The lines as they are cut again: an empty last line is none, and an empty line with its line feed joins the
carriage return in front of it. -/
def settled : List (Text × Text) → List (Text × Text)
  | [] => []
  | [([], [])] => []
  | (line, ['\r']) :: ([], ['\n']) :: rest => (line, ['\r', '\n']) :: settled rest
  | p :: rest => p :: settled rest

/-- The numbers of the lines that are lost then. The first line has the number `n`, and `before` is the terminator
in front of it. -/
def fadingFrom (before : Text) (n : Nat) : List (Text × Text) → List Nat
  | [] => []
  | (line, ending) :: rest =>
    if line = [] ∧ (ending = [] ∨ ending = ['\n'] ∧ before = ['\r']) then n :: fadingFrom ending (n + 1) rest
    else fadingFrom ending (n + 1) rest

theorem Text.IsTerminator.ne_nil {ending : Text} (h : IsTerminator ending) : ending ≠ [] := by
  rcases h with rfl | ⟨c, -, rfl⟩ <;> exact List.cons_ne_nil _ _

/-- The lines of a text do. -/
theorem Text.IsCut.isTerminated {ls : List (Text × Text)} (h : IsCut ls) : IsTerminated ls := by
  induction h with
  | nil => exact .nil
  | last hline _ => exact .last hline
  | cons hline hending _ _ ih => exact .cons hline hending ih

/-- Where no empty line with a line feed comes next, the text does not go on with a line feed. -/
theorem IsTerminated.head?_ne {ls : List (Text × Text)} (h : IsTerminated ls)
    (hfirst : ∀ rest, ls ≠ ([], ['\n']) :: rest) : (unterminated ls).head? ≠ some '\n' := by
  have hchar : ∀ {line : Text} {text : Text}, IsUnbroken line → line ≠ [] → (line ++ text).head? ≠ some '\n' := by
    intro line text hline hne hhead
    obtain ⟨c, line, rfl⟩ := List.exists_cons_of_ne_nil hne
    obtain rfl : c = '\n' := by simpa using hhead
    exact absurd (isUnbroken_cons.mp hline).1 (by decide)
  cases h with
  | nil => simp [unterminated]
  | @last line hline =>
    rw [unterminated_cons]
    by_cases hne : line = []
    · simp [hne, unterminated]
    · exact hchar hline hne
  | @cons line ending rest hline hending _ =>
    rw [unterminated_cons]
    by_cases hne : line = []
    · subst hne
      rcases hending with rfl | ⟨c, -, rfl⟩
      · simp
      · intro hhead
        obtain rfl : c = '\n' := by simpa using hhead
        exact hfirst rest rfl
    · exact hchar hline hne

/-- **Lines are cut again as they settle.** -/
theorem terminated_unterminated {ls : List (Text × Text)} (h : IsTerminated ls) :
    terminated (unterminated ls) = settled ls := by
  fun_induction settled ls with
  | case1 => rfl
  | case2 => rfl
  | case3 line rest ih =>
    -- both terminators are read as one, and the empty line between them is gone
    cases h with
    | cons hline _ h =>
      cases h with
      | cons _ _ h =>
        have htext : unterminated ((line, ['\r']) :: ([], ['\n']) :: rest) =
            line ++ (['\r', '\n'] ++ unterminated rest) := by simp [unterminated_cons]
        rw [htext, terminated_append hline (.inl rfl) (by simp), ih h]
  | case4 p rest hempty hjoin ih =>
    cases h with
    | @last line hline =>
      have hne : line ≠ [] := by
        rintro rfl
        exact hempty rfl rfl
      have htext : unterminated [(line, [])] = line := by simp [unterminated]
      rw [htext, terminated_of_isUnbroken hline hne]
      rfl
    | @cons line ending _ hline hending h =>
      rw [unterminated_cons, terminated_append hline hending, ih h]
      -- a carriage return ends the line alone, because no line feed comes next
      rintro rfl
      refine h.head?_ne ?_
      rintro rest rfl
      exact hjoin line rest rfl rfl

/-! ## What is lost -/

/-- An empty line with a line feed comes first, behind a carriage return. -/
def Joins (before : Text) (ls : List (Text × Text)) : Prop := before = ['\r'] ∧ ls.head? = some ([], ['\n'])

instance (before : Text) (ls : List (Text × Text)) : Decidable (Joins before ls) :=
  inferInstanceAs (Decidable (_ ∧ _))

/-- **The lines that settle and those that are lost are all lines.** A first line that joins a terminator in
front is lost, though the lines alone settle with it. -/
theorem length_settled {ls : List (Text × Text)} (h : IsTerminated ls) (before : Text) (n : Nat) :
    (settled ls).length + (fadingFrom before n ls).length = ls.length + if Joins before ls then 1 else 0 := by
  fun_induction settled ls generalizing before n with
  | case1 => simp [fadingFrom, Joins]
  | case2 => simp [fadingFrom, Joins]
  | case3 line rest ih =>
    cases h with
    | cons _ _ h =>
      cases h with
      | cons _ _ h =>
        -- nothing joins the line feed of the line that is lost
        have hrest := ih h ['\n'] (n + 1 + 1)
        simp [Joins] at hrest
        simp [fadingFrom, Joins]
        omega
  | case4 p rest hempty hjoin ih =>
    cases h with
    | @last line hline =>
      have hne : line ≠ [] := by
        rintro rfl
        exact hempty rfl rfl
      simp [fadingFrom, Joins, hne, settled]
    | @cons line ending _ hline hending h =>
      have hrest := ih h ending (n + 1)
      have hnone : ¬ Joins ending rest := by
        rintro ⟨rfl, hhead⟩
        obtain ⟨rest', rfl⟩ := List.head?_eq_some_iff.mp hhead
        exact hjoin line rest' rfl rfl
      rw [if_neg hnone] at hrest
      have hfirst : (line = [] ∧ (ending = [] ∨ ending = ['\n'] ∧ before = ['\r'])) ↔
          Joins before ((line, ending) :: rest) := by
        have hne := hending.ne_nil
        simp only [Joins, List.head?_cons, Option.some.injEq, Prod.mk.injEq, hne, false_or]
        tauto
      rw [fadingFrom]
      simp only [hfirst]
      split
      · simp only [List.length_cons]
        omega
      · simp only [List.length_cons]
        omega

/-- Lines settle as they are when none is lost. -/
theorem settled_eq_self {ls : List (Text × Text)} {before : Text} {n : Nat} (h : fadingFrom before n ls = []) :
    settled ls = ls := by
  fun_induction settled ls generalizing before n with
  | case1 => rfl
  | case2 => simp [fadingFrom] at h
  | case3 line rest ih => simp [fadingFrom] at h
  | case4 p rest hempty hjoin ih =>
    rw [fadingFrom] at h
    split at h
    · cases h
    · rw [ih h]

theorem le_of_mem_fadingFrom {ls : List (Text × Text)} {before : Text} {k n : Nat}
    (h : n ∈ fadingFrom before k ls) : k ≤ n := by
  induction ls generalizing before k with
  | nil => cases h
  | cons p ls ih =>
    rw [fadingFrom] at h
    split at h
    · rcases List.mem_cons.mp h with rfl | h
      · exact Nat.le_refl _
      · exact Nat.le_of_succ_le (ih h)
    · exact Nat.le_of_succ_le (ih h)

/-- No line is lost twice. -/
theorem nodup_fadingFrom {ls : List (Text × Text)} {before : Text} {k : Nat} : (fadingFrom before k ls).Nodup := by
  induction ls generalizing before k with
  | nil => exact List.nodup_nil
  | cons p ls ih =>
    rw [fadingFrom]
    split
    · exact List.nodup_cons.mpr ⟨fun h => Nat.not_succ_le_self _ (le_of_mem_fadingFrom h), ih⟩
    · exact ih

/-- Which lines are lost: empty ones, without a terminator or with a line feed behind a carriage return. -/
theorem mem_fadingFrom_iff {ls : List (Text × Text)} {before : Text} {k n : Nat} :
    n ∈ fadingFrom before k ls ↔ ∃ i ending, n = k + i ∧ ls[i]? = some ([], ending) ∧
      (ending = [] ∨ ending = ['\n'] ∧ (before :: ls.map (·.2))[i]? = some ['\r']) := by
  induction ls generalizing before k with
  | nil => simp [fadingFrom]
  | cons p ls ih =>
    obtain ⟨line, ending⟩ := p
    rw [← Nat.or_exists_add_one]
    have hfirst : (∃ ending', n = k + 0 ∧ ((line, ending) :: ls)[0]? = some ([], ending') ∧
        (ending' = [] ∨ ending' = ['\n'] ∧ (before :: ((line, ending) :: ls).map (·.2))[0]? = some ['\r'])) ↔
          n = k ∧ line = [] ∧ (ending = [] ∨ ending = ['\n'] ∧ before = ['\r']) := by
      constructor
      · rintro ⟨ending', rfl, hline, hending⟩
        cases hline
        exact ⟨rfl, rfl, by simpa using hending⟩
      · rintro ⟨rfl, rfl, hending⟩
        exact ⟨ending, rfl, rfl, by simpa using hending⟩
    have hrest : (∃ i ending', n = k + (i + 1) ∧ ((line, ending) :: ls)[i + 1]? = some ([], ending') ∧
        (ending' = [] ∨ ending' = ['\n'] ∧ (before :: ((line, ending) :: ls).map (·.2))[i + 1]? = some ['\r'])) ↔
          n ∈ fadingFrom ending (k + 1) ls := by
      rw [ih]
      simp only [List.getElem?_cons_succ, List.map_cons, Nat.add_assoc, Nat.add_comm 1]
    rw [hfirst, hrest, fadingFrom]
    split
    · next hlost => simp [hlost]
    · next hkept => simp [hkept]

/-- A last line without a terminator is lost when it is empty. -/
theorem last_mem_fadingFrom_iff {front : List (Text × Text)} {line : Text} :
    front.length + 1 ∈ fadingFrom [] 1 (front ++ [(line, [])]) ↔ line = [] := by
  have hget : (front ++ [(line, ([] : Text))])[front.length]? = some (line, []) := List.getElem?_concat_length
  rw [mem_fadingFrom_iff]
  constructor
  · rintro ⟨i, ending, hi, hline, -⟩
    obtain rfl : i = front.length := by omega
    rw [hget] at hline
    exact (Prod.mk.inj (Option.some.inj hline)).1
  · rintro rfl
    exact ⟨front.length, [], Nat.add_comm _ 1, hget, .inl rfl⟩

/-! ## Mended texts -/

/-- Mended lines stand with their terminators. -/
theorem isTerminated_mendLines {ls : List (Text × Text)} (hcut : IsCut ls) {mask : List Bool}
    (hmask : mask.length = ls.length) : IsTerminated (mendLines mask ls) := by
  induction hcut generalizing mask with
  | nil =>
    rw [List.eq_nil_of_length_eq_zero hmask]
    exact .nil
  | @last line hline _ =>
    obtain ⟨masked, rfl⟩ := List.length_eq_one_iff.mp hmask
    exact .last (isUnbroken_fixLine masked hline)
  | @cons line ending rest hline hending _ _ ih =>
    obtain ⟨masked, mask, rfl⟩ := List.exists_cons_of_length_eq_add_one hmask
    exact .cons (isUnbroken_fixLine masked hline) hending (ih (Nat.succ.inj hmask))

/-- Mending leaves the terminators. -/
theorem map_snd_mendLines : ∀ {mask : List Bool} {ls : List (Text × Text)}, mask.length = ls.length →
    (mendLines mask ls).map (·.2) = ls.map (·.2)
  | [], [], _ => rfl
  | _ :: _, (_, ending) :: _, h => congrArg (ending :: ·) (map_snd_mendLines (Nat.succ.inj h))

theorem length_mendLines {mask : List Bool} {ls : List (Text × Text)} (hmask : mask.length = ls.length) :
    (mendLines mask ls).length = ls.length := by
  rw [mendLines, List.length_zipWith, hmask, Nat.min_self]

theorem isTerminator_of_mem_mendLines {mask : List Bool} {ls : List (Text × Text)}
    (hmask : mask.length = ls.length) (hls : ∀ p ∈ ls, IsTerminator p.2) :
    ∀ p ∈ mendLines mask ls, IsTerminator p.2 := by
  intro p hp
  have hsnd : p.2 ∈ (mendLines mask ls).map (·.2) := List.mem_map_of_mem hp
  rw [map_snd_mendLines hmask] at hsnd
  obtain ⟨q, hq, hsame⟩ := List.mem_map.mp hsnd
  rw [← hsame]
  exact hls q hq

theorem getElem?_mendLines_eq_some {mask : List Bool} {ls : List (Text × Text)} {i : Nat} {line' ending : Text} :
    (mendLines mask ls)[i]? = some (line', ending) ↔ ∃ masked line, mask[i]? = some masked ∧
      ls[i]? = some (line, ending) ∧ fixLine masked line = line' := by
  rw [mendLines, List.getElem?_zipWith_eq_some]
  constructor
  · rintro ⟨masked, ⟨line, _⟩, hmasked, hline, h⟩
    cases h
    exact ⟨masked, line, hmasked, hline, rfl⟩
  · rintro ⟨masked, line, hmasked, hline, rfl⟩
    exact ⟨masked, (line, ending), hmasked, hline, rfl⟩

/-- Nothing is left of a prose line when it has nothing but spaces and tabs. -/
theorem fixLine_false_eq_nil_iff {line : Text} :
    fixLine false line = [] ↔ ∀ c ∈ line, Lint.isSpaceOrTab c = true :=
  List.rdropWhile_eq_nil_iff

/-- The numbers of the lines that are lost when a text is mended. -/
def fadingLines (text : Text) : List Nat :=
  fadingFrom [] 1 (mendLines (proseMask (lines text)) (terminated text))

/-- The line with the number `n` fades when the text is mended. It is prose, has nothing but spaces and tabs, and
stands without a terminator at the end or in front of a line feed behind a carriage return. -/
def Fades (text : Text) (n : Nat) : Prop :=
  ∃ i line ending, n = i + 1 ∧ (terminated text)[i]? = some (line, ending) ∧
    (proseMask (lines text))[i]? = some false ∧ (∀ c ∈ line, Lint.isSpaceOrTab c = true) ∧
    (ending = [] ∨ ending = ['\n'] ∧ ([] :: (terminated text).map (·.2))[i]? = some ['\r'])

section Text

variable {text : Text}

/-- Nothing is lost when a text is cut again as it is. -/
theorem not_mem_fadingFrom_terminated (text : Text) (n : Nat) : n ∉ fadingFrom [] 1 (terminated text) := by
  have hterminated := (isCut_terminated text).isTerminated
  have hlength := length_settled hterminated [] 1
  rw [← terminated_unterminated hterminated, unterminated_terminated] at hlength
  have hnone : fadingFrom [] 1 (terminated text) = [] := by
    rw [← List.length_eq_zero_iff]
    simpa [Joins] using hlength
  rw [hnone]
  exact List.not_mem_nil

/-- **The lines that are lost are those that fade.** -/
theorem mem_fadingLines_iff {n : Nat} : n ∈ fadingLines text ↔ Fades text n := by
  rw [fadingLines, mem_fadingFrom_iff, map_snd_mendLines (length_proseMask_lines text)]
  constructor
  · rintro ⟨i, ending, rfl, hline, hending⟩
    obtain ⟨masked, line, hmasked, hline, hnil⟩ := getElem?_mendLines_eq_some.mp hline
    -- an empty line would be lost in the text itself
    have hne : line ≠ [] := by
      rintro rfl
      exact not_mem_fadingFrom_terminated text _ (mem_fadingFrom_iff.mpr ⟨i, ending, rfl, hline, hending⟩)
    obtain rfl := eq_false_of_fixLine_eq_nil hnil hne
    exact ⟨i, line, ending, Nat.add_comm 1 i, hline, hmasked, fixLine_false_eq_nil_iff.mp hnil, hending⟩
  · rintro ⟨i, line, ending, rfl, hline, hmasked, hblank, hending⟩
    exact ⟨i, ending, Nat.add_comm i 1, getElem?_mendLines_eq_some.mpr
      ⟨false, line, hmasked, hline, fixLine_false_eq_nil_iff.mpr hblank⟩, hending⟩

instance (text : Text) (n : Nat) : Decidable (Fades text n) := decidable_of_iff _ mem_fadingLines_iff

/-- Line by line the same terminator, and the same text or what is left of it without spaces and tabs at its
end. -/
def KeepsLines (text text' : Text) : Prop :=
  List.Forall₂ (fun p p' => p'.2 = p.2 ∧ (p'.1 = p.1 ∨ p'.1 = dropEnd Lint.isSpaceOrTab p.1))
    (terminated text) (terminated text')

/-- The lines of a mended text. -/
theorem terminated_fixTrailing (text : Text) :
    terminated (fixTrailing text) = settled (mendLines (proseMask (lines text)) (terminated text)) :=
  terminated_unterminated (isTerminated_mendLines (isCut_terminated text) (length_proseMask_lines text))

/-- **The lines that are left and those that fade are all lines.** -/
theorem length_lines_fixTrailing (text : Text) :
    (lines (fixTrailing text)).length + (fadingLines text).length = (lines text).length := by
  have hmask := length_proseMask_lines text
  have hlength := length_settled (isTerminated_mendLines (isCut_terminated text) hmask) [] 1
  rw [← terminated_fixTrailing, length_mendLines hmask, if_neg (by simp [Joins]), Nat.add_zero] at hlength
  show (List.map _ _).length + _ = (List.map _ _).length
  rw [List.length_map, List.length_map]
  exact hlength

theorem forall₂_mendLines : ∀ {mask : List Bool} {ls : List (Text × Text)}, mask.length = ls.length →
    List.Forall₂ (fun p p' => p'.2 = p.2 ∧ (p'.1 = p.1 ∨ p'.1 = dropEnd Lint.isSpaceOrTab p.1)) ls
      (mendLines mask ls)
  | [], [], _ => .nil
  | true :: _, _ :: _, h => .cons ⟨rfl, .inl rfl⟩ (forall₂_mendLines (Nat.succ.inj h))
  | false :: _, _ :: _, h => .cons ⟨rfl, .inr rfl⟩ (forall₂_mendLines (Nat.succ.inj h))

/-- **The lines keep their places when none fades.** -/
theorem keepsLines_fixTrailing_iff (text : Text) : KeepsLines text (fixTrailing text) ↔ ∀ n, ¬ Fades text n := by
  have hnil : (∀ n, ¬ Fades text n) ↔ fadingLines text = [] := by
    rw [List.eq_nil_iff_forall_not_mem]
    simp only [mem_fadingLines_iff]
  rw [hnil]
  constructor
  · intro h
    have hlength := length_lines_fixTrailing text
    have hsame := h.length_eq
    simp only [lines, List.length_map] at hlength
    rw [← List.length_eq_zero_iff]
    omega
  · intro h
    rw [KeepsLines, terminated_fixTrailing, settled_eq_self h]
    exact forall₂_mendLines (length_proseMask_lines text)

/-! ## The end of a mended text -/

/-- The text ends with a terminator. -/
def EndsTerminated (text : Text) : Prop := ∃ c, text.getLast? = some c ∧ isBreak c = true

theorem endsTerminated_append_iff {front behind : Text} (hne : behind ≠ []) :
    EndsTerminated (front ++ behind) ↔ EndsTerminated behind := by
  rw [EndsTerminated, EndsTerminated, List.getLast?_append_of_ne_nil front hne]

theorem Text.IsTerminator.endsTerminated {ending : Text} (h : IsTerminator ending) : EndsTerminated ending := by
  rcases h with rfl | ⟨c, hc, rfl⟩
  · exact ⟨'\n', rfl, rfl⟩
  · exact ⟨c, rfl, hc⟩

theorem endsTerminated_unterminated {front : List (Text × Text)} {line ending : Text}
    (hending : IsTerminator ending) : EndsTerminated (unterminated (front ++ [(line, ending)])) := by
  have htext : unterminated (front ++ [(line, ending)]) = (unterminated front ++ line) ++ ending := by
    simp [unterminated]
  rw [htext, endsTerminated_append_iff hending.ne_nil]
  exact hending.endsTerminated

/-- Lines end with a terminator when the last one has one, and when this is empty and others stand before it. -/
theorem endsTerminated_unterminated_iff {front : List (Text × Text)} {line ending : Text}
    (hfront : ∀ p ∈ front, IsTerminator p.2) (hline : IsUnbroken line)
    (hending : ending = [] ∨ IsTerminator ending) :
    EndsTerminated (unterminated (front ++ [(line, ending)])) ↔ ending ≠ [] ∨ line = [] ∧ front ≠ [] := by
  rcases hending with rfl | hending
  · have htext : unterminated (front ++ [(line, [])]) = unterminated front ++ line := by simp [unterminated]
    rw [htext]
    by_cases hnil : line = []
    · subst hnil
      rw [List.append_nil]
      rcases List.eq_nil_or_concat' front with rfl | ⟨front, p, rfl⟩
      · simp [EndsTerminated, unterminated]
      · have hp := hfront p (by simp)
        exact iff_of_true (endsTerminated_unterminated hp) (by simp)
    · rw [endsTerminated_append_iff hnil]
      refine iff_of_false ?_ (by simp [hnil])
      rintro ⟨c, hc, hbreak⟩
      rw [hline c (List.mem_of_getLast? hc)] at hbreak
      cases hbreak
  · exact iff_of_true (endsTerminated_unterminated hending) (.inl hending.ne_nil)

/-- The last line of a text has a terminator or is not empty. -/
theorem Text.IsCut.last_of_append {front : List (Text × Text)} {line ending : Text}
    (h : IsCut (front ++ [(line, ending)])) : ending = [] ∧ line ≠ [] ∨ IsTerminator ending := by
  induction front with
  | nil =>
    cases h with
    | last _ hne => exact .inl ⟨rfl, hne⟩
    | cons _ hending _ _ => exact .inr hending
  | cons p front ih =>
    rw [List.cons_append] at h
    generalize hbehind : front ++ [(line, ending)] = behind at h
    cases h with
    | last _ _ => exact absurd hbehind (by simp)
    | cons _ _ _ h => exact ih (hbehind ▸ h)

/-- The last of some mended lines. -/
theorem mendLines_concat {mask : List Bool} {front : List (Text × Text)} {masked : Bool} {line ending : Text}
    (hmask : mask.length = front.length) : mendLines (mask ++ [masked]) (front ++ [(line, ending)]) =
      mendLines mask front ++ [(fixLine masked line, ending)] :=
  List.zipWith_append hmask

theorem endsTerminated_mendLines_iff {ls : List (Text × Text)} (hcut : IsCut ls) {mask : List Bool}
    (hmask : mask.length = ls.length) : EndsTerminated (unterminated (mendLines mask ls)) ↔
      EndsTerminated (unterminated ls) ∨ ls.length ∈ fadingFrom [] 1 (mendLines mask ls) ∧ 1 < ls.length := by
  rcases List.eq_nil_or_concat' ls with rfl | ⟨front, ⟨line, ending⟩, rfl⟩
  · rw [List.eq_nil_of_length_eq_zero hmask]
    simp [mendLines]
  · obtain ⟨mask, masked, rfl⟩ : ∃ mask' masked, mask = mask' ++ [masked] := by
      rcases List.eq_nil_or_concat' mask with rfl | ⟨mask', masked, rfl⟩
      · simp at hmask
      · exact ⟨mask', masked, rfl⟩
    have hsame : mask.length = front.length := by simpa using hmask
    have hline := hcut.isUnbroken (line, ending) (by simp)
    have hfront := hcut.isTerminator_of_append (List.cons_ne_nil _ _)
    have hmended := isTerminator_of_mem_mendLines hsame hfront
    have hlast := hcut.last_of_append
    have hending : ending = [] ∨ IsTerminator ending := hlast.imp And.left id
    rw [mendLines_concat hsame, endsTerminated_unterminated_iff hfront hline hending,
      endsTerminated_unterminated_iff hmended (isUnbroken_fixLine masked hline) hending]
    rcases hlast with ⟨rfl, hne⟩ | hterminator
    · have hmem : (front ++ [(line, [])]).length ∈
          fadingFrom [] 1 (mendLines mask front ++ [(fixLine masked line, [])]) ↔ fixLine masked line = [] := by
        rw [List.length_append, List.length_singleton, ← length_mendLines hsame]
        exact last_mem_fadingFrom_iff
      have hfront : mendLines mask front ≠ [] ↔ 1 < (front ++ [(line, ([] : Text))]).length := by
        rw [← List.length_pos_iff, length_mendLines hsame, List.length_append, List.length_singleton]
        omega
      rw [hmem, hfront]
      simp [hne]
    · exact iff_of_true (.inl hterminator.ne_nil) (.inl (.inl hterminator.ne_nil))

/-- **A mended text ends with a terminator when the text did, or when its last line fades behind others.** -/
theorem endsTerminated_fixTrailing_iff (text : Text) : EndsTerminated (fixTrailing text) ↔
    EndsTerminated text ∨ Fades text (lines text).length ∧ 1 < (lines text).length := by
  have hlength : (lines text).length = (terminated text).length := List.length_map _
  have hends := endsTerminated_mendLines_iff (isCut_terminated text) (length_proseMask_lines text)
  rw [unterminated_terminated, ← hlength] at hends
  rw [← mem_fadingLines_iff]
  exact hends

/--
**Mending keeps all lines in their places when none fades, and otherwise loses exactly those that do.**

The lines that are left are the mended ones as they settle. There are as many as before but for those that fade,
and the text ends with a terminator when it did, or when its last line fades behind others. Where nothing fades,
each line has the same terminator, and the same text or what is left of it without spaces and tabs at its end.
-/
theorem lintText_keepsLines {rules : List LintRule} {fix : Bool} {s : LintScope} {text text' : Text}
    {outcome : LintOutcome} (h : lintText rules fix s text = .ok outcome)
    (hfixed : outcome.fixedText = some text') :
    (KeepsLines text text' ↔ ∀ n, ¬ Fades text n) ∧
      terminated text' = settled (mendLines (proseMask (lines text)) (terminated text)) ∧
      (∀ n, n ∈ fadingLines text ↔ Fades text n) ∧ (fadingLines text).Nodup ∧
      (lines text').length + (fadingLines text).length = (lines text).length ∧
      (EndsTerminated text' ↔
        EndsTerminated text ∨ Fades text (lines text).length ∧ 1 < (lines text).length) := by
  obtain rfl : fixTrailing text = text' := by
    rw [(lintText_ok h).2] at hfixed
    split at hfixed
    · cases hfixed
    · exact Option.some.inj hfixed
  exact ⟨keepsLines_fixTrailing_iff text, terminated_fixTrailing text, fun n => mem_fadingLines_iff,
    nodup_fadingFrom, length_lines_fixTrailing text, endsTerminated_fixTrailing_iff text⟩

end Text

/-- A document in a project without other files. -/
def loneScope : LintScope where
  tree := {}
  cwd := Path.ofText ['/']
  projectRoot := Path.ofText ['/']
  path := Path.ofText "doc.md".toList

/-- A last line that is not blank stays without a terminator. -/
theorem lintText_keepsLines_lastLine :
    ∃ outcome, lintText [.trailingWhitespace] true loneScope "a \nb ".toList = .ok outcome ∧
      outcome.fixedText = some "a\nb".toList ∧ KeepsLines "a \nb ".toList "a\nb".toList := by
  have hrun := lintText_trailingWhitespace loneScope "a \nb ".toList
  have hcount : (Lint.trailingSpaces (Prose.ofLines (lines "a \nb ".toList))).length = 2 := by decide
  have hfixed : fixTrailing "a \nb ".toList = "a\nb".toList := by decide
  simp only [hcount, hfixed] at hrun
  refine ⟨_, hrun, rfl, ?_⟩
  have hlaw := lintText_keepsLines hrun rfl
  refine hlaw.1.mpr fun n hn => ?_
  have hnone : fadingLines "a \nb ".toList = [] := by decide
  have hmem := (hlaw.2.2.1 n).mpr hn
  rw [hnone] at hmem
  cases hmem

/-- A last line of blanks only is lost, and the text then ends with the terminator in front of it. -/
theorem not_keepsLines_blankLine :
    ∃ outcome, lintText [.trailingWhitespace] true loneScope "a \n ".toList = .ok outcome ∧
      outcome.fixedText = some "a\n".toList ∧ ¬ KeepsLines "a \n ".toList "a\n".toList ∧
      (lines "a \n ".toList).length = 2 ∧ (lines "a\n".toList).length = 1 ∧
      ¬ EndsTerminated "a \n ".toList ∧ EndsTerminated "a\n".toList := by
  have hrun := lintText_trailingWhitespace loneScope "a \n ".toList
  have hcount : (Lint.trailingSpaces (Prose.ofLines (lines "a \n ".toList))).length = 2 := by decide
  have hfixed : fixTrailing "a \n ".toList = "a\n".toList := by decide
  simp only [hcount, hfixed] at hrun
  refine ⟨_, hrun, rfl, ?_, by decide, by decide, ?_, ⟨'\n', rfl, rfl⟩⟩
  · intro h
    exact absurd h.length_eq (by decide)
  · rintro ⟨c, hc, hbreak⟩
    cases hc
    cases hbreak

end DocAudit
