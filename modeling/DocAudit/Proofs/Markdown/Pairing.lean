import DocAudit.Proofs.Markdown.Scan
import Mathlib.Data.Nat.Find
import Mathlib.Order.Bounds.Basic

/-!
# Fences in pairs

The lines that open fences and those that close them are found greedily, from the first line on: the first line
that can open a fence does, the first line behind it that can close that fence does, and then the same again.
Which lines can do so is told by their trimmed texts alone, and the scan for fences finds these pairs. So it does
not matter what else stands in a block.

## Contents

* `Fence.IsOpener`, `Fence.IsCloser`: which lines can open and close a fence
* `Fence.Paired`, `Fence.exists_paired`, `Fence.Paired.unique`: **the greedy pairing, of which there is one**
* `Fence.Paired.isSome_iff`: **a fence is open between the two lines of a pair**
* `Fence.Tracker`, `Fence.Tracker.process_eq`: the scan with run and info text side by side
* `Fence.Tracker.feed_paired`: **what is told of each line, by the pairs**
-/

namespace DocAudit

/-- If some places have a property, there is a first one. -/
theorem exists_isLeast {p : Nat → Prop} (h : ∃ k, p k) : ∃ k, IsLeast {k | p k} k := by
  classical
  exact ⟨Nat.find h, Nat.find_spec h, fun k hk => Nat.find_min' h hk⟩

namespace Fence

open Text

/-! ## Lines that can be fences -/

/-- The trimmed line starts with a run of so many marks, three or more, and no backtick stands behind
backticks. -/
def IsOpener (mark : FenceMark) (size : Nat) (line : Text) : Prop :=
  3 ≤ size ∧ ∃ rest, strip line = List.replicate size mark.char ++ rest ∧
    rest.head? ≠ some mark.char ∧ (mark = .backtick → '`' ∉ rest)

/-- The trimmed line has nothing but the marks, so many or more. -/
def IsCloser (mark : FenceMark) (size : Nat) (line : Text) : Prop :=
  ∃ n, size ≤ n ∧ strip line = List.replicate n mark.char

section Line

variable {line : Text} {mark : FenceMark} {size : Nat}

/-- A line that can open a fence is read as the opening of one with this run. -/
theorem IsOpener.exists_opening? (h : IsOpener mark size line) (hline : '\n' ∉ line) :
    ∃ info, opening? line = some { mark, size, info } := by
  obtain ⟨hsize, rest, hcut, hhead, hback⟩ := h
  have hfeed : '\n' ∉ rest := by
    intro hmem
    refine hline (mem_of_mem_strip ?_)
    rw [hcut]
    exact List.mem_append_right _ hmem
  exact ⟨strip rest, opening?_eq_some_iff.mpr ⟨rest, hcut, hsize, hhead, hfeed, hback, rfl⟩⟩

theorem isOpener_of_opening? {f : Fence} (h : opening? line = some f) :
    IsOpener f.mark f.size line := by
  obtain ⟨rest, hcut, hsize, hhead, -, hback, -⟩ := opening?_eq_some_iff.mp h
  exact ⟨hsize, rest, hcut, hhead, hback⟩

/-- There is one run at the start of a line. -/
theorem IsOpener.unique {mark' : FenceMark} {size' : Nat} (h : IsOpener mark size line)
    (h' : IsOpener mark' size' line) (hline : '\n' ∉ line) : mark = mark' ∧ size = size' := by
  obtain ⟨info, hopens⟩ := h.exists_opening? hline
  obtain ⟨info', hopens'⟩ := h'.exists_opening? hline
  rw [hopens, Option.some.injEq, Fence.mk.injEq] at hopens'
  exact ⟨hopens'.1, hopens'.2.1⟩

theorem closes_iff_isCloser {f : Fence} (hsize : 3 ≤ f.size) :
    f.closes line = true ↔ IsCloser f.mark f.size line := by
  rw [closes_iff]
  constructor
  · rintro ⟨n, -, hle, hline⟩
    exact ⟨n, hle, hline⟩
  · rintro ⟨n, hle, hline⟩
    exact ⟨n, Nat.le_trans hsize hle, hle, hline⟩

end Line

/-! ## Pairs -/

/-- The place of a line that opens a fence, and that of the line that closes it, when there is one. -/
structure Pair where
  opener : Nat
  closer? : Option Nat
  deriving DecidableEq, Repr

namespace Pair

/-- The place stands behind the opening line, and not behind the closing one. -/
def Holds (p : Pair) (k : Nat) : Prop := p.opener < k ∧ ∀ j, p.closer? = some j → k ≤ j

/-- The closing line stands in front of the other opening line. -/
def Precedes (p q : Pair) : Prop := ∃ j, p.closer? = some j ∧ j < q.opener

end Pair

/-- The line at the place has the property. -/
def At (ls : List Text) (p : Text → Prop) (k : Nat) : Prop := ∃ line, ls[k]? = some line ∧ p line

/-- The line at the place can open a fence. -/
def OpenerAt (ls : List Text) (k : Nat) : Prop := ∃ mark size, At ls (IsOpener mark size) k

/--
The greedy pairing of the lines from the place `start` on.

The first line that can open a fence is an opener. The first line behind it that can close this fence is its
closer, and behind that the pairing goes on. Without such a line the fence stays open.
-/
inductive Paired (ls : List Text) : Nat → List Pair → Prop
  | nothing {start : Nat} (hnone : ∀ k, start ≤ k → ¬ OpenerAt ls k) : Paired ls start []
  | unclosed {start i size : Nat} {mark : FenceMark}
      (hfirst : IsLeast {k | start ≤ k ∧ OpenerAt ls k} i) (hopens : At ls (IsOpener mark size) i)
      (hnone : ∀ k, i < k → ¬ At ls (IsCloser mark size) k) : Paired ls start [⟨i, none⟩]
  | closed {start i j size : Nat} {mark : FenceMark} {pairs : List Pair}
      (hfirst : IsLeast {k | start ≤ k ∧ OpenerAt ls k} i) (hopens : At ls (IsOpener mark size) i)
      (hcloses : IsLeast {k | i < k ∧ At ls (IsCloser mark size) k} j) (hrest : Paired ls (j + 1) pairs) :
      Paired ls start (⟨i, some j⟩ :: pairs)

section Pairs

variable {ls : List Text} {start : Nat} {pairs : List Pair}

/-- **All lines can be paired.** -/
theorem exists_paired (ls : List Text) (start : Nat) : ∃ pairs, Paired ls start pairs := by
  by_cases hopener : ∃ k, start ≤ k ∧ OpenerAt ls k
  · obtain ⟨i, hfirst⟩ := exists_isLeast hopener
    obtain ⟨mark, size, hopens⟩ := hfirst.1.2
    by_cases hcloser : ∃ k, i < k ∧ At ls (IsCloser mark size) k
    · obtain ⟨j, hcloses⟩ := exists_isLeast hcloser
      obtain ⟨line, hline, -⟩ := hcloses.1.2
      -- the pairing goes on behind `j`, where fewer lines are left
      have hlt : j < ls.length := (List.getElem?_eq_some_iff.mp hline).1
      have hle : start < j + 1 := Nat.lt_succ_of_le (Nat.le_trans hfirst.1.1 (Nat.le_of_lt hcloses.1.1))
      obtain ⟨pairs, hrest⟩ := exists_paired ls (j + 1)
      exact ⟨_, .closed hfirst hopens hcloses hrest⟩
    · exact ⟨_, .unclosed hfirst hopens fun k hk hat => hcloser ⟨k, hk, hat⟩⟩
  · exact ⟨[], .nothing fun k hk hat => hopener ⟨k, hk, hat⟩⟩
termination_by ls.length - start
decreasing_by omega

namespace Paired

theorem start_le (h : Paired ls start pairs) : ∀ p ∈ pairs, start ≤ p.opener := by
  induction h with
  | nothing => exact nofun
  | unclosed hfirst =>
    intro p hp
    rw [List.mem_singleton.mp hp]
    exact hfirst.1.1
  | closed hfirst _ hcloses _ ih =>
    have hle := hfirst.1.1
    have hlt := hcloses.1.1
    intro p hp
    rcases List.mem_cons.mp hp with rfl | hp
    · exact hle
    · have := ih p hp
      omega

/-- A fence is closed behind the line that opens it. -/
theorem opener_lt (h : Paired ls start pairs) : ∀ p ∈ pairs, ∀ j, p.closer? = some j → p.opener < j := by
  induction h with
  | nothing => exact nofun
  | unclosed =>
    intro p hp j hj
    rw [List.mem_singleton.mp hp] at hj
    cases hj
  | closed _ _ hcloses _ ih =>
    intro p hp j hj
    rcases List.mem_cons.mp hp with rfl | hp
    · cases hj
      exact hcloses.1.1
    · exact ih p hp j hj

/-- Of two pairs, one precedes the other. -/
theorem apart (h : Paired ls start pairs) :
    ∀ p ∈ pairs, ∀ q ∈ pairs, p = q ∨ p.Precedes q ∨ q.Precedes p := by
  induction h with
  | nothing => exact nofun
  | unclosed =>
    intro p hp q hq
    exact Or.inl ((List.mem_singleton.mp hp).trans (List.mem_singleton.mp hq).symm)
  | closed _ _ _ hrest ih =>
    intro p hp q hq
    rcases List.mem_cons.mp hp with rfl | hp
    · rcases List.mem_cons.mp hq with rfl | hq
      · exact Or.inl rfl
      · exact Or.inr (Or.inl ⟨_, rfl, hrest.start_le q hq⟩)
    · rcases List.mem_cons.mp hq with rfl | hq
      · exact Or.inr (Or.inr ⟨_, rfl, hrest.start_le p hp⟩)
      · exact ih p hp q hq

/-- A place is that of an opening line when a pair holds only behind it. -/
theorem opener_iff (h : Paired ls start pairs) (k : Nat) :
    ((¬ ∃ p ∈ pairs, p.Holds k) ∧ ∃ p ∈ pairs, p.Holds (k + 1)) ↔ ∃ p ∈ pairs, p.opener = k := by
  constructor
  · rintro ⟨hnot, p, hp, hlt, hcloser⟩
    refine ⟨p, hp, by_contra fun hne => hnot ⟨p, hp, by omega, fun j hj => ?_⟩⟩
    exact Nat.le_of_succ_le (hcloser j hj)
  · rintro ⟨p, hp, rfl⟩
    refine ⟨?_, p, hp, Nat.lt_succ_self _, h.opener_lt p hp⟩
    rintro ⟨q, hq, hlt, hcloser⟩
    rcases h.apart p hp q hq with rfl | ⟨j, hj, hjq⟩ | ⟨j, hj, hjp⟩
    · exact Nat.lt_irrefl _ hlt
    · have := h.opener_lt p hp j hj
      omega
    · have := hcloser j hj
      omega

/-- A place is that of a closing line when a pair holds up to it. -/
theorem closer_iff (h : Paired ls start pairs) (k : Nat) :
    ((∃ p ∈ pairs, p.Holds k) ∧ ¬ ∃ p ∈ pairs, p.Holds (k + 1)) ↔ ∃ p ∈ pairs, p.closer? = some k := by
  constructor
  · rintro ⟨⟨p, hp, hlt, hcloser⟩, hnot⟩
    refine ⟨p, hp, by_contra fun hne => hnot ⟨p, hp, Nat.lt_succ_of_lt hlt, fun j hj => ?_⟩⟩
    refine Nat.lt_of_le_of_ne (hcloser j hj) ?_
    rintro rfl
    exact hne hj
  · rintro ⟨p, hp, hk⟩
    refine ⟨⟨p, hp, h.opener_lt p hp k hk, fun j hj => ?_⟩, ?_⟩
    · rw [hk] at hj
      exact Nat.le_of_eq (Option.some.inj hj)
    · rintro ⟨q, hq, hlt, hcloser⟩
      rcases h.apart p hp q hq with rfl | ⟨j, hj, hjq⟩ | ⟨j, hj, hjp⟩
      · exact Nat.lt_irrefl _ (hcloser k hk)
      · obtain rfl : k = j := Option.some.inj (hk.symm.trans hj)
        omega
      · have := hcloser j hj
        have := h.opener_lt p hp k hk
        omega

/-- **There is one pairing.** -/
theorem unique {pairs' : List Pair} (hls : ∀ line ∈ ls, '\n' ∉ line) (h : Paired ls start pairs)
    (h' : Paired ls start pairs') : pairs = pairs' := by
  -- the first opener, its run and the first closer are the same in both
  have hrun : ∀ {i mark size mark' size'}, At ls (IsOpener mark size) i → At ls (IsOpener mark' size') i →
      mark = mark' ∧ size = size' := by
    rintro i mark size mark' size' ⟨line, hline, hopens⟩ ⟨line', hline', hopens'⟩
    obtain rfl : line = line' := Option.some.inj (hline.symm.trans hline')
    exact hopens.unique hopens' (hls line (List.mem_of_getElem? hline))
  induction h generalizing pairs' with
  | nothing hnone =>
    cases h' with
    | nothing => rfl
    | unclosed hfirst' => exact absurd hfirst'.1.2 (hnone _ hfirst'.1.1)
    | closed hfirst' => exact absurd hfirst'.1.2 (hnone _ hfirst'.1.1)
  | unclosed hfirst hopens hnone =>
    cases h' with
    | nothing hnone' => exact absurd hfirst.1.2 (hnone' _ hfirst.1.1)
    | unclosed hfirst' => rw [hfirst.unique hfirst']
    | closed hfirst' hopens' hcloses' =>
      obtain rfl := hfirst.unique hfirst'
      obtain ⟨rfl, rfl⟩ := hrun hopens hopens'
      exact absurd hcloses'.1.2 (hnone _ hcloses'.1.1)
  | closed hfirst hopens hcloses _ ih =>
    cases h' with
    | nothing hnone' => exact absurd hfirst.1.2 (hnone' _ hfirst.1.1)
    | unclosed hfirst' hopens' hnone' =>
      obtain rfl := hfirst.unique hfirst'
      obtain ⟨rfl, rfl⟩ := hrun hopens hopens'
      exact absurd hcloses.1.2 (hnone' _ hcloses.1.1)
    | closed hfirst' hopens' hcloses' hrest' =>
      obtain rfl := hfirst.unique hfirst'
      obtain ⟨rfl, rfl⟩ := hrun hopens hopens'
      obtain rfl := hcloses.unique hcloses'
      rw [ih hrest']

end Paired

end Pairs

/-! ## What is open before a line -/

/-- The fence that the lines before the place leave open. -/
def openBefore (ls : List Text) (k : Nat) : Option Fence := after none (ls.take k)

section Open

variable {ls : List Text} {s : Option Fence} {a k : Nat}

theorem openBefore_succ {line : Text} (hline : ls[k]? = some line) :
    openBefore ls (k + 1) = (step (openBefore ls k) line).1 := by
  rw [openBefore, List.take_add_one, hline, after_append]
  rfl

/-- Behind the end nothing changes. -/
theorem openBefore_succ_of_none (hline : ls[k]? = none) : openBefore ls (k + 1) = openBefore ls k := by
  rw [openBefore, List.take_add_one, hline, Option.toList_none, List.append_nil, openBefore]

/-- Lines that keep what is open do so one after the other. -/
theorem openBefore_of_kept (ha : openBefore ls a = s) (hak : a ≤ k)
    (hkeep : ∀ j line, a ≤ j → j < k → ls[j]? = some line → (step s line).1 = s) :
    openBefore ls k = s := by
  induction k, hak using Nat.le_induction with
  | base => exact ha
  | succ k hak ih =>
    have hbefore := ih fun j line haj hjk => hkeep j line haj (Nat.lt_succ_of_lt hjk)
    cases hline : ls[k]? with
    | none => rw [openBefore_succ_of_none hline, hbefore]
    | some line => rw [openBefore_succ hline, hbefore, hkeep k line hak (Nat.lt_succ_self k) hline]

/-- Where no line can open a fence, none is opened. -/
theorem openBefore_outside (ha : openBefore ls a = none) (hak : a ≤ k)
    (hnone : ∀ j, a ≤ j → j < k → ¬ OpenerAt ls j) : openBefore ls k = none := by
  refine openBefore_of_kept ha hak fun j line haj hjk hline => ?_
  cases hopens : opening? line with
  | none => rw [step_outside hopens]
  | some f => exact absurd ⟨f.mark, f.size, line, hline, isOpener_of_opening? hopens⟩ (hnone j haj hjk)

/-- Where no line can close the open fence, it stays open. -/
theorem openBefore_inside {f : Fence} (hsize : 3 ≤ f.size) (ha : openBefore ls a = some f) (hak : a ≤ k)
    (hnone : ∀ j, a ≤ j → j < k → ¬ At ls (IsCloser f.mark f.size) j) : openBefore ls k = some f := by
  refine openBefore_of_kept ha hak fun j line haj hjk hline => ?_
  cases hcloses : f.closes line with
  | false => rw [step_inside hcloses]
  | true => exact absurd ⟨line, hline, (closes_iff_isCloser hsize).mp hcloses⟩ (hnone j haj hjk)

section First

variable {i j size : Nat} {mark : FenceMark}

/-- No fence is open up to the first line that can open one. -/
theorem openBefore_of_le_opener (ha : openBefore ls a = none)
    (hfirst : IsLeast {k | a ≤ k ∧ OpenerAt ls k} i) (hak : a ≤ k) (hki : k ≤ i) :
    openBefore ls k = none :=
  openBefore_outside ha hak fun _ haj hjk hat =>
    Nat.not_le.mpr (Nat.lt_of_lt_of_le hjk hki) (hfirst.2 ⟨haj, hat⟩)

/-- Behind that line, its fence is open. -/
theorem exists_openBefore_opener (hls : ∀ line ∈ ls, '\n' ∉ line) (ha : openBefore ls a = none)
    (hfirst : IsLeast {k | a ≤ k ∧ OpenerAt ls k} i) (hopens : At ls (IsOpener mark size) i) :
    3 ≤ size ∧ ∃ info, openBefore ls (i + 1) = some { mark, size, info } := by
  obtain ⟨line, hline, hopener⟩ := hopens
  obtain ⟨info, hinfo⟩ := hopener.exists_opening? (hls line (List.mem_of_getElem? hline))
  refine ⟨hopener.1, info, ?_⟩
  rw [openBefore_succ hline, openBefore_of_le_opener ha hfirst hfirst.1.1 (Nat.le_refl i),
    step_opening hinfo]

variable {f : Fence}

/-- A fence is open up to the first line that can close it. -/
theorem openBefore_of_le_closer (hsize : 3 ≤ f.size) (hopen : openBefore ls (i + 1) = some f)
    (hcloses : IsLeast {k | i < k ∧ At ls (IsCloser f.mark f.size) k} j) (hik : i < k) (hkj : k ≤ j) :
    openBefore ls k = some f :=
  openBefore_inside hsize hopen hik fun _ hij hjk hat =>
    Nat.not_le.mpr (Nat.lt_of_lt_of_le hjk hkj) (hcloses.2 ⟨hij, hat⟩)

/-- Behind that line, no fence is open. -/
theorem openBefore_closer (hsize : 3 ≤ f.size) (hopen : openBefore ls (i + 1) = some f)
    (hcloses : IsLeast {k | i < k ∧ At ls (IsCloser f.mark f.size) k} j) :
    openBefore ls (j + 1) = none := by
  obtain ⟨hij, line, hline, hcloser⟩ := hcloses.1
  rw [openBefore_succ hline, openBefore_of_le_closer hsize hopen hcloses hij (Nat.le_refl j),
    step_closing ((closes_iff_isCloser hsize).mpr hcloser)]

end First

/-- A line is a fence when it changes whether one is open. -/
theorem snd_step_iff (s : Option Fence) (line : Text) :
    (step s line).2 = true ↔ s.isSome ≠ (step s line).1.isSome := by
  rcases line_cases s line with ⟨f, rfl, h⟩ | ⟨f, rfl, h⟩ | ⟨f, rfl, h⟩ | ⟨rfl, h⟩
  · simp [step_inside h]
  · simp [step_closing h]
  · simp [step_opening h]
  · simp [step_outside h]

end Open

/-! ## What is open, by the pairs -/

namespace Paired

variable {ls : List Text} {start k : Nat} {pairs : List Pair}

/-- **A fence is open between the two lines of a pair, and nowhere else.** -/
theorem isSome_iff (hls : ∀ line ∈ ls, '\n' ∉ line) (h : Paired ls start pairs)
    (hstart : openBefore ls start = none) (hk : start ≤ k) :
    (openBefore ls k).isSome = true ↔ ∃ p ∈ pairs, p.Holds k := by
  induction h with
  | nothing hnone =>
    rw [openBefore_outside hstart hk fun j hj _ => hnone j hj]
    simp
  | @unclosed start i size mark hfirst hopens hnone =>
    obtain ⟨hsize, info, hopen⟩ := exists_openBefore_opener hls hstart hfirst hopens
    rcases Nat.lt_or_ge i k with hik | hki
    · rw [openBefore_inside hsize hopen hik fun j hj _ => hnone j hj]
      simp [Pair.Holds, hik]
    · rw [openBefore_of_le_opener hstart hfirst hk hki]
      simp [Pair.Holds, hki]
  | @closed start i j size mark pairs hfirst hopens hcloses hrest ih =>
    obtain ⟨hsize, info, hopen⟩ := exists_openBefore_opener hls hstart hfirst hopens
    have hij : i < j := hcloses.1.1
    -- the other pairs stand behind this one
    have hbehind : ∀ p ∈ pairs, p.Holds k → j < k := fun p hp hholds =>
      Nat.lt_trans (hrest.start_le p hp) hholds.1
    simp only [List.mem_cons, exists_eq_or_imp]
    rcases Nat.lt_or_ge j k with hjk | hkj
    · rw [ih (openBefore_closer hsize hopen hcloses) hjk]
      refine (or_iff_right fun hholds => ?_).symm
      exact absurd (hholds.2 j rfl) (Nat.not_le.mpr hjk)
    · rcases Nat.lt_or_ge i k with hik | hki
      · rw [openBefore_of_le_closer hsize hopen hcloses hik hkj]
        exact iff_of_true rfl (Or.inl ⟨hik, fun _ hj => by cases hj; exact hkj⟩)
      · rw [openBefore_of_le_opener hstart hfirst hk hki]
        refine iff_of_false Bool.false_ne_true ?_
        rintro (hholds | ⟨p, hp, hholds⟩)
        · exact absurd hholds.1 (Nat.not_lt.mpr hki)
        · exact absurd (hbehind p hp hholds) (Nat.not_lt.mpr hkj)

section Told

variable {line : Text}

/-- **The lines that open fences are the openers of the pairs.** -/
theorem opens_iff (hls : ∀ line ∈ ls, '\n' ∉ line) (h : Paired ls 0 pairs) (hline : ls[k]? = some line) :
    ((step (openBefore ls k) line).2 = true ∧ (step (openBefore ls k) line).1.isSome = true) ↔
      ∃ p ∈ pairs, p.opener = k := by
  rw [← h.opener_iff, ← h.isSome_iff hls rfl (Nat.zero_le k), ← h.isSome_iff hls rfl (Nat.zero_le (k + 1)),
    openBefore_succ hline, snd_step_iff]
  cases (openBefore ls k).isSome <;> cases (step (openBefore ls k) line).1.isSome <;> simp

/-- **The lines that close fences are the closers of the pairs.** -/
theorem closes_iff (hls : ∀ line ∈ ls, '\n' ∉ line) (h : Paired ls 0 pairs) (hline : ls[k]? = some line) :
    ((step (openBefore ls k) line).2 = true ∧ (step (openBefore ls k) line).1.isSome = false) ↔
      ∃ p ∈ pairs, p.closer? = some k := by
  rw [← h.closer_iff, ← h.isSome_iff hls rfl (Nat.zero_le k), ← h.isSome_iff hls rfl (Nat.zero_le (k + 1)),
    openBefore_succ hline, snd_step_iff]
  cases (openBefore ls k).isSome <;> cases (step (openBefore ls k) line).1.isSome <;> simp

/-- **The lines that are fences are the two lines of the pairs.** -/
theorem isFence_iff (hls : ∀ line ∈ ls, '\n' ∉ line) (h : Paired ls 0 pairs) (hline : ls[k]? = some line) :
    (step (openBefore ls k) line).2 = true ↔ ∃ p ∈ pairs, p.opener = k ∨ p.closer? = some k := by
  simp only [and_or_left, exists_or]
  rw [← h.opens_iff hls hline, ← h.closes_iff hls hline]
  cases (step (openBefore ls k) line).1.isSome <;> simp

end Told

end Paired

/-! ## Run and info text side by side -/

/-- What a scan for fences holds: the run of the open fence, and beside it an info text, also when no fence is
open. -/
structure Tracker where
  /-- The mark of the open fence, and how often it stands there. -/
  run : Option (FenceMark × Nat) := none
  info : Text := []
  deriving DecidableEq, Repr

namespace Tracker

/-- A fence is open. -/
def inBlock (t : Tracker) : Bool := t.run.isSome

/-- One more line, and whether it is itself an opening or closing fence. -/
def process (t : Tracker) (line : Text) : Tracker × Bool :=
  match run? line with
  | none => (t, false)
  | some (mark, size, rest) =>
    match t.run with
    | none =>
      if mark = .backtick && rest.contains '`' then (t, false)
      else ({ run := some (mark, size), info := strip rest }, true)
    | some (opened, least) =>
      if mark == opened && least ≤ size && isBlankText rest then ({ run := none, info := [] }, true)
      else (t, false)

/-- The lines one after the other, from the start. -/
def feed (ls : List Text) : Tracker := ls.foldl (fun t line => (t.process line).1) {}

/-- The open fence, with its info text. -/
def fence? (t : Tracker) : Option Fence := t.run.map fun (mark, size) => { mark, size, info := t.info }

theorem isSome_fence? (t : Tracker) : t.fence?.isSome = t.inBlock := Option.isSome_map

/-- **A line does to run and info text what it does to the open fence.** -/
theorem process_eq (t : Tracker) (line : Text) :
    ((t.process line).1.fence?, (t.process line).2) = step t.fence? line := by
  obtain ⟨run, info⟩ := t
  cases hrun : run? line with
  | none =>
    cases run with
    | none => simp [process, step, opening?, fence?, hrun]
    | some run => simp [process, step, closes, fence?, hrun]
  | some found =>
    obtain ⟨mark, size, rest⟩ := found
    cases run with
    | none =>
      simp only [process, step, opening?, fence?, hrun, Option.map_none]
      split <;> rfl
    | some run =>
      simp only [process, step, closes, fence?, hrun, Option.map_some]
      split <;> rfl

/-- What is open after some lines. -/
theorem fence?_feed (ls : List Text) : (feed ls).fence? = after none ls := by
  refine (List.foldl_hom fence? fun t line => ?_).symm
  exact congrArg Prod.fst (process_eq t line).symm

/-- A line leaves all as it is, opens a fence, or closes the one that is open. -/
theorem process_cases (t : Tracker) (line : Text) :
    t.process line = (t, false) ∨ (∃ run info, t.process line = ({ run := some run, info }, true)) ∨
      t.process line = ({ run := none, info := [] }, true) := by
  unfold process
  split
  · exact Or.inl rfl
  · split
    · split
      · exact Or.inl rfl
      · exact Or.inr (Or.inl ⟨_, _, rfl⟩)
    · split
      · exact Or.inr (Or.inr rfl)
      · exact Or.inl rfl

/-- Without an open fence, there is no info text after a line when there was none before it. -/
theorem info_process {t : Tracker} (ht : t.inBlock = false → t.info = []) (line : Text)
    (h : (t.process line).1.inBlock = false) : (t.process line).1.info = [] := by
  rcases t.process_cases line with heq | ⟨run, info, heq⟩ | heq
  · rw [heq] at h ⊢
    exact ht h
  · rw [heq] at h
    cases h
  · rw [heq]

/-- **There is no info text where no fence is open.** -/
theorem info_feed (ls : List Text) : (feed ls).inBlock = false → (feed ls).info = [] := by
  refine List.foldlRecOn ls _ (motive := fun t : Tracker => t.inBlock = false → t.info = []) ?_ ?_
  · exact fun _ => rfl
  · exact fun t ht line _ => info_process ht line

/--
**What is told of each line, by the greedy pairing of the lines.**

There is one greedy pairing. The lines that open fences are its openers, and those that close fences its closers,
so that a line is a fence when it is one of them. Behind a line a fence is open when an opener stands at or before
it, and no closer of this opener does. Where none is open there is no info text. All this is what the scan finds
that the reader and the checks of prose make.
-/
theorem feed_paired (ls : List Text) (hls : ∀ line ∈ ls, '\n' ∉ line) :
    ∃ pairs, (∀ others, Paired ls 0 others ↔ others = pairs) ∧
      (∀ k line t isFence, ls[k]? = some line → (feed (ls.take k)).process line = (t, isFence) →
        -- the fences
        (isFence = true ↔ ∃ p ∈ pairs, p.opener = k ∨ p.closer? = some k) ∧
        ((isFence = true ∧ t.inBlock = true) ↔ ∃ p ∈ pairs, p.opener = k) ∧
        ((isFence = true ∧ t.inBlock = false) ↔ ∃ p ∈ pairs, p.closer? = some k) ∧
        -- what is open behind the line
        (t.inBlock = true ↔ ∃ p ∈ pairs, p.opener ≤ k ∧ ∀ j, p.closer? = some j → k < j) ∧
        t = feed (ls.take (k + 1)) ∧ step (after none (ls.take k)) line = (t.fence?, isFence)) ∧
      ∀ k, (feed (ls.take k)).inBlock = false → (feed (ls.take k)).info = [] := by
  obtain ⟨pairs, hpairs⟩ := exists_paired ls 0
  refine ⟨pairs, fun others => ⟨fun h => h.unique hls hpairs, fun h => h ▸ hpairs⟩,
    fun k line t isFence hline hprocess => ?_, fun k => info_feed (ls.take k)⟩
  have hstep := process_eq (feed (ls.take k)) line
  rw [fence?_feed, hprocess] at hstep
  have hnext : t = feed (ls.take (k + 1)) := by
    rw [List.take_add_one, hline, feed, List.foldl_append]
    exact congrArg Prod.fst hprocess.symm
  have hfence : isFence = (step (openBefore ls k) line).2 := congrArg Prod.snd hstep
  have hopen : t.inBlock = (step (openBefore ls k) line).1.isSome := by
    rw [← isSome_fence?]
    exact congrArg (Option.isSome ∘ Prod.fst) hstep
  refine ⟨?_, ?_, ?_, ?_, hnext, hstep.symm⟩
  · rw [hfence]
    exact hpairs.isFence_iff hls hline
  · rw [hfence, hopen]
    exact hpairs.opens_iff hls hline
  · rw [hfence, hopen]
    exact hpairs.closes_iff hls hline
  · rw [hopen, ← openBefore_succ hline]
    simpa only [Pair.Holds, Nat.lt_succ_iff, Nat.succ_le_iff] using
      hpairs.isSome_iff hls rfl (Nat.zero_le (k + 1))

/-- The second line opens a fence that only the sixth one closes. -/
def wrappedLines : List Text :=
  ["``` a`b".toList, "  ~~~~ sh `x`".toList, "```".toList, "~~~".toList, "~~~~~ x".toList, "~~~~~ ".toList,
    "```py".toList]

theorem feed_paired_wrapped : (∀ line ∈ wrappedLines, '\n' ∉ line) ∧
    ∃ pairs, Paired wrappedLines 0 pairs ∧ (∃ p ∈ pairs, p.opener = 1) ∧ (∃ p ∈ pairs, p.closer? = some 5) ∧
      (∀ k ∈ [0, 2, 3, 4], ¬ ∃ p ∈ pairs, p.opener = k ∨ p.closer? = some k) ∧
      ∃ p ∈ pairs, p.opener ≤ 6 ∧ ∀ j, p.closer? = some j → 6 < j := by
  have hls : ∀ line ∈ wrappedLines, '\n' ∉ line := by decide +kernel
  obtain ⟨pairs, hpairs, hlines, -⟩ := feed_paired wrappedLines hls
  refine ⟨hls, pairs, (hpairs pairs).mpr rfl, ?_, ?_, ?_, ?_⟩
  · exact (hlines 1 _ _ _ rfl (Prod.eta _).symm).2.1.mp (by decide +kernel)
  · exact (hlines 5 _ _ _ rfl (Prod.eta _).symm).2.2.1.mp (by decide +kernel)
  · have hplain : ∀ k ∈ [0, 2, 3, 4], ∃ line ∈ wrappedLines[k]?,
        ((feed (wrappedLines.take k)).process line).2 = false := by decide +kernel
    intro k hk
    obtain ⟨line, hline, hfence⟩ := hplain k hk
    rw [← (hlines k _ _ _ hline (Prod.eta _).symm).1, hfence]
    exact Bool.false_ne_true
  · exact (hlines 6 _ _ _ rfl (Prod.eta _).symm).2.2.2.1.mp (by decide +kernel)

end Tracker

end Fence

end DocAudit
