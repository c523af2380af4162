import DocAudit.Proofs.Markdown.Scan

/-!
# Fenced blocks by their places

The scan for fenced blocks goes through lines once. Here its blocks are given by the places of the lines
that open a fence: what is open before a place, which directives wait there, and where the block ends.
The scan of a section starts anew behind the heading, and finds what the scan of the whole text finds.

## Contents

* `Annotations.after`: the directives that wait after some lines
* `RawBlock.snd_scan_eq`: **the blocks of a scan, by their places**
* `fenceAt`, `pendingAt`, `rawAt?`: the same for the places of a whole text
* `Section.IsIn.getElem?_fenced`: **a section fences the lines that the text fences**
* `Section.IsIn`, `Section.raws_eq`: **the blocks of a section are those of the text at its places**
-/

namespace DocAudit

open Text

/-! ## Directives that wait -/

namespace Annotations

/-- The directives after one more line. None are left at a fence, and inside of one nothing changes. -/
def step (a : Annotations) (fence : Option Fence) (line : Text) : Annotations :=
  if (Fence.step fence line).2 then none else if fence.isSome then a else a.afterLine line

/-- The directives after all the lines. -/
def after (a : Annotations) (fence : Option Fence) : List Text → Annotations
  | [] => a
  | line :: rest => after (a.step fence line) (Fence.step fence line).1 rest

section Line

variable {f : Fence} {line : Text} (a : Annotations)

theorem step_inside (h : f.closes line = false) : a.step (some f) line = a := by
  simp [step, Fence.step_inside h]

theorem step_closing (h : f.closes line = true) : a.step (some f) line = none := by
  simp [step, Fence.step_closing h]

theorem step_opening (h : Fence.opening? line = some f) : a.step Option.none line = none := by
  simp [step, Fence.step_opening h]

theorem step_outside (h : Fence.opening? line = Option.none) :
    a.step Option.none line = a.afterLine line := by
  simp [step, Fence.step_outside h]

end Line

theorem after_append (a : Annotations) (fence : Option Fence) (xs ys : List Text) :
    a.after fence (xs ++ ys) = (a.after fence xs).after (Fence.after fence xs) ys := by
  induction xs generalizing a fence with
  | nil => rfl
  | cons line rest ih => exact ih _ _

end Annotations

/-! ## The scan by places -/

namespace RawBlock

/-- The block of a fence whose line has the number `n`, with the lines behind it. -/
def opened (f : Fence) (n : Nat) (a : Annotations) (rest : List Text) : RawBlock where
  language := (words f.info).headD []
  body := rest.takeWhile fun line => !f.closes line
  startLine := n
  annotations := a

/-- The block that is opened at the place `i`, where the first line has the number `n`. -/
def blockAt? (fence : Option Fence) (a : Annotations) (n : Nat) (ls : List Text) (i : Nat) :
    Option RawBlock :=
  if (Fence.after fence (ls.take i)).isSome then none
  else (ls[i]? >>= Fence.opening?).map fun f =>
    opened f (n + i) (a.after fence (ls.take i)) (ls.drop (i + 1))

/-- The place behind the first line, seen from the rest. -/
theorem blockAt?_succ (fence : Option Fence) (a : Annotations) (n : Nat) (line : Text)
    (rest : List Text) (i : Nat) :
    blockAt? fence a n (line :: rest) (i + 1) =
      blockAt? (Fence.step fence line).1 (a.step fence line) (n + 1) rest i := by
  rw [blockAt?, blockAt?, show n + 1 + i = n + (i + 1) by omega]
  rfl

/-- The lines of a block end at the line that closes it. -/
theorem fst_scan_some (f : Fence) (a : Annotations) (n : Nat) (ls : List Text) :
    (scan (some f) a n ls).1 = ls.takeWhile fun line => !f.closes line := by
  induction ls generalizing n with
  | nil => rfl
  | cons line rest ih =>
    cases h : f.closes line with
    | true => rw [scan_closing a n rest h, List.takeWhile_cons, h]; rfl
    | false => rw [scan_inside a n rest h, ih, List.takeWhile_cons, h]; rfl

/-- **The blocks of a scan stand at the places that open a fence.** -/
theorem snd_scan_eq (fence : Option Fence) (a : Annotations) (n : Nat) (ls : List Text) :
    (scan fence a n ls).2 = (List.range ls.length).filterMap (blockAt? fence a n ls) := by
  induction ls generalizing fence a n with
  | nil => rfl
  | cons line rest ih =>
    have hrest : ((List.range rest.length).map Nat.succ).filterMap (blockAt? fence a n (line :: rest)) =
        (scan (Fence.step fence line).1 (a.step fence line) (n + 1) rest).2 := by
      rw [List.filterMap_map, ih]
      exact List.filterMap_congr fun i _ => blockAt?_succ fence a n line rest i
    rw [List.length_cons, List.range_succ_eq_map, List.filterMap_cons, hrest]
    rcases Fence.line_cases fence line with
      ⟨f, rfl, h⟩ | ⟨f, rfl, h⟩ | ⟨f, rfl, h⟩ | ⟨rfl, h⟩
    · rw [scan_inside a n rest h, Fence.step_inside h, a.step_inside h]
      rfl
    · rw [scan_closing a n rest h, Fence.step_closing h, a.step_closing h]
      rfl
    · have hfirst : blockAt? none a n (line :: rest) 0 = some (opened f n a rest) := by
        simp [blockAt?, Fence.after, Annotations.after, h]
      rw [scan_opening a n rest h, fst_scan_some, hfirst, Fence.step_opening h, a.step_opening h]
      rfl
    · have hfirst : blockAt? none a n (line :: rest) 0 = none := by
        simp [blockAt?, h]
      rw [scan_outside a n rest h, hfirst, Fence.step_outside h, a.step_outside h]

end RawBlock

/-! ## Places of a text -/

/-- The fence that is open before the line at the place. -/
def fenceAt (ls : List Text) (i : Nat) : Option Fence :=
  Fence.after none ((ls.take i).drop (Frontmatter.split ls).2)

/-- The directives that wait before the line at the place. -/
def pendingAt (ls : List Text) (i : Nat) : Annotations :=
  Annotations.none.after none ((ls.take i).drop (Frontmatter.split ls).2)

/-- The block that is opened at the place. -/
def rawAt? (ls : List Text) (i : Nat) : Option RawBlock :=
  if (fenceAt ls i).isSome then none
  else (ls[i]? >>= Fence.opening?).map fun f =>
    RawBlock.opened f (i + 1) (pendingAt ls i) (ls.drop (i + 1))

/-- Outside of the frontmatter and of all fences, the line opens the fence. -/
structure OpensAt (ls : List Text) (f : Fence) (i : Nat) : Prop where
  start_le : (Frontmatter.split ls).2 ≤ i
  closed : fenceAt ls i = none
  opens : ∃ line, ls[i]? = some line ∧ Fence.opening? line = some f

theorem OpensAt.rawAt?_eq {ls : List Text} {f : Fence} {i : Nat} (h : OpensAt ls f i) :
    rawAt? ls i = some (RawBlock.opened f (i + 1) (pendingAt ls i) (ls.drop (i + 1))) := by
  obtain ⟨line, hline, hopens⟩ := h.opens
  simp [rawAt?, h.closed, hline, hopens]

theorem OpensAt.lt_length {ls : List Text} {f : Fence} {i : Nat} (h : OpensAt ls f i) :
    i < ls.length := by
  obtain ⟨line, hline, -⟩ := h.opens
  exact (List.getElem?_eq_some_iff.mp hline).1

theorem exists_opensAt_of_rawAt? {ls : List Text} {i : Nat} {raw : RawBlock}
    (hstart : (Frontmatter.split ls).2 ≤ i) (h : rawAt? ls i = some raw) : ∃ f, OpensAt ls f i := by
  rw [rawAt?] at h
  split at h
  · cases h
  · next hclosed =>
    obtain ⟨f, hf, -⟩ := Option.map_eq_some_iff.mp h
    exact ⟨f, hstart, Option.not_isSome_iff_eq_none.mp hclosed, Option.bind_eq_some_iff.mp hf⟩

section Places

variable {ls : List Text} {i j : Nat}

/-- What stands in front of a place stands in front of an earlier one or behind that. -/
theorem take_eq_append {α : Type} {l : List α} (hij : i ≤ j) :
    l.take j = l.take i ++ (l.take j).drop i := by
  conv_lhs => rw [← List.take_append_drop i (l.take j), List.take_take, Nat.min_eq_left hij]

/-- The lines of the body up to a place are those up to an earlier one and those between them. -/
theorem body_take (hi : (Frontmatter.split ls).2 ≤ i) (hij : i ≤ j) (hj : j ≤ ls.length) :
    (ls.take j).drop (Frontmatter.split ls).2 =
      (ls.take i).drop (Frontmatter.split ls).2 ++ (ls.take j).drop i := by
  conv_lhs => rw [take_eq_append hij]
  rw [List.drop_append_of_le_length]
  rw [List.length_take]
  omega

theorem fenceAt_eq_after (hi : (Frontmatter.split ls).2 ≤ i) (hij : i ≤ j) (hj : j ≤ ls.length) :
    fenceAt ls j = Fence.after (fenceAt ls i) ((ls.take j).drop i) := by
  rw [fenceAt, body_take hi hij hj, Fence.after_append]
  rfl

theorem pendingAt_eq_after (hi : (Frontmatter.split ls).2 ≤ i) (hij : i ≤ j) (hj : j ≤ ls.length) :
    pendingAt ls j = (pendingAt ls i).after (fenceAt ls i) ((ls.take j).drop i) := by
  rw [pendingAt, body_take hi hij hj, Annotations.after_append]
  rfl

/-- Behind the elements between two places stands the one at the second. -/
theorem drop_take_succ {α : Type} {l : List α} {x : α} {m : Nat} (him : i ≤ m) (h : l[m]? = some x) :
    (l.take (m + 1)).drop i = (l.take m).drop i ++ [x] := by
  have hm : m < l.length := (List.getElem?_eq_some_iff.mp h).1
  rw [List.take_add_one, h, Option.toList_some, List.drop_append_of_le_length]
  rw [List.length_take]
  omega

theorem fenceAt_succ {line : Text} (hi : (Frontmatter.split ls).2 ≤ i) (h : ls[i]? = some line) :
    fenceAt ls (i + 1) = (Fence.step (fenceAt ls i) line).1 := by
  have hlt := (List.getElem?_eq_some_iff.mp h).1
  rw [fenceAt_eq_after hi (Nat.le_succ i) hlt, drop_take_succ (Nat.le_refl i) h, List.drop_take_self]
  rfl

theorem pendingAt_succ {line : Text} (hi : (Frontmatter.split ls).2 ≤ i) (h : ls[i]? = some line) :
    pendingAt ls (i + 1) = (pendingAt ls i).step (fenceAt ls i) line := by
  have hlt := (List.getElem?_eq_some_iff.mp h).1
  rw [pendingAt_eq_after hi (Nat.le_succ i) hlt, drop_take_succ (Nat.le_refl i) h, List.drop_take_self]
  rfl

/-- A line is fenced by what is open before it. -/
theorem Fence.getElem?_fenced (fence : Option Fence) (ls : List Text) (i : Nat) :
    (Fence.fenced fence ls)[i]? = ls[i]?.map fun line =>
      (Fence.after fence (ls.take i)).isSome || (Fence.step (Fence.after fence (ls.take i)) line).2 := by
  induction ls generalizing fence i with
  | nil => rfl
  | cons line rest ih =>
    cases i with
    | zero => rfl
    | succ i => exact ih (Fence.step fence line).1 i

/-- Behind the frontmatter, a line is masked when it is fenced. -/
theorem getElem?_proseMask (hi : (Frontmatter.split ls).2 ≤ i) :
    (proseMask ls)[i]? = ls[i]?.map fun line =>
      (fenceAt ls i).isSome || (Fence.step (fenceAt ls i) line).2 := by
  have hplace : (Frontmatter.split ls).2 + (i - (Frontmatter.split ls).2) = i := by omega
  rw [proseMask, List.getElem?_append_right (by simpa using hi), List.length_replicate,
    Fence.getElem?_fenced, List.getElem?_drop, hplace, List.take_drop, hplace]
  rfl

/-- **A line is prose when it is none of the frontmatter, no fence is open before it, and it opens
none.** -/
theorem proseMask_eq_false_iff :
    (proseMask ls)[i]? = some false ↔
      (Frontmatter.split ls).2 ≤ i ∧ fenceAt ls i = none ∧
        ∃ line, ls[i]? = some line ∧ Fence.opening? line = none := by
  by_cases hi : (Frontmatter.split ls).2 ≤ i
  · rw [getElem?_proseMask hi]
    cases hline : ls[i]? with
    | none => simp
    | some line =>
      rcases Fence.line_cases (fenceAt ls i) line with
        ⟨f, hf, h⟩ | ⟨f, hf, h⟩ | ⟨f, hf, h⟩ | ⟨hf, h⟩
      · simp [hf]
      · simp [hf]
      · simp [hf, h, Fence.step_opening h]
      · simp [hf, h, Fence.step_outside h, hi]
  · rw [proseMask, List.getElem?_append_left (by simpa using hi), List.getElem?_replicate]
    simp [hi]

end Places

/-- **The blocks of a text, wherever they stand, by the places of its body.** -/
theorem snd_scan_body (ls : List Text) :
    (RawBlock.scan none Annotations.none ((Frontmatter.split ls).2 + 1)
        (ls.drop (Frontmatter.split ls).2)).2 =
      (List.range' (Frontmatter.split ls).2 (ls.length - (Frontmatter.split ls).2)).filterMap
        (rawAt? ls) := by
  rw [RawBlock.snd_scan_eq, List.length_drop, List.range'_eq_map_range, List.filterMap_map]
  refine List.filterMap_congr fun k _ => ?_
  rw [RawBlock.blockAt?, Function.comp_apply, rawAt?, fenceAt, pendingAt, List.take_drop,
    List.getElem?_drop, List.drop_drop, Nat.add_right_comm, Nat.add_assoc]

/-! ## Where blocks end -/

/-- The place `j` is that of the first line behind `i` that closes the fence, or the end. -/
structure EndsAt (ls : List Text) (f : Fence) (i j : Nat) : Prop where
  lt : i < j
  le : j ≤ ls.length
  inside : ∀ k line, i < k → k < j → ls[k]? = some line → f.closes line = false
  at_end : j = ls.length ∨ ∃ line, ls[j]? = some line ∧ f.closes line = true

/-- Without a line that closes it, a fence stays open. -/
theorem Fence.after_of_not_closes {f : Fence} :
    ∀ {ls : List Text}, (∀ line ∈ ls, f.closes line = false) → Fence.after (some f) ls = some f
  | [], _ => rfl
  | line :: rest, h => by
    rw [Fence.after_cons, Fence.step_inside (h line List.mem_cons_self),
      Fence.after_of_not_closes fun l hl => h l (List.mem_cons_of_mem line hl)]

section Ends

variable {ls : List Text} {f : Fence} {i j stop : Nat}

/-- An element between two places. -/
theorem mem_drop_take_iff {α : Type} {l : List α} {x : α} :
    x ∈ (l.take j).drop i ↔ ∃ k, i ≤ k ∧ k < j ∧ l[k]? = some x := by
  rw [List.mem_iff_getElem?]
  constructor
  · rintro ⟨k, hk⟩
    rw [List.getElem?_drop, List.getElem?_take] at hk
    split at hk
    · next hlt => exact ⟨i + k, Nat.le_add_right i k, hlt, hk⟩
    · cases hk
  · rintro ⟨k, hik, hkj, hk⟩
    refine ⟨k - i, ?_⟩
    rw [List.getElem?_drop, Nat.add_sub_cancel' hik, List.getElem?_take_of_lt hkj, hk]

/-- A fence is closed by the first line that does. -/
theorem EndsAt.of_closes {line : Text} (hij : i < j) (hinside : ∀ l ∈ (ls.take j).drop (i + 1), f.closes l = false)
    (hline : ls[j]? = some line) (hcloses : f.closes line = true) : EndsAt ls f i j where
  lt := hij
  le := Nat.le_of_lt (List.getElem?_eq_some_iff.mp hline).1
  inside k l hik hkj hk := hinside l (mem_drop_take_iff.mpr ⟨k, hik, hkj, hk⟩)
  at_end := Or.inr ⟨line, hline, hcloses⟩

/-- **The lines up to the end of a block are those before the first one that closes it.** -/
theorem exists_endsAt (f : Fence) (hi : i < ls.length) :
    ∃ j, EndsAt ls f i j ∧
      (ls.drop (i + 1)).takeWhile (fun line => !f.closes line) = (ls.take j).drop (i + 1) := by
  have hsplit := List.takeWhile_append_dropWhile (p := fun line => !f.closes line)
    (l := ls.drop (i + 1))
  generalize hbody : (ls.drop (i + 1)).takeWhile (fun line => !f.closes line) = body at hsplit
  generalize hrest : (ls.drop (i + 1)).dropWhile (fun line => !f.closes line) = rest at hsplit
  have hlength := congrArg List.length hsplit
  rw [List.length_append, List.length_drop] at hlength
  have htake : body = (ls.take (i + 1 + body.length)).drop (i + 1) := by
    rw [List.drop_take, Nat.add_sub_cancel_left, ← hsplit, List.take_left]
  refine ⟨i + 1 + body.length, ⟨by omega, by omega, fun k line hik hkj hline => ?_, ?_⟩, htake⟩
  · have hmem := mem_drop_take_iff.mpr ⟨k, hik, hkj, hline⟩
    rw [← htake, ← hbody] at hmem
    simpa using List.mem_takeWhile_imp hmem
  · cases rest with
    | nil => exact Or.inl (by rw [List.length_nil] at hlength; omega)
    | cons line rest =>
      have hnot := List.head?_dropWhile_not (fun line => !f.closes line) (ls.drop (i + 1))
      rw [hrest] at hnot
      refine Or.inr ⟨line, ?_, by simpa using hnot⟩
      rw [← List.getElem?_drop, ← hsplit, List.getElem?_append_right (Nat.le_refl _), Nat.sub_self]
      rfl

/-- A block has one end. -/
theorem EndsAt.unique {j' : Nat} (h : EndsAt ls f i j) (h' : EndsAt ls f i j') : j = j' := by
  have hle : ∀ {j j'}, EndsAt ls f i j → EndsAt ls f i j' → j ≤ j' := fun {j j'} h h' => by
    rcases h'.at_end with hlength | ⟨line, hline, hcloses⟩
    · exact hlength ▸ h.le
    · by_contra hlt
      rw [h.inside j' line h'.lt (Nat.lt_of_not_le hlt) hline] at hcloses
      cases hcloses
  exact Nat.le_antisymm (hle h h') (hle h' h)

/-- A block ends before a place at which no fence is open. -/
theorem EndsAt.le_of_closed (hends : EndsAt ls f i j) (hopens : OpensAt ls f i) (hi : i < stop)
    (hstop : stop ≤ ls.length) (hclosed : stop = ls.length ∨ fenceAt ls stop = none) : j ≤ stop := by
  rcases hclosed with rfl | hclosed
  · exact hends.le
  by_contra hlt
  obtain ⟨line, hline, hopen⟩ := hopens.opens
  -- all lines up to `stop` would stand inside of the block
  have hinside : ∀ l ∈ (ls.take stop).drop (i + 1), f.closes l = false := fun l hl => by
    obtain ⟨k, hik, hks, hk⟩ := mem_drop_take_iff.mp hl
    exact hends.inside k l hik (by omega) hk
  rw [fenceAt_eq_after (Nat.le_succ_of_le hopens.start_le) hi hstop,
    fenceAt_succ hopens.start_le hline, hopens.closed, Fence.step_opening hopen,
    Fence.after_of_not_closes hinside] at hclosed
  cases hclosed

/-- What stands behind the end does not matter for the lines of a block. -/
theorem takeWhile_drop_take (hopens : OpensAt ls f i) (hi : i < stop) (hstop : stop ≤ ls.length)
    (hclosed : stop = ls.length ∨ fenceAt ls stop = none) :
    ((ls.take stop).drop (i + 1)).takeWhile (fun line => !f.closes line) =
      (ls.drop (i + 1)).takeWhile fun line => !f.closes line := by
  obtain ⟨j, hends, htake⟩ := exists_endsAt f hopens.lt_length
  have hj := hends.le_of_closed hopens hi hstop hclosed
  rw [List.drop_take, ← List.take_takeWhile, htake]
  refine List.take_of_length_le ?_
  rw [List.length_drop, List.length_take]
  omega

end Ends

/-! ## Sections -/

namespace Section

/-- The fenced blocks under the heading, with their directives. -/
def raws (s : Section) : List RawBlock :=
  (RawBlock.scan none Annotations.none (s.startLine + 1) s.body).2

theorem blocks_eq (s : Section) : s.blocks = CodeBlock.attach s.raws := rfl

/-- The section stands in the text: its heading is prose, and its lines are those up to `stop`, where
the next heading or the end is. -/
structure IsIn (s : Section) (ls : List Text) (stop : Nat) : Prop where
  heading : ∃ i line, s.startLine = i + 1 ∧ (proseMask ls)[i]? = some false ∧ ls[i]? = some line ∧
    isHeading line = true
  body_eq : s.body = (ls.take stop).drop s.startLine
  le_stop : s.startLine ≤ stop
  stop_le : stop ≤ ls.length
  at_stop : stop = ls.length ∨ (proseMask ls)[stop]? = some false

namespace IsIn

variable {s : Section} {ls : List Text} {stop i : Nat}

/-- Behind the heading no fence is open and no directive waits. -/
theorem start (h : s.IsIn ls stop) :
    (Frontmatter.split ls).2 ≤ s.startLine ∧ fenceAt ls s.startLine = none ∧
      pendingAt ls s.startLine = Annotations.none := by
  obtain ⟨i, line, hi, hprose, hline, hheading⟩ := h.heading
  obtain ⟨hstart, hfence, line', hline', hopens⟩ := proseMask_eq_false_iff.mp hprose
  rw [hline, Option.some.injEq] at hline'
  subst hline'
  rw [hi, fenceAt_succ hstart hline, pendingAt_succ hstart hline, hfence, Fence.step_outside hopens,
    Annotations.step_outside _ hopens, Annotations.afterLine_of_isHeading hheading]
  exact ⟨by omega, rfl, rfl⟩

/-- What is open and what waits before a place of the section, seen from its own lines. -/
theorem fenceAt_eq (h : s.IsIn ls stop) (hi : s.startLine ≤ i) (his : i ≤ stop) :
    fenceAt ls i = Fence.after none (s.body.take (i - s.startLine)) ∧
      pendingAt ls i = Annotations.none.after none (s.body.take (i - s.startLine)) := by
  obtain ⟨hstart, hfence, hpending⟩ := h.start
  have hlen := Nat.le_trans his h.stop_le
  have hbody : s.body.take (i - s.startLine) = (ls.take i).drop s.startLine := by
    rw [h.body_eq, List.take_drop, List.take_take, Nat.add_sub_cancel' hi, Nat.min_eq_left his]
  rw [hbody, fenceAt_eq_after hstart hi hlen, pendingAt_eq_after hstart hi hlen, hfence, hpending]
  exact ⟨rfl, rfl⟩

/-- A line of the section, by its number. -/
theorem getElem?_body (h : s.IsIn ls stop) (hi : s.startLine ≤ i) (his : i < stop) :
    s.body[i - s.startLine]? = ls[i]? := by
  rw [h.body_eq, List.getElem?_drop, Nat.add_sub_cancel' hi, List.getElem?_take_of_lt his]

/-- **A scan that starts anew behind the heading finds a line fenced as the text has it.** -/
theorem getElem?_fenced (h : s.IsIn ls stop) (hi : s.startLine ≤ i) (his : i < stop) :
    (Fence.fenced none s.body)[i - s.startLine]? = (proseMask ls)[i]? := by
  rw [Fence.getElem?_fenced, h.getElem?_body hi his, ← (h.fenceAt_eq hi his.le).1,
    getElem?_proseMask (h.start.1.trans hi)]

/-- No fence is open behind a section, unless the text ends there. -/
theorem closed_at_stop (h : s.IsIn ls stop) : stop = ls.length ∨ fenceAt ls stop = none :=
  h.at_stop.imp_right fun hprose => (proseMask_eq_false_iff.mp hprose).2.1

/-- What the scan of the section opens is what the text opens at the same place. -/
theorem blockAt?_eq (h : s.IsIn ls stop) {k : Nat} (hk : s.startLine + k < stop) :
    RawBlock.blockAt? none Annotations.none (s.startLine + 1) s.body k =
      rawAt? ls (s.startLine + k) := by
  obtain ⟨hfence, hpending⟩ := h.fenceAt_eq (Nat.le_add_right s.startLine k) (Nat.le_of_lt hk)
  rw [Nat.add_sub_cancel_left] at hfence hpending
  rw [RawBlock.blockAt?, rawAt?, ← hfence, ← hpending]
  split
  · rfl
  · next hclosed =>
    have hline : s.body[k]? = ls[s.startLine + k]? := by
      rw [h.body_eq, List.getElem?_drop, List.getElem?_take_of_lt hk]
    rw [hline]
    refine Option.map_congr fun f hf => ?_
    have hopens : OpensAt ls f (s.startLine + k) :=
      ⟨Nat.le_trans h.start.1 (Nat.le_add_right _ _), Option.not_isSome_iff_eq_none.mp hclosed,
        Option.bind_eq_some_iff.mp hf⟩
    have hrest : s.body.drop (k + 1) = (ls.take stop).drop (s.startLine + k + 1) := by
      rw [h.body_eq, List.drop_drop, Nat.add_assoc]
    rw [RawBlock.opened, RawBlock.opened, hrest,
      takeWhile_drop_take hopens hk h.stop_le h.closed_at_stop, Nat.add_right_comm]

/-- **The blocks of a section are those of the text at its places.** -/
theorem raws_eq (h : s.IsIn ls stop) :
    s.raws = (List.range' s.startLine (stop - s.startLine)).filterMap (rawAt? ls) := by
  have hlength : s.body.length = stop - s.startLine := by
    rw [h.body_eq, List.length_drop, List.length_take, Nat.min_eq_left h.stop_le]
  rw [raws, RawBlock.snd_scan_eq, hlength, List.range'_eq_map_range, List.filterMap_map]
  refine List.filterMap_congr fun k hk => h.blockAt?_eq ?_
  have := List.mem_range.mp hk
  omega

end IsIn

/-- A heading that is prose makes a section, up to a place that is prose or the end. -/
theorem isIn_sectionAt {ls : List Text} {line : Text} {i stop : Nat}
    (hprose : (proseMask ls)[i]? = some false) (hline : ls[i]? = some line)
    (hheading : isHeading line = true) (hi : i < stop) (hstop : stop ≤ ls.length)
    (hat : stop = ls.length ∨ (proseMask ls)[stop]? = some false) :
    (sectionAt 1 ls i stop).IsIn ls stop := by
  have hstart : (sectionAt 1 ls i stop).startLine = i + 1 := Nat.add_comm 1 i
  refine ⟨⟨i, line, hstart, hprose, hline, hheading⟩, ?_, ?_, hstop, hat⟩
  · rw [hstart]
    rfl
  · rw [hstart]
    exact hi

end Section

namespace Document

/-- How many lines there are up to the heading behind the section at the place `k`, or to the end. -/
def stopAfter (d : Document) (k : Nat) : Nat :=
  (d.sections[k + 1]?.map fun next => next.startLine - 1).getD d.lineCount

/-- **The sections of a document stand in its text.** -/
theorem isIn_of_read {path : Path} {text : Text} {d : Document} {k : Nat} {s : Section}
    (h : Document.read path text = .ok d) (hs : d.sections[k]? = some s) :
    s.IsIn (lines text) (d.stopAfter k) := by
  obtain ⟨record, hrecord, -⟩ := read_ok_iff.mp h
  rw [read_eq hrecord] at h
  cases h
  have hsorted := pairwise_placesOf (proseMask (lines text)) isHeading (lines text)
  have hmem : ∀ {m i : Nat}, (placesOf (proseMask (lines text)) isHeading (lines text))[m]? = some i →
      (proseMask (lines text))[i]? = some false ∧
        ∃ line, (lines text)[i]? = some line ∧ isHeading line = true := fun hm =>
    mem_placesOf_iff.mp (List.mem_of_getElem? hm)
  rw [getElem?_sectionsAt] at hs
  rw [stopAfter, getElem?_sectionsAt, Option.map_map]
  generalize placesOf (proseMask (lines text)) isHeading (lines text) = places at hs hsorted hmem ⊢
  obtain ⟨i, hi, rfl⟩ := Option.map_eq_some_iff.mp hs
  obtain ⟨hprose, line, hline, hheading⟩ := hmem hi
  cases hnext : places[k + 1]? with
  | none =>
    exact Section.isIn_sectionAt hprose hline hheading (List.getElem?_eq_some_iff.mp hline).1
      (Nat.le_refl _) (Or.inl rfl)
  | some j =>
    obtain ⟨hprose', line', hline', -⟩ := hmem hnext
    have hij : i < j := by
      obtain ⟨hk, rfl⟩ := List.getElem?_eq_some_iff.mp hi
      obtain ⟨hk', rfl⟩ := List.getElem?_eq_some_iff.mp hnext
      exact List.pairwise_iff_getElem.mp hsorted k (k + 1) hk hk' (Nat.lt_succ_self k)
    have hstop : (sectionAt 1 (lines text) j (places[k + 1 + 1]?.getD (lines text).length)).startLine - 1
        = j := Nat.add_sub_cancel_left 1 j
    rw [Option.map_some, Function.comp_apply, hstop]
    exact Section.isIn_sectionAt hprose hline hheading hij
      (Nat.le_of_lt (List.getElem?_eq_some_iff.mp hline').1) (Or.inr hprose')

end Document

end DocAudit
