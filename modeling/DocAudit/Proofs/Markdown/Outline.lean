import DocAudit.Markdown.Document
import DocAudit.Markdown.Mask
import DocAudit.Proofs.Markdown.Frontmatter

/-!
# Headings by their places

The reader of documents goes through the lines once and carries the open fence along. The mask of prose
says for every place whether a line counts. Both agree: the sections are the headings at the unmasked
places, and each holds the lines up to the next one.

## Contents

* `placesOf`: the places of the lines that count and satisfy something
* `Document.outline_eq`, `Document.firstTitle?_eq`: the scans of the reader, by places
* `Document.read_outline`: **title and sections of a text are those of its prose**
-/

namespace DocAudit

open Text

/-! ## Places -/

/-- The places of the lines that are not masked and satisfy `p`. -/
def placesOf (mask : List Bool) (p : Text → Bool) (ls : List Text) : List Nat :=
  (List.range ls.length).filter fun i => mask[i]? == some false && ls[i]?.any p

theorem placesOf_nil (mask : List Bool) (p : Text → Bool) : placesOf mask p [] = [] := rfl

/-- The first line, and the places behind it. -/
theorem placesOf_cons (masked : Bool) (mask : List Bool) (p : Text → Bool) (line : Text)
    (rest : List Text) :
    placesOf (masked :: mask) p (line :: rest) =
      if !masked && p line then 0 :: (placesOf mask p rest).map (· + 1)
      else (placesOf mask p rest).map (· + 1) := by
  have hrest : (List.range rest.length).filter
      ((fun i => (masked :: mask)[i]? == some false && (line :: rest)[i]?.any p) ∘ Nat.succ) =
        placesOf mask p rest := rfl
  change (List.range (rest.length + 1)).filter _ = _
  rw [List.range_succ_eq_map, List.filter_cons, List.filter_map, hrest]
  cases masked with
  | false => simp
  | true => simp

theorem mem_placesOf_iff {mask : List Bool} {p : Text → Bool} {ls : List Text} {i : Nat} :
    i ∈ placesOf mask p ls ↔ mask[i]? = some false ∧ ∃ line, ls[i]? = some line ∧ p line = true := by
  unfold placesOf
  rw [List.mem_filter, List.mem_range, Bool.and_eq_true, beq_iff_eq, Option.any_eq_true]
  constructor
  · rintro ⟨-, hm, hp⟩
    exact ⟨hm, hp⟩
  · rintro ⟨hm, line, hl, hp⟩
    obtain ⟨hi, -⟩ := List.getElem?_eq_some_iff.mp hl
    exact ⟨hi, hm, line, hl, hp⟩

theorem pairwise_placesOf (mask : List Bool) (p : Text → Bool) (ls : List Text) :
    (placesOf mask p ls).Pairwise (· < ·) :=
  List.pairwise_lt_range.filter _

/-- No place comes before the first one. -/
theorem not_mem_of_lt_head {places : List Nat} {i j : Nat} (hp : places.Pairwise (· < ·))
    (hi : places.head? = some i) (hj : j < i) : j ∉ places := by
  obtain ⟨rest, rfl⟩ := List.head?_eq_some_iff.mp hi
  intro hm
  rcases List.mem_cons.mp hm with rfl | hm
  · exact Nat.lt_irrefl j hj
  · exact Nat.lt_asymm hj (List.rel_of_pairwise_cons hp hm)

/-- Masked lines at the start only move the places. -/
theorem placesOf_replicate_append (mask : List Bool) (p : Text → Bool) :
    ∀ {k : Nat} {ls : List Text}, k ≤ ls.length →
      placesOf (List.replicate k true ++ mask) p ls = (placesOf mask p (ls.drop k)).map (· + k)
  | 0, ls, _ => by simp
  | k + 1, [], h => by simp at h
  | k + 1, line :: rest, h => by
    rw [List.replicate_succ, List.cons_append, placesOf_cons,
      placesOf_replicate_append mask p (Nat.le_of_succ_le_succ h), List.drop_succ_cons]
    simp [Nat.add_assoc]

/-- The places in more lines are those in the first ones and, behind them, those in the others. -/
theorem placesOf_append {m₁ m₂ : List Bool} {p : Text → Bool} :
    ∀ {xs ys : List Text}, m₁.length = xs.length →
      placesOf (m₁ ++ m₂) p (xs ++ ys) =
        placesOf m₁ p xs ++ (placesOf m₂ p ys).map (· + xs.length) := by
  induction m₁ with
  | nil =>
    intro xs ys h
    rw [List.eq_nil_of_length_eq_zero h.symm]
    simp [placesOf_nil]
  | cons masked m₁ ih =>
    intro xs ys h
    obtain ⟨line, rest, rfl⟩ := List.exists_cons_of_length_eq_add_one h.symm
    rw [List.cons_append, List.cons_append, placesOf_cons, placesOf_cons,
      ih (Nat.succ.inj h), List.length_cons]
    split <;> simp [Nat.add_assoc]

/-! ## Sections by their places -/

/-- The line is a heading of the second level. -/
def isHeading (line : Text) : Bool := ['#', '#', ' '].isPrefixOf (strip line)

/-- The line is a heading of the first level. -/
def isTitle (line : Text) : Bool := ['#', ' '].isPrefixOf (strip line)

/-- The section whose heading stands at the place `i`, up to the place `stop`. The first line has the
number `n`. -/
def sectionAt (n : Nat) (ls : List Text) (i stop : Nat) : Section where
  name := strip ((strip (ls.getD i [])).drop 3)
  startLine := n + i
  body := (ls.take stop).drop (i + 1)

/-- The sections whose headings stand at the places, each up to the next place. -/
def sectionsAt (n : Nat) (ls : List Text) : List Nat → List Section
  | [] => []
  | i :: rest => sectionAt n ls i (rest.headD ls.length) :: sectionsAt n ls rest

theorem sectionsAt_cons (n : Nat) (ls : List Text) (i : Nat) (rest : List Nat) :
    sectionsAt n ls (i :: rest) = sectionAt n ls i (rest.headD ls.length) :: sectionsAt n ls rest := rfl

/-- Lines at the start only move the places. -/
theorem sectionAt_drop (n k : Nat) (ls : List Text) (i stop : Nat) :
    sectionAt n ls (i + k) (stop + k) = sectionAt (n + k) (ls.drop k) i stop := by
  simp only [sectionAt, List.getD_eq_getElem?_getD, List.getElem?_drop, List.take_drop,
    List.drop_drop, Section.mk.injEq]
  refine ⟨by rw [Nat.add_comm], by omega, ?_⟩
  rw [Nat.add_comm k stop, show i + k + 1 = k + (i + 1) by omega]

theorem sectionsAt_drop {n k : Nat} {ls : List Text} (h : k ≤ ls.length) :
    ∀ places : List Nat,
      sectionsAt n ls (places.map (· + k)) = sectionsAt (n + k) (ls.drop k) places
  | [] => rfl
  | i :: rest => by
    have hstop : (rest.map (· + k)).headD ls.length = rest.headD (ls.drop k).length + k := by
      cases rest with
      | nil => simp only [List.map_nil, List.headD_nil, List.length_drop]; omega
      | cons j rest => rfl
    rw [List.map_cons, sectionsAt_cons, sectionsAt_cons, hstop, sectionAt_drop, sectionsAt_drop h rest]

theorem length_sectionsAt (n : Nat) (ls : List Text) :
    ∀ places : List Nat, (sectionsAt n ls places).length = places.length
  | [] => rfl
  | _ :: rest => by rw [sectionsAt_cons, List.length_cons, length_sectionsAt n ls rest, List.length_cons]

theorem map_startLine_sectionsAt (n : Nat) (ls : List Text) :
    ∀ places : List Nat, (sectionsAt n ls places).map (·.startLine) = places.map (n + ·)
  | [] => rfl
  | i :: rest => by
    rw [sectionsAt_cons, List.map_cons, map_startLine_sectionsAt n ls rest]
    rfl

theorem pairwise_sectionsAt (n : Nat) (ls : List Text) {places : List Nat} (h : places.Pairwise (· < ·)) :
    (sectionsAt n ls places).Pairwise (·.startLine < ·.startLine) := by
  rw [← List.pairwise_map (f := Section.startLine), map_startLine_sectionsAt, List.pairwise_map]
  exact h.imp fun hij => Nat.add_lt_add_left hij n

/-- The section of a place reaches to the next place, or to the end. -/
theorem getElem?_sectionsAt (n : Nat) (ls : List Text) : ∀ (places : List Nat) (k : Nat),
    (sectionsAt n ls places)[k]? =
      places[k]?.map fun i => sectionAt n ls i (places[k + 1]?.getD ls.length)
  | [], _ => rfl
  | i :: rest, 0 => by
    cases rest with
    | nil => rfl
    | cons j rest => rfl
  | _ :: rest, k + 1 => by
    rw [sectionsAt_cons, List.getElem?_cons_succ, getElem?_sectionsAt n ls rest k]
    rfl

namespace Document

theorem heading?_eq (line : Text) :
    heading? line = if isHeading line then some (strip ((strip line).drop 3)) else none := rfl

/-- One line of the scan for sections. -/
theorem outline_cons (fence : Option Fence) (n : Nat) (line : Text) (rest : List Text) :
    outline fence n (line :: rest) =
      if !(fence.isSome || (Fence.step fence line).2) && isHeading line then
        ([], { name := strip ((strip line).drop 3), startLine := n,
               body := (outline (Fence.step fence line).1 (n + 1) rest).1 } ::
          (outline (Fence.step fence line).1 (n + 1) rest).2)
      else
        (line :: (outline (Fence.step fence line).1 (n + 1) rest).1,
          (outline (Fence.step fence line).1 (n + 1) rest).2) := by
  rw [outline, heading?_eq]
  cases hm : fence.isSome || (Fence.step fence line).2 with
  | true => simp [hm]
  | false =>
    cases hh : isHeading line with
    | true => simp [hm]
    | false => simp [hm]

/-- One line of the scan for the title. -/
theorem firstTitle?_cons (fence : Option Fence) (line : Text) (rest : List Text) :
    firstTitle? fence (line :: rest) =
      if !(fence.isSome || (Fence.step fence line).2) && isTitle line then
        some (strip ((strip line).drop 2))
      else firstTitle? (Fence.step fence line).1 rest := by
  have htitle : title? line =
      if isTitle line then some (strip ((strip line).drop 2)) else none := rfl
  rw [firstTitle?, htitle]
  cases hm : fence.isSome || (Fence.step fence line).2 with
  | true => simp [hm]
  | false =>
    cases ht : isTitle line with
    | true => simp [hm]
    | false => simp [hm]

/-- **The scan for sections finds the headings that are not fenced.** -/
theorem outline_eq (fence : Option Fence) (n : Nat) (ls : List Text) :
    outline fence n ls =
      (ls.take ((placesOf (Fence.fenced fence ls) isHeading ls).headD ls.length),
        sectionsAt n ls (placesOf (Fence.fenced fence ls) isHeading ls)) := by
  induction ls generalizing fence n with
  | nil => rfl
  | cons line rest ih =>
    -- in the rest, each place is one less and each number one more
    rw [outline_cons, Fence.fenced, placesOf_cons, ih]
    generalize placesOf (Fence.fenced (Fence.step fence line).1 rest) isHeading rest = places
    have hmoved : sectionsAt n (line :: rest) (places.map (· + 1)) = sectionsAt (n + 1) rest places :=
      sectionsAt_drop (by simp) places
    have hstop : (places.map (· + 1)).headD (line :: rest).length = places.headD rest.length + 1 := by
      cases places with
      | nil => rfl
      | cons i places => rfl
    split
    · rw [sectionsAt_cons, hmoved, hstop]
      rfl
    · rw [hmoved, hstop, List.take_succ_cons]

/-- **The scan for the title finds the first one that is not fenced.** -/
theorem firstTitle?_eq (fence : Option Fence) (ls : List Text) :
    firstTitle? fence ls = (placesOf (Fence.fenced fence ls) isTitle ls).head?.map fun i =>
      strip ((strip (ls.getD i [])).drop 2) := by
  induction ls generalizing fence with
  | nil => rfl
  | cons line rest ih =>
    rw [firstTitle?_cons, Fence.fenced, placesOf_cons, ih]
    split
    · rfl
    · rw [List.head?_map, Option.map_map]
      rfl

end Document

/-! ## Whole documents -/

/-- The places of prose are those of the body, behind the frontmatter. -/
theorem placesOf_proseMask (p : Text → Bool) (ls : List Text) :
    placesOf (proseMask ls) p ls =
      (placesOf (Fence.fenced none (ls.drop (Frontmatter.split ls).2)) p
        (ls.drop (Frontmatter.split ls).2)).map (· + (Frontmatter.split ls).2) :=
  placesOf_replicate_append _ p (Frontmatter.split_le ls)

namespace Document

/-- **A text is a document when its frontmatter can be read.** -/
theorem read_ok_iff {path : Path} {text : Text} {d : Document} :
    Document.read path text = .ok d ↔
      ∃ record, (Frontmatter.split (lines text)).1.mapM Frontmatter.read = .ok record ∧
        d = { path, title := firstTitle? none ((lines text).drop (Frontmatter.split (lines text)).2),
              sections := (outline none ((Frontmatter.split (lines text)).2 + 1)
                ((lines text).drop (Frontmatter.split (lines text)).2)).2,
              lineCount := (lines text).length, frontmatter := record } := by
  have hread : Document.read path text = (do
      let frontmatter ← (Frontmatter.split (lines text)).1.mapM Frontmatter.read
      return { path, title := firstTitle? none ((lines text).drop (Frontmatter.split (lines text)).2),
               sections := (outline none ((Frontmatter.split (lines text)).2 + 1)
                 ((lines text).drop (Frontmatter.split (lines text)).2)).2,
               lineCount := (lines text).length, frontmatter }) := rfl
  rw [hread]
  cases (Frontmatter.split (lines text)).1.mapM Frontmatter.read with
  | error fault =>
    constructor
    · intro h
      cases h
    · rintro ⟨record, hrecord, -⟩
      cases hrecord
  | ok record =>
    constructor
    · intro h
      cases h
      exact ⟨record, rfl, rfl⟩
    · rintro ⟨_, hrecord, rfl⟩
      cases hrecord
      rfl

theorem parts_of_read {path : Path} {text : Text} {d : Document} (h : Document.read path text = .ok d) :
    d.title = firstTitle? none ((lines text).drop (Frontmatter.split (lines text)).2) ∧
      d.sections = (outline none ((Frontmatter.split (lines text)).2 + 1)
        ((lines text).drop (Frontmatter.split (lines text)).2)).2 ∧
      d.lineCount = (lines text).length ∧
      (Frontmatter.split (lines text)).1.mapM Frontmatter.read = .ok d.frontmatter := by
  obtain ⟨_, hrecord, rfl⟩ := read_ok_iff.mp h
  exact ⟨rfl, rfl, rfl, hrecord⟩

/-- The document of a text whose frontmatter can be read, by the places of its headings. -/
theorem read_eq {path : Path} {text : Text} {record : Option Record}
    (h : (Frontmatter.split (lines text)).1.mapM Frontmatter.read = .ok record) :
    Document.read path text = .ok
      { path, title := (placesOf (proseMask (lines text)) isTitle (lines text)).head?.map fun i =>
          strip ((strip ((lines text).getD i [])).drop 2),
        sections := sectionsAt 1 (lines text) (placesOf (proseMask (lines text)) isHeading (lines text)),
        lineCount := (lines text).length, frontmatter := record } := by
  have htitle : ∀ i, (lines text).getD (i + (Frontmatter.split (lines text)).2) [] =
      ((lines text).drop (Frontmatter.split (lines text)).2).getD i [] := by
    intro i
    rw [List.getD_eq_getElem?_getD, List.getD_eq_getElem?_getD, List.getElem?_drop, Nat.add_comm]
  rw [read_ok_iff.mpr ⟨record, h, rfl⟩, placesOf_proseMask, placesOf_proseMask, firstTitle?_eq,
    outline_eq, sectionsAt_drop (Frontmatter.split_le _), List.head?_map, Option.map_map]
  simp only [Function.comp_def, htitle, Nat.add_comm 1]

/-- A line that is prose stands at the place, and its trimmed text starts with the mark. -/
def MarkedAt (mark : Text) (ls : List Text) (i : Nat) (line : Text) : Prop :=
  (proseMask ls)[i]? = some false ∧ ls[i]? = some line ∧ mark <+: strip line

theorem mem_headingPlaces_iff {ls : List Text} {i : Nat} :
    i ∈ placesOf (proseMask ls) isHeading ls ↔ ∃ line, MarkedAt ['#', '#', ' '] ls i line := by
  simp only [mem_placesOf_iff, isHeading, List.isPrefixOf_iff_prefix, MarkedAt, exists_and_left]

theorem mem_titlePlaces_iff {ls : List Text} {i : Nat} :
    i ∈ placesOf (proseMask ls) isTitle ls ↔ ∃ line, MarkedAt ['#', ' '] ls i line := by
  simp only [mem_placesOf_iff, isTitle, List.isPrefixOf_iff_prefix, MarkedAt, exists_and_left]

/-- The section at a place begins with the heading there. -/
theorem sectionAt_of_markedAt {ls : List Text} {i stop : Nat} {line : Text}
    (hline : MarkedAt ['#', '#', ' '] ls i line) :
    (sectionAt 1 ls i stop).startLine = i + 1 ∧
      (sectionAt 1 ls i stop).name = strip ((strip line).drop 3) := by
  refine ⟨Nat.add_comm 1 i, ?_⟩
  show strip ((strip (ls.getD i [])).drop 3) = _
  rw [List.getD_eq_getElem?_getD, hline.2.1]
  rfl

/-- **Each section of a document begins with a heading of the text, and is named after it.** -/
theorem exists_markedAt {path : Path} {text : Text} {d : Document} {s : Section}
    (h : Document.read path text = .ok d) (hs : s ∈ d.sections) :
    ∃ i line, MarkedAt ['#', '#', ' '] (lines text) i line ∧ s.startLine = i + 1 ∧
      s.name = strip ((strip line).drop 3) := by
  obtain ⟨record, hrecord, -⟩ := read_ok_iff.mp h
  rw [read_eq hrecord] at h
  cases h
  obtain ⟨k, hk⟩ := List.mem_iff_getElem?.mp hs
  rw [getElem?_sectionsAt] at hk
  obtain ⟨i, hi, rfl⟩ := Option.map_eq_some_iff.mp hk
  obtain ⟨line, hline⟩ := mem_headingPlaces_iff.mp (List.mem_of_getElem? hi)
  exact ⟨i, line, hline, sectionAt_of_markedAt hline⟩

/--
**Title and sections of a text are those of its prose.**

The sections stand in the order of the prose lines that start with `## `, one for each. A section holds
the lines between its heading and the next one, or the end. The title is that of the first prose line
that starts with `# `.
-/
theorem read_outline (path : Path) {text : Text} {record : Option Record}
    (h : (Frontmatter.split (lines text)).1.mapM Frontmatter.read = .ok record) :
    ∃ (d : Document) (places : List Nat), Document.read path text = .ok d ∧
      -- the places of the headings
      places.Pairwise (· < ·) ∧
      (∀ i, i ∈ places ↔ ∃ line, MarkedAt ['#', '#', ' '] (lines text) i line) ∧
      -- the sections at these places
      d.sections.length = places.length ∧
      (∀ k i s, places[k]? = some i → d.sections[k]? = some s →
        ∃ line, MarkedAt ['#', '#', ' '] (lines text) i line ∧
          s.startLine = i + 1 ∧ s.name = strip ((strip line).drop 3) ∧
          s.content = joinWith ['\n']
            (((lines text).take (places[k + 1]?.getD (lines text).length)).drop (i + 1))) ∧
      d.sections.Pairwise (·.startLine < ·.startLine) ∧
      -- the title
      ((d.title = none ∧ ∀ i line, ¬ MarkedAt ['#', ' '] (lines text) i line) ∨
        ∃ i line, MarkedAt ['#', ' '] (lines text) i line ∧
          (∀ j < i, ∀ earlier, ¬ MarkedAt ['#', ' '] (lines text) j earlier) ∧
          d.title = some (strip ((strip line).drop 2))) := by
  refine ⟨_, placesOf (proseMask (lines text)) isHeading (lines text), read_eq h,
    pairwise_placesOf _ _ _, fun _ => mem_headingPlaces_iff, length_sectionsAt _ _ _, ?_, ?_, ?_⟩
  · intro k i s hi hs
    obtain ⟨line, hline⟩ := mem_headingPlaces_iff.mp (List.mem_of_getElem? hi)
    rw [getElem?_sectionsAt, hi] at hs
    cases hs
    refine ⟨line, hline, Nat.add_comm 1 i, ?_, rfl⟩
    show strip ((strip ((lines text).getD i [])).drop 3) = _
    rw [List.getD_eq_getElem?_getD, hline.2.1]
    rfl
  · have hplaces := pairwise_placesOf (proseMask (lines text)) isHeading (lines text)
    rw [← List.pairwise_map (f := Section.startLine), map_startLine_sectionsAt, List.pairwise_map]
    exact hplaces.imp fun hij => Nat.add_lt_add_left hij 1
  · have htitles := pairwise_placesOf (proseMask (lines text)) isTitle (lines text)
    cases hhead : (placesOf (proseMask (lines text)) isTitle (lines text)).head? with
    | none =>
      refine Or.inl ⟨rfl, fun i line hline => ?_⟩
      have hmem := mem_titlePlaces_iff.mpr ⟨line, hline⟩
      rw [List.head?_eq_none_iff.mp hhead] at hmem
      cases hmem
    | some i =>
      obtain ⟨line, hline⟩ := mem_titlePlaces_iff.mp (List.mem_of_head? hhead)
      refine Or.inr ⟨i, line, hline, fun j hj earlier hearlier => ?_, ?_⟩
      · exact not_mem_of_lt_head htitles hhead hj (mem_titlePlaces_iff.mpr ⟨earlier, hearlier⟩)
      · rw [Option.map_some, List.getD_eq_getElem?_getD, hline.2.1]
        rfl

/-- Frontmatter that never ends is none, and a fence of four hides the heading behind one of three. -/
def nestedFences : Text := "---\n# Guide\n````md\n```\n## Hidden\n````\n## Use\nbody".toList

theorem read_outline_nested :
    (Frontmatter.split (lines nestedFences)).1.mapM Frontmatter.read = .ok none ∧
      ∃ (d : Document) (places : List Nat),
        Document.read (Path.ofText "guide.md".toList) nestedFences = .ok d ∧
          6 ∈ places ∧ 4 ∉ places ∧ d.sections.length = places.length ∧
          d.sections.Pairwise (·.startLine < ·.startLine) := by
  have hlines : lines nestedFences = ["---".toList, "# Guide".toList, "````md".toList, "```".toList,
      "## Hidden".toList, "````".toList, "## Use".toList, "body".toList] :=
    (congrArg lines String.toList_ofList).trans (by decide +kernel)
  have hrecord : (Frontmatter.split (lines nestedFences)).1.mapM Frontmatter.read = .ok none := by
    rw [hlines]
    rfl
  obtain ⟨d, places, hread, -, hplaces, hlength, -, hsorted, -⟩ :=
    read_outline (Path.ofText "guide.md".toList) hrecord
  have hmask : proseMask (lines nestedFences) =
      [false, false, true, true, true, true, false, false] := by
    rw [hlines]
    decide +kernel
  refine ⟨hrecord, d, places, hread, ?_, ?_, hlength, hsorted⟩
  · refine (hplaces 6).mpr ⟨"## Use".toList, ?_, ?_, by decide +kernel⟩
    · rw [hmask]
      rfl
    · rw [hlines]
      rfl
  · intro h
    obtain ⟨line, hmarked, -⟩ := (hplaces 4).mp h
    rw [hmask] at hmarked
    exact absurd hmarked (by decide +kernel)

end Document

end DocAudit
