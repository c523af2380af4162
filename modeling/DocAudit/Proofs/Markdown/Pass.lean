import DocAudit.Proofs.Markdown.Opening

/-!
# Reading in one pass

Sections and blocks can be had in one pass over the lines, as a reader goes who never looks back: it
carries the open fence, the headings so far, the directives that wait, and the blocks so far, each filed
under the number of headings before it. A block is filed when its fence opens, and its lines are filled
in when the fence closes or the text ends. Filling in would fail without a block that is open, and the
point is that this never happens: a block is open when a fence is.

## Contents

* `Pass`, `Pass.step`, `Pass.run`: what the reader carries, one line, and many
* `Pass.Coupled`, `Pass.exists_step`: **a block is open when a fence is, after every line**
* `Pass.run_eq`: what the reader has in the end, by the scans of `Document.read`
* `Pass.eq_of_read`: **the pass finds title, headings and blocks of the document**
-/

namespace DocAudit

open Text

/-- What the reader carries from line to line. -/
structure Pass where
  fence : Option Fence := none
  title : Option Text := none
  /-- The headings so far, with their places. -/
  headings : List (Nat × Text) := []
  /-- The blocks so far, each under the number of headings before it. -/
  blocks : List (Nat × RawBlock) := []
  pending : Annotations := Annotations.none
  /-- The place among the blocks of the one that is open. -/
  openBlock : Option Nat := none
  /-- The lines so far of the block that is open. -/
  body : List Text := []
  deriving DecidableEq, Repr

namespace Pass

/-- The blocks, with the lines filled into the one at the place. -/
def fill (blocks : List (Nat × RawBlock)) (k : Nat) (body : List Text) : List (Nat × RawBlock) :=
  blocks.modify k fun (headings, raw) => (headings, { raw with body })

/-- The reader after a line outside of fences, at the place `i`. -/
def outside (p : Pass) (i : Nat) (line : Text) : Pass :=
  match Directive.ofLine? line with
  | some d => { p with pending := p.pending.add d }
  | none =>
    let pending := if isBlankText line then p.pending else Annotations.none
    match Document.heading? line with
    | some name => { p with pending, headings := p.headings ++ [(i, name)] }
    | none => { p with pending, title := p.title.or (Document.title? line) }

/-- The reader after the line at the place `i`. A fence that closes needs a block that is open. -/
def step (p : Pass) (i : Nat) (line : Text) : Option Pass :=
  let (next, isFence) := Fence.step p.fence line
  if p.fence.isSome then
    if isFence then
      p.openBlock.map fun k =>
        { p with fence := next, blocks := fill p.blocks k p.body, openBlock := none, body := [] }
    else some { p with body := p.body ++ [line] }
  else match next with
    | some f =>
      let raw : RawBlock :=
        { language := (words f.info).headD [], body := [], startLine := i + 1, annotations := p.pending }
      some { p with fence := next, blocks := p.blocks ++ [(p.headings.length, raw)],
                    openBlock := some p.blocks.length, pending := Annotations.none }
    | none => some (p.outside i line)

/-- The reader after all the lines, of which the first stands at the place `i`. -/
def run (p : Pass) (i : Nat) : List Text → Option Pass
  | [] => some p
  | line :: rest => p.step i line >>= fun p => run p (i + 1) rest

/-- The blocks when these lines come before the end of the block that is open. -/
def continued (p : Pass) (body : List Text) : List (Nat × RawBlock) :=
  match p.openBlock with
  | none => p.blocks
  | some k => fill p.blocks k (p.body ++ body)

/-- The blocks at the end of the text. -/
def filed (p : Pass) : List (Nat × RawBlock) := p.continued []

/-! ## One line -/

/-- A block is open when a fence is. It is the last one, and no directives wait. -/
structure Coupled (p : Pass) : Prop where
  open_iff : p.openBlock.isSome = p.fence.isSome
  last : ∀ k, p.openBlock = some k → k + 1 = p.blocks.length
  body : p.openBlock = none → p.body = []
  pending : p.fence.isSome = true → p.pending = Annotations.none

theorem coupled_start : Coupled {} :=
  ⟨rfl, nofun, fun _ => rfl, nofun⟩

section Step

variable {p : Pass} {f : Fence} {line : Text} (i : Nat)

theorem step_inside (hf : p.fence = some f) (h : f.closes line = false) :
    p.step i line = some { p with body := p.body ++ [line] } := by
  simp [step, hf, Fence.step_inside h]

theorem step_closing {k : Nat} (hf : p.fence = some f) (hk : p.openBlock = some k)
    (h : f.closes line = true) :
    p.step i line = some { p with fence := none, blocks := fill p.blocks k p.body,
                                  openBlock := none, body := [] } := by
  simp [step, hf, hk, Fence.step_closing h]

theorem step_opening (hf : p.fence = none) (h : Fence.opening? line = some f) :
    p.step i line = some
      { p with fence := some f,
               blocks := p.blocks ++ [(p.headings.length,
                 RawBlock.mk ((words f.info).headD []) [] (i + 1) p.pending)],
               openBlock := some p.blocks.length, pending := Annotations.none } := by
  simp [step, hf, Fence.step_opening h]

theorem step_outside (hf : p.fence = none) (h : Fence.opening? line = none) :
    p.step i line = some (p.outside i line) := by
  simp [step, hf, Fence.step_outside h]

/-- Outside of fences, a line changes title, headings and directives alone. -/
theorem outside_eq (p : Pass) (i : Nat) (line : Text) :
    p.outside i line =
      { p with title := (p.outside i line).title, headings := (p.outside i line).headings,
               pending := p.pending.afterLine line } := by
  rw [outside, Annotations.afterLine]
  cases Directive.ofLine? line with
  | some d => rfl
  | none => cases Document.heading? line <;> rfl

@[simp] theorem fence_outside : (p.outside i line).fence = p.fence := by rw [outside_eq]

@[simp] theorem pending_outside : (p.outside i line).pending = p.pending.afterLine line := by
  rw [outside_eq]

@[simp] theorem continued_outside (body : List Text) :
    (p.outside i line).continued body = p.continued body := by
  rw [outside_eq]
  rfl

/-- **One line keeps block and fence together, and the next line can be read.** -/
theorem Coupled.exists_step (hp : p.Coupled) (line : Text) :
    ∃ q, p.step i line = some q ∧ q.Coupled ∧ q.fence = (Fence.step p.fence line).1 := by
  rcases Fence.line_cases p.fence line with
    ⟨f, hf, h⟩ | ⟨f, hf, h⟩ | ⟨f, hf, h⟩ | ⟨hf, h⟩
  · refine ⟨_, step_inside i hf h, ⟨hp.open_iff, hp.last, fun hnone => ?_, hp.pending⟩, ?_⟩
    · have hopen := hp.open_iff
      rw [hf, show p.openBlock = none from hnone] at hopen
      cases hopen
    · rw [hf, Fence.step_inside h]
  · obtain ⟨k, hk⟩ := Option.isSome_iff_exists.mp (hp.open_iff.trans (by rw [hf]; rfl))
    refine ⟨_, step_closing i hf hk h, ⟨rfl, nofun, fun _ => rfl, nofun⟩, ?_⟩
    rw [hf, Fence.step_closing h]
  · refine ⟨_, step_opening i hf h, ⟨rfl, fun k hk => ?_, nofun, fun _ => rfl⟩, ?_⟩
    · cases hk
      simp
    · rw [hf, Fence.step_opening h]
  · refine ⟨_, step_outside i hf h, ?_, ?_⟩
    · rw [outside_eq]
      refine ⟨hp.open_iff, hp.last, hp.body, fun hsome => ?_⟩
      have hopen : p.fence.isSome = true := hsome
      simp [hf] at hopen
    · rw [fence_outside, hf, Fence.step_outside h]

end Step

/-! ## All lines -/

/-- **At every step a block is open when a fence is, and no step fails.** -/
theorem Coupled.exists_run {p : Pass} (hp : p.Coupled) (i : Nat) (ls : List Text) :
    ∃ q, p.run i ls = some q ∧ q.Coupled ∧ q.fence = Fence.after p.fence ls := by
  induction ls generalizing p i with
  | nil => exact ⟨p, rfl, hp, rfl⟩
  | cons line rest ih =>
    obtain ⟨p', hstep, hp', hfence⟩ := hp.exists_step i line
    obtain ⟨q, hrun, hq, hafter⟩ := ih hp' (i + 1)
    refine ⟨q, ?_, hq, ?_⟩
    · rw [run, hstep]
      exact hrun
    · rw [hafter, hfence, Fence.after_cons]

end Pass

/-! ## Blocks under their headings -/

/-- The blocks of the sections, filed under the numbers from `c` on. -/
def filedUnder (c : Nat) : List Section → List (Nat × RawBlock)
  | [] => []
  | s :: rest => s.raws.map (c, ·) ++ filedUnder (c + 1) rest

/-- The blocks of the lines, filed under the number of headings, of which there are `c` before. -/
def filedFrom (c : Nat) (fence : Option Fence) (pending : Annotations) (n : Nat) (ls : List Text) :
    List (Nat × RawBlock) :=
  (RawBlock.scan fence pending n (Document.outline fence n ls).1).2.map (c, ·) ++
    filedUnder (c + 1) (Document.outline fence n ls).2

section Filed

variable {f : Fence} {line : Text} (c : Nat) (pending : Annotations) (n : Nat) (rest : List Text)

theorem filedFrom_inside (h : f.closes line = false) :
    filedFrom c (some f) pending n (line :: rest) = filedFrom c (some f) pending (n + 1) rest := by
  rw [filedFrom, Document.outline_cons, Fence.step_inside h, if_neg (by simp),
    RawBlock.scan_inside _ _ _ h]
  rfl

theorem filedFrom_closing (h : f.closes line = true) :
    filedFrom c (some f) pending n (line :: rest) =
      filedFrom c none Annotations.none (n + 1) rest := by
  rw [filedFrom, Document.outline_cons, Fence.step_closing h, if_neg (by simp),
    RawBlock.scan_closing _ _ _ h]
  rfl

theorem filedFrom_opening (h : Fence.opening? line = some f) :
    filedFrom c none pending n (line :: rest) =
      (c, { language := (words f.info).headD [],
            body := (RawBlock.scan (some f) Annotations.none (n + 1) rest).1, startLine := n,
            annotations := pending }) :: filedFrom c (some f) Annotations.none (n + 1) rest := by
  rw [(RawBlock.scan_outline (some f) Annotations.none (n + 1) rest).1]
  rw [filedFrom, Document.outline_cons, Fence.step_opening h, if_neg (by simp),
    RawBlock.scan_opening _ _ _ h]
  rfl

/-- Behind a heading, blocks are filed under one number more. -/
theorem filedFrom_outside (h : Fence.opening? line = none) :
    filedFrom c none pending n (line :: rest) =
      filedFrom (if isHeading line then c + 1 else c) none (pending.afterLine line) (n + 1) rest := by
  rw [filedFrom, Document.outline_cons, Fence.step_outside h]
  by_cases hheading : isHeading line = true
  · rw [if_pos (by simp [hheading]), if_pos hheading, Annotations.afterLine_of_isHeading hheading]
    rfl
  · rw [if_neg (by simp [hheading]), if_neg hheading, RawBlock.scan_outside _ _ _ h]
    rfl

end Filed

namespace Pass

section Outside

variable {line : Text}

/-- A heading is no title. -/
theorem isTitle_eq_false_of_isHeading (h : isHeading line = true) : isTitle line = false := by
  obtain ⟨name, hname⟩ := List.isPrefixOf_iff_prefix.mp h
  rw [isTitle, ← hname]
  rfl

/-- A directive is no title. -/
theorem isTitle_eq_false_of_ofLine? {d : Directive} (h : Directive.ofLine? line = some d) :
    isTitle line = false := by
  obtain ⟨rest, hrest⟩ := Directive.prefix_of_ofLine? h
  rw [isTitle, ← hrest]
  rfl

theorem title_outside (p : Pass) (i : Nat) (line : Text) :
    (p.outside i line).title =
      p.title.or (if isTitle line then some (strip ((strip line).drop 2)) else none) := by
  rw [outside, Document.heading?_eq]
  cases hd : Directive.ofLine? line with
  | some d => simp [isTitle_eq_false_of_ofLine? hd]
  | none =>
    by_cases hh : isHeading line = true
    · simp [hh, isTitle_eq_false_of_isHeading hh]
    · simp only [hh]
      rfl

theorem headings_outside (p : Pass) (i : Nat) (line : Text) :
    (p.outside i line).headings =
      if isHeading line then p.headings ++ [(i, strip ((strip line).drop 3))] else p.headings := by
  rw [outside, Document.heading?_eq]
  cases hd : Directive.ofLine? line with
  | some d => simp [Directive.isHeading_eq_false hd]
  | none => by_cases hh : isHeading line = true <;> simp [hh]

end Outside

/-- Filling in reaches the last block. -/
theorem fill_concat (blocks : List (Nat × RawBlock)) (c : Nat) (raw : RawBlock) (body : List Text) :
    fill (blocks ++ [(c, raw)]) blocks.length body = blocks ++ [(c, { raw with body })] := by
  rw [fill, List.modify_eq_take_drop, List.take_left, List.drop_left]
  rfl

/-! ## What the reader finds -/

/-- What the reader has and what there is to find in the other lines, the first of which stands at the
place `i`: the title, the headings and the blocks. -/
def outlook (p : Pass) (i : Nat) (ls : List Text) :
    Option Text × List (Nat × Text) × List (Nat × RawBlock) :=
  (p.title.or (Document.firstTitle? p.fence ls),
    p.headings ++ (Document.outline p.fence (i + 1) ls).2.map (fun s => (s.startLine - 1, s.name)),
    p.continued (RawBlock.scan p.fence p.pending (i + 1) ls).1 ++
      filedFrom p.headings.length p.fence p.pending (i + 1) ls)

theorem outlook_nil (p : Pass) (i : Nat) : p.outlook i [] = (p.title, p.headings, p.filed) := by
  simp [outlook, Document.firstTitle?, Document.outline, RawBlock.scan, filedFrom, filedUnder, filed]

/-- **No line changes what the reader has in the end.** -/
theorem Coupled.outlook_step {p q : Pass} (hp : p.Coupled) {i : Nat} {line : Text}
    (h : p.step i line = some q) (rest : List Text) :
    q.outlook (i + 1) rest = p.outlook i (line :: rest) := by
  have hclosed : p.fence = none → p.openBlock = none := fun hf =>
    Option.not_isSome_iff_eq_none.mp (by rw [hp.open_iff, hf]; exact Bool.false_ne_true)
  rw [outlook, outlook, Document.firstTitle?_cons, Document.outline_cons]
  rcases Fence.line_cases p.fence line with
    ⟨f, hf, hline⟩ | ⟨f, hf, hline⟩ | ⟨f, hf, hline⟩ | ⟨hf, hline⟩
  · rw [step_inside i hf hline, Option.some.injEq] at h
    subst h
    rw [hf, Fence.step_inside hline, RawBlock.scan_inside _ _ _ hline,
      filedFrom_inside _ _ _ _ hline, continued, continued]
    cases p.openBlock with
    | none => simp
    | some k => simp
  · obtain ⟨k, hk⟩ := Option.isSome_iff_exists.mp (hp.open_iff.trans (by rw [hf]; rfl))
    rw [step_closing i hf hk hline, Option.some.injEq] at h
    subst h
    rw [hf, Fence.step_closing hline, RawBlock.scan_closing _ _ _ hline,
      filedFrom_closing _ _ _ _ hline, continued, continued, hk,
      hp.pending (by rw [hf]; rfl)]
    simp
  · rw [step_opening i hf hline, Option.some.injEq] at h
    subst h
    rw [hf, Fence.step_opening hline, RawBlock.scan_opening _ _ _ hline,
      filedFrom_opening _ _ _ _ hline, continued, continued, hclosed hf]
    simp [hp.body (hclosed hf), fill_concat]
  · rw [step_outside i hf hline, Option.some.injEq] at h
    subst h
    have hcontinued : ∀ body, p.continued body = p.blocks := fun body => by
      rw [continued, hclosed hf]
    rw [title_outside, headings_outside, continued_outside, fence_outside, pending_outside,
      hcontinued, hcontinued, hf, Fence.step_outside hline, filedFrom_outside _ _ _ _ hline,
      Option.or_assoc]
    by_cases hheading : isHeading line = true
    · simp [hheading, isTitle_eq_false_of_isHeading hheading]
    · by_cases htitle : isTitle line = true
      · simp [hheading, htitle]
      · simp [hheading, htitle]

/-- **What the reader has in the end is what there was to find.** -/
theorem Coupled.run_eq {p q : Pass} (hp : p.Coupled) {i : Nat} {ls : List Text}
    (h : p.run i ls = some q) : (q.title, q.headings, q.filed) = p.outlook i ls := by
  induction ls generalizing p i with
  | nil =>
    cases h
    exact (outlook_nil _ i).symm
  | cons line rest ih =>
    obtain ⟨p', hstep, hrun⟩ := Option.bind_eq_some_iff.mp h
    obtain ⟨p'', hstep', hp', -⟩ := hp.exists_step i line
    rw [hstep, Option.some.injEq] at hstep'
    subst hstep'
    rw [ih hp' hrun, hp.outlook_step hstep]

/-! ## A whole text -/

/-- The reader before the line at the place `n`. Lines of the frontmatter are not read. -/
def upTo (ls : List Text) (n : Nat) : Option Pass :=
  run {} (Frontmatter.split ls).2 ((ls.take n).drop (Frontmatter.split ls).2)

/-- **Before every line a block is open when a fence is, and no step has failed.** -/
theorem exists_upTo (ls : List Text) (n : Nat) :
    ∃ p, upTo ls n = some p ∧ p.Coupled ∧ p.fence = fenceAt ls n :=
  coupled_start.exists_run _ _

/-- The blocks that are filed under the number. -/
def under (filed : List (Nat × RawBlock)) (c : Nat) : List RawBlock :=
  (filed.filter (·.1 == c)).map (·.2)

theorem under_append (xs ys : List (Nat × RawBlock)) (c : Nat) :
    under (xs ++ ys) c = under xs c ++ under ys c := by
  rw [under, List.filter_append, List.map_append]
  rfl

theorem under_map (raws : List RawBlock) (c : Nat) : under (raws.map (c, ·)) c = raws := by
  have hall : ∀ entry ∈ raws.map (c, ·), (entry.1 == c) = true := by simp
  rw [under, List.filter_eq_self.mpr hall, List.map_map]
  exact List.map_id raws

theorem under_map_of_ne (raws : List RawBlock) {c t : Nat} (h : c ≠ t) :
    under (raws.map (c, ·)) t = [] := by
  have hnone : ∀ entry ∈ raws.map (c, ·), ¬ (entry.1 == t) = true := by simp [h]
  rw [under, List.filter_eq_nil_iff.mpr hnone]
  rfl

/-- Nothing is filed under earlier numbers. -/
theorem under_filedUnder_of_lt {t : Nat} : ∀ (sections : List Section) {c : Nat}, t < c →
    under (filedUnder c sections) t = []
  | [], _, _ => rfl
  | s :: rest, c, h => by
    rw [filedUnder, under_append, under_map_of_ne s.raws (Nat.ne_of_gt h),
      under_filedUnder_of_lt rest (Nat.lt_succ_of_lt h)]
    rfl

/-- The blocks of a section are filed under its number. -/
theorem under_filedUnder {s : Section} : ∀ {sections : List Section} {k : Nat} (c : Nat),
    sections[k]? = some s → under (filedUnder c sections) (c + k) = s.raws
  | [], _, _, h => by cases h
  | s' :: rest, 0, c, h => by
    obtain rfl : s' = s := Option.some.inj h
    rw [filedUnder, under_append, Nat.add_zero, under_map,
      under_filedUnder_of_lt rest (Nat.lt_succ_self c), List.append_nil]
  | s' :: rest, k + 1, c, h => by
    rw [filedUnder, under_append, under_map_of_ne s'.raws (by omega), List.nil_append,
      ← Nat.add_assoc, Nat.add_right_comm]
    exact under_filedUnder (c + 1) h

/-- All blocks of the lines are filed, in their order. -/
theorem map_snd_filedFrom (c : Nat) (fence : Option Fence) (pending : Annotations) (n : Nat)
    (ls : List Text) :
    (filedFrom c fence pending n ls).map (·.2) = (RawBlock.scan fence pending n ls).2 := by
  have hsections : ∀ (sections : List Section) (c : Nat),
      (filedUnder c sections).map (·.2) = sections.flatMap Section.raws := by
    intro sections
    induction sections with
    | nil => exact fun _ => rfl
    | cons s rest ih =>
      intro c
      rw [filedUnder, List.map_append, ih, List.flatMap_cons, List.map_map]
      exact congrArg (· ++ rest.flatMap Section.raws) (List.map_id s.raws)
  rw [filedFrom, List.map_append, hsections, List.map_map,
    (RawBlock.scan_outline fence pending n ls).2]
  exact congrArg (· ++ _) (List.map_id _)

/-- What the reader has behind the last line. -/
theorem upTo_length {ls : List Text} {q : Pass} (h : upTo ls ls.length = some q) :
    q.title = Document.firstTitle? none (ls.drop (Frontmatter.split ls).2) ∧
      q.headings = (Document.outline none ((Frontmatter.split ls).2 + 1)
        (ls.drop (Frontmatter.split ls).2)).2.map (fun s => (s.startLine - 1, s.name)) ∧
      q.filed = filedFrom 0 none Annotations.none ((Frontmatter.split ls).2 + 1)
        (ls.drop (Frontmatter.split ls).2) := by
  rw [upTo, List.take_length] at h
  have hrun := coupled_start.run_eq h
  simp only [outlook, Prod.mk.injEq] at hrun
  exact hrun

/-- **Every block of a text is filed, in the order of their places.** -/
theorem map_snd_filed {ls : List Text} {q : Pass} (h : upTo ls ls.length = some q) :
    q.filed.map (·.2) =
      (List.range' (Frontmatter.split ls).2 (ls.length - (Frontmatter.split ls).2)).filterMap
        (rawAt? ls) := by
  rw [(upTo_length h).2.2, map_snd_filedFrom, snd_scan_body]

/-- **The pass finds title, headings and blocks of the document.** -/
theorem eq_of_read {path : Path} {text : Text} {d : Document} {q : Pass}
    (hread : Document.read path text = .ok d)
    (h : upTo (lines text) (lines text).length = some q) :
    q.title = d.title ∧ q.headings = d.sections.map (fun s => (s.startLine - 1, s.name)) ∧
      ∀ k s, d.sections[k]? = some s → s.blocks = CodeBlock.attach (under q.filed (k + 1)) := by
  obtain ⟨record, -, rfl⟩ := Document.read_ok_iff.mp hread
  obtain ⟨htitle, hheadings, hfiled⟩ := upTo_length h
  refine ⟨htitle, hheadings, fun k s hs => ?_⟩
  rw [hfiled, filedFrom, under_append, under_map_of_ne _ (by omega), List.nil_append,
    Nat.add_comm k, under_filedUnder _ hs, Section.blocks_eq]

end Pass

end DocAudit
