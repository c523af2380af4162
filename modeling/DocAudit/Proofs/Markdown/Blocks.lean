import DocAudit.Proofs.Markdown.Comment
import DocAudit.Proofs.Markdown.Scan
import DocAudit.Proofs.Text.Lines

/-!
# Scanning blocks

What the scan of a section does with a directive and with a whole fenced block, and that neither of them
brings a heading. Directives and blocks as they are written are among them: the directives are gathered for the
next block, and a block has the language and the lines that it was written with.

## Contents

* `RawBlock.scan_directive`, `RawBlock.scan_block`: the scan goes over a directive, and over a block
* `IsQuiet`: lines that leave no fence open and have no heading
* `Document.read_section`: **a heading before quiet lines makes a document of one section**
* `blockLines`: the lines of a written block
* `RawBlock.scan_directives`, `RawBlock.scan_blockLines`: **what the scan reads of written lines**
* `isQuiet_blockLines`, `isUnbroken_blockLines`: a written block brings no heading and no further line
-/

namespace DocAudit

open Text

/-! ## The scan of a section -/

namespace RawBlock

/-- A directive is kept for the next fence. -/
theorem scan_directive {line : Text} {d : Directive} (h : Directive.ofLine? line = some d)
    (pending : Annotations) (n : Nat) (rest : List Text) :
    (scan none pending n (line :: rest)).2 = (scan none (pending.add d) (n + 1) rest).2 := by
  rw [scan_outside _ _ _ (Directive.opening?_eq_none h), Annotations.afterLine, h]

/-- Inside of a block, lines are read up to the one that closes it. -/
theorem scan_body {f : Fence} {last : Text} (hlast : f.closes last = true) (pending : Annotations)
    (rest : List Text) : ∀ (n : Nat) (body : List Text), (∀ line ∈ body, f.closes line = false) →
      scan (some f) pending n (body ++ last :: rest) =
        (body, (scan none Annotations.none (n + body.length + 1) rest).2)
  | n, [], _ => by
    rw [List.nil_append, scan_closing _ _ _ hlast]
    rfl
  | n, line :: body, h => by
    have hline : f.closes line = false := h line List.mem_cons_self
    have ih := scan_body hlast pending rest (n + 1) body fun l hl =>
      h l (List.mem_cons_of_mem _ hl)
    rw [List.cons_append, scan_inside _ _ _ hline, ih, List.length_cons, Nat.add_assoc n 1,
      Nat.add_comm 1]

/-- A whole block takes the directives before it, and none are left behind it. -/
theorem scan_block {first last : Text} {f : Fence} {body : List Text}
    (hfirst : Fence.opening? first = some f) (hbody : ∀ line ∈ body, f.closes line = false)
    (hlast : f.closes last = true) (pending : Annotations) (n : Nat) (rest : List Text) :
    (scan none pending n (first :: (body ++ last :: rest))).2 =
      { language := (words f.info).headD [], body, startLine := n, annotations := pending } ::
        (scan none Annotations.none (n + body.length + 2) rest).2 := by
  rw [scan_opening _ _ _ hfirst, scan_body hlast _ rest (n + 1) body hbody,
    show n + 1 + body.length + 1 = n + body.length + 2 by omega]

end RawBlock

/-! ## Lines without headings -/

namespace Fence

/-- Inside of a block, all lines up to the one that closes it are fenced. -/
theorem fenced_body {f : Fence} {last : Text} (hlast : f.closes last = true) :
    ∀ {body : List Text}, (∀ line ∈ body, f.closes line = false) →
      fenced (some f) (body ++ [last]) = List.replicate (body.length + 1) true ∧
        after (some f) (body ++ [last]) = none
  | [], _ => by
    rw [List.nil_append, fenced, after, List.foldl_cons, step, if_pos hlast]
    exact ⟨rfl, rfl⟩
  | line :: body, h => by
    have hline : f.closes line = false := h line List.mem_cons_self
    obtain ⟨hfenced, hafter⟩ := fenced_body hlast fun l hl => h l (List.mem_cons_of_mem line hl)
    rw [List.cons_append, fenced, after, List.foldl_cons, step, if_neg (by simp [hline])]
    refine ⟨?_, hafter⟩
    simp only [hfenced]
    rfl

end Fence

/-- The lines leave no fence open, and no heading stands outside of a fence. -/
structure IsQuiet (ls : List Text) : Prop where
  closed : Fence.after none ls = none
  no_heading : placesOf (Fence.fenced none ls) isHeading ls = []

namespace IsQuiet

theorem nil : IsQuiet [] := ⟨rfl, rfl⟩

theorem append {xs ys : List Text} (hx : IsQuiet xs) (hy : IsQuiet ys) : IsQuiet (xs ++ ys) where
  closed := by rw [Fence.after_append, hx.closed, hy.closed]
  no_heading := by
    rw [Fence.fenced_append, hx.closed, placesOf_append (Fence.length_fenced none xs),
      hx.no_heading, hy.no_heading]
    rfl

theorem flatMap {α : Type} {f : α → List Text} :
    ∀ {xs : List α}, (∀ x ∈ xs, IsQuiet (f x)) → IsQuiet (xs.flatMap f)
  | [], _ => nil
  | x :: _, h =>
    (h x List.mem_cons_self).append (flatMap fun y hy => h y (List.mem_cons_of_mem x hy))

/-- A directive is no heading. -/
theorem directive {line : Text} {d : Directive} (h : Directive.ofLine? line = some d) :
    IsQuiet [line] where
  closed := by rw [Fence.after, List.foldl_cons, Fence.step, Directive.opening?_eq_none h]; rfl
  no_heading := by
    rw [Fence.fenced, placesOf_cons, Directive.isHeading_eq_false h, Bool.and_false]
    rfl

/-- Inside of a whole block is no heading. -/
theorem block {first last : Text} {f : Fence} {body : List Text}
    (hfirst : Fence.opening? first = some f) (hbody : ∀ line ∈ body, f.closes line = false)
    (hlast : f.closes last = true) : IsQuiet (first :: (body ++ [last])) := by
  obtain ⟨hfenced, hafter⟩ := Fence.fenced_body hlast hbody
  constructor
  · rw [Fence.after, List.foldl_cons, Fence.step, hfirst]
    exact hafter
  · rw [Fence.fenced, Fence.step, hfirst]
    simp only [hfenced]
    have hmasked := placesOf_replicate_append [] isHeading
      (Nat.le_refl (first :: (body ++ [last])).length)
    rw [List.drop_length, List.append_nil] at hmasked
    rw [List.length_cons, List.length_append] at hmasked
    exact hmasked

end IsQuiet

/-! ## Documents of one section -/

/-- A heading is no frontmatter. -/
theorem Frontmatter.split_heading {heading : Text} (h : isHeading heading = true)
    (rest : List Text) : split (heading :: rest) = (none, 0) := by
  obtain ⟨_, hname⟩ := List.isPrefixOf_iff_prefix.mp h
  have hblank : isBlankText heading = false := by
    rw [Bool.eq_false_iff]
    intro hb
    rw [strip_eq_nil_of_isBlankText hb] at hname
    cases hname
  have hmarker : isMarker heading = false := by
    rw [isMarker, ← hname]
    rfl
  rw [split, List.dropWhile_cons, if_neg (by simp [hblank])]
  simp only [hmarker]
  rfl

/-- **A heading before quiet lines makes a document of one section.** -/
theorem Document.read_section (path : Path) {text heading : Text} {rest : List Text}
    (hlines : lines text = heading :: rest) (hheading : isHeading heading = true)
    (hrest : IsQuiet rest) :
    ∃ d, Document.read path text = .ok d ∧ d.path = path ∧ d.frontmatter = none ∧
      d.sections =
        [{ name := strip ((strip heading).drop 3), startLine := 1, body := rest }] := by
  have hsplit := Frontmatter.split_heading hheading rest
  have hopens := Fence.opening?_of_isHeading hheading
  have hrecord : (Frontmatter.split (lines text)).1.mapM Frontmatter.read = .ok none := by
    rw [hlines, hsplit]
    rfl
  refine ⟨_, read_eq hrecord, rfl, rfl, ?_⟩
  · have hplaces : placesOf (proseMask (heading :: rest)) isHeading (heading :: rest) = [0] := by
      rw [proseMask, hsplit]
      show placesOf (Fence.fenced none (heading :: rest)) isHeading (heading :: rest) = [0]
      rw [Fence.fenced, Fence.step, hopens, placesOf_cons, hheading, hrest.no_heading]
      rfl
    show sectionsAt 1 (lines text) (placesOf (proseMask (lines text)) isHeading (lines text)) = _
    rw [hlines, hplaces, sectionsAt, sectionAt]
    simp only [List.headD_nil, List.take_length]
    rfl

/-! ## Written blocks -/

/-- The line that closes a written block. With a language behind it, it opens one. -/
def fenceLine : Text := "```".toList

/-- The lines of a block. -/
def blockLines (language : Text) (body : List Text) : List Text :=
  (fenceLine ++ language) :: (body ++ [fenceLine])

/-- Three or more backticks and nothing else, so that the line closes a written block. -/
def IsFenceLine (line : Text) : Prop := 3 ≤ (strip line).length ∧ ∀ c ∈ strip line, c = '`'

instance (line : Text) : Decidable (IsFenceLine line) :=
  haveI := List.decidableBAll (· = '`') (strip line)
  inferInstanceAs (Decidable (3 ≤ (strip line).length ∧ ∀ c ∈ strip line, c = '`'))

/-- The fence of a written block. -/
def writtenFence (language : Text) : Fence := { mark := .backtick, size := 3, info := language }

/-- A language is one word, or none, and has no mark of the fence in it. -/
def IsLanguage (language : Text) : Prop := ∀ c ∈ language, isBlank c = false ∧ c ≠ '`'

instance (language : Text) : Decidable (IsLanguage language) := List.decidableBAll _ language

theorem closes_fenceLine (language : Text) : (writtenFence language).closes fenceLine = true :=
  Fence.closes_iff.mpr ⟨3, Nat.le_refl 3, Nat.le_refl 3, rfl⟩

theorem closes_eq_false {line : Text} (language : Text) (h : ¬ IsFenceLine line) :
    (writtenFence language).closes line = false := by
  rw [Bool.eq_false_iff]
  intro hcloses
  obtain ⟨n, hn, -, hline⟩ := Fence.closes_iff.mp hcloses
  refine h ⟨?_, fun c hc => ?_⟩
  · rw [hline, List.length_replicate]
    exact hn
  · rw [hline] at hc
    exact List.eq_of_mem_replicate hc

section Block

variable {language : Text} {body : List Text}

theorem IsLanguage.strip_eq (h : IsLanguage language) : strip language = language :=
  strip_eq_self_iff.mpr ⟨fun c hc => (h c (List.mem_of_mem_head? hc)).1,
    fun c hc => (h c (List.mem_of_getLast? hc)).1⟩

/-- The first word of a language is the language. -/
theorem IsLanguage.words_headD (h : IsLanguage language) : (words language).headD [] = language := by
  cases language with
  | nil =>
    unfold words
    rfl
  | cons c r =>
    obtain ⟨htake, -⟩ := span_run (p := (!isBlank ·)) (s := r) (t := [])
      (fun b hb => by rw [(h b (List.mem_cons_of_mem c hb)).1]; rfl) (fun b hb => by cases hb)
    rw [List.append_nil] at htake
    unfold words
    simp only [(h c List.mem_cons_self).1, htake]
    rfl

theorem IsLanguage.isUnbroken (h : IsLanguage language) : IsUnbroken language := by
  intro c hc
  rw [Bool.eq_false_iff]
  intro hbreak
  have hblank := (h c hc).1
  rw [isBlank_of_isBreak hbreak] at hblank
  cases hblank

theorem opening?_fenceLine (h : IsLanguage language) :
    Fence.opening? (fenceLine ++ language) = some (writtenFence language) := by
  have hfence : strip fenceLine = fenceLine := by decide
  refine Fence.opening?_eq_some_iff.mpr ⟨language, strip_append hfence h.strip_eq, Nat.le_refl 3, ?_,
    ?_, ?_, h.strip_eq.symm⟩
  · intro hhead
    exact (h _ (List.mem_of_mem_head? hhead)).2 rfl
  · intro hfeed
    have hblank := (h _ hfeed).1
    revert hblank
    decide
  · intro _ hmark
    exact (h _ hmark).2 rfl

theorem isQuiet_blockLines (hlanguage : IsLanguage language)
    (hbody : ∀ line ∈ body, ¬ IsFenceLine line) : IsQuiet (blockLines language body) :=
  IsQuiet.block (opening?_fenceLine hlanguage)
    (fun line hline => closes_eq_false language (hbody line hline)) (closes_fenceLine language)

theorem isUnbroken_blockLines (hlanguage : IsLanguage language)
    (hbody : ∀ line ∈ body, IsUnbroken line) : ∀ line ∈ blockLines language body, IsUnbroken line := by
  have hfence : IsUnbroken fenceLine := by decide
  intro line hline
  rcases List.mem_cons.mp hline with rfl | hline
  · exact isUnbroken_append.mpr ⟨hfence, hlanguage.isUnbroken⟩
  · rcases List.mem_append.mp hline with hline | hline
    · exact hbody line hline
    · rw [List.mem_singleton.mp hline]
      exact hfence

/-- A written block is read with the directives before it. -/
theorem RawBlock.scan_blockLines (hlanguage : IsLanguage language)
    (hbody : ∀ line ∈ body, ¬ IsFenceLine line) (pending : Annotations) (n : Nat)
    (rest : List Text) :
    (scan none pending n (blockLines language body ++ rest)).2 =
      { language, body, startLine := n, annotations := pending } ::
        (scan none Annotations.none (n + body.length + 2) rest).2 := by
  have hinfo : (words (writtenFence language).info).headD [] = language := hlanguage.words_headD
  rw [blockLines, List.cons_append, List.append_assoc, List.singleton_append,
    scan_block (opening?_fenceLine hlanguage)
      (fun line hline => closes_eq_false language (hbody line hline)) (closes_fenceLine language),
    hinfo]

end Block

/-! ## Written directives -/

/-- Written directives are gathered for the next block. -/
theorem RawBlock.scan_directives : ∀ {ds : List Directive}, (∀ d ∈ ds, d.IsWritable) →
    ∀ (pending : Annotations) (n : Nat) (rest : List Text),
      (scan none pending n (ds.map Directive.written ++ rest)).2 =
        (scan none (ds.foldl Annotations.add pending) (n + ds.length) rest).2
  | [], _, _, _, _ => rfl
  | d :: ds, h, pending, n, rest => by
    have hd : d.IsWritable := h d List.mem_cons_self
    rw [List.map_cons, List.cons_append, scan_directive (Directive.ofLine?_written hd),
      scan_directives fun e he => h e (List.mem_cons_of_mem d he)]
    rw [List.foldl_cons, List.length_cons, Nat.add_assoc, Nat.add_comm 1]

theorem Annotations.foldl_add_env : ∀ (env : List (Text × Text)) (a : Annotations),
    (env.map fun (name, value) => Directive.env name value).foldl add a =
      { a with env := a.env ++ env }
  | [], a => by rw [List.append_nil]; rfl
  | pair :: env, a => by
    rw [List.map_cons, List.foldl_cons, foldl_add_env env]
    simp [add]

end DocAudit
