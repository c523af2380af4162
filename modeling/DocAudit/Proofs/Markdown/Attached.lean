import DocAudit.Proofs.Markdown.Comment
import DocAudit.Proofs.Markdown.Opening

/-!
# The directives of a fence

The scan carries directives forward from line to line, drops them at some lines, and skips what is fenced.
Looking back from a fence, what is left are the directives of one run of lines: the longest run before the
fence whose lines are prose, and blank or directives.

## Contents

* `Directive.Accepts`, `Directive.ofLine?_eq_some_iff`: which comments are directives
* `Annotations.ofDirectives`: what directives in a row say together
* `IsRun`, `runStart`: the run before a place
* `pendingAt_eq`: **what waits before a place is what the directives of its run say**
-/

namespace DocAudit

open Text

/-! ## Accepted directives -/

namespace Directive

/-- The parts of a comment and the directive that it is: a run marker; an expectation, of the first
strategy when none is named; a directory that is not empty; and a variable with a name before `=`. -/
inductive Accepts : Parts → Directive → Prop
  | run (arg : Option Text) (body : Text) : Accepts ⟨"run".toList, arg, body⟩ run
  | expectAny (body : Text) : Accepts ⟨"expect".toList, none, body⟩ (expect .contains)
  | expect (strategy : OutputStrategy) (body : Text) :
    Accepts ⟨"expect".toList, some strategy.name, body⟩ (expect strategy)
  | workingDir (arg : Option Text) {dir : Text} (h : dir ≠ []) :
    Accepts ⟨"working_dir".toList, arg, dir⟩ (workingDir dir)
  | env (arg : Option Text) {name : Text} (value : Text) (hsep : '=' ∉ name)
    (hname : isBlankText name = false) :
    Accepts ⟨"env".toList, arg, name ++ '=' :: value⟩ (env (strip name) (strip value))

theorem ofName?_eq_some_iff {name : Text} {strategy : OutputStrategy} :
    OutputStrategy.ofName? name = some strategy ↔ name = strategy.name := by
  constructor
  · intro h
    have hfound := List.find?_some h
    exact (beq_iff_eq.mp hfound).symm
  · rintro rfl
    cases strategy <;> rfl

/-- **The comments that are accepted.** -/
theorem ofParts?_eq_some_iff {p : Parts} {d : Directive} :
    ofParts? p = some d ↔ Accepts p d := by
  constructor
  · obtain ⟨key, arg, body⟩ := p
    intro h
    rw [ofParts?] at h
    split at h
    · next hkey =>
      cases h
      obtain rfl := beq_iff_eq.mp hkey
      exact .run arg body
    split at h
    · next hkey =>
      obtain rfl := beq_iff_eq.mp hkey
      obtain ⟨strategy, hname, rfl⟩ := Option.map_eq_some_iff.mp h
      cases arg with
      | none =>
        obtain rfl : strategy = .contains := Option.some.inj hname.symm
        exact .expectAny body
      | some arg =>
        obtain rfl := ofName?_eq_some_iff.mp hname
        exact .expect strategy body
    split at h
    · next hkey =>
      obtain rfl := beq_iff_eq.mp hkey
      split at h
      · cases h
      · next hbody =>
        cases h
        exact .workingDir arg fun he => hbody (by rw [show body = [] from he]; rfl)
    split at h
    · next hkey =>
      obtain rfl := beq_iff_eq.mp hkey
      split at h
      · cases h
      · next name value hcut =>
        split at h
        · cases h
        · next hname =>
          cases h
          obtain ⟨rfl, hsep⟩ := cut_eq_some_iff.mp hcut
          exact .env arg value hsep (Bool.eq_false_iff.mpr hname)
    · cases h
  · rintro (⟨arg, body⟩ | ⟨body⟩ | ⟨strategy, body⟩ | ⟨arg, h⟩ | ⟨arg, value, hsep, hname⟩)
    · rfl
    · rfl
    · cases strategy <;> rfl
    · rename_i dir
      show (if dir.isEmpty then none else some (workingDir dir)) = _
      rw [if_neg (by simp [h])]
    · exact ofParts?_env rfl (cut_append hsep) hname

theorem ofLine?_eq_some_iff {line : Text} {d : Directive} :
    ofLine? line = some d ↔ ∃ p, split? line = some p ∧ Accepts p d := by
  rw [ofLine?]
  refine Option.bind_eq_some_iff.trans ?_
  simp only [ofParts?_eq_some_iff]

/-- The variable that a directive sets. -/
def setting? : Directive → Option (Text × Text)
  | .env name value => some (name, value)
  | _ => none

/-- The directory that a directive names. -/
def directory? : Directive → Option Text
  | .workingDir dir => some dir
  | _ => none

/-- The strategy of a directive that declares expected output. -/
def strategy? : Directive → Option OutputStrategy
  | .expect strategy => some strategy
  | _ => none

end Directive

/-! ## Directives in a row -/

namespace Annotations

/-- What directives in a row say: all variables in their order, the last directory and the last
strategy, and whether one of them is a run marker. -/
def ofDirectives (ds : List Directive) : Annotations where
  run := ds.contains .run
  expect := (ds.filterMap Directive.strategy?).getLast?
  workingDir := (ds.filterMap Directive.directory?).getLast?
  env := ds.filterMap Directive.setting?

theorem ofDirectives_nil : ofDirectives [] = none := rfl

/-- One more directive adds what it says. -/
theorem ofDirectives_concat (ds : List Directive) (d : Directive) :
    ofDirectives (ds ++ [d]) = (ofDirectives ds).add d := by
  cases d <;>
    simp [ofDirectives, add, Directive.strategy?, Directive.directory?, Directive.setting?]

end Annotations

/-! ## Runs of directives -/

/-- The line is prose, and is blank or a directive: it keeps the directives before it. -/
def keepsAt (ls : List Text) (k : Nat) : Bool :=
  (proseMask ls)[k]? == some false &&
    ls[k]?.any fun line => isBlankText line || (Directive.ofLine? line).isSome

/-- The longest run of such lines that ends before the place `i` starts at the place `r`. -/
structure IsRun (ls : List Text) (r i : Nat) : Prop where
  le : r ≤ i
  keeps : ∀ k, r ≤ k → k < i → keepsAt ls k = true
  longest : ∀ k, k + 1 = r → keepsAt ls k = false

/-- The place at which the run before the place starts. -/
def runStart (ls : List Text) : Nat → Nat
  | 0 => 0
  | i + 1 => if keepsAt ls i then runStart ls i else i + 1

/-- The directives of the run before the place. -/
def attached (ls : List Text) (i : Nat) : List Directive :=
  ((ls.take i).drop (runStart ls i)).filterMap Directive.ofLine?

section Runs

variable {ls : List Text} {r i : Nat}

theorem isRun_runStart (ls : List Text) : ∀ i : Nat, IsRun ls (runStart ls i) i
  | 0 => ⟨Nat.le_refl 0, fun _ _ hk => absurd hk (Nat.not_lt_zero _), fun _ hk => by cases hk⟩
  | i + 1 => by
    obtain ⟨hle, hkeeps, hlongest⟩ := isRun_runStart ls i
    rw [runStart]
    split
    · next h =>
      refine ⟨Nat.le_succ_of_le hle, fun k hk hki => ?_, hlongest⟩
      rcases Nat.lt_succ_iff_lt_or_eq.mp hki with hlt | rfl
      · exact hkeeps k hk hlt
      · exact h
    · next h =>
      refine ⟨Nat.le_refl _, fun k hk hki => by omega, fun k hk => ?_⟩
      obtain rfl : k = i := Nat.succ.inj hk
      exact Bool.eq_false_iff.mpr h

/-- A line that does not keep the directives stands before the run. -/
theorem IsRun.lt_start {k : Nat} (h : IsRun ls r i) (hk : keepsAt ls k = false) (hki : k < i) :
    k < r := by
  by_contra hle
  rw [h.keeps k (Nat.le_of_not_lt hle) hki] at hk
  cases hk

/-- There is one longest run before a place. -/
theorem IsRun.eq_runStart (h : IsRun ls r i) : r = runStart ls i := by
  have hstart := isRun_runStart ls i
  rcases Nat.lt_trichotomy r (runStart ls i) with hlt | heq | hgt
  · have hk := hstart.longest (runStart ls i - 1) (by omega)
    rw [h.keeps _ (by omega) (Nat.lt_of_lt_of_le (by omega) hstart.le)] at hk
    cases hk
  · exact heq
  · have hk := h.longest (r - 1) (by omega)
    rw [hstart.keeps _ (by omega) (Nat.lt_of_lt_of_le (by omega) h.le)] at hk
    cases hk

theorem keepsAt_iff :
    keepsAt ls i = true ↔ (proseMask ls)[i]? = some false ∧ ∃ line, ls[i]? = some line ∧
      (isBlankText line = true ∨ ∃ d, Directive.ofLine? line = some d) := by
  rw [keepsAt, Bool.and_eq_true, beq_iff_eq, Option.any_eq_true]
  simp only [Bool.or_eq_true, Option.isSome_iff_exists]

/-- What a line of prose does with the directives before it. -/
theorem keepsAt_eq {line : Text} (hprose : (proseMask ls)[i]? = some false)
    (hline : ls[i]? = some line) :
    keepsAt ls i = (isBlankText line || (Directive.ofLine? line).isSome) := by
  simp [keepsAt, hprose, hline]

/-- A line that is no prose drops the directives before it. -/
theorem keepsAt_eq_false (h : (proseMask ls)[i]? ≠ some false) : keepsAt ls i = false :=
  Bool.eq_false_iff.mpr fun hkeeps => h (keepsAt_iff.mp hkeeps).1

theorem runStart_le (ls : List Text) (i : Nat) : runStart ls i ≤ i := (isRun_runStart ls i).le

/-- Behind a line that keeps the directives before it. -/
theorem attached_succ_of_keeps {line : Text} (h : keepsAt ls i = true) (hline : ls[i]? = some line) :
    attached ls (i + 1) = attached ls i ++ (Directive.ofLine? line).toList := by
  have htake : ls.take (i + 1) = ls.take i ++ [line] := by
    rw [List.take_add_one, hline]
    rfl
  have hlt := (List.getElem?_eq_some_iff.mp hline).1
  have hle : runStart ls i ≤ (ls.take i).length := by
    rw [List.length_take]
    have := runStart_le ls i
    omega
  rw [attached, attached, runStart, if_pos h, htake, List.drop_append_of_le_length hle,
    List.filterMap_append]
  cases hd : Directive.ofLine? line <;> simp [hd]

/-- Behind a line that drops the directives before it. -/
theorem attached_succ_of_drops (h : keepsAt ls i = false) : attached ls (i + 1) = [] := by
  rw [attached, runStart, if_neg (by simp [h]), List.drop_eq_nil_of_le (by rw [List.length_take]; exact Nat.min_le_left _ _)]
  rfl

/--
**What waits before a place is what the directives of its run say.**

By induction on the place: a line of prose either is in the run and adds what it says, or ends it and
drops everything; a fence ends the run, and nothing waits behind it.
-/
theorem pendingAt_eq (hstart : (Frontmatter.split ls).2 ≤ i) (hi : i ≤ ls.length)
    (hclosed : fenceAt ls i = none) :
    pendingAt ls i = Annotations.ofDirectives (attached ls i) := by
  induction i, hstart using Nat.le_induction with
  | base =>
    have hbody : pendingAt ls (Frontmatter.split ls).2 = Annotations.none := by
      rw [pendingAt, List.drop_eq_nil_of_le (by rw [List.length_take]; exact Nat.min_le_left _ _)]
      rfl
    -- the line before the body is no prose
    have hnone : attached ls (Frontmatter.split ls).2 = [] := by
      cases hn : (Frontmatter.split ls).2 with
      | zero => rfl
      | succ k =>
        refine attached_succ_of_drops (keepsAt_eq_false fun hprose => ?_)
        have hle := (proseMask_eq_false_iff.mp hprose).1
        omega
    rw [hbody, hnone, Annotations.ofDirectives_nil]
  | succ i hstart ih =>
    obtain ⟨line, hline⟩ : ∃ line, ls[i]? = some line := ⟨ls[i], List.getElem?_eq_getElem hi⟩
    rw [fenceAt_succ hstart hline] at hclosed
    rw [pendingAt_succ hstart hline]
    rcases Fence.line_cases (fenceAt ls i) line with
      ⟨f, hf, h⟩ | ⟨f, hf, h⟩ | ⟨f, hf, h⟩ | ⟨hf, h⟩
    · rw [hf, Fence.step_inside h] at hclosed
      cases hclosed
    · have hmasked : keepsAt ls i = false := keepsAt_eq_false fun hprose => by
        rw [(proseMask_eq_false_iff.mp hprose).2.1] at hf
        cases hf
      rw [hf, Annotations.step_closing _ h, attached_succ_of_drops hmasked]
      rfl
    · rw [hf, Fence.step_opening h] at hclosed
      cases hclosed
    · have hprose : (proseMask ls)[i]? = some false :=
        proseMask_eq_false_iff.mpr ⟨hstart, hf, line, hline, h⟩
      have hkeeps := keepsAt_eq hprose hline
      rw [hf, Annotations.step_outside _ h, ih (Nat.le_of_lt hi) hf, Annotations.afterLine]
      cases hd : Directive.ofLine? line with
      | some d =>
        rw [attached_succ_of_keeps (by simp [hkeeps, hd]) hline, hd]
        exact (Annotations.ofDirectives_concat _ d).symm
      | none =>
        cases hb : isBlankText line with
        | true =>
          rw [attached_succ_of_keeps (by simp [hkeeps, hb]) hline, hd]
          simp
        | false =>
          rw [attached_succ_of_drops (by simp [hkeeps, hd, hb])]
          rfl

end Runs

end DocAudit
