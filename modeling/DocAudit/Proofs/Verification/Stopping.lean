import DocAudit.Verification.Run
import Mathlib.Data.List.Forall2

/-!
# Where a verification run stops

The commands of a run behave in any way: what one of them does may depend on everything that ran before
it. A run that keeps going executes all items, and its results are fixed by the behaviour alone. A run
that stops at failures executes a beginning of that.

## Contents

* `Behaviour`, `Behaviour.runner`: commands that behave in some way, and what they leave behind
* `Behaviour.answers`: the results of items one after the other
* `StopsAtFailure`: the results of a document that ends with its first failure
* `Spec.runAll_recorded`: **what is executed, and where the run stops**
-/

namespace DocAudit

/-! ## The status of a document -/

namespace Status

theorem failed_stronger (a b : Status) : (stronger a b).failed = (a.failed || b.failed) := by
  cases a <;> cases b <;> rfl

theorem failed_foldl_stronger (statuses : List Status) (s : Status) :
    (statuses.foldl stronger s).failed = (s.failed || statuses.any (·.failed)) := by
  induction statuses generalizing s with
  | nil => simp
  | cons t statuses ih => rw [List.foldl_cons, ih, failed_stronger, List.any_cons, Bool.or_assoc]

end Status

/-- A document fails when one of its items does. -/
theorem SpecResult.failed_status (r : SpecResult) :
    r.status.failed = r.results.any (·.status.failed) := by
  rw [status, Status.strongest, Status.failed_foldl_stronger, List.any_map]
  rfl

/-! ## Behaviour of commands -/

/-- What commands do: the result of an item, after the results of all that ran before it. -/
abbrev Behaviour := List ItemResult → Item → ItemResult

namespace Behaviour

variable (b : Behaviour)

/-- The result of an item. It belongs to the item that was run. -/
def result (seen : List ItemResult) (item : Item) : ItemResult := { b seen item with item }

@[simp] theorem result_item (seen : List ItemResult) (item : Item) :
    (b.result seen item).item = item := rfl

/-- Runs items by their behaviour, and records the results in the order in which they come. -/
def runner : Runner (StateM (List ItemResult)) :=
  fun item seen => (b.result seen item, seen ++ [b.result seen item])

/-- The results of items that run one after the other. -/
def answers (seen : List ItemResult) : List Item → List ItemResult
  | [] => []
  | item :: rest => b.result seen item :: answers (seen ++ [b.result seen item]) rest

@[simp] theorem map_item_answers (seen : List ItemResult) (items : List Item) :
    (b.answers seen items).map (·.item) = items := by
  induction items generalizing seen with
  | nil => rfl
  | cons item rest ih => rw [answers, List.map_cons, ih, result_item]

/-- Items that follow others run after the results of these. -/
theorem answers_append (seen : List ItemResult) (xs ys : List Item) :
    b.answers seen (xs ++ ys) =
      b.answers seen xs ++ b.answers (seen ++ b.answers seen xs) ys := by
  induction xs generalizing seen with
  | nil => simp [answers]
  | cons x xs ih => simp [answers, ih]

/-! ## One step of a run -/

theorem runItems_nil (keepGoing : Bool) (seen : List ItemResult) :
    (runItems b.runner keepGoing []).run seen = ([], seen) := rfl

/-- An item runs, and then the rest unless the run stops there. -/
theorem runItems_cons (keepGoing : Bool) (seen : List ItemResult) (item : Item)
    (rest : List Item) :
    (runItems b.runner keepGoing (item :: rest)).run seen =
      if (b.result seen item).status.failed && !keepGoing then
        (b.result seen item :: rest.map .skipped, seen ++ [b.result seen item])
      else
        (b.result seen item ::
            ((runItems b.runner keepGoing rest).run (seen ++ [b.result seen item])).1,
          ((runItems b.runner keepGoing rest).run (seen ++ [b.result seen item])).2) := by
  rw [runItems, run_bind_state]
  show StateT.run (if (b.result seen item).status.failed && !keepGoing then _ else _)
    (seen ++ [b.result seen item]) = _
  split
  · rfl
  · rfl

theorem runAll_nil (keepGoing : Bool) (seen : List ItemResult) :
    (Spec.runAll b.runner keepGoing []).run seen = ([], seen) := rfl

/-- A document runs, and then the rest unless the run stops there. -/
theorem runAll_cons (keepGoing : Bool) (seen : List ItemResult) (s : Spec) (rest : List Spec) :
    (Spec.runAll b.runner keepGoing (s :: rest)).run seen =
      if ((s.run b.runner keepGoing).run seen).1.status.failed && !keepGoing then
        ([((s.run b.runner keepGoing).run seen).1], ((s.run b.runner keepGoing).run seen).2)
      else
        (((s.run b.runner keepGoing).run seen).1 ::
            ((Spec.runAll b.runner keepGoing rest).run ((s.run b.runner keepGoing).run seen).2).1,
          ((Spec.runAll b.runner keepGoing rest).run ((s.run b.runner keepGoing).run seen).2).2) := by
  rw [Spec.runAll, run_bind_state]
  show StateT.run (if ((s.run b.runner keepGoing).run seen).1.status.failed && !keepGoing
    then _ else _) ((s.run b.runner keepGoing).run seen).2 = _
  split
  · rfl
  · rfl

theorem run_eq (keepGoing : Bool) (seen : List ItemResult) (s : Spec) :
    (s.run b.runner keepGoing).run seen =
      ({ spec := s, results := ((runItems b.runner keepGoing s.items).run seen).1 },
        ((runItems b.runner keepGoing s.items).run seen).2) := rfl

/-! ## Runs that keep going -/

theorem runItems_going (seen : List ItemResult) (items : List Item) :
    (runItems b.runner true items).run seen =
      (b.answers seen items, seen ++ b.answers seen items) := by
  induction items generalizing seen with
  | nil => rw [runItems_nil, answers, List.append_nil]
  | cons item rest ih =>
    rw [runItems_cons, if_neg (by simp), ih, answers]
    simp

/-- **A run that keeps going executes all items of all documents.** -/
theorem runAll_going (seen : List ItemResult) (specs : List Spec) :
    ((Spec.runAll b.runner true specs).run seen).1.map (·.spec) = specs ∧
      ((Spec.runAll b.runner true specs).run seen).1.flatMap (·.results) =
        b.answers seen (specs.flatMap (·.items)) ∧
      ((Spec.runAll b.runner true specs).run seen).2 =
        seen ++ b.answers seen (specs.flatMap (·.items)) := by
  induction specs generalizing seen with
  | nil => simp [runAll_nil, answers]
  | cons s rest ih =>
    rw [runAll_cons, if_neg (by simp), run_eq, runItems_going]
    obtain ⟨hspec, hresults, hseen⟩ := ih (seen ++ b.answers seen s.items)
    refine ⟨?_, ?_, ?_⟩
    · rw [List.map_cons, hspec]
    · rw [List.flatMap_cons, hresults, List.flatMap_cons, answers_append]
    · rw [hseen, List.flatMap_cons, answers_append, List.append_assoc]

end Behaviour

/-! ## Runs that stop -/

/-- The results up to the first failure, itself included. -/
def untilFailure : List ItemResult → List ItemResult
  | [] => []
  | r :: rest => if r.status.failed then [r] else r :: untilFailure rest

/-- Results up to the first failure are a beginning of the results. -/
theorem prefix_untilFailure : ∀ rs : List ItemResult, untilFailure rs <+: rs
  | [] => List.prefix_rfl
  | r :: rest => by
    rw [untilFailure]
    split
    · exact ⟨rest, rfl⟩
    · exact List.cons_prefix_cons.mpr ⟨rfl, prefix_untilFailure rest⟩

theorem untilFailure_append (xs ys : List ItemResult) :
    untilFailure (xs ++ ys) =
      if xs.any (·.status.failed) then untilFailure xs else xs ++ untilFailure ys := by
  induction xs with
  | nil => rfl
  | cons x xs ih =>
    rw [List.cons_append, untilFailure, untilFailure, ih, List.any_cons]
    by_cases hx : x.status.failed = true
    · simp [hx]
    · simp only [hx, Bool.false_or, Bool.false_eq_true, if_false]
      split
      · rfl
      · rfl

/-- Either nothing failed, and all results are there, or the last one is the first failure. -/
theorem untilFailure_cases (rs : List ItemResult) :
    (untilFailure rs = rs ∧ ∀ r ∈ rs, r.status.failed = false) ∨
      ∃ passed failure, untilFailure rs = passed ++ [failure] ∧
        (∀ r ∈ passed, r.status.failed = false) ∧ failure.status.failed = true := by
  induction rs with
  | nil => exact Or.inl ⟨rfl, by simp⟩
  | cons r rest ih =>
    rw [untilFailure]
    split
    · next hr => exact Or.inr ⟨[], r, rfl, by simp, hr⟩
    · next hr =>
      rw [Bool.not_eq_true] at hr
      rcases ih with ⟨he, hn⟩ | ⟨passed, failure, he, hn, hf⟩
      · exact Or.inl ⟨by rw [he], List.forall_mem_cons.mpr ⟨hr, hn⟩⟩
      · exact Or.inr ⟨r :: passed, failure, by rw [he]; rfl, List.forall_mem_cons.mpr ⟨hr, hn⟩, hf⟩

/-- Results up to the first failure have a failure when the results have one. -/
theorem any_failed_untilFailure (rs : List ItemResult) :
    (untilFailure rs).any (·.status.failed) = rs.any (·.status.failed) := by
  induction rs with
  | nil => rfl
  | cons r rest ih =>
    rw [untilFailure]
    split
    · next hr => simp [hr]
    · rw [List.any_cons, List.any_cons, ih]

theorem untilFailure_eq_self {rs : List ItemResult} (h : rs.any (·.status.failed) = false) :
    untilFailure rs = rs := by
  rcases untilFailure_cases rs with ⟨he, -⟩ | ⟨passed, failure, he, -, hf⟩
  · exact he
  · rw [← any_failed_untilFailure, he] at h
    simp [hf] at h

/-- What is skipped does not fail. -/
theorem failed_of_mem_skipped {items : List Item} {q : ItemResult}
    (h : q ∈ items.map ItemResult.skipped) : q.status.failed = false := by
  obtain ⟨item, -, rfl⟩ := List.mem_map.mp h
  rfl

theorem any_failed_skipped (items : List Item) :
    (items.map ItemResult.skipped).any (·.status.failed) = false :=
  List.any_eq_false.mpr fun _ hq => by rw [failed_of_mem_skipped hq]; simp

/-- The results of a document that ends with its first failure. The executed ones are a beginning. -/
structure StopsAtFailure (items : List Item) (results executed : List ItemResult) : Prop where
  /-- There is one result for every item, in order. -/
  items_eq : results.map (·.item) = items
  /-- One item fails at most. -/
  count_failed : results.countP (·.status.failed) ≤ 1
  /-- Where none fails, all are executed. -/
  all_executed : (∀ r ∈ results, r.status.failed = false) → executed = results
  /-- What stands before a failure was executed and did not fail; what stands after it is skipped. -/
  of_failed : ∀ before r after, results = before ++ r :: after → r.status.failed = true →
    executed = before ++ [r] ∧ (∀ q ∈ before, q.status.failed = false) ∧
      ∀ q ∈ after, q.status = .skipped ∧ q.exitCode = none ∧ q.stdout = [] ∧ q.stderr = []

/-- A list with one failure splits at it in one way. -/
theorem split_at_failure {passed skips before after : List ItemResult} {failure r : ItemResult}
    (hp : ∀ q ∈ passed, q.status.failed = false) (hs : ∀ q ∈ skips, q.status.failed = false)
    (h : passed ++ failure :: skips = before ++ r :: after) (hr : r.status.failed = true) :
    before = passed ∧ r = failure ∧ after = skips := by
  have hnot : ∀ {q : ItemResult}, q.status.failed = false → r ≠ q := by
    rintro q hq rfl
    rw [hr] at hq
    cases hq
  rcases List.append_eq_append_iff.mp h with ⟨front, rfl, h'⟩ | ⟨back, rfl, h'⟩
  · cases front with
    | nil =>
      obtain ⟨rfl, rfl⟩ := List.cons.inj h'
      exact ⟨List.append_nil passed, rfl, rfl⟩
    | cons x front =>
      obtain ⟨rfl, rfl⟩ := List.cons.inj h'
      exact absurd rfl (hnot (hs r (by simp)))
  · cases back with
    | nil =>
      obtain ⟨rfl, rfl⟩ := List.cons.inj h'
      exact ⟨(List.append_nil before).symm, rfl, rfl⟩
    | cons x back =>
      obtain ⟨rfl, rfl⟩ := List.cons.inj h'
      exact absurd rfl (hnot (hp r (by simp)))

/-- A document in which nothing failed. -/
theorem stopsAtFailure_of_none {rs : List ItemResult} (h : ∀ r ∈ rs, r.status.failed = false) :
    StopsAtFailure (rs.map (·.item)) rs rs where
  items_eq := rfl
  count_failed := by
    rw [List.countP_eq_zero.mpr fun r hr => by rw [h r hr]; simp]
    exact Nat.zero_le 1
  all_executed := fun _ => rfl
  of_failed := by
    rintro before r after rfl hr
    rw [h r (by simp)] at hr
    cases hr

/-- A document that ended with a failure. -/
theorem stopsAtFailure_of_first {passed : List ItemResult} {failure : ItemResult}
    (skips : List Item) (hp : ∀ r ∈ passed, r.status.failed = false)
    (hf : failure.status.failed = true) :
    StopsAtFailure ((passed ++ [failure]).map (·.item) ++ skips)
      (passed ++ [failure] ++ skips.map ItemResult.skipped) (passed ++ [failure]) where
  items_eq := by
    rw [List.map_append, List.map_map]
    exact congrArg _ (List.map_id skips)
  count_failed := by
    have hzero : ∀ {rs : List ItemResult}, (∀ r ∈ rs, r.status.failed = false) →
        rs.countP (·.status.failed) = 0 := by
      intro rs h
      exact List.countP_eq_zero.mpr fun r hr => by rw [h r hr]; simp
    rw [List.countP_append, List.countP_append, hzero hp,
      hzero fun _ hq => failed_of_mem_skipped hq]
    simp [hf]
  all_executed := by
    intro h
    rw [h failure (by simp)] at hf
    cases hf
  of_failed := by
    intro before r after h hr
    rw [List.append_assoc, List.singleton_append] at h
    obtain ⟨rfl, rfl, rfl⟩ := split_at_failure hp (fun _ hq => failed_of_mem_skipped hq) h hr
    refine ⟨rfl, hp, ?_⟩
    intro q hq
    obtain ⟨item, -, rfl⟩ := List.mem_map.mp hq
    exact ⟨rfl, rfl, rfl, rfl⟩

/-- **The results up to the first failure, with the rest skipped, are those of a document that stops.** -/
theorem stopsAtFailure_untilFailure (rs : List ItemResult) :
    StopsAtFailure (rs.map (·.item))
      (untilFailure rs ++ ((rs.map (·.item)).drop (untilFailure rs).length).map ItemResult.skipped)
      (untilFailure rs) := by
  rcases untilFailure_cases rs with ⟨he, hn⟩ | ⟨passed, failure, he, hn, hf⟩
  · rw [he, List.drop_of_length_le (by simp), List.map_nil, List.append_nil]
    exact stopsAtFailure_of_none hn
  · obtain ⟨rest, hrest⟩ := prefix_untilFailure rs
    rw [he] at hrest ⊢
    rw [← hrest, List.map_append, List.drop_left' (by simp)]
    exact stopsAtFailure_of_first _ hn hf

namespace Behaviour

variable (b : Behaviour)

/-- A document that stops at its first failure skips the rest. -/
theorem runItems_stopping (seen : List ItemResult) (items : List Item) :
    (runItems b.runner false items).run seen =
      (untilFailure (b.answers seen items) ++
          (items.drop (untilFailure (b.answers seen items)).length).map .skipped,
        seen ++ untilFailure (b.answers seen items)) := by
  induction items generalizing seen with
  | nil => simp [runItems_nil, answers, untilFailure]
  | cons item rest ih =>
    rw [runItems_cons, answers, untilFailure]
    by_cases hf : (b.result seen item).status.failed = true
    · simp [hf]
    · simp [hf, ih]

/-- The document fails when something that it executed failed. -/
theorem failed_run_stopping (seen : List ItemResult) (s : Spec) :
    ((s.run b.runner false).run seen).1.status.failed =
      (b.answers seen s.items).any (·.status.failed) := by
  rw [SpecResult.failed_status, run_eq, runItems_stopping, List.any_append,
    any_failed_untilFailure, any_failed_skipped, Bool.or_false]

/-- **A run that stops executes what a run that keeps going does, up to the first failure.** -/
theorem runAll_stopping (seen : List ItemResult) (specs : List Spec) :
    ((Spec.runAll b.runner false specs).run seen).2 =
      seen ++ untilFailure (b.answers seen (specs.flatMap (·.items))) := by
  induction specs generalizing seen with
  | nil => simp [runAll_nil, answers, untilFailure]
  | cons s rest ih =>
    rw [runAll_cons, failed_run_stopping, List.flatMap_cons, answers_append, untilFailure_append,
      run_eq, runItems_stopping]
    -- a failure in the first document is the first failure of all
    by_cases hf : (b.answers seen s.items).any (·.status.failed) = true
    · simp only [hf, Bool.not_false, Bool.and_true, if_true]
    · rw [Bool.not_eq_true] at hf
      simp only [hf, Bool.false_and, Bool.false_eq_true, if_false]
      rw [ih, untilFailure_eq_self hf, List.append_assoc]

/-- A document that stops at its first failure, run after some results. -/
theorem stopsAtFailure_answers (seen : List ItemResult) (items : List Item) :
    StopsAtFailure items
      (untilFailure (b.answers seen items) ++
        (items.drop (untilFailure (b.answers seen items)).length).map .skipped)
      (untilFailure (b.answers seen items)) := by
  have h := stopsAtFailure_untilFailure (b.answers seen items)
  rwa [map_item_answers] at h

/-- There is one result for every item, and it belongs to the item. -/
theorem map_item_runItems (keepGoing : Bool) (seen : List ItemResult) (items : List Item) :
    ((runItems b.runner keepGoing items).run seen).1.map (·.item) = items := by
  cases keepGoing with
  | true => rw [runItems_going, map_item_answers]
  | false =>
    rw [runItems_stopping]
    exact (b.stopsAtFailure_answers seen items).items_eq

theorem map_item_of_mem_runAll {keepGoing : Bool} {seen : List ItemResult} {specs : List Spec}
    {o : SpecResult} (h : o ∈ ((Spec.runAll b.runner keepGoing specs).run seen).1) :
    o.results.map (·.item) = o.spec.items := by
  induction specs generalizing seen with
  | nil => cases h
  | cons s rest ih =>
    rw [runAll_cons] at h
    split at h
    · obtain rfl := List.mem_singleton.mp h
      exact b.map_item_runItems keepGoing seen s.items
    · rcases List.mem_cons.mp h with rfl | h
      · exact b.map_item_runItems keepGoing seen s.items
      · exact ih h

/-- What the documents executed, one after the other, is what the run executed. -/
theorem runAll_stopping_parts (seen : List ItemResult) (specs : List Spec) :
    ∃ parts : List (List ItemResult),
      List.Forall₂ (fun o part => StopsAtFailure o.spec.items o.results part)
        ((Spec.runAll b.runner false specs).run seen).1 parts ∧
      ((Spec.runAll b.runner false specs).run seen).2 = seen ++ parts.flatten := by
  induction specs generalizing seen with
  | nil => exact ⟨[], .nil, (List.append_nil seen).symm⟩
  | cons s rest ih =>
    rw [runAll_cons, run_eq, runItems_stopping]
    split
    · exact ⟨[untilFailure (b.answers seen s.items)], .cons (b.stopsAtFailure_answers seen s.items) .nil,
        by simp⟩
    · obtain ⟨parts, hparts, hseen⟩ := ih (seen ++ untilFailure (b.answers seen s.items))
      exact ⟨_ :: parts, .cons (b.stopsAtFailure_answers seen s.items) hparts, by rw [hseen]; simp⟩

/-- The documents of a run that stops are a beginning of all. Only the last one can fail, and it does
when some are left out. -/
theorem runAll_stopping_documents (seen : List ItemResult) (specs : List Spec) :
    ((Spec.runAll b.runner false specs).run seen).1.map (·.spec) <+: specs ∧
      (∀ o ∈ ((Spec.runAll b.runner false specs).run seen).1.dropLast,
        o.status.failed = false) ∧
      (((Spec.runAll b.runner false specs).run seen).1.length < specs.length →
        ∃ o, ((Spec.runAll b.runner false specs).run seen).1.getLast? = some o ∧
          o.status.failed = true) := by
  induction specs generalizing seen with
  | nil => simp [runAll_nil]
  | cons s rest ih =>
    rw [runAll_cons]
    split
    · next hf =>
      rw [Bool.not_false, Bool.and_true] at hf
      exact ⟨⟨rest, rfl⟩, by simp, fun _ => ⟨_, rfl, hf⟩⟩
    · next hf =>
      rw [Bool.not_false, Bool.and_true, Bool.not_eq_true] at hf
      obtain ⟨hspec, hpassed, hlast⟩ := ih ((s.run b.runner false).run seen).2
      refine ⟨List.cons_prefix_cons.mpr ⟨rfl, hspec⟩, ?_, ?_⟩
      · intro o ho
        by_cases hos : ((Spec.runAll b.runner false rest).run ((s.run b.runner false).run seen).2).1 = []
        · rw [hos] at ho
          cases ho
        · rw [List.dropLast_cons_of_ne_nil hos] at ho
          rcases List.mem_cons.mp ho with rfl | ho
          · exact hf
          · exact hpassed o ho
      · intro hlt
        obtain ⟨o, ho, hof⟩ := hlast (by simpa using hlt)
        exact ⟨o, by rw [List.getLast?_cons, ho]; rfl, hof⟩

end Behaviour

namespace Spec

/--
**Where a run stops.**

Whatever the commands do, every document that runs has one result for each of its items, in order. A run
that keeps going executes all items of all documents, one after the other. A run that does not ends a
document with its first failure, and ends itself with the first document that fails. What it executes
is, with the same results, a beginning of what the run that keeps going executes.
-/
theorem runAll_recorded (b : Behaviour) (seen : List ItemResult) (specs : List Spec) :
    let going := (runAll b.runner true specs).run seen
    let stopping := (runAll b.runner false specs).run seen
    (∀ keepGoing, ∀ o ∈ ((runAll b.runner keepGoing specs).run seen).1,
      o.results.map (·.item) = o.spec.items) ∧
    -- a run that keeps going
    (going.1.map (·.spec) = specs ∧
      ∃ executed, going.2 = seen ++ executed ∧ executed = going.1.flatMap (·.results) ∧
        executed.map (·.item) = specs.flatMap (·.items)) ∧
    -- a run that stops
    ((∃ parts, List.Forall₂ (fun o part => StopsAtFailure o.spec.items o.results part)
        stopping.1 parts ∧ stopping.2 = seen ++ parts.flatten) ∧
      stopping.1.map (·.spec) <+: specs ∧
      (∀ o ∈ stopping.1.dropLast, o.status.failed = false) ∧
      (stopping.1.length < specs.length →
        ∃ o, stopping.1.getLast? = some o ∧ o.status.failed = true)) ∧
    -- both of them
    stopping.2 <+: going.2 := by
  intro going stopping
  obtain ⟨hspec, hresults, hgoing⟩ := b.runAll_going seen specs
  have hstopping : stopping.2 = seen ++ untilFailure (b.answers seen (specs.flatMap (·.items))) :=
    b.runAll_stopping seen specs
  refine ⟨fun _ _ ho => b.map_item_of_mem_runAll ho, ⟨hspec, _, hgoing, hresults.symm, ?_⟩,
    ⟨b.runAll_stopping_parts seen specs, b.runAll_stopping_documents seen specs⟩, ?_⟩
  · exact b.map_item_answers seen _
  · rw [hstopping, hgoing]
    exact (List.prefix_append_right_inj seen).mpr (prefix_untilFailure _)

end Spec

end DocAudit
