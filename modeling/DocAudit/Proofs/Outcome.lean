import DocAudit.Failure
import Mathlib.Data.List.Forall2

/-!
# Outcomes of several steps

When work that may fail gives a result: each of its steps does. Where it is done in a world, the next step
finds the world as the step before it left it.

## Contents

* `Outcome.bind_eq_ok_iff`, `Outcome.bind_eq_error_iff`, `Outcome.bind_map`, `Outcome.map_eq_ok_iff`,
  `Outcome.bind_return_eq_error_iff`: one step after another
* `Outcome.exists_of_isSome`: a result that is there
* `Outcome.mapM_eq_ok_iff`, `Outcome.mapM_eq_error_iff`: **the same work on each member of a list**
* `Outcome.mapM_append_eq_ok_iff`, `Outcome.mapM_append_eq_error_iff`, `Outcome.mapM_cons_eq_error_iff`: the same
  work on parts of a list
* `Outcome.exists_mapM_iff`, `Outcome.exists_filterMapM_iff`: when there are results at all
* `Outcome.mapM_return_eq_ok`, `Outcome.mapM_return_eq_error`: work of which something is made
* `Outcome.mapM_filter_eq_error_iff`: some of the members instead of all
* `Outcome.exists_of_mapM`, `Outcome.exists_of_mapM_error`, `Outcome.mem_of_mapM`,
  `Outcome.mem_of_filterMapM`, `Outcome.eq_of_filterMapM`, `Outcome.filterMapM_congr`,
  `Outcome.exists_of_filterMapM_error`: what is found among the members of a list
* `Work.run_map`, `Work.run_bind_ok`, `Work.run_bind_error`, `Work.exists_of_run_bind`: one step after another in a
  world
-/

namespace DocAudit.Outcome

variable {α β γ : Type}

/-- Two steps give a result when the first one does, and the second one on what it gave. -/
theorem bind_eq_ok_iff {ε : Type} {x : Except ε α} {f : α → Except ε β} {b : β} :
    x >>= f = .ok b ↔ ∃ a, x = .ok a ∧ f a = .ok b := by
  cases x with
  | error failure =>
    constructor
    · intro h
      cases h
    · rintro ⟨a, h, -⟩
      cases h
  | ok a =>
    constructor
    · intro h
      exact ⟨a, rfl, h⟩
    · rintro ⟨a', h, hb⟩
      cases h
      exact hb

/-- Two steps fail when the first one does, or the second one on what the first one gave. -/
theorem bind_eq_error_iff {ε : Type} {x : Except ε α} {f : α → Except ε β} {failure : ε} :
    x >>= f = .error failure ↔ x = .error failure ∨ ∃ a, x = .ok a ∧ f a = .error failure := by
  cases x with
  | error failure' =>
    constructor
    · intro h
      cases h
      exact .inl rfl
    · rintro (h | ⟨a, h, -⟩)
      · cases h
        rfl
      · cases h
  | ok a =>
    constructor
    · intro h
      exact .inr ⟨a, rfl, h⟩
    · rintro (h | ⟨a', h, hf⟩)
      · cases h
      · cases h
        exact hf

/-- What is made of the result of two steps is made in the second one. -/
theorem bind_map {ε : Type} {x : Except ε α} {f : α → Except ε β} {g : β → γ} :
    (x.bind f).map g = x.bind fun a => (f a).map g := by
  cases x <;> rfl

theorem map_eq_ok_iff {x : Outcome α} {f : α → β} {b : β} :
    x.map f = .ok b ↔ ∃ a, x = .ok a ∧ f a = b := by
  cases x with
  | error failure =>
    constructor
    · intro h
      cases h
    · rintro ⟨a, h, -⟩
      cases h
  | ok a =>
    constructor
    · intro h
      exact ⟨a, rfl, Except.ok.inj h⟩
    · rintro ⟨a', h, rfl⟩
      cases h
      rfl

/-- Something is made of what was made of a result. -/
theorem map_map {x : Outcome α} {f : α → β} {g : β → γ} : (x.map f).map g = x.map fun a => g (f a) := by
  cases x <;> rfl

/-- Making something of a result does not keep it from being there. -/
theorem exists_map_iff {x : Outcome α} {f : α → β} : (∃ b, x.map f = .ok b) ↔ ∃ a, x = .ok a := by
  constructor
  · rintro ⟨b, h⟩
    obtain ⟨a, ha, -⟩ := map_eq_ok_iff.mp h
    exact ⟨a, ha⟩
  · rintro ⟨a, ha⟩
    exact ⟨f a, map_eq_ok_iff.mpr ⟨a, ha, rfl⟩⟩

/-- A result that is there. -/
theorem exists_of_isSome {x : Outcome α} (h : x.toOption.isSome = true) : ∃ a, x = .ok a := by
  cases x with
  | error failure => cases h
  | ok a => exact ⟨a, rfl⟩

/-- **Work on each member of a list gives results when it does so for all of them.** -/
theorem mapM_eq_ok_iff {f : α → Outcome β} {as : List α} {bs : List β} :
    as.mapM f = .ok bs ↔ List.Forall₂ (fun a b => f a = .ok b) as bs := by
  induction as generalizing bs with
  | nil =>
    rw [List.mapM_nil, List.forall₂_nil_left_iff]
    constructor
    · intro h
      exact (Except.ok.inj h).symm
    · rintro rfl
      rfl
  | cons a as ih =>
    rw [List.mapM_cons, bind_eq_ok_iff, List.forall₂_cons_left_iff]
    constructor
    · rintro ⟨b, hb, h⟩
      obtain ⟨bs', hbs, h⟩ := bind_eq_ok_iff.mp h
      exact ⟨b, bs', hb, ih.mp hbs, (Except.ok.inj h).symm⟩
    · rintro ⟨b, bs', hb, hbs, rfl⟩
      exact ⟨b, hb, bind_eq_ok_iff.mpr ⟨bs', ih.mpr hbs, rfl⟩⟩

/-- The results of work on each member of a list, when they are known. -/
theorem mapM_eq_ok_map {f : α → Outcome β} {g : α → β} {as : List α} (h : ∀ a ∈ as, f a = .ok (g a)) :
    as.mapM f = .ok (as.map g) :=
  mapM_eq_ok_iff.mpr (List.forall₂_map_right_iff.mpr (List.forall₂_same.mpr h))

/-- The same where something is made of each result. -/
theorem mapM_return_eq_ok {f : α → Outcome β} {b : α → β} {g : α → β → γ} {as : List α}
    (h : ∀ a ∈ as, f a = .ok (b a)) :
    (as.mapM fun a => do return g a (← f a)) = .ok (as.map fun a => g a (b a)) :=
  mapM_eq_ok_map fun a ha => by
    rw [h a ha]
    rfl

/-- Work on the members of a list fails when it fails for the first one. -/
theorem mapM_eq_error {f : α → Outcome β} {a : α} {as : List α} {failure : Failure}
    (h : f a = .error failure) : (a :: as).mapM f = .error failure := by
  rw [List.mapM_cons, h]
  rfl

/-- Otherwise its result stands in front of the others. -/
theorem map_mapM_cons {f : α → Outcome β} {a : α} {b : β} {as : List α} (h : f a = .ok b) (g : List β → γ) :
    Except.map g ((a :: as).mapM f) = Except.map (fun bs => g (b :: bs)) (as.mapM f) := by
  rw [List.mapM_cons, h]
  cases as.mapM f <;> rfl

/-- The same where something is made of each result. -/
theorem mapM_return_eq_error {f : α → Outcome β} {g : α → β → γ} {a : α} {as : List α}
    {failure : Failure} (h : f a = .error failure) :
    ((a :: as).mapM fun a => do return g a (← f a)) = .error failure :=
  mapM_eq_error (by
    rw [h]
    rfl)

/-- Two steps of which neither needs what the other one gives. -/
theorem bind_return_eq_error_iff {x : Outcome α} {y : Outcome β} {g : α → β → γ} {failure : Failure} :
    (do
      let a ← x
      let b ← y
      return g a b) = (.error failure : Outcome γ) ↔
      x = .error failure ∨ (∃ a, x = .ok a) ∧ y = .error failure := by
  rw [bind_eq_error_iff]
  refine or_congr_right ⟨?_, ?_⟩
  · rintro ⟨a, ha, h⟩
    rcases bind_eq_error_iff.mp h with h | ⟨_, -, h⟩
    · exact ⟨⟨a, ha⟩, h⟩
    · cases h
  · rintro ⟨⟨a, ha⟩, h⟩
    exact ⟨a, ha, bind_eq_error_iff.mpr (.inl h)⟩

/-- Work on the first member of a list, and on the others. -/
theorem mapM_cons_eq_error_iff {f : α → Outcome β} {a : α} {as : List α} {failure : Failure} :
    (a :: as).mapM f = .error failure ↔
      f a = .error failure ∨ (∃ b, f a = .ok b) ∧ as.mapM f = .error failure := by
  rw [List.mapM_cons]
  exact bind_return_eq_error_iff

/-- Work on the members of two lists. -/
theorem mapM_append_eq_ok_iff {f : α → Outcome β} {as as' : List α} {cs : List β} :
    (as ++ as').mapM f = .ok cs ↔ ∃ bs bs', as.mapM f = .ok bs ∧ as'.mapM f = .ok bs' ∧ cs = bs ++ bs' := by
  rw [List.mapM_append, bind_eq_ok_iff]
  constructor
  · rintro ⟨bs, hbs, h⟩
    obtain ⟨bs', hbs', h⟩ := bind_eq_ok_iff.mp h
    exact ⟨bs, bs', hbs, hbs', (Except.ok.inj h).symm⟩
  · rintro ⟨bs, bs', hbs, hbs', rfl⟩
    exact ⟨bs, hbs, bind_eq_ok_iff.mpr ⟨bs', hbs', rfl⟩⟩

theorem mapM_append_eq_error_iff {f : α → Outcome β} {as as' : List α} {failure : Failure} :
    (as ++ as').mapM f = .error failure ↔
      as.mapM f = .error failure ∨ (∃ bs, as.mapM f = .ok bs) ∧ as'.mapM f = .error failure := by
  rw [List.mapM_append]
  exact bind_return_eq_error_iff

/-- **Work on the members of a list fails as it does for the first one for which it fails.** What stands
behind that one is not looked at. -/
theorem mapM_eq_error_iff {f : α → Outcome β} {as : List α} {failure : Failure} :
    as.mapM f = .error failure ↔ ∃ before a after, as = before ++ a :: after ∧
      (∀ b ∈ before, ∃ y, f b = .ok y) ∧ f a = .error failure := by
  induction as with
  | nil =>
    constructor
    · intro h
      cases h
    · rintro ⟨before, a, after, h, -⟩
      exact absurd h.symm (by simp)
  | cons first rest ih =>
    rw [mapM_cons_eq_error_iff, ih]
    constructor
    · rintro (h | ⟨hfirst, before, a, after, rfl, hbefore, ha⟩)
      · exact ⟨[], first, rest, rfl, by simp, h⟩
      · exact ⟨first :: before, a, after, rfl, List.forall_mem_cons.mpr ⟨hfirst, hbefore⟩, ha⟩
    · rintro ⟨before, a, after, h, hbefore, ha⟩
      cases before with
      | nil =>
        cases h
        exact .inl ha
      | cons first' before =>
        cases h
        obtain ⟨hfirst, hbefore⟩ := List.forall_mem_cons.mp hbefore
        exact .inr ⟨hfirst, before, a, after, rfl, hbefore, ha⟩

/-- Work on the members of a list fails only as it does for one of them. -/
theorem exists_of_mapM_error {f : α → Outcome β} {as : List α} {failure : Failure}
    (h : as.mapM f = .error failure) : ∃ a ∈ as, f a = .error failure := by
  obtain ⟨before, a, after, rfl, -, ha⟩ := mapM_eq_error_iff.mp h
  exact ⟨a, List.mem_append_right before List.mem_cons_self, ha⟩

/-- Members for which the work does not fail can be left out when it is asked why it fails. -/
theorem mapM_filter_eq_error_iff {f : α → Outcome β} {as : List α} {failure : Failure} {p : α → Bool}
    (hp : ∀ a, p a = false → ∃ b, f a = .ok b) :
    (as.filter p).mapM f = .error failure ↔ as.mapM f = .error failure := by
  induction as with
  | nil => rfl
  | cons a as ih =>
    cases ha : p a with
    | true => rw [List.filter_cons_of_pos ha, mapM_cons_eq_error_iff, mapM_cons_eq_error_iff, ih]
    | false =>
      obtain ⟨b, hb⟩ := hp a ha
      rw [List.filter_cons_of_neg (by simp [ha]), mapM_cons_eq_error_iff, ih, hb]
      simp

/-- Making something of each result does not change why there is none. -/
theorem mapM_return_eq_error_iff {f : α → Outcome β} {g : α → β → γ} {as : List α} {failure : Failure} :
    (as.mapM fun a => do return g a (← f a)) = .error failure ↔ as.mapM f = .error failure := by
  have herror : ∀ a, (f a >>= fun b => (return g a b : Outcome γ)) = .error failure ↔
      f a = .error failure := by
    intro a
    rw [bind_eq_error_iff]
    constructor
    · rintro (h | ⟨b, -, h⟩)
      · exact h
      · cases h
    · exact .inl
  have hok : ∀ a, (∃ c, (f a >>= fun b => (return g a b : Outcome γ)) = .ok c) ↔ ∃ b, f a = .ok b := by
    intro a
    constructor
    · rintro ⟨c, h⟩
      obtain ⟨b, hb, -⟩ := bind_eq_ok_iff.mp h
      exact ⟨b, hb⟩
    · rintro ⟨b, hb⟩
      exact ⟨g a b, bind_eq_ok_iff.mpr ⟨b, hb, rfl⟩⟩
  simp only [mapM_eq_error_iff, herror, hok]

/-- Work on the members of a list gives a result for each of them. -/
theorem exists_of_mapM {f : α → Outcome β} {as : List α} {bs : List β} (h : as.mapM f = .ok bs) {a : α}
    (ha : a ∈ as) : ∃ b ∈ bs, f a = .ok b := by
  rw [mapM_eq_ok_iff] at h
  induction h with
  | nil => cases ha
  | @cons a' b as bs hf _ ih =>
    rcases List.mem_cons.mp ha with rfl | ha
    · exact ⟨b, List.mem_cons_self, hf⟩
    · obtain ⟨b', hb', hf'⟩ := ih ha
      exact ⟨b', List.mem_cons_of_mem b hb', hf'⟩

/-- Work on the members of a list comes to an end when it does for each of them. -/
theorem exists_mapM_iff {f : α → Outcome β} {as : List α} :
    (∃ bs, as.mapM f = .ok bs) ↔ ∀ a ∈ as, ∃ b, f a = .ok b := by
  constructor
  · rintro ⟨bs, h⟩ a ha
    obtain ⟨b, -, hb⟩ := exists_of_mapM h ha
    exact ⟨b, hb⟩
  · intro h
    cases hrun : as.mapM f with
    | ok bs => exact ⟨bs, rfl⟩
    | error failure =>
      obtain ⟨a, ha, hfails⟩ := exists_of_mapM_error hrun
      obtain ⟨b, hb⟩ := h a ha
      rw [hb] at hfails
      cases hfails

/-- The same where only some of the results are taken. -/
theorem exists_filterMapM_iff {f : α → Outcome (Option β)} {as : List α} :
    (∃ bs, as.filterMapM f = .ok bs) ↔ ∀ a ∈ as, ∃ found, f a = .ok found := by
  induction as with
  | nil => simp [List.filterMapM_nil, pure, Except.pure]
  | cons a as ih =>
    rw [List.filterMapM_cons, List.forall_mem_cons, ← ih]
    constructor
    · rintro ⟨bs, h⟩
      obtain ⟨found, hfound, h⟩ := bind_eq_ok_iff.mp h
      refine ⟨⟨found, hfound⟩, ?_⟩
      cases found with
      | none => exact ⟨bs, h⟩
      | some first =>
        obtain ⟨rest, hrest, -⟩ := bind_eq_ok_iff.mp h
        exact ⟨rest, hrest⟩
    · rintro ⟨⟨found, hfound⟩, rest, hrest⟩
      cases found with
      | none => exact ⟨rest, bind_eq_ok_iff.mpr ⟨none, hfound, hrest⟩⟩
      | some first =>
        exact ⟨first :: rest,
          bind_eq_ok_iff.mpr ⟨some first, hfound, bind_eq_ok_iff.mpr ⟨rest, hrest, rfl⟩⟩⟩

/-- A result of work on the members of a list is that of one of them. -/
theorem mem_of_mapM {f : α → Outcome β} {as : List α} {bs : List β} (h : as.mapM f = .ok bs) {b : β}
    (hb : b ∈ bs) : ∃ a ∈ as, f a = .ok b := by
  rw [mapM_eq_ok_iff] at h
  induction h with
  | nil => cases hb
  | @cons a b' as bs hf _ ih =>
    rcases List.mem_cons.mp hb with rfl | hb
    · exact ⟨a, List.mem_cons_self, hf⟩
    · obtain ⟨a', ha', hf'⟩ := ih hb
      exact ⟨a', List.mem_cons_of_mem a ha', hf'⟩

/-- What is found among the members of a list was found in one of them. -/
theorem mem_of_filterMapM {f : α → Outcome (Option β)} {as : List α} {bs : List β}
    (h : as.filterMapM f = .ok bs) {b : β} (hb : b ∈ bs) : ∃ a ∈ as, f a = .ok (some b) := by
  induction as generalizing bs with
  | nil =>
    rw [List.filterMapM_nil] at h
    cases h
    cases hb
  | cons a as ih =>
    rw [List.filterMapM_cons] at h
    obtain ⟨found, hfound, h⟩ := bind_eq_ok_iff.mp h
    cases found with
    | none =>
      obtain ⟨a', ha', hb⟩ := ih h hb
      exact ⟨a', List.mem_cons_of_mem a ha', hb⟩
    | some first =>
      obtain ⟨rest, hrest, h⟩ := bind_eq_ok_iff.mp h
      cases h
      rcases List.mem_cons.mp hb with rfl | hb
      · exact ⟨a, List.mem_cons_self, hfound⟩
      · obtain ⟨a', ha', hb⟩ := ih hrest hb
        exact ⟨a', List.mem_cons_of_mem a ha', hb⟩

/-- **What is found among the members of a list is what was found in each of them, in their order.** -/
theorem eq_of_filterMapM {f : α → Outcome (Option β)} {as : List α} {bs : List β}
    (h : as.filterMapM f = .ok bs) : bs = as.filterMap fun a => (f a).toOption.join := by
  induction as generalizing bs with
  | nil =>
    rw [List.filterMapM_nil] at h
    cases h
    rfl
  | cons a as ih =>
    rw [List.filterMapM_cons] at h
    obtain ⟨found, hfound, h⟩ := bind_eq_ok_iff.mp h
    have hjoin : (f a).toOption.join = found := by rw [hfound]; rfl
    rw [List.filterMap_cons, hjoin]
    cases found with
    | none => exact ih h
    | some first =>
      obtain ⟨rest, hrest, h⟩ := bind_eq_ok_iff.mp h
      cases h
      rw [ih hrest]

/-- Of the members of a list, only the work on them matters. -/
theorem filterMapM_congr {f : α → Outcome (Option β)} {as as' : List α} (h : as'.map f = as.map f) :
    as'.filterMapM f = as.filterMapM f := by
  induction as generalizing as' with
  | nil => rw [List.map_eq_nil_iff.mp h]
  | cons a as ih =>
    obtain ⟨a', rest, rfl, ha, hrest⟩ := List.map_eq_cons_iff.mp h
    rw [List.filterMapM_cons, List.filterMapM_cons, ha, ih hrest]

/-- What is picked from work on the members of a list fails only as the work does for one of them. -/
theorem exists_of_filterMapM_error {f : α → Outcome (Option β)} {as : List α} {failure : Failure}
    (h : as.filterMapM f = .error failure) : ∃ a ∈ as, f a = .error failure := by
  induction as with
  | nil => cases h
  | cons a as ih =>
    rw [List.filterMapM_cons, bind_eq_error_iff] at h
    rcases h with h | ⟨found, -, h⟩
    · exact ⟨a, List.mem_cons_self, h⟩
    · have hrest : as.filterMapM f = .error failure := by
        cases found with
        | none => exact h
        | some b =>
          rcases bind_eq_error_iff.mp h with h | ⟨_, -, h⟩
          · exact h
          · cases h
      obtain ⟨a', ha', h⟩ := ih hrest
      exact ⟨a', List.mem_cons_of_mem a ha', h⟩

end DocAudit.Outcome

namespace DocAudit.Work

variable {σ α β : Type} {x : Work σ α} {w w' : σ}

/-- Where something is made of the result, the world is the same. -/
theorem run_map (g : α → β) : (g <$> x).run.run w = ((x.run.run w).1.map g, (x.run.run w).2) := by
  rw [ExceptT.run_map, StateT.run_map]
  rfl

@[simp] theorem run_get : (get : Work σ σ).run.run w = (.ok w, w) := rfl

@[simp] theorem run_modify (f : σ → σ) : (modify f : Work σ Unit).run.run w = (.ok (), f w) := rfl

/-- A step after one that gave a result. -/
theorem run_bind_ok {f : α → Work σ β} {a : α} (h : x.run.run w = (.ok a, w')) :
    (x >>= f).run.run w = (f a).run.run w' := by
  rw [ExceptT.run_bind, StateT.run_bind, h]
  rfl

/-- After a step that fails there is no other one. -/
theorem run_bind_error {f : α → Work σ β} {failure : Failure} (h : x.run.run w = (.error failure, w')) :
    (x >>= f).run.run w = (.error failure, w') := by
  rw [ExceptT.run_bind, StateT.run_bind, h]
  rfl

/-- Two steps give a result when the first one does, and the second one in the world behind it. -/
theorem exists_of_run_bind {f : α → Work σ β} {b : β} (h : ((x >>= f).run.run w).1 = .ok b) :
    ∃ a w', x.run.run w = (.ok a, w') ∧ ((f a).run.run w').1 = .ok b := by
  rcases hx : x.run.run w with ⟨failure | a, w'⟩
  · rw [run_bind_error hx] at h
    cases h
  · rw [run_bind_ok hx] at h
    exact ⟨a, w', rfl, h⟩

end DocAudit.Work
