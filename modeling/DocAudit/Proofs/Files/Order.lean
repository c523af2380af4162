import DocAudit.Files.Path

/-!
# The order of paths

Texts are ordered by their characters and paths by their components. Both orders are total, so a sorted list
of paths is in order.

## Contents

* `Text.le_total`, `Text.le_trans`, `Text.le_antisymm`
* `Path.le_total`, `Path.le_trans`
* `Path.pairwise_mergeSort`: **sorted paths are in order**
-/

namespace DocAudit

namespace Text

theorem val_lt_or_lt {a b : Char} (h : a ≠ b) : a.val < b.val ∨ b.val < a.val := by
  have hne : a.val.toNat ≠ b.val.toNat := fun he => h (Char.ext (UInt32.toNat_inj.mp he))
  rw [UInt32.lt_iff_toNat_lt, UInt32.lt_iff_toNat_lt]
  omega

theorem cons_le_cons (a b : Char) (s t : Text) :
    le (a :: s) (b :: t) = if a = b then le s t else decide (a.val < b.val) := rfl

theorem le_total : ∀ s t : Text, le s t = true ∨ le t s = true
  | [], _ => .inl rfl
  | _ :: _, [] => .inr rfl
  | a :: s, b :: t => by
    rw [cons_le_cons, cons_le_cons]
    by_cases h : a = b
    · rw [if_pos h, if_pos h.symm]
      exact le_total s t
    · rw [if_neg h, if_neg (Ne.symm h), decide_eq_true_iff, decide_eq_true_iff]
      exact val_lt_or_lt h

theorem le_antisymm : ∀ {s t : Text}, le s t = true → le t s = true → s = t
  | [], [], _, _ => rfl
  | [], _ :: _, _, h => by cases h
  | _ :: _, [], h, _ => by cases h
  | a :: s, b :: t, h, h' => by
    rw [cons_le_cons] at h h'
    by_cases hab : a = b
    · rw [if_pos hab] at h
      rw [if_pos hab.symm] at h'
      rw [hab, le_antisymm h h']
    · rw [if_neg hab, decide_eq_true_iff, UInt32.lt_iff_toNat_lt] at h
      rw [if_neg (Ne.symm hab), decide_eq_true_iff, UInt32.lt_iff_toNat_lt] at h'
      omega

theorem le_trans : ∀ {s t u : Text}, le s t = true → le t u = true → le s u = true
  | [], _, _, _, _ => rfl
  | _ :: _, [], _, h, _ => by cases h
  | _ :: _, _ :: _, [], _, h => by cases h
  | a :: s, b :: t, c :: u, h, h' => by
    rw [cons_le_cons] at h h' ⊢
    by_cases hab : a = b
    · rw [if_pos hab] at h
      subst hab
      by_cases hac : a = c
      · rw [if_pos hac] at h' ⊢
        exact le_trans h h'
      · rw [if_neg hac] at h' ⊢
        exact h'
    · rw [if_neg hab, decide_eq_true_iff] at h
      by_cases hbc : b = c
      · subst hbc
        rw [if_neg hab, decide_eq_true_iff]
        exact h
      · rw [if_neg hbc, decide_eq_true_iff] at h'
        rw [UInt32.lt_iff_toNat_lt] at h h'
        have hac : a ≠ c := by
          rintro rfl
          omega
        rw [if_neg hac, decide_eq_true_iff, UInt32.lt_iff_toNat_lt]
        omega

end Text

namespace Path

open Text

theorem leComponents_cons_cons (p q : Text) (ps qs : List Text) :
    leComponents (p :: ps) (q :: qs) = if p = q then leComponents ps qs else Text.le p q := rfl

theorem leComponents_total : ∀ ps qs : List Text, leComponents ps qs = true ∨ leComponents qs ps = true
  | [], _ => .inl rfl
  | _ :: _, [] => .inr rfl
  | p :: ps, q :: qs => by
    rw [leComponents_cons_cons, leComponents_cons_cons]
    by_cases h : p = q
    · rw [if_pos h, if_pos h.symm]
      exact leComponents_total ps qs
    · rw [if_neg h, if_neg (Ne.symm h)]
      exact le_total p q

theorem leComponents_trans : ∀ {ps qs rs : List Text}, leComponents ps qs = true →
    leComponents qs rs = true → leComponents ps rs = true
  | [], _, _, _, _ => rfl
  | _ :: _, [], _, h, _ => by cases h
  | _ :: _, _ :: _, [], _, h => by cases h
  | p :: ps, q :: qs, r :: rs, h, h' => by
    rw [leComponents_cons_cons] at h h' ⊢
    by_cases hpq : p = q
    · rw [if_pos hpq] at h
      subst hpq
      by_cases hpr : p = r
      · rw [if_pos hpr] at h' ⊢
        exact leComponents_trans h h'
      · rw [if_neg hpr] at h' ⊢
        exact h'
    · rw [if_neg hpq] at h
      by_cases hqr : q = r
      · subst hqr
        rw [if_neg hpq]
        exact h
      · rw [if_neg hqr] at h'
        -- the first component of the last path stands behind that of the first one
        have hpr : p ≠ r := by
          rintro rfl
          exact hpq (le_antisymm h h')
        rw [if_neg hpr]
        exact Text.le_trans h h'

theorem le_total (p q : Path) : p.le q = true ∨ q.le p = true := leComponents_total p.components q.components

theorem le_trans {p q r : Path} (h : p.le q = true) (h' : q.le r = true) : p.le r = true :=
  leComponents_trans h h'

/-- **Sorted paths are in order.** -/
theorem pairwise_mergeSort (paths : List Path) :
    (paths.mergeSort Path.le).Pairwise fun p q => p.le q = true := by
  have htotal : ∀ p q : Path, (p.le q || q.le p) = true := by
    intro p q
    rw [Bool.or_eq_true]
    exact Path.le_total p q
  exact @List.pairwise_mergeSort Path Path.le (fun _ _ _ => Path.le_trans) htotal paths

end Path

end DocAudit
