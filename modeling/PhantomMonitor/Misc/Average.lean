import Mathlib.Algebra.BigOperators.Group.List.Basic
import Mathlib.Algebra.Order.Field.Basic
import Mathlib.Tactic.FieldSimp
import Mathlib.Tactic.Linarith
import Mathlib.Tactic.Ring

/-!
# Averages

An amount is counted from one point in time to the next and reported as its average over the time
between. Averages times their intervals give the amounts back where time goes on. The mean of
samples follows them one by one.
-/

namespace PhantomMonitor

namespace Average

variable {K : Type} [Field K] [LinearOrder K]

/-- The averages of amounts, each over the time since the one before. -/
def averages (start : K) : List (K × K) → List K
  | [] => []
  | (time, amount) :: rest => amount / (time - start) :: averages time rest

/-- The sum of the values, each times the time since the one before. -/
def integral (start : K) : List (K × K) → K
  | [] => 0
  | (time, value) :: rest => value * (time - start) + integral time rest

/-- Time goes on from one point to the next. -/
def Advances (start : K) : List K → Prop
  | [] => True
  | time :: rest => start < time ∧ Advances time rest

/-- The values at the times of the amounts. -/
def shown (start : K) (f : K → K) (amounts : List (K × K)) : List (K × K) :=
  (amounts.map Prod.fst).zip ((averages start amounts).map f)

variable [IsStrictOrderedRing K]

/-- Where time goes on, the averages give back the amounts. -/
theorem integral_averages {start : K} {amounts : List (K × K)}
    (advances : Advances start (amounts.map Prod.fst)) :
    integral start (shown start id amounts) = (amounts.map Prod.snd).sum := by
  induction amounts generalizing start with
  | nil => rfl
  | cons entry rest ih =>
      obtain ⟨time, amount⟩ := entry
      obtain ⟨later, advances⟩ := advances
      have rest := ih advances
      simp only [shown, averages, integral, List.map_cons, List.zip_cons_cons, List.sum_cons,
        id_eq] at rest ⊢
      rw [div_mul_cancel₀ _ (sub_pos.mpr later).ne', rest]

/-- The same for the averages that are not negative. -/
theorem integral_positive {start : K} {amounts : List (K × K)}
    (advances : Advances start (amounts.map Prod.fst)) :
    integral start (shown start (max 0) amounts) =
      (amounts.map fun entry => max 0 entry.2).sum := by
  induction amounts generalizing start with
  | nil => rfl
  | cons entry rest ih =>
      obtain ⟨time, amount⟩ := entry
      obtain ⟨later, advances⟩ := advances
      have rest := ih advances
      have interval : 0 < time - start := sub_pos.mpr later
      simp only [shown, averages, integral, List.map_cons, List.zip_cons_cons, List.sum_cons]
        at rest ⊢
      rw [max_mul_of_nonneg _ _ interval.le, zero_mul, div_mul_cancel₀ _ interval.ne', rest]

/-- Where time stands still or goes back, averages that are not negative report less. -/
theorem integral_positive_le (start : K) (amounts : List (K × K)) :
    integral start (shown start (max 0) amounts) ≤
      (amounts.map fun entry => max 0 entry.2).sum := by
  induction amounts generalizing start with
  | nil => exact le_rfl
  | cons entry rest ih =>
      obtain ⟨time, amount⟩ := entry
      have rest := ih time
      simp only [shown, averages, integral, List.map_cons, List.zip_cons_cons, List.sum_cons]
        at rest ⊢
      apply add_le_add _ rest
      rcases le_or_gt time start with back | later
      · calc max 0 (amount / (time - start)) * (time - start)
            ≤ 0 := mul_nonpos_of_nonneg_of_nonpos (le_max_left _ _) (sub_nonpos.mpr back)
          _ ≤ max 0 amount := le_max_left _ _
      · have interval : 0 < time - start := sub_pos.mpr later
        rw [max_mul_of_nonneg _ _ interval.le, zero_mul, div_mul_cancel₀ _ interval.ne']

/-! ## Means of samples -/

/-- The arithmetic mean; 0 for no sample. -/
def mean (xs : List K) : K := xs.sum / xs.length

/-- One more sample moves the mean by its share of the difference. -/
theorem mean_concat (xs : List K) (x : K) :
    mean (xs ++ [x]) = mean xs + (x - mean xs) / (xs.length + 1) := by
  have more : (xs.length : K) + 1 ≠ 0 := by positivity
  unfold mean
  rw [List.sum_append, List.sum_singleton, List.length_append, List.length_singleton]
  push_cast
  by_cases none : (xs.length : K) = 0
  · have empty : xs = [] := List.length_eq_zero_iff.mp (by exact_mod_cast none)
    subst empty
    simp
  · field_simp
    ring

end Average

end PhantomMonitor
