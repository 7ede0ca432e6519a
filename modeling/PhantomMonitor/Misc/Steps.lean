import Mathlib.Algebra.BigOperators.Group.List.Basic
import Mathlib.Algebra.Order.Group.Defs
import Mathlib.Data.List.ReduceOption
import Mathlib.Tactic.Abel
import Mathlib.Tactic.Linarith

/-!
# Amounts between readings

What is metered are the amounts from each reading to the next. A reading that fails leaves the one
before in force, or stands for zero; in both cases the sum over a run is known.
-/

namespace PhantomMonitor

namespace Steps

variable {α K : Type}

/-- The amounts from each reading to the next. -/
def steps (amount : α → α → K) (p : α) : List α → List K
  | [] => []
  | q :: qs => amount p q :: steps amount q qs

/-- Amounts that are differences of a potential add up to its difference over the run. -/
theorem sum_steps [AddCommGroup K] {amount : α → α → K} (potential : α → K) {R : α → α → Prop}
    (exact : ∀ p q, R p q → amount p q = potential q - potential p) {p : α} {qs : List α}
    (chain : List.IsChain R (p :: qs)) :
    (steps amount p qs).sum = potential (qs.getLastD p) - potential p := by
  induction qs generalizing p with
  | nil => simp [steps]
  | cons q qs ih =>
      obtain ⟨first, chain⟩ := List.isChain_cons_cons.mp chain
      rw [steps, List.sum_cons, ih chain, exact p q first, List.getLastD_cons]
      abel

/-- The readings, where a failed one repeats the one before. -/
def held (p : α) : List (Option α) → List α
  | [] => []
  | none :: rs => p :: held p rs
  | some q :: rs => q :: held q rs

theorem getLastD_held (p : α) (rs : List (Option α)) :
    (held p rs).getLastD p = rs.reduceOption.getLastD p := by
  induction rs generalizing p with
  | nil => rfl
  | cons r rs ih =>
      cases r with
      | none => rw [held, List.getLastD_cons, List.reduceOption_cons_of_none, ih]
      | some q =>
          rw [held, List.reduceOption_cons_of_some, List.getLastD_cons, List.getLastD_cons, ih]

/-! ## Failed readings that repeat the one before -/

/-- An amount that is the difference of a potential from a reading to a later one. -/
structure Gauge (α K : Type) [AddCommGroup K] [LinearOrder K] where
  zero : α
  le : α → α → Prop
  amount : α → α → K
  potential : α → K
  le_refl : ∀ p, le p p
  zero_le : ∀ p, le zero p
  amount_eq : ∀ {p q}, le p q → amount p q = potential q - potential p
  amount_nonneg : ∀ p q, 0 ≤ amount p q
  amount_zero : ∀ {p}, p ≠ zero → 0 < amount p zero
  potential_zero : potential zero = 0

namespace Gauge

variable [AddCommGroup K] [LinearOrder K] (g : Gauge α K)

theorem potential_nonneg (p : α) : 0 ≤ g.potential p := by
  have amount := g.amount_eq (g.zero_le p)
  rw [g.potential_zero, sub_zero] at amount
  exact amount ▸ g.amount_nonneg g.zero p

theorem held_isChain {p : α} {rs : List (Option α)}
    (chain : List.IsChain g.le (p :: rs.reduceOption)) : List.IsChain g.le (p :: held p rs) := by
  induction rs generalizing p with
  | nil => exact .singleton p
  | cons r rs ih =>
      cases r with
      | none => exact List.isChain_cons_cons.mpr ⟨g.le_refl p, ih chain⟩
      | some q =>
          obtain ⟨later, chain⟩ := List.isChain_cons_cons.mp chain
          exact List.isChain_cons_cons.mpr ⟨later, ih chain⟩

theorem sum_held {p : α} {rs : List (Option α)}
    (chain : List.IsChain g.le (p :: rs.reduceOption)) :
    (steps g.amount p (held p rs)).sum =
      g.potential (rs.reduceOption.getLastD p) - g.potential p := by
  rw [sum_steps g.potential (fun _ _ => g.amount_eq) (g.held_isChain chain), getLastD_held]

theorem zero_isChain {qs : List α} (chain : List.IsChain g.le qs) :
    List.IsChain g.le (g.zero :: qs) := by
  cases qs with
  | nil => exact .singleton _
  | cons q qs => exact List.isChain_cons_cons.mpr ⟨g.zero_le q, chain⟩

theorem zero_chain {p : α} {qs : List α} (chain : List.IsChain g.le (p :: qs)) :
    List.IsChain g.le (g.zero :: qs) := g.zero_isChain (List.isChain_of_isChain_cons chain)

/-- A start from zero counts the first reading whole. -/
theorem sum_held_zero {rs : List (Option α)} (chain : List.IsChain g.le rs.reduceOption) :
    (steps g.amount g.zero (held g.zero rs)).sum =
      g.potential (rs.reduceOption.getLastD g.zero) := by
  rw [g.sum_held (g.zero_isChain chain), g.potential_zero, sub_zero]

variable [IsOrderedAddMonoid K]

/-- A start that stands for zero counts too much when the first reading fails, unless the reading
before it was zero. -/
theorem sum_held_zero_le_iff {p : α} {rs : List (Option α)}
    (chain : List.IsChain g.le (p :: rs.reduceOption)) :
    (steps g.amount p (held g.zero rs)).sum ≤
        g.potential (rs.reduceOption.getLastD p) - g.potential p ↔
      (rs.head? = some none → p = g.zero) := by
  cases rs with
  | nil => simp [held, steps]
  | cons r rs =>
      cases r with
      | some q =>
          have exact := g.sum_held chain
          rw [held] at exact ⊢
          rw [exact]
          simp
      | none =>
          rw [List.reduceOption_cons_of_none] at chain ⊢
          rw [held, steps, List.sum_cons, g.sum_held (g.zero_chain chain), g.potential_zero,
            sub_zero]
          by_cases same : p = g.zero
          · subst same
            rw [g.amount_eq (g.le_refl _), g.potential_zero]
            simp
          · have wrapped := g.amount_zero same
            have last : g.potential (rs.reduceOption.getLastD p) - g.potential p ≤
                g.potential (rs.reduceOption.getLastD g.zero) := by
              cases rs.reduceOption with
              | nil => simp [g.potential_zero]
              | cons q qs =>
                  rw [List.getLastD_cons, List.getLastD_cons]
                  exact sub_le_self _ (g.potential_nonneg p)
            simp only [List.head?_cons, same]
            refine ⟨fun bounded => absurd (bounded.trans last) ?_, fun h => (h trivial).elim⟩
            simpa using wrapped

end Gauge

/-! ## Failed readings that stand for zero -/

variable [AddCommGroup K] [LinearOrder K]

/-- A reading after a failed one does no harm if nothing had been counted before. -/
def Recovers (last : K) (failed : Bool) : List (Option K) → Prop
  | [] => True
  | none :: rs => Recovers last true rs
  | some e :: rs => (failed = true → last = 0) ∧ Recovers e false rs

/-- What is counted again after failed readings. -/
def recount (last : K) (failed : Bool) : List (Option K) → K
  | [] => 0
  | none :: rs => recount last true rs
  | some e :: rs => (if failed then last else 0) + recount e false rs

variable [IsOrderedAddMonoid K]

theorem sum_reset {last : K} (failed : Bool) {rs : List (Option K)} (start : 0 ≤ last)
    (chain : List.IsChain (· ≤ ·) (last :: rs.reduceOption)) :
    ((steps (fun p q => q - p) (if failed then 0 else last) (rs.map fun r => r.getD 0)).map
        (max 0)).sum =
      rs.reduceOption.getLastD last - last + recount last failed rs := by
  induction rs generalizing last failed with
  | nil => simp [steps, recount]
  | cons r rs ih =>
      cases r with
      | none =>
          rw [List.reduceOption_cons_of_none] at chain ⊢
          have drop : max 0 (0 - if failed then 0 else last) = 0 := by
            cases failed <;> simp [start]
          have rest := ih true start chain
          simp only [if_true] at rest
          simp only [List.map_cons, Option.getD_none, steps, List.sum_cons, drop, zero_add, rest,
            recount]
      | some e =>
          rw [List.reduceOption_cons_of_some] at chain ⊢
          obtain ⟨later, chain⟩ := List.isChain_cons_cons.mp chain
          have rest := ih false (start.trans later) chain
          have step : max 0 (e - if failed then 0 else last) =
              e - last + if failed then last else 0 := by
            cases failed with
            | true => simp [start.trans later]
            | false => simp [later]
          simp only [Bool.false_eq_true, if_false] at rest
          simp only [List.map_cons, Option.getD_some, steps, List.sum_cons, step, rest, recount,
            List.getLastD_cons]
          abel

theorem recount_spec {last : K} (failed : Bool) {rs : List (Option K)} (start : 0 ≤ last)
    (chain : List.IsChain (· ≤ ·) (last :: rs.reduceOption)) :
    0 ≤ recount last failed rs ∧ (recount last failed rs = 0 ↔ Recovers last failed rs) := by
  induction rs generalizing last failed with
  | nil => simp [recount, Recovers]
  | cons r rs ih =>
      cases r with
      | none =>
          rw [List.reduceOption_cons_of_none] at chain
          exact ih true start chain
      | some e =>
          rw [List.reduceOption_cons_of_some] at chain
          obtain ⟨later, chain⟩ := List.isChain_cons_cons.mp chain
          obtain ⟨nonneg, recovers⟩ := ih false (start.trans later) chain
          have counted : (0 : K) ≤ if failed then last else 0 := by
            cases failed <;> simp [start]
          rw [recount, Recovers]
          refine ⟨add_nonneg counted nonneg, ?_⟩
          rw [add_eq_zero_iff_of_nonneg counted nonneg, recovers]
          cases failed <;> simp

/-- Readings that stand for zero when they fail count too much unless every recovery starts from
zero. -/
theorem sum_reset_le_iff {last : K} {rs : List (Option K)} (start : 0 ≤ last)
    (chain : List.IsChain (· ≤ ·) (last :: rs.reduceOption)) :
    ((steps (fun p q => q - p) last (rs.map fun r => r.getD 0)).map (max 0)).sum ≤
        rs.reduceOption.getLastD last - last ↔
      Recovers last false rs := by
  obtain ⟨nonneg, recovers⟩ := recount_spec false start chain
  have sum := sum_reset false start chain
  simp only [Bool.false_eq_true, if_false] at sum
  rw [sum, ← recovers, add_le_iff_nonpos_right]
  exact ⟨fun h => le_antisymm h nonneg, le_of_eq⟩

end Steps

end PhantomMonitor
