import Mathlib.Algebra.BigOperators.Group.List.Basic
import Mathlib.Algebra.GroupWithZero.Nat
import Mathlib.Data.List.Perm.Basic

/-!
# Counters that wrap around

Counters of `w` bits and the differences of their readings, in unsigned arithmetic. A difference is
the true increment exactly when the counter did not decrease; after a decrease it is larger than
the reading it was taken from.
-/

namespace PhantomMonitor

namespace Counter

variable {w : Nat}

theorem sub_eq_of_le {before after : BitVec w} (h : before.toNat ≤ after.toNat) :
    (after - before).toNat = after.toNat - before.toNat := BitVec.toNat_sub_of_le h

theorem sub_eq_of_lt {before after : BitVec w} (h : after.toNat < before.toNat) :
    (after - before).toNat = 2 ^ w - before.toNat + after.toNat := by
  have hbefore := before.isLt
  rw [BitVec.toNat_sub, Nat.mod_eq_of_lt]
  omega

/-- The difference of two readings is at most the later one iff the counter did not decrease. -/
theorem sub_le_iff (before after : BitVec w) :
    (after - before).toNat ≤ after.toNat ↔ before.toNat ≤ after.toNat := by
  have hbefore := before.isLt
  constructor
  · intro bounded
    apply Nat.not_lt.mp
    intro decreased
    rw [sub_eq_of_lt decreased] at bounded
    omega
  · intro grown
    rw [sub_eq_of_le grown]
    exact Nat.sub_le _ _

/-- A part of a total: its difference is at most that of the total iff neither the part nor the rest
decreased. -/
theorem part_sub_le_iff {total total' part part' : BitVec w} (h : part.toNat ≤ total.toNat)
    (h' : part'.toNat ≤ total'.toNat) (grown : total.toNat ≤ total'.toNat) :
    (part' - part).toNat ≤ (total' - total).toNat ↔
      part.toNat ≤ part'.toNat ∧ total.toNat - part.toNat ≤ total'.toNat - part'.toNat := by
  have bound := total'.isLt
  have bound' := part.isLt
  rw [sub_eq_of_le grown]
  by_cases kept : part.toNat ≤ part'.toNat
  · rw [sub_eq_of_le kept]
    omega
  · rw [sub_eq_of_lt (by omega)]
    omega

/-- Two counters read together. -/
theorem add_sub_add (a b c d : BitVec w) : (a - b) + (c - d) = (a + c) - (b + d) := by
  rw [BitVec.sub_eq_add_neg a, BitVec.sub_eq_add_neg c, BitVec.sub_eq_add_neg (a + c),
    BitVec.neg_add, BitVec.sub_eq_add_neg (-b)]
  ac_rfl

/-- A sum of counters, modulo `2 ^ w`. -/
theorem foldl_add {α : Type} (read : α → BitVec w) (items : List α) (total : BitVec w) :
    (items.foldl (fun total item => total + read item) total).toNat =
      (total.toNat + (items.map fun item => (read item).toNat).sum) % 2 ^ w := by
  induction items generalizing total with
  | nil =>
      rw [List.foldl_nil, List.map_nil, List.sum_nil, Nat.add_zero, Nat.mod_eq_of_lt total.isLt]
  | cons item items ih =>
      rw [List.foldl_cons, ih, BitVec.toNat_add, List.map_cons, List.sum_cons, Nat.mod_add_mod,
        Nat.add_assoc]

/-- Two sums whose terms agree off a filter are equal iff those of the filtered terms are. -/
theorem sum_eq_iff_filter {α K : Type} [AddCommGroup K] {f g : α → K} {p : α → Prop}
    [DecidablePred p] {items : List α} (same : ∀ a ∈ items, ¬ p a → f a = g a) :
    (items.map f).sum = (items.map g).sum ↔
      ((items.filter p).map f).sum = ((items.filter p).map g).sum := by
  have others : (items.filter fun a => ¬ p a).map f = (items.filter fun a => ¬ p a).map g := by
    apply List.map_congr_left
    intro a member
    obtain ⟨inside, off⟩ := List.mem_filter.mp member
    exact same a inside (of_decide_eq_true off)
  rw [← List.sum_map_filter_add_sum_map_filter_not p f,
    ← List.sum_map_filter_add_sum_map_filter_not p g, others, add_left_inj]

end Counter

end PhantomMonitor
