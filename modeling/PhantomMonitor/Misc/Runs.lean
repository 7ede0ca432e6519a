import Mathlib.Algebra.BigOperators.Group.Finset.Basic
import Mathlib.Algebra.Order.BigOperators.Group.Finset
import Mathlib.Data.List.Basic
import Mathlib.Data.List.Induction

/-!
# Runs

A system makes moves one after another; a move that is not possible in a state leads nowhere. What
is said of every move of a run follows from an invariant of the states in between.
-/

namespace PhantomMonitor

namespace Runs

variable {σ α : Type} (step : σ → α → Option σ)

/-- The state after a list of moves, if each of them is possible. -/
def run : σ → List α → Option σ
  | s, [] => some s
  | s, a :: as => (step s a).bind fun s' => run s' as

/-- `P` holds of every move of a run and the state in which it is made. -/
def Each (P : σ → α → Prop) : σ → List α → Prop
  | _, [] => True
  | s, a :: as => P s a ∧ ∀ s', step s a = some s' → Each P s' as

variable {step} {P Q : σ → α → Prop} {Inv : σ → Prop}

theorem each_cons_of_none {s : σ} {a : α} {as : List α} (h : step s a = none) :
    P s a ↔ Each step P s (a :: as) := by
  refine ⟨fun own => ⟨own, ?_⟩, And.left⟩
  intro s' made
  cases h.symm.trans made

theorem each_cons_of_some {s s' : σ} {a : α} {as : List α} (h : step s a = some s') :
    P s a ∧ Each step P s' as ↔ Each step P s (a :: as) := by
  refine and_congr_right' ⟨?_, fun rest => rest s' h⟩
  intro rest t made
  cases h.symm.trans made
  exact rest

instance decidableEach [∀ s a, Decidable (P s a)] :
    (s : σ) → (as : List α) → Decidable (Each step P s as)
  | _, [] => .isTrue trivial
  | s, a :: as =>
      match h : step s a with
      | none => decidable_of_iff _ (each_cons_of_none h)
      | some s' =>
          have := decidableEach s' as
          decidable_of_iff _ (each_cons_of_some h)

/-- An invariant holds at the end of a run if the moves that are made preserve it. -/
theorem inv_run (preserve : ∀ {s a s'}, Inv s → P s a → step s a = some s' → Inv s') {s t : σ}
    {as : List α} (start : Inv s) (each : Each step P s as) (h : run step s as = some t) :
    Inv t := by
  induction as generalizing s with
  | nil =>
      rw [run, Option.some.injEq] at h
      exact h ▸ start
  | cons a as ih =>
      rw [run, Option.bind_eq_some_iff] at h
      obtain ⟨s', first, rest⟩ := h
      exact ih (preserve start each.1 first) (each.2 s' first) rest

theorem each_of_forall (h : ∀ s a, P s a) (s : σ) (as : List α) : Each step P s as := by
  induction as generalizing s with
  | nil => trivial
  | cons a as ih => exact ⟨h s a, fun s' _ => ih s'⟩

/-- What holds of a move in a state of the invariant holds of every move of a run. -/
theorem Each.mono (preserve : ∀ {s a s'}, Inv s → P s a → step s a = some s' → Inv s')
    (weaken : ∀ {s a}, Inv s → P s a → Q s a) {s : σ} {as : List α} (start : Inv s)
    (each : Each step P s as) : Each step Q s as := by
  induction as generalizing s with
  | nil => trivial
  | cons a as ih =>
      refine ⟨weaken start each.1, ?_⟩
      intro s' first
      exact ih (preserve start each.1 first) (each.2 s' first)

/-- Two properties that agree on the moves made from states of an invariant hold of the same
runs. -/
theorem each_iff (preserve : ∀ {s a s'}, Inv s → P s a → step s a = some s' → Inv s')
    (agree : ∀ {s a}, Inv s → (P s a ↔ Q s a)) {s : σ} {as : List α} (start : Inv s) :
    Each step P s as ↔ Each step Q s as := by
  constructor
  · exact Each.mono preserve (fun inv => (agree inv).mp) start
  · refine Each.mono ?_ (fun inv => (agree inv).mpr) start
    intro s a s' inv holds
    exact preserve inv ((agree inv).mpr holds)

/-- A move somewhere in a run. -/
theorem Each.at {s t : σ} {before after : List α} {a : α}
    (each : Each step P s (before ++ a :: after)) (h : run step s before = some t) : P t a := by
  induction before generalizing s with
  | nil =>
      rw [run, Option.some.injEq] at h
      exact h ▸ each.1
  | cons b before ih =>
      rw [run, Option.bind_eq_some_iff] at h
      obtain ⟨s', first, rest⟩ := h
      exact ih (each.2 s' first) rest

/-- The rest of a run. -/
theorem run_of_append {s t u : σ} {as bs : List α} (h : run step s as = some t)
    (whole : run step s (as ++ bs) = some u) : run step t bs = some u := by
  induction as generalizing s with
  | nil =>
      rw [run, Option.some.injEq] at h
      exact h ▸ whole
  | cons a as ih =>
      rw [run, Option.bind_eq_some_iff] at h
      obtain ⟨s', first, rest⟩ := h
      rw [List.cons_append, run, first, Option.bind_some] at whole
      exact ih rest whole

theorem run_append_singleton (s : σ) (as : List α) (a : α) :
    run step s (as ++ [a]) = (run step s as).bind fun t => step t a := by
  induction as generalizing s with
  | nil =>
      rw [List.nil_append, run, run, Option.bind_some]
      cases step s a <;> rfl
  | cons b as ih =>
      rw [List.cons_append, run, run, Option.bind_assoc]
      exact congrArg _ (funext fun s' => ih s')

/-- An invariant of the moves so far and the state that they lead to. -/
theorem trace_run (Inv : List α → σ → Prop) {s : σ} (start : Inv [] s)
    (preserve : ∀ as t a t', Inv as t → step t a = some t' → Inv (as ++ [a]) t') {t : σ}
    {as : List α} (h : run step s as = some t) : Inv as t := by
  induction as using List.reverseRecOn generalizing t with
  | nil =>
      rw [run, Option.some.injEq] at h
      exact h ▸ start
  | append_singleton as a ih =>
      rw [run_append_singleton, Option.bind_eq_some_iff] at h
      obtain ⟨s', before, last⟩ := h
      exact preserve as s' a t (ih before) last

/-- Moves that make a measure smaller run out: a run has no more of them than the measure allows at
its start. The other moves do not make it larger. -/
theorem count_le_of_measure (measure : σ → Nat) (small : α → Bool)
    (preserve : ∀ s a s', Inv s → step s a = some s' → Inv s')
    (decrease : ∀ s a s', Inv s → small a = true → step s a = some s' → measure s' < measure s)
    (keep : ∀ s a s', Inv s → small a = false → step s a = some s' → measure s' ≤ measure s)
    {s t : σ} {as : List α} (start : Inv s) (h : run step s as = some t) :
    as.countP small + measure t ≤ measure s := by
  induction as generalizing s with
  | nil =>
      rw [run, Option.some.injEq] at h
      subst h
      simp
  | cons a as ih =>
      rw [run, Option.bind_eq_some_iff] at h
      obtain ⟨s', first, rest⟩ := h
      have later := ih (preserve s a s' start first) rest
      cases kind : small a with
      | true =>
          have less := decrease s a s' start kind first
          rw [List.countP_cons_of_pos kind]
          omega
      | false =>
          have same := keep s a s' start kind first
          rw [List.countP_cons_of_neg (by rw [kind]; exact Bool.false_ne_true)]
          omega

/-! ### Measures of several parties -/

variable {f g : Nat → Nat} {n t : Nat}

/-- One party of several has less left, and the others have what they had. -/
theorem sum_lt_of_one (inside : t < n) (less : g t < f t) (others : ∀ u ≠ t, g u = f u) :
    (Finset.range n).sum g < (Finset.range n).sum f := by
  refine Finset.sum_lt_sum ?_ ⟨t, Finset.mem_range.mpr inside, less⟩
  intro u _
  by_cases same : u = t
  · subst same
    exact Nat.le_of_lt less
  · exact Nat.le_of_eq (others u same)

end Runs

end PhantomMonitor
