import Mathlib.Data.List.Basic
import Mathlib.Data.List.Range
import Mathlib.Tactic.Linarith

/-!
# Batching

A batcher collects items and hands them over in groups of `n`, the last group being whatever is
left at the end. Each hand-over is accepted or refused, and the first refusal stops the run. The
groups handed over are the consecutive groups of the input, so a run without a refusal hands
over every item once and in order.
-/

namespace PhantomMonitor

/-- Items waiting for their group to fill up, and the groups handed over so far with their
outcomes. -/
structure Batcher (α : Type*) where
  pending : List α
  sent : List (List α × Bool)

namespace Batcher

variable {α : Type*}

/-- The `j`-th group of `n` consecutive items. -/
def group (n : Nat) (items : List α) (j : Nat) : List α := (items.drop (n * j)).take n

/-- How many groups of `n` it takes to cover the items. -/
def groupCount (n : Nat) (items : List α) : Nat := (items.length + n - 1) / n

def empty : Batcher α := ⟨[], []⟩

/-- Hand the pending items over; `accept k` is the outcome of the `k`-th hand-over. -/
def flush (accept : Nat → Bool) (b : Batcher α) : Batcher α × Bool :=
  (⟨[], b.sent ++ [(b.pending, accept b.sent.length)]⟩, accept b.sent.length)

/-- Take one more item, and hand the group over when it is complete. -/
def push (n : Nat) (accept : Nat → Bool) (item : α) (b : Batcher α) : Batcher α × Bool :=
  if b.pending.length + 1 = n then flush accept ⟨b.pending ++ [item], b.sent⟩
  else (⟨b.pending ++ [item], b.sent⟩, true)

/-- Take the items one by one, up to the first refusal. -/
def pushAll (n : Nat) (accept : Nat → Bool) : List α → Batcher α → Batcher α × Bool
  | [], b => (b, true)
  | item :: items, b =>
      match push n accept item b with
      | (b, true) => pushAll n accept items b
      | (b, false) => (b, false)

/-- Hand over what is left when the items have run out. -/
def finish (accept : Nat → Bool) : Batcher α × Bool → Batcher α × Bool
  | (b, true) => if b.pending = [] then (b, true) else flush accept b
  | (b, false) => (b, false)

/-- A whole run. -/
def run (n : Nat) (accept : Nat → Bool) (items : List α) : Batcher α × Bool :=
  finish accept (pushAll n accept items empty)

/-- The items of the accepted groups, in the order they were handed over. -/
def delivered (sent : List (List α × Bool)) : List α :=
  (sent.filter Prod.snd).flatMap Prod.fst

/-! ## Groups -/

theorem group_append_of_le {n j : Nat} {items : List α} (h : n * j + n ≤ items.length)
    (more : List α) : group n (items ++ more) j = group n items j := by
  unfold group
  rw [List.drop_append_of_le_length (by omega), List.take_append_of_le_length]
  rw [List.length_drop]
  omega

theorem flatMap_group (n q : Nat) (items : List α) :
    (List.range q).flatMap (group n items) = items.take (n * q) := by
  induction q with
  | zero => simp
  | succ q ih =>
      rw [List.range_succ, List.flatMap_append, ih, Nat.mul_succ, List.take_add]
      simp [group]

/-- The groups handed over in the first `q` rounds, all but the last one known accepted. -/
theorem delivered_accepted {n q : Nat} {accept : Nat → Bool} {items : List α}
    (h : ∀ j < q, accept j = true) :
    delivered ((List.range q).map fun j => (group n items j, accept j)) =
      items.take (n * q) := by
  have all : ((List.range q).map fun j => (group n items j, accept j)).filter Prod.snd =
      (List.range q).map fun j => (group n items j, accept j) := by
    apply List.filter_eq_self.mpr
    intro entry member
    obtain ⟨j, hj, rfl⟩ := List.mem_map.mp member
    exact h j (List.mem_range.mp hj)
  rw [delivered, all, List.flatMap_map, ← flatMap_group]

/-! ## Runs -/

/-- What holds while no group has been refused: `done` has been taken in, its complete groups
were handed over and accepted, and the rest of it is pending. -/
structure Caught (n : Nat) (accept : Nat → Bool) (done : List α) (b : Batcher α) : Prop where
  short : b.pending.length < n
  pending : b.pending = done.drop (n * b.sent.length)
  length : done.length = n * b.sent.length + b.pending.length
  sent : b.sent = (List.range b.sent.length).map fun j => (group n done j, accept j)
  accepted : ∀ j < b.sent.length, accept j = true

/-- What a refused hand-over leaves: the groups up to the refused one. -/
structure Refused (n : Nat) (accept : Nat → Bool) (items : List α) (b : Batcher α) : Prop where
  some : 0 < b.sent.length
  reached : n * (b.sent.length - 1) < items.length
  sent : b.sent = (List.range b.sent.length).map fun j => (group n items j, accept j)
  accepted : ∀ j, j + 1 < b.sent.length → accept j = true
  refused : accept (b.sent.length - 1) = false

theorem caught_empty {n : Nat} (hn : 0 < n) (accept : Nat → Bool) :
    Caught n accept ([] : List α) empty :=
  ⟨hn, by simp [empty], by simp [empty], by simp [empty], by simp [empty]⟩

/-- The groups of a complete batch stay the same when more items follow. -/
theorem map_group_append {n q : Nat} {accept : Nat → Bool} {items : List α}
    (h : n * q ≤ items.length) (more : List α) :
    ((List.range q).map fun j => (group n (items ++ more) j, accept j)) =
      (List.range q).map fun j => (group n items j, accept j) := by
  apply List.map_congr_left
  intro j member
  have hj := List.mem_range.mp member
  have : n * j + n ≤ n * q := by
    rw [← Nat.mul_succ]
    exact Nat.mul_le_mul_left n hj
  rw [group_append_of_le (by omega)]

/-- One hand-over adds the next group and its outcome. -/
theorem sent_flush {n : Nat} {accept : Nat → Bool} {items : List α} {b : Batcher α}
    (hsent : b.sent = (List.range b.sent.length).map fun j => (group n items j, accept j))
    (hgroup : b.pending = group n items b.sent.length) :
    (flush accept b).1.sent = (List.range (b.sent.length + 1)).map
      fun j => (group n items j, accept j) := by
  unfold flush
  rw [List.range_succ, List.map_append, ← hsent, hgroup]
  rfl

theorem sent_flush_length (accept : Nat → Bool) (b : Batcher α) :
    (flush accept b).1.sent.length = b.sent.length + 1 := by
  simp [flush]

/-- A refused hand-over of the next group. -/
theorem refused_flush {n : Nat} {accept : Nat → Bool} {items : List α} {b : Batcher α}
    (hsent : b.sent = (List.range b.sent.length).map fun j => (group n items j, accept j))
    (hgroup : b.pending = group n items b.sent.length)
    (hreached : n * b.sent.length < items.length)
    (haccepted : ∀ j < b.sent.length, accept j = true)
    (hrefused : accept b.sent.length = false) :
    Refused n accept items (flush accept b).1 := by
  have hlen := sent_flush_length accept b
  refine ⟨by omega, by simpa [hlen] using hreached, ?_, ?_, by simpa [hlen] using hrefused⟩
  · rw [hlen]
    exact sent_flush hsent hgroup
  · intro j hj
    exact haccepted j (by omega)

theorem accepted_succ {accept : Nat → Bool} {q : Nat} (h : ∀ j < q, accept j = true)
    (hq : accept q = true) : ∀ j < q + 1, accept j = true := by
  intro j hj
  rcases Nat.lt_succ_iff_lt_or_eq.mp hj with hj | rfl
  · exact h j hj
  · exact hq

theorem push_spec {n : Nat} {accept : Nat → Bool} {done : List α} {b : Batcher α} (item : α)
    (h : Caught n accept done b) :
    (push n accept item b).2 = true ∧ Caught n accept (done ++ [item]) (push n accept item b).1 ∨
      (push n accept item b).2 = false ∧
        n * (push n accept item b).1.sent.length ≤ (done ++ [item]).length ∧
        Refused n accept (done ++ [item]) (push n accept item b).1 := by
  have grown : b.pending ++ [item] = (done ++ [item]).drop (n * b.sent.length) := by
    rw [h.pending, List.drop_append_of_le_length (by have := h.length; omega)]
  have kept : b.sent = (List.range b.sent.length).map
      fun j => (group n (done ++ [item]) j, accept j) := by
    rw [map_group_append (by have := h.length; omega)]
    exact h.sent
  have total : (done ++ [item]).length = n * b.sent.length + (b.pending.length + 1) := by
    rw [List.length_append, List.length_singleton, h.length]
    omega
  unfold push
  by_cases full : b.pending.length + 1 = n
  · rw [if_pos full]
    have hgroup : b.pending ++ [item] = group n (done ++ [item]) b.sent.length := by
      rw [group, ← grown, List.take_of_length_le (by simp [full])]
    have hlen := sent_flush_length accept ⟨b.pending ++ [item], b.sent⟩
    cases outcome : accept b.sent.length with
    | true =>
        refine Or.inl ⟨by simpa [flush] using outcome, ?_⟩
        refine ⟨?_, ?_, ?_, ?_, ?_⟩
        · simp only [flush, List.length_nil]
          omega
        · rw [hlen, Nat.mul_succ]
          simp only [flush]
          symm
          apply List.drop_eq_nil_of_le
          omega
        · rw [hlen, Nat.mul_succ, total]
          simp only [flush, List.length_nil]
          omega
        · rw [hlen]
          exact sent_flush (b := ⟨b.pending ++ [item], b.sent⟩) kept hgroup
        · rw [hlen]
          exact accepted_succ h.accepted outcome
    | false =>
        refine Or.inr ⟨by simpa [flush] using outcome, ?_, ?_⟩
        · rw [hlen, Nat.mul_succ]
          simp only
          omega
        · exact refused_flush (b := ⟨b.pending ++ [item], b.sent⟩) kept hgroup (by simp only; omega)
            h.accepted outcome
  · rw [if_neg full]
    refine Or.inl ⟨rfl, ?_⟩
    have := h.short
    exact ⟨by simp; omega, grown, by simpa using total, kept, h.accepted⟩

theorem pushAll_spec {n : Nat} {accept : Nat → Bool} {done : List α} {b : Batcher α}
    (h : Caught n accept done b) (items : List α) :
    (pushAll n accept items b).2 = true ∧
        Caught n accept (done ++ items) (pushAll n accept items b).1 ∨
      (pushAll n accept items b).2 = false ∧
        Refused n accept (done ++ items) (pushAll n accept items b).1 := by
  induction items generalizing done b with
  | nil => exact Or.inl ⟨rfl, by simpa [pushAll] using h⟩
  | cons item items ih =>
      simp only [pushAll]
      rcases hpush : push n accept item b with ⟨b', go⟩
      have step := push_spec item h
      rw [hpush] at step
      rcases step with ⟨rfl, caught⟩ | ⟨rfl, refused⟩
      · have := ih caught
        rwa [List.append_assoc] at this
      · have split : done ++ item :: items = (done ++ [item]) ++ items := by simp
        obtain ⟨full, refused⟩ := refused
        refine Or.inr ⟨rfl, ⟨refused.some, ?_, ?_, refused.accepted, refused.refused⟩⟩
        · have reached := refused.reached
          rw [split, List.length_append]
          exact Nat.lt_add_right _ reached
        · rw [split, map_group_append full]
          exact refused.sent

/-- A run either hands over all groups, all of them accepted, or stops at the first refusal. -/
theorem run_spec {n : Nat} (hn : 0 < n) (accept : Nat → Bool) (items : List α) :
    ((run n accept items).2 = true ∧
        (run n accept items).1.sent =
          (List.range (groupCount n items)).map (fun j => (group n items j, accept j)) ∧
        ∀ j < groupCount n items, accept j = true) ∨
      ((run n accept items).2 = false ∧ Refused n accept items (run n accept items).1) := by
  have all := pushAll_spec (caught_empty (α := α) hn accept) items
  rw [List.nil_append] at all
  unfold run
  rcases hpush : pushAll n accept items empty with ⟨b, go⟩
  rw [hpush] at all
  rcases all with ⟨rfl, caught⟩ | ⟨rfl, refused⟩
  · replace caught : Caught n accept items b := caught
    have short := caught.short
    have total := caught.length
    simp only [finish]
    by_cases hnil : b.pending = []
    · rw [if_pos hnil]
      have count : groupCount n items = b.sent.length := by
        rw [groupCount, total, hnil, List.length_nil, Nat.add_zero, Nat.add_sub_assoc hn,
          Nat.mul_add_div hn, Nat.div_eq_of_lt (by omega), Nat.add_zero]
      refine Or.inl ⟨rfl, ?_, ?_⟩
      · rw [count]
        exact caught.sent
      · rw [count]
        exact caught.accepted
    · rw [if_neg hnil]
      have some : 0 < b.pending.length := List.length_pos_iff.mpr hnil
      have hgroup : b.pending = group n items b.sent.length := by
        rw [group, ← caught.pending, List.take_of_length_le (Nat.le_of_lt short)]
      have count : groupCount n items = b.sent.length + 1 := by
        rw [groupCount, total]
        have : n * b.sent.length + b.pending.length + n - 1 =
            n * (b.sent.length + 1) + (b.pending.length - 1) := by
          rw [Nat.mul_succ]
          omega
        rw [this, Nat.mul_add_div hn, Nat.div_eq_of_lt (by omega), Nat.add_zero]
      cases outcome : accept b.sent.length with
      | true =>
          refine Or.inl ⟨by simpa [flush] using outcome, ?_, ?_⟩
          · rw [count]
            exact sent_flush caught.sent hgroup
          · rw [count]
            exact accepted_succ caught.accepted outcome
      | false =>
          refine Or.inr ⟨by simpa [flush] using outcome, ?_⟩
          exact refused_flush caught.sent hgroup (by omega) caught.accepted outcome
  · exact Or.inr ⟨rfl, refused⟩

theorem lt_groupCount {n : Nat} (hn : 0 < n) {items : List α} {j : Nat} :
    j < groupCount n items ↔ n * j < items.length := by
  rw [groupCount, Nat.lt_iff_add_one_le, Nat.le_div_iff_mul_le hn, Nat.mul_comm, Nat.mul_succ]
  omega

theorem le_mul_groupCount {n : Nat} (hn : 0 < n) (items : List α) :
    items.length ≤ n * groupCount n items := by
  have := Nat.lt_mul_div_succ (items.length + n - 1) hn
  rw [Nat.mul_add, Nat.mul_one] at this
  unfold groupCount
  omega

/-- What holds in all groups holds of all items. -/
theorem forall_group_iff {n : Nat} (hn : 0 < n) {P : α → Prop} {items : List α} :
    (∀ j < groupCount n items, ∀ item ∈ group n items j, P item) ↔ ∀ item ∈ items, P item := by
  have covered : (List.range (groupCount n items)).flatMap (group n items) = items := by
    rw [flatMap_group]
    exact List.take_of_length_le (le_mul_groupCount hn items)
  conv => rhs; rw [← covered]
  simp only [List.forall_mem_flatMap, List.mem_range]

theorem group_ne_nil {n : Nat} (hn : 0 < n) {items : List α} {j : Nat}
    (inside : j < groupCount n items) : group n items j ≠ [] := by
  have more := (lt_groupCount hn).mp inside
  rw [group, ne_eq, List.take_eq_nil_iff, List.drop_eq_nil_iff, not_or]
  exact ⟨Nat.ne_of_gt hn, Nat.not_le.mpr more⟩

/-- An accepted run delivers every item once, in order. -/
theorem run_delivered {n : Nat} (hn : 0 < n) {accept : Nat → Bool} {items : List α}
    (h : (run n accept items).2 = true) :
    delivered (run n accept items).1.sent = items := by
  rcases run_spec hn accept items with ⟨-, hsent, haccept⟩ | ⟨refused, -⟩
  · rw [hsent, delivered_accepted haccept, List.take_of_length_le (le_mul_groupCount hn items)]
  · rw [h] at refused
    contradiction

/-- A refused run delivers a proper prefix of the items. -/
theorem run_delivered_refused {n : Nat} (hn : 0 < n) {accept : Nat → Bool} {items : List α}
    (h : (run n accept items).2 = false) :
    delivered (run n accept items).1.sent <+: items ∧
      (delivered (run n accept items).1.sent).length < items.length := by
  rcases run_spec hn accept items with ⟨accepted, -⟩ | ⟨-, refused⟩
  · rw [h] at accepted
    contradiction
  · obtain ⟨q, hq⟩ := Nat.exists_eq_succ_of_ne_zero
      (by have := refused.some; omega : (run n accept items).1.sent.length ≠ 0)
    have reached := refused.reached
    have accepted := refused.accepted
    have hrefused := refused.refused
    rw [hq] at reached accepted hrefused
    have last : delivered (run n accept items).1.sent = items.take (n * q) := by
      rw [refused.sent, hq, List.range_succ, List.map_append, delivered, List.filter_append,
        List.flatMap_append]
      have nothing : ([q].map fun j => (group n items j, accept j)).filter Prod.snd = [] := by
        simpa using hrefused
      rw [nothing, List.flatMap_nil, List.append_nil]
      exact delivered_accepted fun j hj => accepted j (by omega)
    rw [last]
    refine ⟨List.take_prefix _ _, ?_⟩
    rw [List.length_take]
    simp only [Nat.succ_eq_add_one, Nat.add_sub_cancel] at reached
    omega

end Batcher

end PhantomMonitor
