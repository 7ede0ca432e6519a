import Mathlib.Data.List.Basic

/-!
# FIFO queues

What a queue library promises: the items leave in the order in which they came, and a dequeue fails
only when there are none. How the queue is laid out is left open. `FifoQueue.list` is one
implementation.
-/

namespace PhantomMonitor

/-- An implementation of queues of `α`. -/
structure FifoQueue (α : Type) where
  Queue : Type
  create : Queue
  enqueue : Queue → α → Queue
  tryDequeue : Queue → Option (α × Queue)
  items : Queue → List α
  items_create : items create = []
  items_enqueue (q : Queue) (item : α) : items (enqueue q item) = items q ++ [item]
  dequeue_nil (q : Queue) : items q = [] → tryDequeue q = none
  dequeue_cons (q : Queue) (item : α) (rest : List α) :
    items q = item :: rest → ∃ q', tryDequeue q = some (item, q') ∧ items q' = rest

namespace FifoQueue

variable {α : Type}

/-- Lists. -/
def list (α : Type) : FifoQueue α where
  Queue := List α
  create := []
  enqueue q item := q ++ [item]
  tryDequeue
    | [] => none
    | item :: rest => some (item, rest)
  items q := q
  items_create := rfl
  items_enqueue _ _ := rfl
  dequeue_nil q h := by rw [h]
  dequeue_cons q item rest h := ⟨rest, by rw [h], rfl⟩

variable (Q : FifoQueue α)

/-- A number of dequeues one after another, some of which may find the queue empty. -/
def drain : Nat → Q.Queue → List (Option α) × Q.Queue
  | 0, q => ([], q)
  | n + 1, q =>
      match Q.tryDequeue q with
      | none =>
          let (items, q) := drain n q
          (none :: items, q)
      | some (item, q) =>
          let (items, q) := drain n q
          (some item :: items, q)

/-- As many dequeues as there are items deliver all items in order. -/
theorem drain_items {n : Nat} {q : Q.Queue} (h : (Q.items q).length = n) :
    (Q.drain n q).1 = (Q.items q).map some := by
  induction n generalizing q with
  | zero =>
      rw [List.length_eq_zero_iff.mp h]
      rfl
  | succ n ih =>
      cases hitems : Q.items q with
      | nil =>
          rw [hitems] at h
          cases h
      | cons item rest =>
          obtain ⟨q', hdequeue, hrest⟩ := Q.dequeue_cons q item rest hitems
          have hlength : (Q.items q').length = n := by
            rw [hitems, List.length_cons] at h
            rw [hrest]
            exact Nat.succ.inj h
          simp only [drain, hdequeue, List.map_cons]
          rw [ih hlength, hrest]

end FifoQueue

end PhantomMonitor
