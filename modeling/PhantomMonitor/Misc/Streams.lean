import Mathlib.Init

/-!
# Open streams

The streams of a process, whose number the system limits. A stream is opened when its file is there
and a descriptor is free.
-/

namespace PhantomMonitor

/-- The number of open streams, and the limit on it. -/
structure Streams where
  limit : Nat
  live : Nat
  deriving DecidableEq, Repr

namespace Streams

/-- `fopen` or `opendir`; `present` says whether the file or directory can be read. -/
def fopen (s : Streams) (present : Bool) : Option Streams :=
  if present ∧ s.live < s.limit then some { s with live := s.live + 1 } else none

/-- `fclose` or `closedir`. -/
def fclose (s : Streams) : Streams := { s with live := s.live - 1 }

theorem fopen_free {s : Streams} (h : s.live < s.limit) :
    s.fopen true = some { s with live := s.live + 1 } := if_pos ⟨rfl, h⟩

theorem fopen_full {s : Streams} (h : s.limit ≤ s.live) (present : Bool) :
    s.fopen present = none := if_neg fun both => Nat.not_lt.mpr h both.2

theorem fopen_eq_some {s s' : Streams} {present : Bool} :
    s.fopen present = some s' ↔
      present = true ∧ s.live < s.limit ∧ s' = { s with live := s.live + 1 } := by
  unfold fopen
  by_cases h : present = true ∧ s.live < s.limit
  · rw [if_pos h, Option.some.injEq]
    exact ⟨fun same => ⟨h.1, h.2, same.symm⟩, fun found => found.2.2.symm⟩
  · rw [if_neg h]
    exact ⟨fun none => (nomatch none), fun found => absurd ⟨found.1, found.2.1⟩ h⟩

/-- A stream that is closed again leaves no trace. -/
theorem fclose_of_fopen {s s' : Streams} {present : Bool} (h : s.fopen present = some s') :
    s'.fclose = s := by
  obtain ⟨-, -, rfl⟩ := fopen_eq_some.mp h
  rfl

end Streams

end PhantomMonitor
