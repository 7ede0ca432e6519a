import Mathlib.Data.List.Basic

/-!
# What a reader hands on

A reader goes through a list of inputs with a state and hands on at most one item for each of them.
Every item comes from one input, in the state that the inputs before it have left.
-/

namespace PhantomMonitor

namespace Emissions

variable {σ α β : Type} (next : σ → α → σ) (emit : σ → α → Option β)

/-- The items that are handed on. -/
def emitted : σ → List α → List β
  | _, [] => []
  | s, a :: as => (emit s a).toList ++ emitted (next s a) as

variable {next emit}

theorem emitted_append (s : σ) (as bs : List α) :
    emitted next emit s (as ++ bs) =
      emitted next emit s as ++ emitted next emit (as.foldl next s) bs := by
  induction as generalizing s with
  | nil => rfl
  | cons a as ih => rw [List.cons_append, emitted, ih, emitted, List.append_assoc, List.foldl_cons]

/-- The input that an item comes from. -/
theorem emitted_eq_append_cons_iff {s : σ} {as : List α} {bs cs : List β} {b : β} :
    emitted next emit s as = bs ++ b :: cs ↔
      ∃ before a after, as = before ++ a :: after ∧ emitted next emit s before = bs ∧
        emit (before.foldl next s) a = some b ∧
        emitted next emit ((before ++ [a]).foldl next s) after = cs := by
  constructor
  · intro split
    induction as generalizing s bs with
    | nil => cases bs <;> cases split
    | cons a as ih =>
        rw [emitted] at split
        cases first : emit s a with
        | none =>
            rw [first] at split
            obtain ⟨before, a', after, rfl, rfl, item, rest⟩ := ih split
            refine ⟨a :: before, a', after, rfl, ?_, item, rest⟩
            rw [emitted, first]
            rfl
        | some c =>
            rw [first] at split
            cases bs with
            | nil =>
                cases split
                exact ⟨[], a, as, rfl, rfl, first, rfl⟩
            | cons d bs =>
                obtain ⟨rfl, tail⟩ := List.cons_eq_cons.mp split
                obtain ⟨before, a', after, rfl, rfl, item, rest⟩ := ih tail
                refine ⟨a :: before, a', after, rfl, ?_, item, rest⟩
                rw [emitted, first]
                rfl
  · rintro ⟨before, a, after, rfl, rfl, item, rfl⟩
    rw [emitted_append, emitted, item, List.foldl_append]
    rfl

/-- The last item with a property comes from an input after which no other has it. -/
theorem getLast?_filter_emitted {s : σ} {as : List α} {p : β → Bool} {b : β} :
    ((emitted next emit s as).filter p).getLast? = some b ↔
      ∃ before a after, as = before ++ a :: after ∧ emit (before.foldl next s) a = some b ∧
        p b = true ∧
        ∀ c ∈ emitted next emit ((before ++ [a]).foldl next s) after, ¬ p c = true := by
  rw [List.getLast?_eq_some_iff]
  constructor
  · rintro ⟨kept, split⟩
    obtain ⟨bs, rest, whole, -, last⟩ := List.filter_eq_append_iff.mp split
    obtain ⟨ds, cs, rfl, -, holds, none⟩ := List.filter_eq_cons_iff.mp last
    rw [← List.append_assoc] at whole
    obtain ⟨before, a, after, rfl, -, item, rfl⟩ := emitted_eq_append_cons_iff.mp whole
    exact ⟨before, a, after, rfl, item, holds, List.filter_eq_nil_iff.mp none⟩
  · rintro ⟨before, a, after, rfl, item, holds, none⟩
    have whole := emitted_eq_append_cons_iff.mpr
      ⟨before, a, after, rfl, rfl, item, rfl⟩
    refine ⟨(emitted next emit s before).filter p, ?_⟩
    rw [whole, List.filter_append, List.filter_cons_of_pos holds, List.filter_eq_nil_iff.mpr none]

end Emissions

end PhantomMonitor
