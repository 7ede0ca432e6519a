import Mathlib.Data.List.Nodup
import Mathlib.Logic.Function.Basic

/-!
# Tables that are filled from the front

An array that is written at one index after another holds a list; what lies behind the list is left
open.
-/

namespace PhantomMonitor

variable {α : Type}

/-- The first entries of the table are those of the list. -/
def Tabulates (table : Nat → α) (entries : List α) : Prop :=
  ∀ (k : Nat) (entry : α), entries[k]? = some entry → table k = entry

theorem tabulates_nil (table : Nat → α) : Tabulates table [] := fun _ _ h => nomatch h

/-- A write at the index behind the list appends to it. -/
theorem Tabulates.push {table : Nat → α} {entries : List α} (h : Tabulates table entries)
    (entry : α) : Tabulates (Function.update table entries.length entry) (entries ++ [entry]) := by
  intro k other hk
  rcases Nat.lt_trichotomy k entries.length with before | rfl | after
  · rw [List.getElem?_append_left before] at hk
    rw [Function.update_of_ne (Nat.ne_of_lt before), h k other hk]
  · rw [List.getElem?_concat_length] at hk
    rw [Function.update_self, Option.some.inj hk]
  · rw [List.getElem?_eq_none (by simp; omega)] at hk
    cases hk

/-- Steps that each write at the index that they get and go on by one write a list behind the one
that is there. `Kept` is what they leave alone. -/
theorem Tabulates.foldlM {β γ ε : Type} {store : γ × Nat → β → Except ε (γ × Nat)}
    {column : γ → Nat → α} {entry : β → α} {Kept : γ → Prop} {size : Nat} {items : List β}
    (step : ∀ item ∈ items, ∀ (data : γ) (k : Nat), Kept data → k < size →
      ∃ data', store (data, k) item = .ok (data', k + 1) ∧ Kept data' ∧
        column data' = Function.update (column data) k (entry item))
    {data : γ} (kept : Kept data) {front : List α} (h : Tabulates (column data) front)
    (room : front.length + items.length ≤ size) :
    ∃ data', items.foldlM store (data, front.length) =
        .ok (data', front.length + items.length) ∧
      Kept data' ∧ Tabulates (column data') (front ++ items.map entry) := by
  induction items generalizing data front with
  | nil => exact ⟨data, rfl, kept, by simpa using h⟩
  | cons item items ih =>
      obtain ⟨first, rest⟩ := List.forall_mem_cons.mp step
      rw [List.length_cons] at room
      obtain ⟨data₁, run₁, kept₁, column₁⟩ := first data front.length kept (by omega)
      have more : Tabulates (column data₁) (front ++ [entry item]) := by
        rw [column₁]
        exact h.push (entry item)
      have length : (front ++ [entry item]).length = front.length + 1 := List.length_append
      obtain ⟨data', run, kept', table⟩ := ih rest kept₁ more (by omega)
      rw [length] at run
      refine ⟨data', ?_, kept', by simpa using table⟩
      rw [List.foldlM_cons, run₁, List.length_cons, ← Nat.add_assoc, Nat.add_right_comm]
      exact run

/-- A write at an index of the list replaces its entry. -/
theorem Tabulates.set {table : Nat → α} {before after : List α} {old : α}
    (h : Tabulates table (before ++ old :: after)) (new : α) :
    Tabulates (Function.update table before.length new) (before ++ new :: after) := by
  intro k entry hk
  by_cases here : k = before.length
  · subst here
    rw [List.getElem?_append_right (Nat.le_refl _), Nat.sub_self, List.getElem?_cons_zero] at hk
    rw [Function.update_self, Option.some.inj hk]
  · rw [Function.update_of_ne here]
    apply h k entry
    rcases Nat.lt_or_gt_of_ne here with front | behind
    · rw [List.getElem?_append_left front] at hk ⊢
      exact hk
    · obtain ⟨d, rfl⟩ := Nat.exists_eq_add_of_lt behind
      rw [List.getElem?_append_right (by omega)] at hk ⊢
      have index : before.length + d + 1 - before.length = d + 1 := by omega
      rw [index, List.getElem?_cons_succ] at hk ⊢
      exact hk

/-- A table tabulates any list without repetitions, with the values that it holds. -/
theorem tabulates_held {β : Type} [DecidableEq β] (table : Nat → α) {keys : List β}
    (distinct : keys.Nodup) : Tabulates table (keys.map fun key => table (keys.idxOf key)) := by
  intro k entry hk
  rw [List.getElem?_map, Option.map_eq_some_iff] at hk
  obtain ⟨key, hkey, rfl⟩ := hk
  obtain ⟨inside, rfl⟩ := List.getElem?_eq_some_iff.mp hkey
  rw [distinct.idxOf_getElem]

/-- The entries up to the length of the list. -/
theorem Tabulates.map_range {table : Nat → α} {entries : List α} (h : Tabulates table entries) :
    (List.range entries.length).map table = entries := by
  apply List.ext_getElem
  · simp
  · intro k _ inside
    simpa using h k _ (List.getElem?_eq_getElem inside)

/-- Two tables over one list. -/
theorem Tabulates.pair {β γ : Type} {table : Nat → α} {values : Nat → β} {entries : List γ}
    {f : γ → α} {g : γ → β} (h : Tabulates table (entries.map f))
    (h' : Tabulates values (entries.map g)) :
    Tabulates (fun k => (table k, values k)) (entries.map fun entry => (f entry, g entry)) := by
  intro k both hk
  rw [List.getElem?_map, Option.map_eq_some_iff] at hk
  obtain ⟨entry, hentry, rfl⟩ := hk
  exact Prod.ext (h k (f entry) (by simp [hentry])) (h' k (g entry) (by simp [hentry]))

/-- The first index at which a list without repetitions has an entry is the only one. -/
theorem Tabulates.find? {β : Type} [DecidableEq α] {table : Nat → α} {entries : List α}
    (h : Tabulates table entries) (distinct : entries.Nodup) {k : Nat} {entry : α}
    (hk : entries[k]? = some entry) (values : Nat → β) :
    ((List.range entries.length).find? fun i => table i = entry).map values = some (values k) := by
  obtain ⟨inside, hentry⟩ := List.getElem?_eq_some_iff.mp hk
  have only : ∀ i < entries.length, table i = entry ↔ i = k := by
    intro i hi
    rw [h i _ (List.getElem?_eq_getElem hi), ← hentry]
    exact distinct.getElem_inj_iff
  have found : (List.range entries.length).find? (fun i => table i = entry) = some k := by
    rw [List.find?_range_eq_some]
    refine ⟨by simpa using (only k inside).mpr rfl, List.mem_range.mpr inside, ?_⟩
    intro j hj
    simpa using fun same => Nat.ne_of_lt hj ((only j (Nat.lt_trans hj inside)).mp same)
  rw [found, Option.map_some]

/-- What a list of keys yields under the name of one of them. -/
theorem filter_filterMap_name {κ μ β : Type} [DecidableEq κ] [DecidableEq μ] {name : μ → κ}
    (inj : ∀ {m m' : μ}, name m = name m' → m = m') {f : μ → Option β} {key : β → κ}
    (named : ∀ m b, f m = some b → key b = name m) {keys : List μ} (distinct : keys.Nodup) {m : μ}
    (member : m ∈ keys) : (keys.filterMap f).filter (fun b => key b = name m) = (f m).toList := by
  have only : keys.filter (fun other => other = m) = [m] := by
    rw [List.filter_eq, List.count_eq_one_of_mem distinct member]
    rfl
  rw [List.filter_filterMap]
  calc _ = (keys.filter fun other => other = m).filterMap f := by
        rw [List.filterMap_filter]
        apply List.filterMap_congr
        intro other _
        cases hf : f other with
        | none => simp
        | some b =>
            by_cases same : other = m
            · simp [Option.filter, named other b hf, same]
            · have differ : name other ≠ name m := fun h => same (inj h)
              simp [Option.filter, named other b hf, same, differ]
    _ = (f m).toList := by
        rw [only]
        cases hf : f m <;> simp [hf]

end PhantomMonitor
