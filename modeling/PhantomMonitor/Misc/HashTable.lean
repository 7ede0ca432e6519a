import Mathlib.Data.List.AList

/-!
# Hash tables

What a hash table library promises: a finite map whose iterator visits every entry once. The
layout of the table is left open, so the order of the iterator may depend on the whole history
of the table. `HashTable.alist` is one implementation.

A table of tables, whose inner tables are made when a first entry needs them, is a flat map from
pairs of keys.
-/

namespace PhantomMonitor

/-- An implementation of hash tables with keys in `κ`. -/
structure HashTable (κ : Type) [DecidableEq κ] where
  Table : Type → Type
  make {α : Type} : Table α
  get {α : Type} : Table α → κ → Option α
  set {α : Type} : Table α → κ → α → Table α
  entries {α : Type} : Table α → List (κ × α)
  get_make {α : Type} (k : κ) : get (make (α := α)) k = none
  get_set {α : Type} (t : Table α) (k : κ) (v : α) (k' : κ) :
    get (set t k v) k' = if k' = k then some v else get t k'
  keys_nodup {α : Type} (t : Table α) : ((entries t).map Prod.fst).Nodup
  mem_entries {α : Type} (t : Table α) (k : κ) (v : α) :
    (k, v) ∈ entries t ↔ get t k = some v

namespace HashTable

variable {κ : Type} [DecidableEq κ] {α : Type}

/-- Association lists with distinct keys. -/
def alist (κ : Type) [DecidableEq κ] : HashTable κ where
  Table α := AList fun _ : κ => α
  make := ∅
  get t k := t.lookup k
  set t k v := t.insert k v
  entries t := t.entries.map fun entry => (entry.1, entry.2)
  get_make k := AList.lookup_empty k
  get_set t k v k' := by
    by_cases same : k' = k
    · rw [if_pos same, same, AList.lookup_insert]
    · rw [if_neg same, AList.lookup_insert_ne same]
  keys_nodup t := by
    rw [List.map_map]
    exact t.keys_nodup
  mem_entries t k v := by
    rw [← Option.mem_def, AList.mem_lookup_iff, List.mem_map]
    constructor
    · rintro ⟨entry, member, same⟩
      cases same
      exact member
    · intro member
      exact ⟨_, member, rfl⟩

variable (H : HashTable κ)

@[simp] theorem get_make_eq_none (k : κ) : H.get (H.make : H.Table α) k = none := H.get_make k

theorem get_set_self (t : H.Table α) (k : κ) (v : α) : H.get (H.set t k v) k = some v := by
  rw [H.get_set, if_pos rfl]

theorem get_set_ne (t : H.Table α) {k k' : κ} (v : α) (h : k' ≠ k) :
    H.get (H.set t k v) k' = H.get t k' := by
  rw [H.get_set, if_neg h]

/-! ## Tables of tables -/

/-- The entry under two keys. -/
def get₂ (t : H.Table (H.Table α)) (s k : κ) : Option α :=
  (H.get t s).bind fun inner => H.get inner k

/-- Set the entry under two keys; the inner table is made when there is none. -/
def set₂ (t : H.Table (H.Table α)) (s k : κ) (v : α) : H.Table (H.Table α) :=
  H.set t s (H.set ((H.get t s).getD H.make) k v)

@[simp] theorem get₂_make (s k : κ) : H.get₂ (H.make : H.Table (H.Table α)) s k = none := by
  rw [get₂, get_make_eq_none, Option.bind_none]

/-- An entry of an inner table that was just made, or of the one already there. -/
theorem get_getD_make (t : H.Table (H.Table α)) (s k : κ) :
    H.get ((H.get t s).getD H.make) k = H.get₂ t s k := by
  rw [get₂]
  cases H.get t s with
  | none => exact H.get_make k
  | some inner => rfl

/-- A table of tables behaves as a flat map. -/
theorem get₂_set₂ (t : H.Table (H.Table α)) (s k : κ) (v : α) (s' k' : κ) :
    H.get₂ (H.set₂ t s k v) s' k' = if s' = s ∧ k' = k then some v else H.get₂ t s' k' := by
  by_cases sameOuter : s' = s
  · subst sameOuter
    rw [get₂, set₂, get_set_self, Option.bind_some, H.get_set, get_getD_make]
    by_cases sameInner : k' = k
    · rw [if_pos sameInner, if_pos ⟨rfl, sameInner⟩]
    · rw [if_neg sameInner, if_neg fun both => sameInner both.2]
  · rw [if_neg fun both => sameOuter both.1, get₂, set₂, get_set_ne H t _ sameOuter, get₂]

/-- The entries of one inner table. -/
def entries₂ (t : H.Table (H.Table α)) (s : κ) : List (κ × α) :=
  match H.get t s with
  | none => []
  | some inner => H.entries inner

theorem keys₂_nodup (t : H.Table (H.Table α)) (s : κ) : ((H.entries₂ t s).map Prod.fst).Nodup := by
  rw [entries₂]
  cases H.get t s with
  | none => exact List.nodup_nil
  | some inner => exact H.keys_nodup inner

theorem mem_entries₂ (t : H.Table (H.Table α)) (s k : κ) (v : α) :
    (k, v) ∈ H.entries₂ t s ↔ H.get₂ t s k = some v := by
  rw [entries₂, get₂]
  cases H.get t s with
  | none => exact ⟨fun member => absurd member List.not_mem_nil, fun found => nomatch found⟩
  | some inner => exact H.mem_entries inner k v

end HashTable

end PhantomMonitor
