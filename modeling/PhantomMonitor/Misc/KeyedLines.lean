import Mathlib.Data.List.Forall2
import PhantomMonitor.Misc.Scanf

/-!
# Lines with a key

A loop over the lines of a file looks for the one that starts with a key and keeps the number behind
it. The value with which the loop ends is that number, whatever the other lines are and wherever
the line stands.
-/

namespace PhantomMonitor

open CText

/-! ## One marked item -/

section

variable {α β γ : Type} {mark good : α → Prop}

/-- Exactly one of the items is marked, and it is a good one. -/
def Sole (mark good : α → Prop) (items : List α) : Prop :=
  ∃ before item after, items = before ++ item :: after ∧ good item ∧
    ∀ other ∈ before ++ after, ¬ mark other

/-- A variable and the items to come: either it stands as at first and the marked item is still to
come, or it has the value of that item and no marked one is to come. -/
def Awaits (mark good : α → Prop) (start value : β) (items : List α) (held : β) : Prop :=
  held = start ∧ Sole mark good items ∨ held = value ∧ ∀ item ∈ items, ¬ mark item

namespace Awaits

variable {start value held : β} {item : α} {items : List α}

/-- One item, which leads to the value `held'`. -/
theorem step {held' : β} (h : Awaits mark good start value (item :: items) held)
    (kept : ¬ mark item → held' = held) (found : good item → held' = value) :
    Awaits mark good start value items held' := by
  rcases h with ⟨rfl, before, marked, after, split, isGood, others⟩ | ⟨rfl, none⟩
  · cases before with
    | nil =>
        obtain ⟨rfl, rfl⟩ := List.cons_eq_cons.mp split
        exact Or.inr ⟨found isGood, others⟩
    | cons first before =>
        obtain ⟨rfl, rfl⟩ := List.cons_eq_cons.mp split
        obtain ⟨other, others⟩ := List.forall_mem_cons.mp others
        exact Or.inl ⟨kept other, before, marked, after, rfl, isGood, others⟩
  · obtain ⟨other, others⟩ := List.forall_mem_cons.mp none
    exact Or.inr ⟨kept other, others⟩

/-- A value that has changed is that of the marked item. -/
theorem eq_of_ne (h : Awaits mark good start value items held) (changed : held ≠ start) :
    held = value := by
  rcases h with ⟨same, -⟩ | ⟨found, -⟩
  · exact absurd same changed
  · exact found

/-- At the end the marked item has been met. -/
theorem done (h : Awaits mark good start value [] held) : held = value := by
  rcases h with ⟨-, before, marked, after, split, -⟩ | ⟨found, -⟩
  · simp at split
  · exact found

end Awaits

section

variable {σ : Type} {f : σ → α → σ} {value : β} {items : List α}

/-- A part of the state that only a marked item writes. -/
theorem foldl_kept (get : σ → β) (kept : ∀ s item, ¬ mark item → get (f s item) = get s)
    (none : ∀ item ∈ items, ¬ mark item) (s : σ) : get (items.foldl f s) = get s := by
  induction items generalizing s with
  | nil => rfl
  | cons item items ih =>
      obtain ⟨first, none⟩ := List.forall_mem_cons.mp none
      rw [List.foldl_cons, ih none, kept s item first]

/-- With one marked item, it ends with the value of that item. -/
theorem Sole.foldl (h : Sole mark good items) (get : σ → β)
    (kept : ∀ s item, ¬ mark item → get (f s item) = get s)
    (found : ∀ s item, good item → get (f s item) = value) (s : σ) :
    get (items.foldl f s) = value := by
  obtain ⟨before, item, after, rfl, isGood, others⟩ := h
  rw [List.foldl_append, List.foldl_cons,
    foldl_kept get kept fun other member => others other (List.mem_append_right _ member)]
  exact found _ item isGood

end

theorem Sole.cons {item : α} {items : List α} (other : ¬ mark item) (h : Sole mark good items) :
    Sole mark good (item :: items) := by
  obtain ⟨before, marked, after, rfl, isGood, others⟩ := h
  exact ⟨item :: before, marked, after, rfl, isGood, List.forall_mem_cons.mpr ⟨other, others⟩⟩

section

variable {R : α → γ → Prop} {mark' good' : γ → Prop} {items : List α} {seen : List γ}

/-- Items without a mark, seen through a relation. -/
theorem unmarked_forall₂ (both : List.Forall₂ R items seen) (none : ∀ item ∈ items, ¬ mark item)
    (marks : ∀ a c, R a c → ¬ mark a → ¬ mark' c) : ∀ c ∈ seen, ¬ mark' c := by
  induction both with
  | nil => simp
  | cons head tail ih =>
      obtain ⟨first, none⟩ := List.forall_mem_cons.mp none
      exact List.forall_mem_cons.mpr ⟨marks _ _ head first, ih none⟩

/-- The one marked item, seen through a relation. -/
theorem Sole.forall₂ (h : Sole mark good items) (both : List.Forall₂ R items seen)
    (goods : ∀ a c, R a c → good a → good' c) (marks : ∀ a c, R a c → ¬ mark a → ¬ mark' c) :
    Sole mark' good' seen := by
  obtain ⟨before, item, after, rfl, isGood, others⟩ := h
  obtain ⟨front, behind⟩ := List.forall_mem_append.mp others
  clear others
  induction before generalizing seen with
  | nil =>
      cases both with
      | cons head tail =>
          exact ⟨[], _, _, rfl, goods _ _ head isGood, unmarked_forall₂ tail behind marks⟩
  | cons first before ih =>
      obtain ⟨other, front⟩ := List.forall_mem_cons.mp front
      cases both with
      | cons head tail => exact (ih tail front).cons (marks _ _ head other)

end

end

/-! ## Keys and numbers -/

/-- A line gives a number under a key. -/
def Gives (key : CText) (value : Nat) (line : CText) : Prop :=
  ∃ (n : NumberText) (rest : CText), line = key ++ n.text ++ rest ∧ n.value = value ∧
    ∀ c ∈ rest.head?, c.isDigit = false

/-- Exactly one line starts with the key, and gives the number. -/
def SoleLine (key : CText) (value : Nat) (lines : List CText) : Prop :=
  ∃ before line after, lines = before ++ line :: after ∧ Gives key value line ∧
    ∀ other ∈ before ++ after, ¬ key <+: other

theorem gives_toDigits (key : CText) (n : Nat) : Gives key n (key ++ Nat.toDigits 10 n) :=
  ⟨.ofNat [] (List.forall_mem_nil _) n, [], (List.append_nil _).symm, NumberText.value_ofNat _ _ n,
    fun _ first => nomatch first⟩

/-- A line with one key does not start with another one, unless one of the keys starts with the
other. -/
theorem not_prefix_append {key other : CText} (apart : ¬ key <+: other) (apart' : ¬ other <+: key)
    (rest : CText) : ¬ key <+: other ++ rest := fun starts =>
  (List.prefix_or_prefix_of_prefix starts (List.prefix_append other rest)).elim apart apart'

theorem Gives.newline {key line : CText} {value : Nat} (h : Gives key value line) :
    Gives key value (line ++ ['\n']) := by
  obtain ⟨n, rest, rfl, same, stop⟩ := h
  refine ⟨n, rest ++ ['\n'], List.append_assoc _ _ _, same, ?_⟩
  cases rest with
  | nil =>
      rintro c ⟨⟩
      rfl
  | cons c rest => exact stop

theorem not_prefix_newline {key line : CText} (plain : '\n' ∉ key) (h : ¬ key <+: line) :
    ¬ key <+: line ++ ['\n'] := by
  intro starts
  rcases List.prefix_concat_iff.mp starts with rfl | shorter
  · exact plain (by simp)
  · exact h shorter

/-! ## Lines of a file in a buffer -/

/-- A line, with or without its newline. -/
def SeenAs (line seen : CText) : Prop := seen = line ∨ seen = line ++ ['\n']

/-- Lines that fit into the buffer arrive one by one. -/
theorem forall₂_readLines {size : Nat} {content : CText}
    (short : ∀ line ∈ fileLines content, line.length + 1 < size) :
    List.Forall₂ SeenAs (fileLines content) (readLines size content) := by
  obtain ⟨lines, tail, hlines, htail, rfl⟩ := exists_unlines_append content
  rw [fileLines_unlines_append hlines] at short ⊢
  obtain ⟨front, behind⟩ := List.forall_mem_append.mp short
  rw [readLines_unlines_append fun line member => ⟨hlines line member, front line member⟩]
  have terminated : List.Forall₂ SeenAs lines (lines.map (· ++ ['\n'])) :=
    List.forall₂_map_right_iff.mpr (List.forall₂_same.mpr fun _ _ => Or.inr rfl)
  refine List.rel_append terminated ?_
  by_cases empty : tail = []
  · subst empty
    exact .nil
  · rw [fileLines_unterminated htail empty] at behind ⊢
    have fits := behind tail List.mem_cons_self
    rw [readLines_unterminated htail empty (by omega)]
    exact .cons (Or.inl rfl) .nil

/-- The start of a buffer that holds a text. -/
theorem prefix_strcpy_iff {key : CText} (plain : nul ∉ key) (buffer line : CText) :
    key <+: strcpy buffer line ↔ key <+: line := by
  rw [strcpy]
  refine ⟨fun starts => ?_, fun starts => starts.trans (List.prefix_append _ _)⟩
  rcases List.prefix_or_prefix_of_prefix starts (List.prefix_append line _) with inside | longer
  · exact inside
  · obtain ⟨rest, rfl⟩ := longer
    rw [List.prefix_append_right_inj] at starts
    cases rest with
    | nil => rw [List.append_nil]
    | cons c rest =>
        obtain ⟨rfl, -⟩ := List.cons_prefix_cons.mp starts
        simp at plain

end PhantomMonitor
