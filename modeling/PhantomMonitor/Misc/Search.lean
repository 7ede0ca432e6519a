import Mathlib.Data.List.Infix

/-!
# Searching a text

`List.dropInfix?` splits a text at the first place where a word occurs. A word that occurs once is
found where it stands, and a word of one letter at the first such letter.
-/

namespace PhantomMonitor

namespace Search

section

variable {α : Type} [BEq α] [LawfulBEq α]

theorem dropInfix?_eq_some {text word before after : List α} :
    text.dropInfix? word = some (before, after) ↔
      text = before ++ word ++ after ∧
        ∀ before' after', text = before' ++ word ++ after' → before.length ≤ before'.length := by
  rw [List.dropInfix?_eq_some_iff]
  constructor
  · rintro ⟨⟨word', whole, same⟩, first⟩
    obtain rfl := eq_of_beq same
    exact ⟨whole, fun before' after' other => first before' word' after' other same⟩
  · rintro ⟨whole, first⟩
    refine ⟨⟨word, whole, beq_self_eq_true word⟩, ?_⟩
    intro before' word' after' other same
    obtain rfl := eq_of_beq same
    exact first before' after' other

/-- A word that stands somewhere is found, at the first such place. -/
theorem exists_dropInfix? {text word : List α} (h : word <:+: text) :
    ∃ before after, text.dropInfix? word = some (before, after) := by
  obtain ⟨before, after, whole⟩ := h
  induction hn : before.length using Nat.strong_induction_on generalizing before after with
  | _ n ih =>
      by_cases first : ∀ before' after', text = before' ++ word ++ after' →
          before.length ≤ before'.length
      · exact ⟨before, after, dropInfix?_eq_some.mpr ⟨whole.symm, first⟩⟩
      · push Not at first
        obtain ⟨before', after', other, shorter⟩ := first
        exact ih before'.length (hn ▸ shorter) before' after' other.symm rfl

theorem dropInfix?_eq_none {text word : List α} :
    text.dropInfix? word = none ↔ ¬ word <:+: text := by
  constructor
  · intro missing occurs
    obtain ⟨before, after, found⟩ := exists_dropInfix? occurs
    rw [missing] at found
    cases found
  · intro missing
    cases found : text.dropInfix? word with
    | none => rfl
    | some split =>
        have whole := (dropInfix?_eq_some.mp found).1
        exact absurd ⟨split.1, split.2, whole.symm⟩ missing

/-! ## Words that occur once -/

/-- The number of places where a word occurs in a text. -/
def occurrences (word text : List α) : Nat := text.tails.countP fun rest => word.isPrefixOf rest

omit [LawfulBEq α] in
theorem occurrences_cons (word : List α) (c : α) (text : List α) :
    occurrences word (c :: text) =
      occurrences word text + if word.isPrefixOf (c :: text) then 1 else 0 := by
  rw [occurrences, List.tails_cons, List.countP_cons]
  rfl

theorem occurrences_pos (before word after : List α) :
    0 < occurrences word (before ++ word ++ after) := by
  rw [occurrences, List.countP_pos_iff]
  refine ⟨word ++ after, ?_, List.isPrefixOf_iff_prefix.mpr (List.prefix_append word after)⟩
  rw [List.mem_tails, List.append_assoc]
  exact List.suffix_append before _

/-- A word that occurs once is found where it stands. -/
theorem dropInfix?_of_once {before word after : List α}
    (once : occurrences word (before ++ word ++ after) = 1) :
    (before ++ word ++ after).dropInfix? word = some (before, after) := by
  refine dropInfix?_eq_some.mpr ⟨rfl, ?_⟩
  intro before' after' other
  induction before generalizing before' with
  | nil => exact Nat.zero_le _
  | cons c before ih =>
      have behind := occurrences_pos before word after
      rw [List.cons_append, List.cons_append, occurrences_cons] at once
      have alone : ¬ word.isPrefixOf (c :: (before ++ word ++ after)) = true := by
        intro front
        rw [if_pos front] at once
        omega
      rw [if_neg alone, Nat.add_zero] at once
      cases before' with
      | nil =>
          refine absurd (List.isPrefixOf_iff_prefix.mpr ?_) alone
          exact ⟨after', other.symm⟩
      | cons d before' =>
          have rest := (List.cons_eq_cons.mp other).2
          exact Nat.succ_le_succ (ih once before' rest)

/-! ## The first letter -/

/-- A word is found behind a text without its first letter. -/
theorem dropInfix?_of_head {gap word rest : List α} {c : α} (h : c ∉ gap) :
    (gap ++ c :: word ++ rest).dropInfix? (c :: word) = some (gap, rest) := by
  refine dropInfix?_eq_some.mpr ⟨rfl, ?_⟩
  intro before' after' other
  by_contra shorter
  have place := congrArg (fun text : List α => text[before'.length]?) other
  simp only [List.append_assoc, List.cons_append] at place
  rw [List.getElem?_append_right (Nat.le_refl _), Nat.sub_self, List.getElem?_cons_zero,
    List.getElem?_append_left (by omega)] at place
  exact h (List.mem_of_getElem? place)

/-! ## Words of one letter -/

/-- A letter is found behind the text without it. -/
theorem dropInfix?_singleton {gap rest : List α} {c : α} (h : c ∉ gap) :
    (gap ++ c :: rest).dropInfix? [c] = some (gap, rest) := by
  rw [List.append_cons]
  exact dropInfix?_of_head h

theorem dropInfix?_singleton_none {text : List α} {c : α} (h : c ∉ text) :
    text.dropInfix? [c] = none := by
  refine dropInfix?_eq_none.mpr ?_
  intro occurs
  exact h ((List.singleton_infix_iff c text).mp occurs)

end

/-! ## Up to a letter -/

section

variable {α : Type} [DecidableEq α]

theorem takeWhile_ne {gap rest : List α} {c : α} (h : c ∉ gap) :
    (gap ++ c :: rest).takeWhile (· ≠ c) = gap := by
  have kept : ∀ x ∈ gap, decide (x ≠ c) = true := by
    intro x member
    refine decide_eq_true ?_
    rintro rfl
    exact h member
  rw [List.takeWhile_append_of_pos kept, List.takeWhile_cons_of_neg (by simp), List.append_nil]

/-- A text with a letter is split at the first one. -/
theorem exists_takeWhile_ne {text : List α} {c : α} (h : c ∈ text) :
    ∃ rest, text = text.takeWhile (· ≠ c) ++ c :: rest ∧ c ∉ text.takeWhile (· ≠ c) := by
  obtain ⟨gap, rest, rfl, notMem⟩ := List.eq_append_cons_of_mem h
  rw [takeWhile_ne notMem]
  exact ⟨rest, rfl, notMem⟩

end

end Search

end PhantomMonitor
