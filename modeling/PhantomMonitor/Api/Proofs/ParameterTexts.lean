import Mathlib.Algebra.Group.Nat.Defs
import PhantomMonitor.Api.ConfigParameters

/-!
# What the answer says about a parameter

The loop over the names looks for each of them in the answer. A name is missing, or nothing behind
it ends its value, or a text stands between it and the end of its value. The loop is determined by
these nine findings: it passes names that are missing and values that fit the buffer, and stops at
the first of the others.
-/

namespace PhantomMonitor

open CText

/-- What stands in the answer for a name. -/
inductive ParameterText where
  | missing
  | cut
  | gap (text : CText)
  deriving DecidableEq, Repr

/-- The text behind the first occurrence of the name, up to the next comma, or up to the next brace
when there is no comma. -/
def parameterText (response name : CText) : ParameterText :=
  match response.dropInfix? name with
  | none => .missing
  | some (_, after) =>
      if ',' ∈ after then .gap (after.takeWhile (· ≠ ','))
      else if '}' ∈ after then .gap (after.takeWhile (· ≠ '}'))
      else .cut

/-- The text has 4 to 19 characters: two quotes, a colon and a quote at its sides leave 0 to 15 for
the value. The length is counted as an `int`. -/
def GapFits (gap : CText) : Prop := (gap.length + (2 ^ 32 - 4)) % 2 ^ 32 ≤ 15

instance (gap : CText) : Decidable (GapFits gap) := inferInstanceAs (Decidable (_ ≤ _))

/-- The value that is copied out of the text. -/
def gapValue (gap : CText) : CText := (gap.drop 3).take ((gap.length + (2 ^ 32 - 4)) % 2 ^ 32)

/-! ## The end of a value -/

theorem comma_notMem_parametersName (i : Fin 9) :
    ',' ∉ parametersName i ∧ '}' ∉ parametersName i := by
  revert i
  decide +kernel

/-- The end that is found behind a name. -/
theorem endDistance_append {name after : CText} (comma : ',' ∉ name) (brace : '}' ∉ name) :
    endDistance (name ++ after) =
      if ',' ∈ after then some (name.length + (after.takeWhile (· ≠ ',')).length)
      else if '}' ∈ after then some (name.length + (after.takeWhile (· ≠ '}')).length)
      else none := by
  have reach {c : Char} (hname : c ∉ name) (hafter : c ∈ after) :
      ∃ rest, strstr (name ++ after) [c] = some (name ++ after.takeWhile (· ≠ c), rest) := by
    obtain ⟨rest, whole, notMem⟩ := Search.exists_takeWhile_ne hafter
    refine ⟨rest, ?_⟩
    have absent : c ∉ name ++ after.takeWhile (· ≠ c) :=
      fun member => (List.mem_append.mp member).elim hname notMem
    rw [strstr, ← Search.dropInfix?_singleton absent, List.append_assoc, ← whole]
  have miss {c : Char} (hname : c ∉ name) (hafter : c ∉ after) :
      strstr (name ++ after) [c] = none :=
    Search.dropInfix?_singleton_none fun member => (List.mem_append.mp member).elim hname hafter
  unfold endDistance
  by_cases hcomma : ',' ∈ after
  · obtain ⟨rest, found⟩ := reach comma hcomma
    rw [if_pos hcomma, found, ← List.length_append]
  · rw [if_neg hcomma, miss comma hcomma]
    by_cases hbrace : '}' ∈ after
    · obtain ⟨rest, found⟩ := reach brace hbrace
      rw [if_pos hbrace, found, ← List.length_append]
      rfl
    · rw [if_neg hbrace, miss brace hbrace]
      rfl

theorem valueLength_gap (name gap : CText) :
    valueLength (name.length + gap.length) name = ((gap.length : Int) - 4).bmod (2 ^ 32) := by
  rw [valueLength, BitVec.toInt_ofInt]
  congr 1
  omega

/-- The copy of a value that fits. -/
theorem copyValue_fits {name gap after : CText} (starts : gap <+: after) (fits : GapFits gap) :
    copyValue ((name ++ after).drop (3 + name.length))
        (valueLength (name.length + gap.length) name) = .ok (gapValue gap) := by
  unfold GapFits at fits
  obtain ⟨rest, rfl⟩ := starts
  have length : ((gap.length : Int) - 4).bmod (2 ^ 32) =
      ((gap.length + (2 ^ 32 - 4)) % 2 ^ 32 : Nat) := by
    rw [Int.bmod_def]
    omega
  rw [valueLength_gap, length, copyValue, if_pos ⟨by omega, by unfold valueSize; omega⟩,
    Int.toNat_natCast, List.drop_append, List.drop_of_length_le (by omega), List.nil_append,
    Nat.add_sub_cancel, List.drop_append_of_le_length (by omega), List.take_append_of_le_length]
  · rfl
  · rw [List.length_drop]
    omega

theorem copyValue_ok_iff {src : CText} {n : Int} :
    (∃ value, copyValue src n = .ok value) ↔ 0 ≤ n ∧ n ≤ 15 := by
  unfold copyValue
  constructor
  · rintro ⟨value, copied⟩
    split at copied
    · rename_i range
      exact ⟨range.1, Int.le_of_lt_add_one range.2⟩
    · split at copied <;> cases copied
  · rintro ⟨low, high⟩
    exact ⟨_, if_pos ⟨low, Int.lt_add_one_of_le high⟩⟩

/-- The copy of a value that does not fit has no defined result. -/
theorem copyValue_misfit (src name : CText) {gap : CText} (fits : ¬ GapFits gap) :
    ∃ fault, copyValue src (valueLength (name.length + gap.length) name) = .error fault := by
  unfold GapFits at fits
  have range : ¬ (0 ≤ ((gap.length : Int) - 4).bmod (2 ^ 32) ∧
      ((gap.length : Int) - 4).bmod (2 ^ 32) ≤ 15) := by
    rw [Int.bmod_def]
    omega
  rw [valueLength_gap]
  cases copied : copyValue src (((gap.length : Int) - 4).bmod (2 ^ 32)) with
  | error fault => exact ⟨fault, rfl⟩
  | ok value => exact absurd (copyValue_ok_iff.mp ⟨value, copied⟩) range

/-! ## One turn of the loop -/

section

variable {ν : Type} {atof : CText → ν} {response : CText} {i : Fin 9} {is : List (Fin 9)}
  {values : Fin 9 → ν}

theorem readParameters_missing (h : parameterText response (parametersName i) = .missing) :
    readParameters atof response (i :: is) values = readParameters atof response is values := by
  have found : strstr response (parametersName i) = none := by
    unfold strstr
    unfold parameterText at h
    split at h
    · assumption
    · split at h
      · cases h
      · split at h <;> cases h
  simp only [readParameters, found]

/-- A name that is not missing has a text behind it, which decides how it goes on. -/
theorem parameterText_found (h : parameterText response (parametersName i) ≠ .missing) :
    ∃ before after, strstr response (parametersName i) = some (before, after) ∧
      (parameterText response (parametersName i) = .cut →
        endDistance (parametersName i ++ after) = none) ∧
      ∀ gap, parameterText response (parametersName i) = .gap gap →
        endDistance (parametersName i ++ after) =
          some ((parametersName i).length + gap.length) ∧ gap <+: after := by
  obtain ⟨comma, brace⟩ := comma_notMem_parametersName i
  unfold parameterText at h ⊢
  cases found : response.dropInfix? (parametersName i) with
  | none =>
      rw [found] at h
      exact absurd rfl h
  | some split =>
      refine ⟨split.1, split.2, found, ?_, ?_⟩
      · intro cut
        rw [endDistance_append comma brace]
        dsimp only at cut
        by_cases hcomma : ',' ∈ split.2
        · rw [if_pos hcomma] at cut
          cases cut
        · rw [if_neg hcomma] at cut ⊢
          by_cases hbrace : '}' ∈ split.2
          · rw [if_pos hbrace] at cut
            cases cut
          · rw [if_neg hbrace]
      · intro gap ended
        rw [endDistance_append comma brace]
        dsimp only at ended
        by_cases hcomma : ',' ∈ split.2
        · rw [if_pos hcomma] at ended ⊢
          cases ended
          exact ⟨rfl, List.takeWhile_prefix _⟩
        · rw [if_neg hcomma] at ended ⊢
          by_cases hbrace : '}' ∈ split.2
          · rw [if_pos hbrace] at ended ⊢
            cases ended
            exact ⟨rfl, List.takeWhile_prefix _⟩
          · rw [if_neg hbrace] at ended
            cases ended

theorem readParameters_cut (h : parameterText response (parametersName i) = .cut) :
    readParameters atof response (i :: is) values = .ok (0, values) := by
  obtain ⟨before, after, found, cut, -⟩ := parameterText_found (by rw [h]; nofun)
  simp only [readParameters, found, cut h]

theorem readParameters_gap {gap : CText}
    (h : parameterText response (parametersName i) = .gap gap) (fits : GapFits gap) :
    readParameters atof response (i :: is) values =
      readParameters atof response is (Function.update values i (atof (gapValue gap))) := by
  obtain ⟨before, after, found, -, ended⟩ := parameterText_found (by rw [h]; nofun)
  obtain ⟨distance, starts⟩ := ended gap h
  simp only [readParameters, found, distance, copyValue_fits starts fits, bind, Except.bind]

theorem readParameters_misfit {gap : CText}
    (h : parameterText response (parametersName i) = .gap gap) (fits : ¬ GapFits gap) :
    ∃ fault, readParameters atof response (i :: is) values = .error fault := by
  obtain ⟨before, after, found, -, ended⟩ := parameterText_found (by rw [h]; nofun)
  obtain ⟨distance, -⟩ := ended gap h
  obtain ⟨fault, copied⟩ := copyValue_misfit
    ((parametersName i ++ after).drop (3 + (parametersName i).length)) (parametersName i) fits
  refine ⟨fault, ?_⟩
  simp only [readParameters, found, distance, copied, bind, Except.bind]

end

/-! ## The whole loop -/

/-- The loop goes on behind the name. -/
def ParameterText.Passes : ParameterText → Prop
  | .missing => True
  | .cut => False
  | .gap text => GapFits text

theorem ParameterText.Passes.gap {text : ParameterText} (h : text.Passes) {gap : CText}
    (found : text = .gap gap) : GapFits gap := by
  subst found
  exact h

theorem ParameterText.Passes.uncut {text : ParameterText} (h : text.Passes) : text ≠ .cut := by
  rintro rfl
  exact h

section

variable {ν : Type} (atof : CText → ν) (response : CText)

/-- What one turn writes. -/
def writeParameter (values : Fin 9 → ν) (i : Fin 9) : Fin 9 → ν :=
  match parameterText response (parametersName i) with
  | .gap text => Function.update values i (atof (gapValue text))
  | .missing | .cut => values

/-- The array when the names that `reached` selects have been dealt with. -/
def assigned (reached : Fin 9 → Prop) [DecidablePred reached] (values : Fin 9 → ν) : Fin 9 → ν :=
  fun i => match parameterText response (parametersName i) with
    | .gap text => if reached i then atof (gapValue text) else values i
    | .missing | .cut => values i

variable {atof response}

theorem assigned_congr {reached reached' : Fin 9 → Prop} [DecidablePred reached]
    [DecidablePred reached'] (h : ∀ i, reached i ↔ reached' i) (values : Fin 9 → ν) :
    assigned atof response reached values = assigned atof response reached' values := by
  funext i
  unfold assigned
  simp only [h i]

theorem foldl_writeParameter (is : List (Fin 9)) (values : Fin 9 → ν) :
    is.foldl (writeParameter atof response) values = assigned atof response (· ∈ is) values := by
  induction is generalizing values with
  | nil =>
      funext i
      unfold assigned
      split
      · rw [if_neg List.not_mem_nil]
        rfl
      · rfl
      · rfl
  | cons a is ih =>
      rw [List.foldl_cons, ih]
      funext i
      unfold assigned
      by_cases same : i = a
      · subst same
        cases htext : parameterText response (parametersName i) with
        | gap text => simp [writeParameter, htext]
        | missing => simp [writeParameter, htext]
        | cut => simp [writeParameter, htext]
      · have other : writeParameter atof response values a i = values i := by
          unfold writeParameter
          cases parameterText response (parametersName a) with
          | gap text => exact Function.update_of_ne same _ _
          | missing => rfl
          | cut => rfl
        rw [other]
        simp only [List.mem_cons, same, false_or]

/-- Names that the loop passes. -/
theorem readParameters_append {before rest : List (Fin 9)} {values : Fin 9 → ν}
    (h : ∀ i ∈ before, (parameterText response (parametersName i)).Passes) :
    readParameters atof response (before ++ rest) values =
      readParameters atof response rest (before.foldl (writeParameter atof response) values) := by
  induction before generalizing values with
  | nil => rfl
  | cons i before ih =>
      obtain ⟨first, others⟩ := List.forall_mem_cons.mp h
      rw [List.cons_append, List.foldl_cons]
      cases htext : parameterText response (parametersName i) with
      | missing => rw [readParameters_missing htext, ih others, writeParameter, htext]
      | cut =>
          rw [htext] at first
          exact first.elim
      | gap text =>
          rw [htext] at first
          rw [readParameters_gap htext first, ih others, writeParameter, htext]

/-- The names before and behind one. -/
theorem finRange_split {n : Nat} (j : Fin n) :
    ∃ before after, List.finRange n = before ++ j :: after ∧ ∀ k, k ∈ before ↔ k < j := by
  obtain ⟨before, after, whole⟩ := List.append_of_mem (List.mem_finRange j)
  have sorted := List.pairwise_lt_finRange n
  rw [whole, List.pairwise_append, List.pairwise_cons] at sorted
  obtain ⟨-, ⟨behind, -⟩, between⟩ := sorted
  refine ⟨before, after, whole, ?_⟩
  intro k
  constructor
  · intro member
    exact between k member j List.mem_cons_self
  · intro less
    have member := List.mem_finRange k
    rw [whole, List.mem_append, List.mem_cons] at member
    rcases member with first | rfl | later
    · exact first
    · exact absurd less (lt_irrefl k)
    · exact absurd less (lt_asymm (behind k later))

/-- Either the loop passes all names, or it stops at a first one. -/
theorem parameters_cases (response : CText) :
    (∀ i, (parameterText response (parametersName i)).Passes) ∨
      ∃ j, (∀ k < j, (parameterText response (parametersName k)).Passes) ∧
        ¬ (parameterText response (parametersName j)).Passes := by
  refine or_iff_not_imp_right.mpr ?_
  intro none i
  induction i using WellFoundedLT.induction with
  | ind j ih =>
      by_contra stop
      exact none ⟨j, ih, stop⟩

theorem getParameters_passes (atof : CText → ν) (values : Fin 9 → ν)
    (h : hasSubstr response "parameters".toList = true)
    (passes : ∀ i, (parameterText response (parametersName i)).Passes) :
    getParameters atof (some response) values =
      .ok (1, assigned atof response (fun _ => True) values) := by
  unfold getParameters
  dsimp only
  rw [if_pos h, ← List.append_nil (List.finRange 9), readParameters_append fun i _ => passes i,
    foldl_writeParameter,
    assigned_congr fun i => iff_true_intro (List.mem_finRange i)]
  rfl

theorem getParameters_cut (atof : CText → ν) (values : Fin 9 → ν)
    (h : hasSubstr response "parameters".toList = true) {j : Fin 9}
    (passes : ∀ k < j, (parameterText response (parametersName k)).Passes)
    (cut : parameterText response (parametersName j) = .cut) :
    getParameters atof (some response) values = .ok (0, assigned atof response (· < j) values) := by
  obtain ⟨before, after, whole, first⟩ := finRange_split j
  unfold getParameters
  dsimp only
  rw [if_pos h, whole, readParameters_append fun i member => passes i ((first i).mp member),
    readParameters_cut cut, foldl_writeParameter, assigned_congr first]

theorem getParameters_misfit (atof : CText → ν) (values : Fin 9 → ν)
    (h : hasSubstr response "parameters".toList = true) {j : Fin 9}
    (passes : ∀ k < j, (parameterText response (parametersName k)).Passes) {gap : CText}
    (stop : parameterText response (parametersName j) = .gap gap) (fits : ¬ GapFits gap) :
    ∃ fault, getParameters atof (some response) values = .error fault := by
  obtain ⟨before, after, whole, first⟩ := finRange_split j
  obtain ⟨fault, misfit⟩ := readParameters_misfit stop fits
  refine ⟨fault, ?_⟩
  unfold getParameters
  dsimp only
  rw [if_pos h, whole, readParameters_append fun i member => passes i ((first i).mp member),
    misfit]

/-- The call passes all names, or stops at the first without an end, or has no result because of the
first that does not fit. -/
theorem getParameters_cases (atof : CText → ν)
    (h : hasSubstr response "parameters".toList = true) :
    ((∀ i, (parameterText response (parametersName i)).Passes) ∧
      ∀ values, getParameters atof (some response) values =
        .ok (1, assigned atof response (fun _ => True) values)) ∨
    (∃ j, (∀ k < j, (parameterText response (parametersName k)).Passes) ∧
      parameterText response (parametersName j) = .cut ∧
      ∀ values, getParameters atof (some response) values =
        .ok (0, assigned atof response (· < j) values)) ∨
    ∃ j gap, (∀ k < j, (parameterText response (parametersName k)).Passes) ∧
      parameterText response (parametersName j) = .gap gap ∧ ¬ GapFits gap ∧
      ∀ values, ∃ fault, getParameters atof (some response) values = .error fault := by
  rcases parameters_cases response with passes | ⟨j, passes, stop⟩
  · exact Or.inl ⟨passes, fun values => getParameters_passes atof values h passes⟩
  · cases htext : parameterText response (parametersName j) with
    | missing =>
        rw [htext] at stop
        exact absurd trivial stop
    | cut =>
        exact Or.inr (Or.inl ⟨j, passes, htext,
          fun values => getParameters_cut atof values h passes htext⟩)
    | gap gap =>
        rw [htext] at stop
        exact Or.inr (Or.inr ⟨j, gap, passes, htext, stop,
          fun values => getParameters_misfit atof values h passes htext stop⟩)

/-- An answer that does not speak of parameters changes nothing. -/
theorem getParameters_other (atof : CText → ν) (values : Fin 9 → ν)
    (h : ¬ hasSubstr response "parameters".toList = true) :
    getParameters atof (some response) values = .ok (0, values) := by
  unfold getParameters
  dsimp only
  rw [if_neg h]

end

end PhantomMonitor
