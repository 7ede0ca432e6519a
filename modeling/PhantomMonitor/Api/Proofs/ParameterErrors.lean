import PhantomMonitor.Api.Proofs.ParameterTexts
import PhantomMonitor.Misc.Decimal

/-!
# Answers that are not as expected

The copy of a value stays in its buffer when the text behind the name has 4 to 19 characters. The
call takes all parameters or none when all of them are found, or when the first that is found has no
end.
-/

namespace PhantomMonitor

open CText

/-! ## The length of a copy -/

section

variable {ν : Type} (atof : CText → ν)

/-- Every copy that the call makes is in range exactly when each name that is reached, found and
ended has a text behind it that fits. -/
theorem copyLength_inRange_iff (answer : Option CText) (values : Fin 9 → ν) :
    (∃ out, getParameters atof answer values = .ok out) ↔
      ∀ response ∈ answer, hasSubstr response "parameters".toList = true →
        ∀ i, (∀ k < i, parameterText response (parametersName k) ≠ .cut) →
          ∀ gap, parameterText response (parametersName i) = .gap gap → GapFits gap := by
  cases answer with
  | none => exact ⟨fun _ => nofun, fun _ => ⟨_, rfl⟩⟩
  | some response =>
      simp only [Option.mem_def, Option.some.injEq, forall_eq']
      by_cases speaks : hasSubstr response "parameters".toList = true
      · rcases getParameters_cases atof speaks with
          ⟨passes, run⟩ | ⟨j, passes, cut, run⟩ | ⟨j, gap, passes, stop, misfit, run⟩
        · constructor
          · intro _ _ i _ gap found
            exact (passes i).gap found
          · intro _
            exact ⟨_, run values⟩
        · constructor
          · intro _ _ i uncut gap found
            rcases lt_trichotomy i j with before | rfl | behind
            · exact (passes i before).gap found
            · rw [cut] at found
              cases found
            · exact absurd cut (uncut j behind)
          · intro _
            exact ⟨_, run values⟩
        · obtain ⟨fault, run⟩ := run values
          constructor
          · rintro ⟨out, ended⟩
            rw [run] at ended
            cases ended
          · intro fits
            exact absurd (fits speaks j (fun k before => (passes k before).uncut) gap stop) misfit
      · exact ⟨fun _ speaks' => absurd speaks' speaks,
          fun _ => ⟨_, getParameters_other atof values speaks⟩⟩

/-! ## All or nothing -/

/-- The call assigns the entry: what it leaves there does not depend on what was there before. -/
def Assigns (answer : Option CText) (i : Fin 9) : Prop :=
  ∀ values values' out out', getParameters atof answer values = .ok (1, out) →
    getParameters atof answer values' = .ok (1, out') → out i = out' i

/-- The call has a result; one that succeeds assigns all entries, and one that fails changes
none. -/
def AllOrNothing (answer : Option CText) : Prop :=
  ∀ values, ∃ ret out, getParameters atof answer values = .ok (ret, out) ∧
    (ret = 1 → ∀ i, Assigns atof answer i) ∧ (ret = 0 → out = values)

/-- All names are found with a value that fits; or the first that is found has no end. -/
def Decisive (response : CText) : Prop :=
  (∀ i, ∃ gap, parameterText response (parametersName i) = .gap gap ∧ GapFits gap) ∨
  ∃ j, parameterText response (parametersName j) = .cut ∧
    ∀ k < j, parameterText response (parametersName k) = .missing

variable {atof}

theorem assigned_gap {response : CText} {reached : Fin 9 → Prop} [DecidablePred reached]
    {i : Fin 9} {gap : CText} (found : parameterText response (parametersName i) = .gap gap)
    (h : reached i) (values : Fin 9 → ν) :
    assigned atof response reached values i = atof (gapValue gap) := by
  unfold assigned
  rw [found]
  exact if_pos h

theorem assigned_missing {response : CText} {reached : Fin 9 → Prop} [DecidablePred reached]
    {i : Fin 9} (missing : parameterText response (parametersName i) = .missing)
    (values : Fin 9 → ν) : assigned atof response reached values i = values i := by
  unfold assigned
  rw [missing]

theorem Decisive.allOrNothing {response : CText} (h : Decisive response)
    (speaks : hasSubstr response "parameters".toList = true) :
    AllOrNothing atof (some response) := by
  rcases h with found | ⟨j, cut, missing⟩
  · have passes : ∀ i, (parameterText response (parametersName i)).Passes := by
      intro i
      obtain ⟨gap, text, fits⟩ := found i
      rw [text]
      exact fits
    have run (values : Fin 9 → ν) := getParameters_passes atof values speaks passes
    intro values
    refine ⟨1, _, run values, ?_, nofun⟩
    intro _ i values₁ values₂ out₁ out₂ first second
    obtain ⟨gap, text, -⟩ := found i
    cases (run values₁).symm.trans first
    cases (run values₂).symm.trans second
    rw [assigned_gap text trivial, assigned_gap text trivial]
  · have passes : ∀ k < j, (parameterText response (parametersName k)).Passes := by
      intro k before
      rw [missing k before]
      trivial
    intro values
    refine ⟨0, _, getParameters_cut atof values speaks passes cut, nofun, ?_⟩
    intro _
    funext k
    by_cases before : k < j
    · exact assigned_missing (missing k before) values
    · unfold assigned
      split
      · exact if_neg before
      · rfl
      · rfl

theorem AllOrNothing.decisive [Nontrivial ν] {response : CText}
    (h : AllOrNothing atof (some response))
    (speaks : hasSubstr response "parameters".toList = true) : Decisive response := by
  rcases getParameters_cases atof speaks with
    ⟨passes, run⟩ | ⟨j, passes, cut, run⟩ | ⟨j, gap, passes, stop, misfit, run⟩
  · left
    intro i
    cases text : parameterText response (parametersName i) with
    | gap gap => exact ⟨gap, rfl, (passes i).gap text⟩
    | cut => exact absurd text (passes i).uncut
    | missing =>
        obtain ⟨x, y, different⟩ := exists_pair_ne ν
        obtain ⟨ret, out, ended, assigns, -⟩ := h fun _ => x
        cases (run fun _ => x).symm.trans ended
        have same := assigns rfl i _ _ _ _ (run fun _ => x) (run fun _ => y)
        rw [assigned_missing text, assigned_missing text] at same
        exact absurd same different
  · right
    refine ⟨j, cut, ?_⟩
    intro k before
    cases text : parameterText response (parametersName k) with
    | missing => rfl
    | cut => exact absurd text (passes k before).uncut
    | gap gap =>
        obtain ⟨x, different⟩ := exists_ne (atof (gapValue gap))
        obtain ⟨ret, out, ended, -, same⟩ := h fun _ => x
        cases (run fun _ => x).symm.trans ended
        have kept := congrFun (same rfl) k
        rw [assigned_gap text before] at kept
        exact absurd kept.symm different
  · obtain ⟨x, -⟩ := exists_pair_ne ν
    obtain ⟨ret, out, ended, -⟩ := h fun _ => x
    obtain ⟨fault, stopped⟩ := run fun _ => x
    cases stopped.symm.trans ended

/-- The call is all or nothing exactly when the answer is decisive, or does not speak of
parameters. -/
theorem allOrNothing_iff [Nontrivial ν] (atof : CText → ν) (answer : Option CText) :
    AllOrNothing atof answer ↔ ∀ response ∈ answer,
      hasSubstr response "parameters".toList = true → Decisive response := by
  constructor
  · rintro whole response rfl speaks
    exact whole.decisive speaks
  · intro decisive
    cases answer with
    | none => exact fun values => ⟨0, values, rfl, nofun, fun _ => rfl⟩
    | some response =>
        by_cases speaks : hasSubstr response "parameters".toList = true
        · exact (decisive response rfl speaks).allOrNothing speaks
        · intro values
          have run : getParameters atof (some response) values = .ok (0, values) :=
            getParameters_other atof values speaks
          exact ⟨0, values, run, nofun, fun _ => rfl⟩

end

/-- An answer that ends in the first name. -/
def cutAnswer : CText := "\x7b\"parameters\":\x7b\"MAX_CPU_POWER\"".toList

theorem allOrNothing_iff_cut : AllOrNothing atof (some cutAnswer) := by
  refine (allOrNothing_iff atof (some cutAnswer)).mpr ?_
  rintro response ⟨⟩ -
  right
  refine ⟨0, by decide +kernel, ?_⟩
  intro k before
  exact absurd before (Fin.not_lt_zero k)

/-! ## Answers that go wrong -/

/-- The first parameter as a number without quotes. -/
def unquotedAnswer : CText :=
  "\x7b\"parameters\":\x7b\"MAX_CPU_POWER\":8,\"MIN_CPU_POWER\":4\x7d\x7d".toList

/-- The first parameter as a number of 16 characters. -/
def longAnswer : CText :=
  "\x7b\"parameters\":\x7b\"MAX_CPU_POWER\":\"24.5000000000000\"\x7d\x7d".toList

theorem copyLength_outOfRange :
    (¬ ∃ out, getParameters atof (some unquotedAnswer) (fun _ => 0) = .ok out) ∧
      ¬ ∃ out, getParameters atof (some longAnswer) (fun _ => 0) = .ok out := by
  have negative : (getParameters atof (some unquotedAnswer) (fun _ => 0)).map Prod.fst =
      .error .overflow := by decide +kernel
  have long : (getParameters atof (some longAnswer) (fun _ => 0)).map Prod.fst =
      .error .outOfBounds := by decide +kernel
  constructor
  · rintro ⟨out, run⟩
    rw [run] at negative
    cases negative
  · rintro ⟨out, run⟩
    rw [run] at long
    cases long

/-- An answer without any of the names. -/
def emptyAnswer : CText := "\x7b\"parameters\":\x7b\x7d\x7d".toList

/-- An answer that ends in the second name. -/
def truncatedAnswer : CText :=
  "\x7b\"parameters\":\x7b\"MAX_CPU_POWER\":\"24.5\",\"MIN_CPU_POWER".toList

/-- The first answer is accepted and leaves the size of a cache line as it was, the second one is
refused and has changed the maximal power, and the call has no result for the third one. -/
theorem notAllOrNothing :
    ¬ AllOrNothing atof (some emptyAnswer) ∧ ¬ AllOrNothing atof (some truncatedAnswer) ∧
      ¬ AllOrNothing atof (some unquotedAnswer) := by
  have kept (x : Rat) (h : (getParameters atof (some emptyAnswer) (fun _ => x)).map
      (fun out => (out.1, out.2 4)) = .ok (1, x)) :
      ∃ out, getParameters atof (some emptyAnswer) (fun _ => x) = .ok (1, out) ∧ out 4 = x := by
    obtain ⟨⟨ret, out⟩, run, same⟩ := Fault.map_eq_ok.mp h
    cases same
    exact ⟨out, run, rfl⟩
  refine ⟨?_, ?_, ?_⟩
  · intro whole
    obtain ⟨out, run, zero⟩ := kept 0 (by decide +kernel)
    obtain ⟨out', run', one⟩ := kept 1 (by decide +kernel)
    obtain ⟨ret, out₀, ended, assigns, -⟩ := whole fun _ => 0
    cases run.symm.trans ended
    have same := assigns rfl 4 _ _ _ _ run run'
    rw [zero, one] at same
    exact absurd same (by decide)
  · intro whole
    have changed : (getParameters atof (some truncatedAnswer) (fun _ => 0)).map
        (fun out => (out.1, out.2 0)) = .ok (0, 49 / 2) := by decide +kernel
    obtain ⟨⟨ret, out⟩, run, same⟩ := Fault.map_eq_ok.mp changed
    obtain ⟨rfl, first⟩ := Prod.mk.inj same
    obtain ⟨ret, out₀, ended, -, kept⟩ := whole fun _ => 0
    cases run.symm.trans ended
    have kept := congrFun (kept rfl) 0
    rw [show out 0 = 49 / 2 from first] at kept
    exact absurd kept (by decide +kernel)
  · intro whole
    obtain ⟨ret, out, ended, -⟩ := whole fun _ => 0
    have stops : (getParameters atof (some unquotedAnswer) (fun _ => 0)).map Prod.fst =
        .error .overflow := by decide +kernel
    rw [ended] at stops
    cases stops

end PhantomMonitor
