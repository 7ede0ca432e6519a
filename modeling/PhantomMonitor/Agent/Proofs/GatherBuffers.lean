import PhantomMonitor.Agent.Proofs.Bulks

/-!
# The buffers of `gatherMetric`

`static_json` holds four identifiers, `msg` adds a hook result, and `json_array` collects up to
`bulk_size` of these texts behind its opening bracket. None of the sizes follows from the others, so
a run stays inside them exactly when the texts that it meets are short enough.
-/

namespace PhantomMonitor

open CText

/-- The characters of the four identifiers. -/
def identifierLength (env : GatherEnv) : Nat :=
  env.applicationId.length + env.experimentId.length + env.taskId.length + env.platformId.length

theorem staticJson_length (env : GatherEnv) :
    (staticJson env).length = identifierLength env + 57 := by
  have workflow : "\x7b\"WorkflowID\":\"".toList.length = 15 := by decide +kernel
  have experiment : "\",\"ExperimentID\":\"".toList.length = 18 := by decide +kernel
  have task : "\",\"TaskID\":\"".toList.length = 12 := by decide +kernel
  have host : "\",\"host\":\"".toList.length = 10 := by decide +kernel
  have last : "\",".toList.length = 2 := by decide +kernel
  unfold staticJson identifierLength
  simp only [List.length_append, workflow, experiment, task, host, last]
  omega

/-- The longest hook result that fits beside the identifiers. In a bulk of one, the bracket takes a
byte of the same 1024. -/
def resultRoom (env : GatherEnv) : Int :=
  964 - identifierLength env - if env.bulkSize = 1 then 1 else 0

/-- The results of the first `m` bulks, if there are any, fit beside the identifiers. -/
structure TextsFit (env : GatherEnv) (m : Nat) : Prop where
  identifiers : identifierLength env ≤ 454
  results : ∀ k < bulkStart env m, ∀ json, env.hook k = some json →
    (json.length : Int) ≤ resultRoom env

/-! ## What a run that succeeds has met -/

/-- The result of a call fits `msg`, and `json_array` behind a bracket. -/
def SampleFits (env : GatherEnv) (k : Nat) : Prop :=
  ∀ json, env.hook k = some json →
    (staticJson env ++ json ++ ['}', ',']).length < jsonLen ∧
      (staticJson env ++ json ++ ['}', ',']).length + 1 < jsonLen * env.bulkSize

theorem sampleFits_iff {env : GatherEnv} (nonempty : 1 ≤ env.bulkSize) (k : Nat) :
    SampleFits env k ↔
      ∀ json, env.hook k = some json → (json.length : Int) ≤ resultRoom env := by
  refine forall_congr' fun json => imp_congr_right fun _ => ?_
  have length : (staticJson env ++ json ++ ['}', ',']).length =
      identifierLength env + json.length + 59 := by
    simp only [List.length_append, List.length_cons, List.length_nil, staticJson_length]
    omega
  rw [length, resultRoom, jsonLen]
  split <;> omega

/-- A call whose strings fit: it counts, and the array does not lose its bracket. -/
theorem gatherSample_fits {env : GatherEnv} {g g' : Gather} (open' : g.jsonArray ≠ [])
    (h : gatherSample env g = .ok g') :
    SampleFits env g.calls ∧ g'.calls = g.calls + 1 ∧ g'.jsonArray ≠ [] := by
  unfold gatherSample at h
  unfold SampleFits
  cases hhook : env.hook g.calls with
  | none =>
      rw [hhook] at h
      cases h
      exact ⟨nofun, rfl, open'⟩
  | some json =>
      rw [hhook] at h
      obtain ⟨msg, hmsg, h⟩ := Fault.bind_eq_ok.mp h
      obtain ⟨jsonArray, harray, h⟩ := Fault.bind_eq_ok.mp h
      cases h
      obtain ⟨message, rfl⟩ := store_eq_ok_iff.mp hmsg
      obtain ⟨array, rfl⟩ := store_eq_ok_iff.mp harray
      have bracket : 0 < g.jsonArray.length := List.length_pos_iff.mpr open'
      refine ⟨?_, rfl, by simp [open']⟩
      intro other result
      cases result
      rw [List.length_append] at array
      exact ⟨message, by omega⟩

theorem gatherSamples_fits {env : GatherEnv} {n : Nat} {g g' : Gather} (open' : g.jsonArray ≠ [])
    (h : gatherSamples env n g = .ok g') :
    (∀ k, g.calls ≤ k → k < g.calls + bulkLength env.sleepOk n g.calls → SampleFits env k) ∧
      g'.calls = g.calls + bulkLength env.sleepOk n g.calls := by
  induction n generalizing g with
  | zero =>
      cases h
      exact ⟨fun k low high => absurd high (by rw [bulkLength]; omega), rfl⟩
  | succ n ih =>
      rw [gatherSamples] at h
      obtain ⟨g₁, first, rest⟩ := Fault.bind_eq_ok.mp h
      obtain ⟨fits, calls, open₁⟩ := gatherSample_fits open' first
      rw [bulkLength]
      by_cases slept : env.sleepOk g.calls = true
      · rw [if_pos slept] at rest ⊢
        obtain ⟨later, total⟩ := ih open₁ rest
        rw [calls] at later total
        refine ⟨fun k low high => ?_, by omega⟩
        rcases Nat.eq_or_lt_of_le low with rfl | behind
        · exact fits
        · exact later k behind (by omega)
      · rw [if_neg slept] at rest ⊢
        cases rest
        refine ⟨fun k low high => ?_, calls⟩
        obtain rfl : k = g.calls := by omega
        exact fits

theorem gatherBulk_fits {env : GatherEnv} {g g' : Gather} (open' : g.jsonArray ≠ [])
    (h : gatherBulk env g = .ok g') :
    (∀ k, g.calls ≤ k → k < g.calls + bulkLength env.sleepOk env.bulkSize g.calls →
        SampleFits env k) ∧
      g'.calls = g.calls + bulkLength env.sleepOk env.bulkSize g.calls ∧ g'.jsonArray ≠ [] := by
  obtain ⟨g₁, samples, rest⟩ := Fault.bind_eq_ok.mp h
  cases rest
  obtain ⟨fits, calls⟩ := gatherSamples_fits open' samples
  exact ⟨fits, calls, List.cons_ne_nil _ _⟩

theorem gatherBulks_fits {env : GatherEnv} {m b : Nat} {g g' : Gather}
    (open' : g.jsonArray ≠ []) (start : g.calls = bulkStart env b)
    (h : gatherBulks env m g = .ok g') :
    ∀ k, bulkStart env b ≤ k → k < bulkStart env (b + m) → SampleFits env k := by
  induction m generalizing b g with
  | zero => exact fun k low high => absurd high (Nat.not_lt.mpr low)
  | succ m ih =>
      obtain ⟨g₁, first, rest⟩ := Fault.bind_eq_ok.mp h
      obtain ⟨fits, calls, open₁⟩ := gatherBulk_fits open' first
      have next : g₁.calls = bulkStart env (b + 1) := by rw [calls, start, bulkStart]
      have later := ih open₁ next rest
      rw [Nat.add_right_comm] at later
      intro k low high
      by_cases inside : k < bulkStart env (b + 1)
      · rw [bulkStart] at inside
        rw [start] at fits
        exact fits k low inside
      · exact later k (Nat.le_of_not_lt inside) high

/-! ## What short texts lead to -/

theorem bulkLength_le (sleepOk : Nat → Bool) (n k : Nat) : bulkLength sleepOk n k ≤ n := by
  induction n generalizing k with
  | zero => exact Nat.le_refl _
  | succ n ih =>
      have rest := ih (k + 1)
      rw [bulkLength]
      split <;> omega

/-- An array of objects that are shorter than `w` each. -/
theorem openArray_length_of_le {objects : List CText} {w : Nat}
    (short : ∀ object ∈ objects, object.length + 1 ≤ w) :
    (openArray objects).length ≤ 1 + objects.length * w := by
  induction objects with
  | nil => simp [openArray]
  | cons object objects ih =>
      have first := short object List.mem_cons_self
      have rest := ih fun other inside => short other (List.mem_cons_of_mem _ inside)
      simp only [openArray, List.flatMap_cons, List.length_cons, List.length_append,
        List.length_nil, Nat.succ_mul] at rest ⊢
      omega

/-- Short results do not fill the array of a bulk, since a bulk has at most `bulk_size` of them. -/
theorem bulkSamples_fit {env : GatherEnv} (nonempty : 1 ≤ env.bulkSize) {b : Nat}
    (fits : ∀ k, bulkStart env b ≤ k → k < bulkStart env (b + 1) → SampleFits env k) :
    (openArray (bulkObjects env (bulkSamples env b))).length < jsonLen * env.bulkSize := by
  have width : ∃ w, 1 + env.bulkSize * w < jsonLen * env.bulkSize ∧
      ∀ n, n < jsonLen → n + 1 < jsonLen * env.bulkSize → n ≤ w := by
    by_cases one : env.bulkSize = 1
    · exact ⟨1022, by rw [one]; decide, fun n _ array => by rw [one, jsonLen] at array; omega⟩
    · exact ⟨1023, by rw [jsonLen]; omega, fun n message _ => Nat.le_of_lt_succ message⟩
  obtain ⟨w, room, narrow⟩ := width
  have short : ∀ object ∈ bulkObjects env (bulkSamples env b), object.length + 1 ≤ w := by
    intro object member
    obtain ⟨sample, inside, made⟩ := List.mem_filterMap.mp member
    obtain ⟨json, rfl, rfl⟩ := Option.map_eq_some_iff.mp made
    obtain ⟨k, place, result⟩ := List.mem_map.mp inside
    obtain ⟨low, high⟩ := List.mem_range'_1.mp place
    obtain ⟨message, array⟩ := fits k low high json result
    have text : (sampleObject env json).length + 1 =
        (staticJson env ++ json ++ ['}', ',']).length := by
      simp [sampleObject, Nat.add_assoc]
    rw [text]
    exact narrow _ message array
  have few : (bulkObjects env (bulkSamples env b)).length ≤ env.bulkSize := by
    refine (List.length_filterMap_le _ _).trans ?_
    rw [bulkSamples, List.length_map, List.length_range']
    exact bulkLength_le _ _ _
  calc (openArray (bulkObjects env (bulkSamples env b))).length
      ≤ 1 + (bulkObjects env (bulkSamples env b)).length * w := openArray_length_of_le short
    _ ≤ 1 + env.bulkSize * w := Nat.add_le_add_left (Nat.mul_le_mul_right w few) 1
    _ < jsonLen * env.bulkSize := room

theorem staticJson_fits_iff (env : GatherEnv) :
    (staticJson env).length < staticJsonSize ↔ identifierLength env ≤ 454 := by
  rw [staticJson_length, staticJsonSize]
  omega

/-- Texts that are short enough keep a run inside its buffers. -/
theorem TextsFit.runs {env : GatherEnv} (nonempty : 1 ≤ env.bulkSize) {m : Nat}
    (texts : TextsFit env m) : ∃ g, gatherMetric env m = .ok g := by
  have fits : ∀ k < bulkStart env m, SampleFits env k := fun k inside =>
    (sampleFits_iff nonempty k).mpr (texts.results k inside)
  refine ⟨_, gatherMetric_ok ⟨(staticJson_fits_iff env).mpr texts.identifiers, ?_, ?_⟩⟩
  · intro k _ inside json result
    rw [Nat.zero_add] at inside
    exact (fits k inside json result).1
  · intro b hb
    refine bulkSamples_fit nonempty fun k _ inside => fits k ?_
    exact Nat.lt_of_lt_of_le inside (bulkStart_le env hb)

/-- A run inside its buffers has posted the bulks of its calls. -/
theorem gatherMetric_sent {env : GatherEnv} (positive : 1 ≤ env.bulkSize) {m : Nat} {g : Gather}
    (run : gatherMetric env m = .ok g) :
    g.sent = (List.range m).map (sentBulk env) ∧ g.calls = bulkStart env m := by
  obtain ⟨text, hstatic, bulks⟩ := Fault.bind_eq_ok.mp run
  have fits := gatherBulks_fits (b := 0) (List.cons_ne_nil _ _) rfl bulks
  rw [Nat.zero_add] at fits
  have inside : BulksFit env m := by
    refine ⟨(store_eq_ok_iff.mp hstatic).1, ?_, ?_⟩
    · intro k low high json result
      rw [Nat.zero_add] at high
      exact (fits k low high json result).1
    · intro b hb
      refine bulkSamples_fit positive fun k _ high => fits k (Nat.zero_le k) ?_
      exact Nat.lt_of_lt_of_le high (bulkStart_le env hb)
  rw [gatherMetric_ok inside] at run
  cases run
  exact ⟨rfl, rfl⟩

/-- A run stays inside its buffers exactly when the identifiers leave room for the literals of
`static_json`, and each hook result fits beside them. -/
theorem gatherMetric_inside_iff {env : GatherEnv} (nonempty : 1 ≤ env.bulkSize) (m : Nat) :
    (∃ g, gatherMetric env m = .ok g) ↔ TextsFit env m := by
  refine ⟨?_, TextsFit.runs nonempty⟩
  rintro ⟨g, run⟩
  obtain ⟨text, hstatic, bulks⟩ := Fault.bind_eq_ok.mp run
  have fits := gatherBulks_fits (b := 0) (List.cons_ne_nil _ _) rfl bulks
  rw [Nat.zero_add] at fits
  refine ⟨(staticJson_fits_iff env).mp (store_eq_ok_iff.mp hstatic).1, fun k inside => ?_⟩
  exact (sampleFits_iff nonempty k).mp (fits k (Nat.zero_le k) inside)

theorem earlyEnv_fits (m : Nat) : TextsFit earlyEnv m := by
  refine ⟨by decide, ?_⟩
  intro k _ json result
  obtain rfl : json = "\"x\":1".toList := by
    unfold earlyEnv at result
    grind
  decide

theorem gatherMetric_inside_iff_early : ∃ g, gatherMetric earlyEnv 3 = .ok g :=
  (gatherMetric_inside_iff (by decide) 3).mpr (earlyEnv_fits 3)

/-- Identifiers of 127 characters each, which fit their own buffers. -/
def longEnv : GatherEnv where
  applicationId := List.replicate 127 'a'
  experimentId := List.replicate 127 'e'
  taskId := List.replicate 127 't'
  platformId := List.replicate 127 'p'
  bulkSize := 1
  hook _ := none
  sleepOk _ := true

/-- They do not fit `static_json` together. -/
theorem gatherMetric_long_identifiers :
    ¬ ∀ (env : GatherEnv) (m : Nat), 1 ≤ env.bulkSize →
      env.applicationId.length ≤ 127 → env.experimentId.length ≤ 127 →
      env.taskId.length ≤ 127 → env.platformId.length ≤ 127 →
      (∀ k json, env.hook k = some json → json.length ≤ 1023) →
      ∃ g, gatherMetric env m = .ok g := by
  intro claim
  have length : ∀ c : Char, (List.replicate 127 c).length ≤ 127 := fun _ =>
    List.length_replicate.le
  obtain ⟨g, run⟩ := claim longEnv 0 (by decide) (length 'a') (length 'e') (length 't') (length 'p')
    (fun _ _ => nofun)
  obtain ⟨text, hstatic, -⟩ := Fault.bind_eq_ok.mp run
  have short := (store_eq_ok_iff.mp hstatic).1
  have long : identifierLength longEnv = 508 := by simp [identifierLength, longEnv]
  rw [staticJson_length, long] at short
  exact absurd short (by decide)

end PhantomMonitor
