import PhantomMonitor.Agent.GatherMetric

/-!
# The messages of `gatherMetric`

Each message should be a JSON array with one object for each result of its bulk that is not NULL.
The closing bracket takes the place of the last character, so that comes out right exactly when
the bulk has an object whose comma can be overwritten.
-/

namespace PhantomMonitor

open CText

/-- The object made from one hook result. -/
def sampleObject (env : GatherEnv) (json : CText) : CText := staticJson env ++ json ++ ['}']

/-- The objects of a bulk: one for each result that is not NULL. -/
def bulkObjects (env : GatherEnv) (samples : List (Option CText)) : List CText :=
  samples.filterMap (Option.map (sampleObject env))

/-- The JSON array of the given objects. -/
def arrayText (objects : List CText) : CText := '[' :: [','].intercalate objects ++ [']']

/-- `json_array` while the given objects are in it, each with a comma after it. -/
def openArray (objects : List CText) : CText := '[' :: objects.flatMap (· ++ [','])

/-- The length of the bulk that starts with call `k`: at most `n` calls, up to the first
interrupted sleep. -/
def bulkLength (sleepOk : Nat → Bool) : Nat → Nat → Nat
  | 0, _ => 0
  | n + 1, k => if sleepOk k then bulkLength sleepOk n (k + 1) + 1 else 1

/-- The first call of the `b`-th bulk. -/
def bulkStart (env : GatherEnv) : Nat → Nat
  | 0 => 0
  | b + 1 => bulkStart env b + bulkLength env.sleepOk env.bulkSize (bulkStart env b)

/-- The hook results of the `b`-th bulk. -/
def bulkSamples (env : GatherEnv) (b : Nat) : List (Option CText) :=
  (List.range' (bulkStart env b)
    (bulkLength env.sleepOk env.bulkSize (bulkStart env b))).map env.hook

theorem flatMap_comma {objects : List CText} (hne : objects ≠ []) :
    objects.flatMap (· ++ [',']) = [','].intercalate objects ++ [','] := by
  induction objects with
  | nil => exact absurd rfl hne
  | cons object objects ih =>
      by_cases last : objects = []
      · subst last
        simp
      · rw [List.flatMap_cons, ih last, List.intercalate_cons_of_ne_nil last]
        simp

theorem closeArray_openArray {objects : List CText} (hne : objects ≠ []) :
    closeArray (openArray objects) = arrayText objects := by
  rw [closeArray, openArray, flatMap_comma hne, ← List.cons_append, List.dropLast_concat]
  rfl

/-- Without an object the bracket that opens the array is overwritten. -/
theorem closeArray_openArray_nil : closeArray (openArray []) = [']'] := rfl

/-- So the text of a bulk is the array of its objects exactly when there is an object. -/
theorem closeArray_eq_iff (objects : List CText) :
    closeArray (openArray objects) = arrayText objects ↔ objects ≠ [] := by
  constructor
  · rintro closed rfl
    rw [closeArray_openArray_nil] at closed
    simp [arrayText] at closed
  · exact closeArray_openArray

theorem bulkObjects_append (env : GatherEnv) (samples more : List (Option CText)) :
    bulkObjects env (samples ++ more) = bulkObjects env samples ++ bulkObjects env more := by
  exact List.filterMap_append

theorem openArray_append (objects more : List CText) :
    openArray (objects ++ more) = openArray objects ++ more.flatMap (· ++ [',']) := by
  simp [openArray]

theorem openArray_length_le (objects more : List CText) :
    (openArray objects).length ≤ (openArray (objects ++ more)).length := by
  rw [openArray_append, List.length_append]
  exact Nat.le_add_right _ _

/-! ## One bulk -/

/-- The strings of the calls `k` up to `k + n` fit `msg`. -/
def MessagesFit (env : GatherEnv) (k n : Nat) : Prop :=
  ∀ i, k ≤ i → i < k + n → ∀ json, env.hook i = some json →
    (staticJson env ++ json ++ ['}', ',']).length < jsonLen

/-- A call of the hook whose strings fit adds its object, if there is one. -/
theorem gatherSample_ok {env : GatherEnv} {g : Gather} (message : MessagesFit env g.calls 1)
    {objects : List CText} (harray : g.jsonArray = openArray objects)
    (room : (openArray (objects ++ bulkObjects env [env.hook g.calls])).length <
      jsonLen * env.bulkSize) :
    gatherSample env g = .ok { g with
      calls := g.calls + 1
      jsonArray := openArray (objects ++ bulkObjects env [env.hook g.calls]) } := by
  unfold gatherSample
  cases hhook : env.hook g.calls with
  | none => simp [bulkObjects, ← harray]
  | some json =>
      have text : g.jsonArray ++ (staticJson env ++ json ++ ['}', ',']) =
          openArray (objects ++ bulkObjects env [some json]) := by
        rw [openArray_append, harray]
        simp [bulkObjects, sampleObject]
      rw [hhook] at room
      have fits := message g.calls (Nat.le_refl _) (Nat.lt_succ_self _) json hhook
      simp only
      rw [store_bind, if_pos fits, store_bind, text, if_pos room]
      rfl

theorem gatherSamples_ok {env : GatherEnv} {n : Nat} {g : Gather}
    (message : MessagesFit env g.calls (bulkLength env.sleepOk n g.calls))
    (objects : List CText) (harray : g.jsonArray = openArray objects)
    (room : (openArray (objects ++ bulkObjects env
      ((List.range' g.calls (bulkLength env.sleepOk n g.calls)).map env.hook))).length <
        jsonLen * env.bulkSize) :
    gatherSamples env n g = .ok { g with
      calls := g.calls + bulkLength env.sleepOk n g.calls
      jsonArray := openArray (objects ++ bulkObjects env
        ((List.range' g.calls (bulkLength env.sleepOk n g.calls)).map env.hook)) } := by
  induction n generalizing g objects with
  | zero =>
      simp [gatherSamples, bulkLength, bulkObjects, ← harray]
  | succ n ih =>
      have split : ∀ m, bulkObjects env ((List.range' g.calls (m + 1)).map env.hook) =
          bulkObjects env [env.hook g.calls] ++
            bulkObjects env ((List.range' (g.calls + 1) m).map env.hook) := by
        intro m
        rw [List.range'_succ, List.map_cons, ← List.singleton_append, bulkObjects_append]
      by_cases slept : env.sleepOk g.calls = true
      · rw [bulkLength, if_pos slept] at message room ⊢
        rw [split, ← List.append_assoc] at room ⊢
        have first := gatherSample_ok (g := g) (fun i low high => message i low (by omega)) harray
          (Nat.lt_of_le_of_lt (openArray_length_le _ _) room)
        have rest := @ih { g with
            calls := g.calls + 1
            jsonArray := openArray (objects ++ bulkObjects env [env.hook g.calls]) }
          (fun i low high => message i (by simp only at low; omega) (by simp only at high; omega))
          (objects ++ bulkObjects env [env.hook g.calls]) rfl room
        rw [gatherSamples, first]
        simp only [bind, Except.bind, if_pos slept, rest, Except.ok.injEq, Gather.mk.injEq,
          and_true]
        omega
      · rw [bulkLength, if_neg slept] at message room ⊢
        have one : (List.range' g.calls 1).map env.hook = [env.hook g.calls] := rfl
        rw [one] at room ⊢
        rw [gatherSamples, gatherSample_ok message harray room]
        simp only [bind, Except.bind, if_neg slept]
        rfl

/-- One bulk: it covers the next calls, and its text is made from their objects. -/
theorem gatherBulk_ok {env : GatherEnv} {g : Gather} (harray : g.jsonArray = ['['])
    (message : MessagesFit env g.calls (bulkLength env.sleepOk env.bulkSize g.calls))
    (room : (openArray (bulkObjects env
      ((List.range' g.calls (bulkLength env.sleepOk env.bulkSize g.calls)).map env.hook))).length <
        jsonLen * env.bulkSize) :
    gatherBulk env g = .ok ⟨g.calls + bulkLength env.sleepOk env.bulkSize g.calls, ['['],
      g.sent ++ [⟨(List.range' g.calls (bulkLength env.sleepOk env.bulkSize g.calls)).map env.hook,
        closeArray (openArray (bulkObjects env ((List.range' g.calls
          (bulkLength env.sleepOk env.bulkSize g.calls)).map env.hook)))⟩]⟩ := by
  have samples := gatherSamples_ok message [] harray room
  rw [gatherBulk, samples]
  simp only [bind, Except.bind, List.nil_append, Nat.add_sub_cancel_left]
  rfl

/-! ## A whole run -/

/-- The strings of the first `m` bulks fit the buffers. -/
structure BulksFit (env : GatherEnv) (m : Nat) : Prop where
  static : (staticJson env).length < staticJsonSize
  message : MessagesFit env 0 (bulkStart env m)
  array : ∀ b < m, (openArray (bulkObjects env (bulkSamples env b))).length <
    jsonLen * env.bulkSize

/-- The message of the `b`-th bulk. -/
def sentBulk (env : GatherEnv) (b : Nat) : Bulk :=
  ⟨bulkSamples env b, closeArray (openArray (bulkObjects env (bulkSamples env b)))⟩

theorem bulkStart_le (env : GatherEnv) {b b' : Nat} (h : b ≤ b') :
    bulkStart env b ≤ bulkStart env b' := by
  induction h with
  | refl => exact Nat.le_refl _
  | step _ ih => exact Nat.le_trans ih (Nat.le_add_right _ _)

theorem gatherBulks_ok {env : GatherEnv} {m b : Nat} (h : BulksFit env (b + m)) (sent : List Bulk) :
    gatherBulks env m ⟨bulkStart env b, ['['], sent⟩ =
      .ok ⟨bulkStart env (b + m), ['['], sent ++ (List.range' b m).map (sentBulk env)⟩ := by
  induction m generalizing b sent with
  | zero => simp [gatherBulks]
  | succ m ih =>
      have inside : bulkStart env (b + 1) ≤ bulkStart env (b + (m + 1)) :=
        bulkStart_le env (by omega)
      have message : MessagesFit env (bulkStart env b)
          (bulkLength env.sleepOk env.bulkSize (bulkStart env b)) := by
        intro i low high
        rw [bulkStart] at inside
        exact h.message i (Nat.zero_le i) (by omega)
      have first := gatherBulk_ok (g := ⟨bulkStart env b, ['['], sent⟩) rfl message
        (h.array b (by omega))
      have next : b + (m + 1) = b + 1 + m := by omega
      rw [next] at h ⊢
      rw [gatherBulks, first, List.range'_succ, List.map_cons]
      have rest := ih h (sent ++ [sentBulk env b])
      rw [List.append_assoc] at rest
      exact rest

theorem gatherMetric_ok {env : GatherEnv} {m : Nat} (h : BulksFit env m) :
    gatherMetric env m =
      .ok ⟨bulkStart env m, ['['], (List.range m).map (sentBulk env)⟩ := by
  have bulks := gatherBulks_ok (b := 0) (m := m) (by rwa [Nat.zero_add]) []
  rw [Nat.zero_add, List.nil_append, ← List.range_eq_range'] at bulks
  rw [gatherMetric, store_bind, if_pos h.static]
  exact bulks

/-- The bulks share out the calls of the hook, in order. -/
theorem flatMap_bulkSamples (env : GatherEnv) (m : Nat) :
    (List.range m).flatMap (bulkSamples env) = (List.range (bulkStart env m)).map env.hook := by
  induction m with
  | zero => rfl
  | succ m ih =>
      rw [List.range_succ, List.flatMap_append, ih, bulkStart, List.flatMap_singleton, bulkSamples,
        ← List.map_append, List.range_eq_range', List.range_eq_range']
      congr 1
      have joined := List.range'_append_1 (s := 0) (m := bulkStart env m)
        (n := bulkLength env.sleepOk env.bulkSize (bulkStart env m))
      rwa [Nat.zero_add] at joined

/-- What the messages of a run should be: each the array of its bulk's objects, with the hook's
results shared out among the bulks in order. -/
structure Lossless (env : GatherEnv) (g : Gather) : Prop where
  valid : ∀ bulk ∈ g.sent, bulk.text = arrayText (bulkObjects env bulk.samples)
  all : g.sent.flatMap Bulk.samples = (List.range g.calls).map env.hook

theorem bulkObjects_ne_nil {env : GatherEnv} {samples : List (Option CText)} :
    bulkObjects env samples ≠ [] ↔ ∃ sample ∈ samples, sample ≠ none := by
  simp only [bulkObjects, ne_eq, List.filterMap_eq_nil_iff, Option.map_eq_none_iff, not_forall,
    exists_prop]

/-- The messages of a run are valid and lossless exactly when no bulk has NULL results only. -/
theorem gatherMetric_lossless_iff {env : GatherEnv} {m : Nat} (h : BulksFit env m) :
    ∃ g, gatherMetric env m = .ok g ∧
      (Lossless env g ↔ ∀ b < m, ∃ sample ∈ bulkSamples env b, sample ≠ none) := by
  refine ⟨_, gatherMetric_ok h, ?_⟩
  have shared : ((List.range m).map (sentBulk env)).flatMap Bulk.samples =
      (List.range (bulkStart env m)).map env.hook := by
    rw [List.flatMap_map]
    exact flatMap_bulkSamples env m
  constructor
  · intro lossless b hb
    have valid := lossless.valid (sentBulk env b)
      (List.mem_map_of_mem (List.mem_range.mpr hb))
    exact bulkObjects_ne_nil.mp ((closeArray_eq_iff _).mp valid)
  · intro some
    refine ⟨?_, shared⟩
    intro bulk member
    obtain ⟨b, hb, rfl⟩ := List.mem_map.mp member
    exact (closeArray_eq_iff _).mpr (bulkObjects_ne_nil.mpr (some b (List.mem_range.mp hb)))

/-- A plugin whose first two calls give a result and the others NULL, in bulks of two. -/
def earlyEnv : GatherEnv where
  applicationId := "app".toList
  experimentId := "AVq1".toList
  taskId := "task".toList
  platformId := "node".toList
  bulkSize := 2
  hook k := if k < 2 then some "\"x\":1".toList else none
  sleepOk _ := true

theorem gatherMetric_lossless_iff_early :
    ∃ g, gatherMetric earlyEnv 1 = .ok g ∧ Lossless earlyEnv g := by
  have fits : BulksFit earlyEnv 1 := by
    refine ⟨by decide +kernel, ?_, by decide +kernel⟩
    intro i _ high json result
    rw [show bulkStart earlyEnv 1 = 2 from rfl] at high
    rw [show earlyEnv.hook i = some "\"x\":1".toList from if_pos (by omega)] at result
    cases result
    decide +kernel
  obtain ⟨g, hrun, lossless⟩ := gatherMetric_lossless_iff fits
  exact ⟨g, hrun, lossless.mpr (by decide +kernel)⟩

/-- In its second bulk the plugin gives no result, and what is posted is a lone bracket. -/
theorem gatherMetric_lone_bracket :
    ¬ ∀ (env : GatherEnv) (m : Nat) (g : Gather), 1 ≤ env.bulkSize →
      gatherMetric env m = .ok g → Lossless env g := by
  intro claim
  have last : (gatherMetric earlyEnv 2).map (fun g => g.sent.getLast?.map Bulk.text) =
      .ok (some [']']) := by
    decide +kernel
  obtain ⟨g, hrun, last⟩ := Fault.map_eq_ok.mp last
  obtain ⟨bulk, hlast, text⟩ := Option.map_eq_some_iff.mp last
  have valid := (claim earlyEnv 2 g (by decide) hrun).valid bulk (List.mem_of_getLast? hlast)
  rw [text] at valid
  simp [arrayText] at valid

end PhantomMonitor
