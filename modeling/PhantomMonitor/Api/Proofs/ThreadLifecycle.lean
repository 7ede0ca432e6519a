import PhantomMonitor.Api.Proofs.PreparedSession

/-!
# The monitor threads

`mf_end` joins the threads that the first `num_threads` entries of the table name. These are the
threads that run as long as `mf_start` is called without threads, creates all of its threads or
none, and `mf_end` is not called a second time.
-/

namespace PhantomMonitor

open CText

/-! ## The variables of the threads -/

/-- A session with the same threads. -/
structure Session.SameThreads (s s' : Session) : Prop where
  numThreads : s'.numThreads = s.numThreads
  threads : s'.threads = s.threads
  created : s'.created = s.created
  live : s'.live = s.live
  joins : s'.joins = s.joins

namespace Session.SameThreads

theorem refl (s : Session) : s.SameThreads s := ⟨rfl, rfl, rfl, rfl, rfl⟩

theorem trans {s t u : Session} (first : s.SameThreads t) (second : t.SameThreads u) :
    s.SameThreads u where
  numThreads := second.numThreads.trans first.numThreads
  threads := second.threads.trans first.threads
  created := second.created.trans first.created
  live := second.live.trans first.live
  joins := second.joins.trans first.joins

end Session.SameThreads

theorem apiPrepare_threads {proc : Process} {s s' : Session} (run : apiPrepare proc s = .ok s') :
    s.SameThreads s' := by
  unfold apiPrepare at run
  split at run
  · cases run
  · obtain ⟨name, -, run⟩ := Fault.bind_eq_ok.mp run
    split at run
    obtain ⟨path, -, run⟩ := Fault.bind_eq_ok.mp run
    cases run
    exact ⟨rfl, rfl, rfl, rfl, rfl⟩

theorem storeRecord_threads {proc : Process} {record : CText} {s s' : Session} {ret : Int}
    (run : storeRecord proc record s = .ok (ret, s')) : s.SameThreads s' := by
  obtain ⟨ready, prepared, run⟩ := Fault.bind_eq_ok.mp run
  have same : s.SameThreads ready := by
    unfold prepareOnce at prepared
    split at prepared
    · exact apiPrepare_threads prepared
    · cases prepared
      exact .refl s
  obtain ⟨name, -, run⟩ := Fault.bind_eq_ok.mp run
  split at run
  · cases run
    exact same
  · cases run
    exact same.trans ⟨rfl, rfl, rfl, rfl, rfl⟩

theorem mfSendSession_threads {c : SendCall} {s s' : Session} {out : SendResult}
    (run : mfSendSession c s = .ok (out, s')) : s.SameThreads s' := by
  obtain ⟨out', -, run⟩ := Fault.bind_eq_ok.mp run
  cases run
  split_ifs <;> exact ⟨rfl, rfl, rfl, rfl, rfl⟩

/-- `get_config_parameters` returns 1. -/
def StartEnv.Configured (env : StartEnv) : Prop :=
  env.query.curlInit = true ∧ env.query.perform = true ∧ 0 < env.parsed

theorem queryJson_ret {url : CText} (hurl : url ≠ []) (t : Transfer) (stream : CText)
    (r : Resources) :
    (queryJson t url stream r).1 =
      if t.curlInit = true ∧ t.perform = true then success else failed := by
  have set : ¬ checkURL url = failed := by simp [checkURL, hurl, success, failed]
  unfold queryJson
  rw [if_neg set]
  cases hcurl : t.curlInit <;> cases hperform : t.perform <;>
    simp [prepareQuery, preparePublish]

theorem getConfigParameters_threads {env : StartEnv} {s s' : Session} {config : Int}
    (run : getConfigParameters env s = .ok (config, s')) :
    s.SameThreads s' ∧ (0 < config ↔ env.Configured) := by
  obtain ⟨url, hurl, run⟩ := Fault.bind_eq_ok.mp run
  have url_ne : url ≠ [] := by
    rw [store_eq_ok hurl]
    simp
  have ret := queryJson_ret url_ne env.query (List.replicate textSize nul) s.res
  dsimp only at run
  rw [ret] at run
  by_cases answered : env.query.curlInit = true ∧ env.query.perform = true
  · rw [if_pos answered, if_neg (by decide)] at run
    cases run
    exact ⟨⟨rfl, rfl, rfl, rfl, rfl⟩, fun h => ⟨answered.1, answered.2, h⟩, fun h => h.2.2⟩
  · rw [if_neg answered, if_pos (by decide)] at run
    cases run
    refine ⟨⟨rfl, rfl, rfl, rfl, rfl⟩, fun h => absurd h (by decide), ?_⟩
    intro configured
    exact absurd ⟨configured.1, configured.2.1⟩ answered

/-! ## Creating and joining -/

/-- No thread runs, or the table names those that do. -/
structure Session.Tracked (s : Session) : Prop where
  table : s.live = [] ∨ s.live = (List.range s.numThreads).map s.threads
  counted : ∀ thread ∈ s.live, thread ≤ s.created

theorem Session.Tracked.of_same {s s' : Session} (h : s.Tracked) (same : s.SameThreads s') :
    s'.Tracked where
  table := by
    rw [same.live, same.numThreads, same.threads]
    exact h.table
  counted := by
    rw [same.live, same.created]
    exact h.counted

/-- A loop in which no `pthread_create` fails. -/
theorem createThreads_created {creates : Nat → ThreadOutcome} {ts : List Nat}
    (all : ∀ t ∈ ts, creates t = .created) (distinct : ts.Nodup) (s : Session) :
    ∃ s', createThreads creates ts s = (true, s') ∧ s'.numThreads = s.numThreads ∧
      s'.created = s.created + ts.length ∧
      s'.live = s.live ++ ts.map s'.threads ∧
      (∀ thread ∈ ts.map s'.threads, s.created < thread ∧ thread ≤ s'.created) ∧
      ∀ t, t ∉ ts → s'.threads t = s.threads t := by
  induction ts generalizing s with
  | nil => exact ⟨s, rfl, rfl, rfl, by simp, by simp, fun _ _ => rfl⟩
  | cons t ts ih =>
      obtain ⟨fresh, distinct⟩ := List.nodup_cons.mp distinct
      obtain ⟨first, all⟩ := List.forall_mem_cons.mp all
      obtain ⟨s', run, number, created, live, bounds, kept⟩ :=
        ih all distinct (s.createThread t)
      have named : s'.threads t = s.created + 1 := by
        rw [kept t fresh]
        exact Function.update_self _ _ _
      have count : s'.created = s.created + 1 + ts.length := created
      refine ⟨s', by rw [createThreads, first]; exact run, number, ?_, ?_, ?_, ?_⟩
      · rw [count, List.length_cons]
        omega
      · rw [live, List.map_cons, named]
        exact List.append_assoc _ _ _
      · rw [List.map_cons, named]
        refine List.forall_mem_cons.mpr ⟨⟨by omega, by omega⟩, ?_⟩
        intro thread inside
        obtain ⟨above, below⟩ := bounds thread inside
        exact ⟨Nat.lt_of_succ_lt above, below⟩
      · intro other outside
        rw [List.mem_cons, not_or] at outside
        rw [kept other outside.2]
        exact Function.update_of_ne outside.1 _ _

/-- A loop over the threads of the table that are to be joined. -/
theorem foldl_join {ts : List Nat} {s : Session} (running : s.live = ts.map s.threads) :
    let s' := ts.foldl (fun s t => s.join t) s
    s'.live = [] ∧ s'.joins = s.joins ++ List.replicate ts.length true := by
  induction ts generalizing s with
  | nil => exact ⟨running, by simp⟩
  | cons t ts ih =>
      rw [List.map_cons] at running
      have rest : (s.join t).live = ts.map (s.join t).threads := by
        simp [Session.join, running]
      have joined : (s.join t).joins = s.joins ++ [true] := by
        simp [Session.join, running]
      obtain ⟨none, joins⟩ := ih rest
      refine ⟨none, ?_⟩
      rw [List.foldl_cons, joins, joined, List.append_assoc, List.length_cons,
        List.replicate_succ]
      rfl

/-! ## Runs -/

/-- What a step owes to the threads: `mf_end` joins threads that run and leaves none, and a call of
`mf_start` that returns NULL leaves none of its own. -/
def ApiStep.ThreadsKept (step : ApiStep) : Prop :=
  match step.call with
  | .start _ => step.result = .path none → ∀ thread ∈ step.after.live, thread ≤ step.before.created
  | .finish => step.after.live = [] ∧
      ∃ n, step.after.joins = step.before.joins ++ List.replicate n true
  | _ => True

/-- The calls that keep the table: `mf_start` gets past the configuration only when no thread runs,
and creates all of its threads or none; `mf_end` finds threads to join, or an empty table. -/
def ApiStep.ThreadSafe (step : ApiStep) : Prop :=
  match step.call with
  | .start env => env.Configured → step.before.live = [] ∧
      ∀ t < env.metrics.numMetrics, env.creates 0 = .created → env.creates t = .created
  | .finish => step.before.numThreads = 0 ∨ step.before.live ≠ []
  | _ => True

theorem mfStart_threads {proc : Process} {env : StartEnv} {s s' : Session} {ret : Option CText}
    (run : mfStart proc env s = .ok (ret, s')) (tracked : s.Tracked)
    (safe : env.Configured → s.live = [] ∧
      ∀ t < env.metrics.numMetrics, env.creates 0 = .created → env.creates t = .created) :
    s'.Tracked ∧ (ret = none → ∀ thread ∈ s'.live, thread ≤ s.created) := by
  obtain ⟨ready, prepared, run⟩ := Fault.bind_eq_ok.mp run
  obtain ⟨⟨config, asked⟩, got, run⟩ := Fault.bind_eq_ok.mp run
  obtain ⟨asked_same, configured⟩ := getConfigParameters_threads got
  have same := (apiPrepare_threads prepared).trans asked_same
  dsimp only at run
  by_cases refused : config ≤ 0
  · rw [if_pos refused] at run
    cases run
    refine ⟨tracked.of_same same, fun _ => ?_⟩
    rw [same.live]
    exact tracked.counted
  · rw [if_neg refused] at run
    obtain ⟨idle, all_or_none⟩ := safe (configured.mp (by omega))
    have asked_idle : asked.live = [] := same.live.trans idle
    by_cases first : env.metrics.numMetrics = 0 ∨ env.creates 0 = .created
    · -- every thread is created, and the table names the new ones
      have all : ∀ t ∈ List.range env.metrics.numMetrics, env.creates t = .created := by
        intro t inside
        have below := List.mem_range.mp inside
        rcases first with none | first
        · omega
        · exact all_or_none t below first
      obtain ⟨begun, created, number, -, live, bounds, -⟩ :=
        createThreads_created all List.nodup_range { asked with
          numThreads := env.metrics.numMetrics
          running := 1
          keepLocalDataFlag := env.metrics.localDataStorage }
      rw [created] at run
      cases run
      have table : begun.live = (List.range begun.numThreads).map begun.threads := by
        rw [live, number, asked_idle]
        rfl
      refine ⟨⟨Or.inr table, ?_⟩, fun none => by cases none⟩
      intro thread inside
      rw [table, number] at inside
      exact (bounds thread inside).2
    · -- the first `pthread_create` fails, and no thread runs
      rw [not_or] at first
      obtain ⟨n, hn⟩ := Nat.exists_eq_succ_of_ne_zero first.1
      rw [hn, List.range_succ_eq_map, createThreads] at run
      cases outcome : env.creates 0 with
      | created => exact absurd outcome first.2
      | refused left =>
          rw [outcome] at run
          cases run
          have none : ∀ thread, thread ∉ asked.live := by simp [asked_idle]
          exact ⟨⟨Or.inl asked_idle, fun thread inside => absurd inside (none thread)⟩,
            fun _ thread inside => absurd inside (none thread)⟩

theorem mfEnd_threads {s : Session} (tracked : s.Tracked)
    (safe : s.numThreads = 0 ∨ s.live ≠ []) :
    (mfEnd s).live = [] ∧ (mfEnd s).joins = s.joins ++ List.replicate s.numThreads true := by
  have table : s.live = (List.range s.numThreads).map s.threads := by
    rcases tracked.table with none | table
    · rcases safe with zero | some
      · rw [none, zero]
        rfl
      · exact absurd none some
    · exact table
  have joined := foldl_join (s := { s with running := 0 }) table
  rw [List.length_range] at joined
  exact joined

theorem apiCall_threads {proc : Process} (call : ApiCall) (s : Session) (result : ApiResult)
    (after : Session) (tracked : s.Tracked) (run : apiCall proc call s = .ok (result, after))
    (safe : ApiStep.ThreadSafe ⟨s, call, result, after⟩) :
    after.Tracked ∧ ApiStep.ThreadsKept ⟨s, call, result, after⟩ := by
  cases call with
  | userMetric timestampMs metricName value =>
      obtain ⟨⟨ret, s'⟩, stored, run⟩ := Fault.bind_eq_ok.mp run
      cases run
      exact ⟨tracked.of_same (storeRecord_threads stored), trivial⟩
  | userMetricWithTimestamp timestamp metricName value =>
      obtain ⟨⟨ret, s'⟩, stored, run⟩ := Fault.bind_eq_ok.mp run
      cases run
      exact ⟨tracked.of_same (storeRecord_threads stored), trivial⟩
  | start env =>
      obtain ⟨⟨ret, s'⟩, started, run⟩ := Fault.bind_eq_ok.mp run
      cases run
      obtain ⟨kept, left⟩ := mfStart_threads started tracked safe
      refine ⟨kept, fun none => left ?_⟩
      cases none
      rfl
  | finish =>
      cases run
      obtain ⟨none, joins⟩ := mfEnd_threads tracked safe
      exact ⟨⟨Or.inl none, by simp [none]⟩, none, _, joins⟩
  | send call =>
      obtain ⟨⟨out, s'⟩, sent, run⟩ := Fault.bind_eq_ok.mp run
      cases run
      exact ⟨tracked.of_same (mfSendSession_threads sent), trivial⟩

theorem Session.fresh_tracked (fs : FileSystem) : (Session.fresh fs).Tracked :=
  ⟨Or.inl rfl, by simp [Session.fresh]⟩

/-- In a run of safe calls every thread is joined once, and none is lost. -/
theorem apiRun_threads {proc : Process} {fs : FileSystem} {calls : List ApiCall}
    {steps : List ApiStep} (run : apiRun proc calls (.fresh fs) = .ok steps)
    (safe : ∀ step ∈ steps, step.ThreadSafe) : ∀ step ∈ steps, step.ThreadsKept :=
  apiRun_forall apiCall_threads (Session.fresh_tracked fs) run safe

instance (env : StartEnv) : Decidable env.Configured := inferInstanceAs (Decidable (_ ∧ _ ∧ _))

instance (step : ApiStep) : Decidable step.ThreadSafe :=
  match step with
  | ⟨_, .start _, _, _⟩ => inferInstanceAs (Decidable (_ → _ ∧ _))
  | ⟨_, .finish, _, _⟩ => inferInstanceAs (Decidable (_ ∨ _))
  | ⟨_, .userMetric _ _ _, _, _⟩ => inferInstanceAs (Decidable True)
  | ⟨_, .userMetricWithTimestamp _ _ _, _, _⟩ => inferInstanceAs (Decidable True)
  | ⟨_, .send _, _, _⟩ => inferInstanceAs (Decidable True)

/-- A call of `mf_start` for two metrics that is configured. -/
def startTwo (creates : Nat → ThreadOutcome) : StartEnv where
  server := "http://localhost".toList
  platformId := "node".toList
  metrics := ⟨2, 1, by decide⟩
  query := ⟨true, ["\"parameters\"".toList], true⟩
  parsed := 1
  creates

/-- Two rounds of `mf_start` and `mf_end`. -/
theorem apiRun_threads_rounds :
    ∃ steps, apiRun apiProcess [.start (startTwo fun _ => .created), .finish,
      .start (startTwo fun _ => .created), .finish] (.fresh apiFiles) = .ok steps ∧
      ∀ step ∈ steps, step.ThreadsKept := by
  have safe : (apiRun apiProcess [.start (startTwo fun _ => .created), .finish,
      .start (startTwo fun _ => .created), .finish] (.fresh apiFiles)).map
        (fun steps => decide (∀ step ∈ steps, step.ThreadSafe)) = .ok true := by
    decide +kernel
  obtain ⟨steps, run, safe⟩ := Fault.map_eq_ok.mp safe
  exact ⟨steps, run, apiRun_threads run (of_decide_eq_true safe)⟩

/-- The second `pthread_create` fails. -/
def startHalf : StartEnv := startTwo fun t => if t = 0 then .created else .refused 0

/-- The call of `mf_start` that creates one thread of two returns NULL, and its thread runs on. -/
theorem mfStart_leaves_thread :
    ¬ ∀ (proc : Process) (fs : FileSystem) (calls : List ApiCall) (steps : List ApiStep),
      (∀ call ∈ calls, call = .finish ∨ ∃ env, call = .start env) →
      apiRun proc calls (.fresh fs) = .ok steps → ∀ step ∈ steps, step.ThreadsKept := by
  intro claim
  have outcome : (mfStart apiProcess startHalf (.fresh apiFiles)).map
      (fun out => (out.1, out.2.live)) = .ok (none, [1]) := by
    decide +kernel
  obtain ⟨⟨ret, after⟩, started, outcome⟩ := Fault.map_eq_ok.mp outcome
  obtain ⟨rfl, left⟩ := Prod.mk.inj outcome
  have run : apiRun apiProcess [.start startHalf] (.fresh apiFiles) =
      .ok [⟨.fresh apiFiles, .start startHalf, .path none, after⟩] := by
    simp [apiRun, apiCall, started, bind, Except.bind, pure, Except.pure]
  have kept := claim _ _ _ _ (by simp) run _ (List.mem_singleton_self _) rfl
  have none_left := kept 1 (by rw [left]; exact List.mem_singleton_self _)
  exact Nat.not_succ_le_zero 0 none_left

end PhantomMonitor
