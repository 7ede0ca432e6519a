import PhantomMonitor.Api.Proofs.DeleteAfterDelivery
import PhantomMonitor.Api.Proofs.PreparedSession

/-!
# The session invariant

A path in `DataPath` stands for a directory that is there and a log file that is open.
`mf_send` closes the log file and leaves the path, so this lasts until a call of `mf_send` gets
through to the directory.
-/

namespace PhantomMonitor

open CText

/-! ## What the calls leave of the files -/

/-- A session with the same path, log file and files. -/
structure Session.SameFiles (s s' : Session) : Prop where
  dataPath : s'.dataPath = s.dataPath
  logFile : s'.logFile = s.logFile
  fs : s'.fs = s.fs

namespace Session.SameFiles

theorem trans {s t u : Session} (first : s.SameFiles t) (second : t.SameFiles u) :
    s.SameFiles u where
  dataPath := second.dataPath.trans first.dataPath
  logFile := second.logFile.trans first.logFile
  fs := second.fs.trans first.fs

end Session.SameFiles

theorem createThreads_files (creates : Nat → ThreadOutcome) (ts : List Nat) (s : Session) :
    s.SameFiles (createThreads creates ts s).2 ∧
      (createThreads creates ts s).2.logUses = s.logUses := by
  induction ts generalizing s with
  | nil => exact ⟨⟨rfl, rfl, rfl⟩, rfl⟩
  | cons t ts ih =>
      unfold createThreads
      cases creates t with
      | created =>
          have first : s.SameFiles (s.createThread t) := ⟨rfl, rfl, rfl⟩
          obtain ⟨same, logs⟩ := ih (s.createThread t)
          exact ⟨first.trans same, logs⟩
      | refused left => exact ⟨⟨rfl, rfl, rfl⟩, rfl⟩

theorem foldl_join_files (ts : List Nat) (s : Session) :
    s.SameFiles (ts.foldl (fun s t => s.join t) s) ∧
      (ts.foldl (fun s t => s.join t) s).logUses = s.logUses := by
  induction ts generalizing s with
  | nil => exact ⟨⟨rfl, rfl, rfl⟩, rfl⟩
  | cons t ts ih =>
      have first : s.SameFiles (s.join t) := ⟨rfl, rfl, rfl⟩
      obtain ⟨same, logs⟩ := ih (s.join t)
      exact ⟨first.trans same, logs⟩

theorem getConfigParameters_files {env : StartEnv} {s s' : Session} {config : Int}
    (run : getConfigParameters env s = .ok (config, s')) :
    s.SameFiles s' ∧ ∃ n, s'.logUses = s.logUses ++ List.replicate n s.logFile := by
  obtain ⟨url, -, run⟩ := Fault.bind_eq_ok.mp run
  dsimp only at run
  split at run <;> cases run <;> exact ⟨⟨rfl, rfl, rfl⟩, _, rfl⟩

/-- The writes to the log for a registration that fails. -/
def SendCall.failures (c : SendCall) : Nat :=
  if c.experiment.curlInit = true ∧ c.experiment.perform = false then 1 else 0

theorem experimentLogs_eq (c : SendCall) (s : Session) :
    experimentLogs c.experiment (experimentURL (c.env s)) (experimentMessage (c.env s)) =
      c.failures := by
  simp [experimentLogs, SendCall.failures, checkURL, checkMessage, experimentMessage_ne_nil,
    experimentURL_ne_nil, success, failed]

/-- What a call of `mf_send` leaves of the files. -/
inductive MfSendFiles (c : SendCall) (s s' : Session) : Prop where
  | stopped (early : answeredId c.experiment = [] ∨ (c.env s).dir = none) (same : s.SameFiles s')
      (used : s'.logUses = s.logUses ++ List.replicate c.failures s.logFile)
  | through (answered : answeredId c.experiment ≠ []) (path : s'.dataPath = s.dataPath)
      (opened : (c.env s).dir ≠ none) (log : s'.logFile = .closed)

theorem mfSendSession_files {c : SendCall} {s s' : Session} {out : SendResult}
    (run : mfSendSession c s = .ok (out, s')) : MfSendFiles c s s' := by
  obtain ⟨out', hmf, run⟩ := Fault.bind_eq_ok.mp run
  rcases mfSend_ok hmf with ⟨early, -, visits, unclosed, kept⟩ |
    ⟨entries, -, -, answered, dir, -, -, closed⟩
  · dsimp only at run
    rw [visits, unclosed, kept, experimentLogs_eq] at run
    cases run
    exact .stopped early ⟨rfl, rfl, rfl⟩ (by simp [Session.useLog])
  · dsimp only at run
    rw [closed, if_pos rfl] at run
    cases run
    refine .through answered ?_ (by rw [dir]; exact Option.some_ne_none _) ?_
    · split_ifs <;> rfl
    · split_ifs <;> rfl

/-! ## The invariant -/

/-- The session is not begun, or prepared, and the log was used while it was open. -/
structure Session.Sound (proc : Process) (s : Session) : Prop where
  permits : Permits proc s.fs
  state : (s.dataPath = [] ∧ s.logFile = .null) ∨ s.Prepared proc
  logs : ∀ stream ∈ s.logUses, stream = .opened

theorem Session.fresh_sound {proc : Process} {fs : FileSystem} (permits : Permits proc fs) :
    (Session.fresh fs).Sound proc where
  permits := permits
  state := Or.inl ⟨rfl, rfl⟩
  logs := by simp [Session.fresh]

theorem Session.Sound.start {proc : Process} {s : Session} (h : s.Sound proc) :
    s.dataPath = [] ∨ s.Prepared proc := h.state.imp And.left id

theorem Session.Prepared.of_same {proc : Process} {s s' : Session} (h : s.Prepared proc)
    (same : s.SameFiles s') : s'.Prepared proc where
  path := same.dataPath.trans h.path
  dir := by
    rw [same.fs]
    exact h.dir
  log := same.logFile.trans h.log

/-- A session that was used with its log open. -/
theorem Session.Prepared.sound {proc : Process} {s s' : Session} (h : s.Prepared proc)
    (permits : Permits proc s.fs) (logs : ∀ stream ∈ s.logUses, stream = .opened)
    (same : s.SameFiles s') {n : Nat}
    (used : s'.logUses = s.logUses ++ List.replicate n s.logFile) : s'.Sound proc where
  permits := by
    rw [same.fs]
    exact permits
  state := Or.inr (h.of_same same)
  logs := by
    intro stream inside
    rw [used, h.log] at inside
    rcases List.mem_append.mp inside with old | new
    · exact logs stream old
    · exact List.eq_of_mem_replicate new

theorem Session.Sound.of_same {proc : Process} {s s' : Session} (h : s.Sound proc)
    (same : s.SameFiles s') (used : s'.logUses = s.logUses) : s'.Sound proc where
  permits := by
    rw [same.fs]
    exact h.permits
  state := by
    rcases h.state with ⟨path, log⟩ | prepared
    · exact Or.inl ⟨same.dataPath.trans path, same.logFile.trans log⟩
    · exact Or.inr (prepared.of_same same)
  logs := by
    rw [used]
    exact h.logs

theorem mfStart_sound {proc : Process} {env : StartEnv} {s s' : Session} {ret : Option CText}
    (h : s.Sound proc) (run : mfStart proc env s = .ok (ret, s')) : s'.Sound proc := by
  obtain ⟨ready, prepared, run⟩ := Fault.bind_eq_ok.mp run
  rw [apiPrepare_eq h.permits] at prepared
  cases prepared
  obtain ⟨⟨config, asked⟩, got, run⟩ := Fault.bind_eq_ok.mp run
  obtain ⟨same, n, used⟩ := getConfigParameters_files got
  have sound : asked.Sound proc :=
    (Session.prepare_prepared h.permits).sound (Session.prepare_permits h.permits) h.logs same used
  dsimp only at run
  split at run
  · cases run
    exact sound
  · cases run
    obtain ⟨kept, logs⟩ := createThreads_files env.creates (List.range env.metrics.numMetrics)
      { asked with
        numThreads := env.metrics.numMetrics
        running := 1
        keepLocalDataFlag := env.metrics.localDataStorage }
    have begun : asked.SameFiles { asked with
        numThreads := env.metrics.numMetrics
        running := 1
        keepLocalDataFlag := env.metrics.localDataStorage } := ⟨rfl, rfl, rfl⟩
    exact sound.of_same (begun.trans kept) logs

theorem mfEnd_sound {proc : Process} {s : Session} (h : s.Sound proc) : (mfEnd s).Sound proc := by
  obtain ⟨kept, logs⟩ := foldl_join_files (List.range s.numThreads) { s with running := 0 }
  have ended : s.SameFiles { s with running := 0 } := ⟨rfl, rfl, rfl⟩
  exact h.of_same (ended.trans kept) logs

theorem addRecord_sound {proc : Process} {s : Session} (h : s.Sound proc) (record : CText) :
    ((s.ready proc).addRecord proc record).Sound proc where
  permits := Session.addRecord_permits (Session.ready_prepared h.permits h.start).2.1 record
  state := Or.inr (Session.addRecord_prepared (Session.ready_prepared h.permits h.start).1 record)
  logs := by
    unfold Session.ready
    split <;> exact h.logs

/-! ## Runs -/

/-- What a step owes to the session: a path stands for a directory and an open log file, the log is
used while it is open, and a user metric is stored. -/
structure ApiStep.SessionKept (step : ApiStep) : Prop where
  prepared : step.after.dataPath ≠ [] →
    step.after.fs.dirs step.after.dataPath = true ∧ step.after.logFile = .opened
  logs : ∀ stream ∈ step.after.logUses, stream = .opened
  stored : ∀ record, step.call.record = some record → step.result = .stored 1 ∧
    step.after.fs.files (userFile step.after.dataPath) =
      some ((step.before.fs.files (userFile step.after.dataPath)).getD [] ++ (record ++ ['\n']))

/-- The calls that keep the session: `mf_send` in a session that is not begun does not fail to
register, and in one that is begun it gets no identifier. -/
def ApiStep.SessionSafe (step : ApiStep) : Prop :=
  match step.call with
  | .send c => if step.before.dataPath = [] then c.failures = 0 else answeredId c.experiment = []
  | _ => True

theorem sendDir_ne_none {c : SendCall} {s : Session} :
    (c.env s).dir ≠ none ↔ s.dataPath ≠ [] ∧ s.fs.dirs s.dataPath = true := by
  simp [SendCall.env]

theorem mfSendSession_sound {proc : Process} {c : SendCall} {s s' : Session} {out : SendResult}
    (h : s.Sound proc) (run : mfSendSession c s = .ok (out, s'))
    (safe : if s.dataPath = [] then c.failures = 0 else answeredId c.experiment = []) :
    s'.Sound proc := by
  rcases mfSendSession_files run with ⟨early, same, used⟩ | ⟨answered, path, opened, log⟩
  · rcases h.state with ⟨path, log⟩ | prepared
    · rw [if_pos path] at safe
      refine h.of_same same ?_
      rw [used, safe, List.replicate_zero, List.append_nil]
    · exact prepared.sound h.permits h.logs same used
  · rw [if_neg (sendDir_ne_none.mp opened).1] at safe
    exact absurd safe answered

theorem mfSendSession_safe {proc : Process} {c : SendCall} {s s' : Session} {out : SendResult}
    (h : s.Sound proc) (run : mfSendSession c s = .ok (out, s'))
    (kept : ApiStep.SessionKept ⟨s, .send c, .sent out, s'⟩) :
    if s.dataPath = [] then c.failures = 0 else answeredId c.experiment = [] := by
  have files := mfSendSession_files run
  split
  · rename_i unset
    rcases files with ⟨-, same, used⟩ | ⟨-, -, opened, -⟩
    · have unopened : s.logFile = .null := by
        rcases h.state with ⟨-, log⟩ | prepared
        · exact log
        · exact absurd (prepared.path.symm.trans unset) proc.dataPath_ne_nil
      -- the failed registration would have written to the stream that was never opened
      by_contra some
      have written : LogStream.null ∈ s'.logUses := by
        rw [used, unopened]
        exact List.mem_append_right _ (List.mem_replicate.mpr ⟨some, rfl⟩)
      cases kept.logs _ written
    · exact absurd unset (sendDir_ne_none.mp opened).1
  · rename_i set
    have prepared := h.start.resolve_left set
    rcases files with ⟨early, -, -⟩ | ⟨-, path, -, log⟩
    · refine early.resolve_right (sendDir_ne_none.mpr ⟨set, ?_⟩)
      rw [prepared.path]
      exact prepared.dir
    · -- the path is still set, so the closed log file breaks what the step owes
      have opened := (kept.prepared (by rw [path]; exact set)).2
      rw [log] at opened
      cases opened

theorem apiCall_sound {proc : Process} {call : ApiCall} {s after : Session} {result : ApiResult}
    (h : s.Sound proc) (run : apiCall proc call s = .ok (result, after))
    (safe : ApiStep.SessionSafe ⟨s, call, result, after⟩) : after.Sound proc := by
  cases hrecord : call.record with
  | some record =>
      rw [apiCall_record h.permits h.start hrecord] at run
      cases run
      exact addRecord_sound h record
  | none =>
      cases call with
      | userMetric timestampMs metricName value => cases hrecord
      | userMetricWithTimestamp timestamp metricName value => cases hrecord
      | start env =>
          obtain ⟨⟨ret, s'⟩, started, run⟩ := Fault.bind_eq_ok.mp run
          cases run
          exact mfStart_sound h started
      | finish =>
          cases run
          exact mfEnd_sound h
      | send c =>
          obtain ⟨⟨out, s'⟩, sent, run⟩ := Fault.bind_eq_ok.mp run
          cases run
          exact mfSendSession_sound h sent safe

theorem apiCall_kept {proc : Process} {call : ApiCall} {s after : Session} {result : ApiResult}
    (h : s.Sound proc) (run : apiCall proc call s = .ok (result, after))
    (sound : after.Sound proc) : ApiStep.SessionKept ⟨s, call, result, after⟩ where
  prepared := by
    intro set
    have prepared := sound.start.resolve_left set
    exact ⟨by rw [prepared.path]; exact prepared.dir, prepared.log⟩
  logs := sound.logs
  stored := by
    intro record hrecord
    rw [apiCall_record h.permits h.start hrecord] at run
    cases run
    obtain ⟨prepared, -, data⟩ := Session.ready_prepared h.permits h.start
    have path : ((s.ready proc).addRecord proc record).dataPath = proc.dataPath := prepared.path
    refine ⟨rfl, ?_⟩
    rw [path]
    unfold Session.userData at data
    simp [Session.addRecord, Session.userData, data]

theorem apiCall_safe {proc : Process} {call : ApiCall} {s after : Session} {result : ApiResult}
    (h : s.Sound proc) (run : apiCall proc call s = .ok (result, after))
    (kept : ApiStep.SessionKept ⟨s, call, result, after⟩) :
    ApiStep.SessionSafe ⟨s, call, result, after⟩ := by
  cases call with
  | userMetric timestampMs metricName value => trivial
  | userMetricWithTimestamp timestamp metricName value => trivial
  | start env => trivial
  | finish => trivial
  | send c =>
      obtain ⟨⟨out, s'⟩, sent, run⟩ := Fault.bind_eq_ok.mp run
      cases run
      exact mfSendSession_safe h sent kept

/-- Every step of a run keeps the session exactly when every call of `mf_send` stops before the
directory. -/
theorem apiRun_session_iff {proc : Process} {fs : FileSystem} (permits : Permits proc fs)
    {calls : List ApiCall} {steps : List ApiStep}
    (run : apiRun proc calls (.fresh fs) = .ok steps) :
    (∀ step ∈ steps, step.SessionKept) ↔ ∀ step ∈ steps, step.SessionSafe := by
  constructor
  · refine apiRun_forall ?_ (Session.fresh_sound permits) run
    intro call s result after sound called kept
    have safe := apiCall_safe sound called kept
    exact ⟨apiCall_sound sound called safe, safe⟩
  · refine apiRun_forall ?_ (Session.fresh_sound permits) run
    intro call s result after sound called safe
    have sound' := apiCall_sound sound called safe
    exact ⟨sound', apiCall_kept sound called sound'⟩

instance (step : ApiStep) : Decidable step.SessionSafe :=
  match step with
  | ⟨before, .send c, _, _⟩ => inferInstanceAs (Decidable
      (if before.dataPath = [] then c.failures = 0 else answeredId c.experiment = []))
  | ⟨_, .start _, _, _⟩ => inferInstanceAs (Decidable True)
  | ⟨_, .finish, _, _⟩ => inferInstanceAs (Decidable True)
  | ⟨_, .userMetric _ _ _, _, _⟩ => inferInstanceAs (Decidable True)
  | ⟨_, .userMetricWithTimestamp _ _ _, _, _⟩ => inferInstanceAs (Decidable True)

/-- A user metric, and then a call of `mf_send` that meets the transfer. -/
def metricAndSend (experiment : Transfer) : List ApiCall :=
  [.userMetricWithTimestamp ['5'] ['x'] ['1'], .send {
    server := "http://localhost".toList
    applicationId := "app".toList
    componentId := "task".toList
    platformId := "node".toList
    experiment
    listing := [⟨userDefined, true, true, fun _ => true⟩]
    removable := true }]

/-- The server cannot be reached. -/
theorem apiRun_session_iff_unanswered :
    ∃ steps, apiRun apiProcess (metricAndSend ⟨true, [], false⟩) (.fresh apiFiles) = .ok steps ∧
      ∀ step ∈ steps, step.SessionKept := by
  have safe : (apiRun apiProcess (metricAndSend ⟨true, [], false⟩) (.fresh apiFiles)).map
      (fun steps => decide (∀ step ∈ steps, step.SessionSafe)) = .ok true := by
    decide +kernel
  obtain ⟨steps, run, safe⟩ := Fault.map_eq_ok.mp safe
  exact ⟨steps, run, (apiRun_session_iff apiFiles_permits run).mpr (of_decide_eq_true safe)⟩

/-- The server answers: the path is still set, and the log file is closed. -/
theorem mfSend_closes_session :
    ¬ ∀ (proc : Process) (fs : FileSystem), Permits proc fs →
      ∀ (calls : List ApiCall) (steps : List ApiStep), apiRun proc calls (.fresh fs) = .ok steps →
        ∀ step ∈ steps, step.SessionKept := by
  intro claim
  have outcome : (apiRun apiProcess (metricAndSend ⟨true, ["AVq1".toList], true⟩)
      (.fresh apiFiles)).map (fun steps => steps.map
        fun step => (step.after.dataPath, step.after.logFile)) =
      .ok [("/opt/7".toList, .opened), ("/opt/7".toList, .closed)] := by
    decide +kernel
  obtain ⟨steps, run, outcome⟩ := Fault.map_eq_ok.mp outcome
  obtain ⟨step, inside, seen⟩ :=
    List.mem_map.mp (outcome ▸ List.mem_cons_of_mem _ List.mem_cons_self)
  obtain ⟨path, log⟩ := Prod.mk.inj seen
  have kept := (claim _ _ apiFiles_permits _ _ run step inside).prepared
  have opened := (kept (by rw [path]; decide)).2
  rw [log] at opened
  cases opened

end PhantomMonitor
