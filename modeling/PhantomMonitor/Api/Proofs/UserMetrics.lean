import PhantomMonitor.Api.Proofs.DeleteAfterDelivery
import PhantomMonitor.Api.Proofs.PreparedSession

/-!
# User metrics from the call to the server

A user metric is written as one line of any length, and `publish_file` reads the file in pieces of
319 characters, of each of which it drops the last. One object for each call arrives exactly when
every record fits one piece.
-/

namespace PhantomMonitor

open CText Batcher

/-! ## The file -/

/-- A text without a newline and without a NUL. -/
def OneLine (text : CText) : Prop := '\n' ∉ text ∧ nul ∉ text

/-- A call for a user metric whose texts have no newline and no NUL. -/
def ApiCall.CleanMetric : ApiCall → Prop
  | .userMetric _ metricName value => OneLine metricName ∧ OneLine value
  | .userMetricWithTimestamp timestamp metricName value =>
      OneLine timestamp ∧ OneLine metricName ∧ OneLine value
  | _ => False

/-- The records of a number of calls. -/
def userRecords (calls : List ApiCall) : List CText := calls.filterMap ApiCall.record

theorem OneLine.append {a b : CText} (ha : OneLine a) (hb : OneLine b) : OneLine (a ++ b) := by
  simp only [OneLine, List.mem_append, not_or] at *
  exact ⟨⟨ha.1, hb.1⟩, ha.2, hb.2⟩

theorem userRecord_oneLine {timestamp metricName value : CText} (ht : OneLine timestamp)
    (hm : OneLine metricName) (hv : OneLine value) :
    OneLine (userRecord timestamp metricName value) := by
  have texts : OneLine "\"local_timestamp\":\"".toList ∧ OneLine "\", \"".toList ∧
      OneLine "\":".toList := by
    unfold OneLine
    decide
  exact ((((texts.1.append ht).append texts.2.1).append hm).append texts.2.2).append hv

theorem fixed_oneLine (n : Nat) (q : Rat) : OneLine (fixed n q) :=
  ⟨notMem_fixed n q (by decide) (by decide) (by decide),
    notMem_fixed n q (by decide) (by decide) (by decide)⟩

/-- A clean call has a record of one line. -/
theorem ApiCall.CleanMetric.record {call : ApiCall} (h : call.CleanMetric) :
    ∃ record, call.record = some record ∧ OneLine record := by
  cases call with
  | userMetric timestampMs metricName value =>
      exact ⟨_, rfl, userRecord_oneLine (fixed_oneLine 1 timestampMs) h.1 h.2⟩
  | userMetricWithTimestamp timestamp metricName value =>
      exact ⟨_, rfl, userRecord_oneLine h.1 h.2.1 h.2.2⟩
  | start env => exact h.elim
  | finish => exact h.elim
  | send call => exact h.elim

theorem userRecords_oneLine {calls : List ApiCall} (clean : ∀ call ∈ calls, call.CleanMetric) :
    ∀ record ∈ userRecords calls, OneLine record := by
  intro record inside
  obtain ⟨call, hcall, hrecord⟩ := List.mem_filterMap.mp inside
  obtain ⟨other, hother, line⟩ := (clean call hcall).record
  rw [hrecord] at hother
  cases hother
  exact line

/-- After clean calls the file holds their records, one on each line. -/
theorem apiRun_records {proc : Process} {calls : List ApiCall}
    (clean : ∀ call ∈ calls, call.CleanMetric) {s : Session} (permits : Permits proc s.fs)
    (start : s.dataPath = [] ∨ s.Prepared proc) (rest : List ApiCall) {steps : List ApiStep}
    (run : apiRun proc (calls ++ rest) s = .ok steps) :
    ∃ (s' : Session) (front back : List ApiStep), steps = front ++ back ∧
      apiRun proc rest s' = .ok back ∧ (calls ≠ [] → s'.Prepared proc) ∧ (calls = [] → s' = s) ∧
      s'.userData proc = s.userData proc ++ unlines (userRecords calls) := by
  induction calls generalizing s steps with
  | nil => exact ⟨s, [], steps, rfl, run, by simp, by simp, by simp [userRecords, unlines]⟩
  | cons call calls ih =>
      obtain ⟨record, hrecord, -⟩ := (clean call List.mem_cons_self).record
      obtain ⟨prepared, permits', kept⟩ := Session.ready_prepared permits start
      have stored := apiCall_record permits start hrecord
      rw [List.cons_append, apiRun, stored, Fault.bind_eq_ok] at run
      obtain ⟨out, hout, run⟩ := run
      cases hout
      obtain ⟨tail, htail, hsteps⟩ := Fault.bind_eq_ok.mp run
      cases hsteps
      obtain ⟨s', front, back, hsplit, hback, hprepared, hsame, hdata⟩ :=
        ih (fun other inside => clean other (List.mem_cons_of_mem _ inside))
          (Session.addRecord_permits permits' record)
          (Or.inr (Session.addRecord_prepared prepared record)) htail
      refine ⟨s', _ :: front, back, by rw [hsplit]; rfl, hback, ?_, by simp, ?_⟩
      · intro _
        by_cases none : calls = []
        · rw [hsame none]
          exact Session.addRecord_prepared prepared record
        · exact hprepared none
      · rw [hdata, Session.addRecord_userData, kept]
        simp [userRecords, hrecord, unlines]

/-! ## The posts -/

/-- The objects of the posts are those of the records, in their order, and were accepted. -/
structure PostedOnce (staticString : CText) (records : List CText) (posts : List Post) : Prop where
  objects : (posts.flatMap fun post => post.records.map (objectText staticString)) =
    records.map (objectText staticString)
  bodies : ∀ post ∈ posts, post.body = batchBody staticString post.records
  accepted : ∀ post ∈ posts, post.ok = true

theorem objectText_injective (staticString : CText) :
    Function.Injective (objectText staticString) := by
  intro a b same
  simpa [objectText] using same

/-- A file of the records is posted once for each of them exactly when they are short. -/
theorem postedOnce_iff {perform : Nat → Bool} {s : CText} {records : List CText}
    {posts : List Post} {go : Bool} (accepts : ∀ k, perform k = true)
    (lines : ∀ record ∈ records, OneLine record)
    (run : publishContent perform s (unlines records) = .ok (posts, go)) :
    PostedOnce s records posts ↔ ∀ record ∈ records, record.length ≤ 318 := by
  have batched := publishContent_batched run
  have each : ∀ post ∈ posts, post.ok = true ∧ post.body = batchBody s post.records := by
    intro post inside
    rw [batched.groups] at inside
    obtain ⟨j, -, rfl⟩ := List.mem_map.mp inside
    exact ⟨accepts j, rfl⟩
  have through : go = true := by
    cases go with
    | true => rfl
    | false =>
        obtain ⟨post, inside, refused⟩ := batched.refused rfl
        rw [(each post inside).1] at refused
        cases refused
  subst through
  have sent := batched.records_finished
  have objects : (posts.flatMap fun post => post.records.map (objectText s)) =
      ((readLines lineSize (unlines records)).map chop).map (objectText s) := by
    rw [← sent, List.map_flatMap]
  constructor
  · -- every record is then a piece without its last character, and pieces are short
    intro once record inside
    have same := List.map_injective_iff.mpr (objectText_injective s)
      (objects.symm.trans once.objects)
    rw [← same] at inside
    exact (readLines_chop_short inside).2
  · intro short
    have whole : (readLines lineSize (unlines records)).map chop = records := by
      have pieces := readLines_short
        (fun record inside => (⟨(lines record inside).1, (lines record inside).2,
          short record inside⟩ : ShortLine record)) []
      simpa [readLines_nil] using pieces
    exact ⟨by rw [objects, whole], fun post inside => (each post inside).2,
      fun post inside => (each post inside).1⟩

theorem sendEntry_entry {env : SendEnv} {url id : CText} {e : DirEntry} {r r' : Resources}
    {v : Visit} (run : sendEntry env url id e r = .ok (v, r')) : v.entry = e := by
  obtain ⟨filename, -, run⟩ := Fault.bind_eq_ok.mp run
  obtain ⟨static, -, run⟩ := Fault.bind_eq_ok.mp run
  obtain ⟨published, -, run⟩ := Fault.bind_eq_ok.mp run
  cases run
  rfl

/-- What is posted for an entry that can be read. -/
theorem sendEntry_posts {env : SendEnv} {url id : CText} (hurl : url ≠ []) {e : DirEntry}
    {r r' : Resources} {v : Visit} (run : sendEntry env url id e r = .ok (v, r')) {content : CText}
    (curl : e.transfer.curlInit = true) (opened : e.transfer.content = some content) :
    ∃ go, publishContent e.perform (staticText env id e) content = .ok (v.posts, go) := by
  obtain ⟨filename, hfilename, run⟩ := Fault.bind_eq_ok.mp run
  obtain ⟨static, hstatic, run⟩ := Fault.bind_eq_ok.mp run
  obtain ⟨published, hpublished, run⟩ := Fault.bind_eq_ok.mp run
  cases run
  rw [store_eq_ok hfilename, store_eq_ok hstatic, publishFile_checked hurl
    (staticText_ne_nil env id e) (filePath_ne_nil env e), if_pos curl, opened] at hpublished
  have perform : e.transfer.perform = e.perform := rfl
  rw [perform] at hpublished
  rcases hcontent : publishContent e.perform (staticText env id e) content with
    fault | ⟨posts, _ | _⟩ <;> simp only [hcontent] at hpublished <;> cases hpublished
  · exact ⟨false, rfl⟩
  · exact ⟨true, rfl⟩

/-- The directory loop goes through the entries and posts what can be read. -/
theorem sendEntries_posts {env : SendEnv} {url id : CText} (hurl : url ≠ [])
    {entries : List DirEntry} {r r' : Resources} {visits : List Visit}
    (run : sendEntries env url id entries r = .ok (visits, r')) :
    visits.map Visit.entry = entries ∧
      ∀ v ∈ visits, ∀ content, v.entry.transfer.curlInit = true →
        v.entry.transfer.content = some content →
        ∃ go, publishContent v.entry.perform (staticText env id v.entry) content =
          .ok (v.posts, go) := by
  induction entries generalizing r r' visits with
  | nil =>
      cases run
      exact ⟨rfl, by simp⟩
  | cons e entries ih =>
      obtain ⟨⟨v, r₁⟩, hentry, run⟩ := Fault.bind_eq_ok.mp run
      obtain ⟨⟨visits', r₂⟩, hentries, run⟩ := Fault.bind_eq_ok.mp run
      cases run
      obtain ⟨same, posted⟩ := ih hentries
      have visited : v.entry = e := sendEntry_entry hentry
      refine ⟨by rw [List.map_cons, same, visited], List.forall_mem_cons.mpr ⟨?_, posted⟩⟩
      intro content curl opened
      rw [visited] at curl opened ⊢
      exact sendEntry_posts hurl hentry curl opened

/-- The directory that a call goes through. -/
theorem sendDir_eq_some {c : SendCall} {s : Session} {entries : List DirEntry}
    (h : (c.env s).dir = some entries) :
    s.dataPath ≠ [] ∧ c.listing.map (Listed.entry s.fs s.dataPath) = entries := by
  simp only [SendCall.env] at h
  split at h
  · rename_i opened
    exact ⟨opened.1, Option.some.inj h⟩
  · cases h

/-- The file of the user metrics is there after the first call. -/
theorem userFile_data {proc : Process} {calls : List ApiCall}
    (clean : ∀ call ∈ calls, call.CleanMetric) (some_call : calls ≠ []) {fs : FileSystem}
    (absent : fs.files (userFile proc.dataPath) = none) {s : Session}
    (data : s.userData proc = (Session.fresh fs).userData proc ++ unlines (userRecords calls)) :
    s.fs.files (userFile proc.dataPath) = some (unlines (userRecords calls)) := by
  have start : (Session.fresh fs).userData proc = [] := by
    simp [Session.userData, Session.fresh, absent]
  rw [start, List.nil_append, Session.userData] at data
  cases hfile : s.fs.files (userFile proc.dataPath) with
  | some content =>
      rw [hfile] at data
      exact congrArg some data
  | none =>
      obtain ⟨call, calls, rfl⟩ := List.exists_cons_of_ne_nil some_call
      obtain ⟨record, hrecord, -⟩ := (clean call List.mem_cons_self).record
      rw [hfile, userRecords, List.filterMap_cons_some hrecord] at data
      simp at data

/-- A run of clean calls for user metrics, and a call of `mf_send` that lists their file,
registers its experiment and meets a server that takes every post. -/
structure MetricsSent (proc : Process) (fs : FileSystem) (calls : List ApiCall) (c : SendCall)
    (last : ApiStep) (out : SendResult) (id : CText) : Prop where
  permits : Permits proc fs
  absent : fs.files (userFile proc.dataPath) = none
  clean : ∀ call ∈ calls, call.CleanMetric
  listed : ∃ l ∈ c.listing, l.name = userDefined
  accepts : ∀ l ∈ c.listing, l.name = userDefined →
    l.readable = true ∧ l.curlInit = true ∧ ∀ k, l.perform k = true
  run : ∃ steps, apiRun proc (calls ++ [.send c]) (.fresh fs) = .ok steps ∧
    steps.getLast? = some last
  sent : last.result = .sent out
  registered : out.ret = some id

/-- The call of `mf_send` finds the records of the calls in the file. -/
theorem MetricsSent.written {proc : Process} {fs : FileSystem} {calls : List ApiCall}
    {c : SendCall} {last : ApiStep} {out : SendResult} {id : CText}
    (h : MetricsSent proc fs calls c last out id) :
    mfSend (c.env last.before) last.before.res = .ok out ∧
      (last.before.dataPath ≠ [] → last.before.fs.files (userFile last.before.dataPath) =
        some (unlines (userRecords calls))) := by
  obtain ⟨steps, run, ends⟩ := h.run
  obtain ⟨s, front, back, hsteps, hback, hprepared, hsame, hdata⟩ :=
    apiRun_records h.clean h.permits (Or.inl rfl) [.send c] run
  obtain ⟨⟨answer, after⟩, hcall, hback⟩ := Fault.bind_eq_ok.mp hback
  obtain ⟨none, hnone, hback⟩ := Fault.bind_eq_ok.mp hback
  cases hnone
  cases hback
  obtain rfl : ⟨s, .send c, answer, after⟩ = last := by
    rw [hsteps, List.getLast?_append] at ends
    simpa using ends
  cases h.sent
  obtain ⟨⟨out', after'⟩, hsend, hcall⟩ := Fault.bind_eq_ok.mp hcall
  cases hcall
  obtain ⟨out', hmf, hsend⟩ := Fault.bind_eq_ok.mp hsend
  cases hsend
  refine ⟨hmf, fun begun => ?_⟩
  have some_call : calls ≠ [] := by
    rintro rfl
    exact begun (by rw [hsame rfl]; rfl)
  rw [(hprepared some_call).path]
  exact userFile_data h.clean some_call h.absent hdata

/-- Every visit of the file reads what the calls wrote. -/
theorem MetricsSent.visits {proc : Process} {fs : FileSystem} {calls : List ApiCall}
    {c : SendCall} {last : ApiStep} {out : SendResult} {id : CText}
    (h : MetricsSent proc fs calls c last out id) :
    (∃ v ∈ out.visits, v.entry.name = userDefined) ∧
      ∀ v ∈ out.visits, v.entry.name = userDefined →
        (∀ k, v.entry.perform k = true) ∧
          ∃ go, publishContent v.entry.perform (staticText (c.env last.before) id v.entry)
            (unlines (userRecords calls)) = .ok (v.posts, go) := by
  obtain ⟨hmf, data⟩ := h.written
  rcases mfSend_ok hmf with ⟨-, none, -⟩ | ⟨entries, r₁, r₂, -, hdir, hloop, ret, -⟩
  · rw [h.registered] at none
    cases none
  · rw [h.registered] at ret
    cases ret
    obtain ⟨begun, rfl⟩ := sendDir_eq_some hdir
    have data : last.before.fs.files (last.before.dataPath ++ '/' :: userDefined) =
        some (unlines (userRecords calls)) := data begun
    obtain ⟨visited, posted⟩ := sendEntries_posts (metricURL_ne_nil _) hloop
    constructor
    · obtain ⟨l, inside, named⟩ := h.listed
      have entered := List.mem_map_of_mem (f := Listed.entry last.before.fs last.before.dataPath)
        inside
      rw [← visited] at entered
      obtain ⟨v, hv, hentry⟩ := List.mem_map.mp entered
      exact ⟨v, hv, by rw [hentry]; exact named⟩
    · intro v inside named
      obtain ⟨l, hl, hentry⟩ := List.mem_map.mp (visited ▸ List.mem_map_of_mem inside)
      have same : l.name = userDefined := by rw [← named, ← hentry]; rfl
      obtain ⟨readable, curl, takes⟩ := h.accepts l hl same
      refine ⟨by rw [← hentry]; exact takes, posted v inside _ ?_ ?_⟩
      · rw [← hentry]
        exact curl
      · rw [← hentry]
        simp [Listed.entry, DirEntry.transfer, same, data, readable]

/-- The objects posted for the file of the user metrics are one for each call exactly when every
record fits one piece of the file. -/
theorem userMetrics_posted_iff {proc : Process} {fs : FileSystem} {calls : List ApiCall}
    {c : SendCall} {last : ApiStep} {out : SendResult} {id : CText}
    (h : MetricsSent proc fs calls c last out id) :
    (∃ v ∈ out.visits, v.entry.name = userDefined) ∧
      ∀ v ∈ out.visits, v.entry.name = userDefined →
        (PostedOnce (staticText (c.env last.before) id v.entry) (userRecords calls) v.posts ↔
          ∀ record ∈ userRecords calls, record.length ≤ 318) := by
  refine ⟨h.visits.1, ?_⟩
  intro v inside named
  obtain ⟨takes, go, posted⟩ := h.visits.2 v inside named
  exact postedOnce_iff takes (userRecords_oneLine h.clean) posted

/-! ## A short record and a long one -/

/-- A call of `mf_send` that lists the file of the user metrics, to a server that takes all. -/
def sendMetrics : SendCall where
  server := "http://localhost".toList
  applicationId := "app".toList
  componentId := "task".toList
  platformId := "node".toList
  experiment := ⟨true, ["AVq1".toList], true⟩
  listing := [⟨userDefined, true, true, fun _ => true⟩]
  removable := true

/-- A call for a metric of a number of digits. -/
def digitsMetric (digits : Nat) : ApiCall :=
  .userMetricWithTimestamp ['5'] ['x'] (List.replicate digits '1')

/-- The experiment that a call of `mf_send` registered. -/
def ApiStep.registered (step : ApiStep) : Option CText :=
  match step.result with
  | .sent out => out.ret
  | _ => none

theorem digitsMetric_records (digits : Nat) :
    userRecords [digitsMetric digits] =
      [userRecord ['5'] ['x'] (List.replicate digits '1')] := rfl

theorem digitsMetric_length {digits : Nat} {record : CText}
    (inside : record ∈ userRecords [digitsMetric digits]) : digits ≤ record.length := by
  rw [digitsMetric_records, List.mem_singleton] at inside
  have ends : List.replicate digits '1' <:+ record := by
    rw [inside]
    exact List.suffix_append _ _
  simpa using ends.length_le

theorem digitsMetric_clean (digits : Nat) : (digitsMetric digits).CleanMetric := by
  unfold digitsMetric ApiCall.CleanMetric OneLine
  refine ⟨by decide, by decide, ?_, ?_⟩
  · intro inside
    exact absurd (List.eq_of_mem_replicate inside) (by decide)
  · intro inside
    exact absurd (List.eq_of_mem_replicate inside) (by decide)

theorem digitsMetrics_sent {digits : List Nat} {id : CText}
    (h : (apiRun apiProcess (digits.map digitsMetric ++ [.send sendMetrics]) (.fresh apiFiles)).map
      (fun steps => steps.getLast?.bind ApiStep.registered) = .ok (some id)) :
    ∃ last out,
      MetricsSent apiProcess apiFiles (digits.map digitsMetric) sendMetrics last out id := by
  obtain ⟨steps, run, h⟩ := Fault.map_eq_ok.mp h
  obtain ⟨last, ends, registered⟩ := Option.bind_eq_some_iff.mp h
  unfold ApiStep.registered at registered
  split at registered
  · rename_i out sent
    exact ⟨last, out, {
      permits := apiFiles_permits
      absent := rfl
      clean := List.forall_mem_map.mpr fun n _ => digitsMetric_clean n
      listed := ⟨_, List.mem_singleton_self _, rfl⟩
      accepts := by
        intro l inside named
        cases List.mem_singleton.mp inside
        exact ⟨rfl, rfl, fun _ => rfl⟩
      run := ⟨steps, run, ends⟩
      sent
      registered }⟩
  · cases registered

theorem userMetrics_posted_iff_two :
    ∃ last out id, MetricsSent apiProcess apiFiles [digitsMetric 1, digitsMetric 2] sendMetrics last
        out id ∧
      ∀ v ∈ out.visits, v.entry.name = userDefined →
        PostedOnce (staticText (sendMetrics.env last.before) id v.entry)
          (userRecords [digitsMetric 1, digitsMetric 2]) v.posts := by
  have run : (apiRun apiProcess ([1, 2].map digitsMetric ++ [.send sendMetrics])
      (.fresh apiFiles)).map
      (fun steps => steps.getLast?.bind ApiStep.registered) = .ok (some "AVq1".toList) := by
    decide +kernel
  obtain ⟨last, out, sent⟩ := digitsMetrics_sent run
  refine ⟨last, out, _, sent, ?_⟩
  intro v inside named
  exact ((userMetrics_posted_iff sent).2 v inside named).mpr (by decide)

/-- A metric of four hundred digits arrives as two objects. -/
theorem userMetrics_long_record_split :
    ¬ ∀ (proc : Process) (fs : FileSystem) (calls : List ApiCall) (c : SendCall) (last : ApiStep)
      (out : SendResult) (id : CText), MetricsSent proc fs calls c last out id →
      ∀ v ∈ out.visits, v.entry.name = userDefined →
        PostedOnce (staticText (c.env last.before) id v.entry) (userRecords calls) v.posts := by
  intro claim
  have run : (apiRun apiProcess ([400].map digitsMetric ++ [.send sendMetrics])
      (.fresh apiFiles)).map
      (fun steps => steps.getLast?.bind ApiStep.registered) = .ok (some "AVq1".toList) := by
    decide +kernel
  obtain ⟨last, out, sent⟩ := digitsMetrics_sent run
  obtain ⟨v, inside, named⟩ := sent.visits.1
  obtain ⟨takes, go, posted⟩ := sent.visits.2 v inside named
  have short := (postedOnce_iff takes (userRecords_oneLine sent.clean) posted).mp
    (claim _ _ _ _ _ _ _ sent v inside named)
  obtain ⟨record, written⟩ : ∃ record, record ∈ userRecords [digitsMetric 400] := by
    rw [digitsMetric_records]
    exact ⟨_, List.mem_cons_self⟩
  exact absurd ((digitsMetric_length written).trans (short record written)) (by decide)

end PhantomMonitor
