import PhantomMonitor.Api.MonitorThreads
import PhantomMonitor.Api.Proofs.SentRecords

/-!
# The data files of a session

In whatever order the threads of a session move, and whatever part of the buffers the C library has
written in between, the file and the buffer of a monitor together are the lines that it has printed.
A thread ends with `fclose`, and `mf_end` returns behind the last of them, so the files are complete
then.
-/

namespace PhantomMonitor

open CText

/-! ## Runs of a monitor -/

theorem dataText_append (records more : List DataRecord) :
    dataText (records ++ more) = dataText records ++ dataText more := by
  simp [dataText, unlines]

section

variable {c : MonitorCode}

theorem MonitorCode.loop_append {rs : List c.Reading} {vars vars' : c.Vars}
    {records : List DataRecord} (run : c.loop rs vars = .ok (some (vars', records)))
    (r : c.Reading) :
    c.loop (rs ++ [r]) vars =
      (c.iterate r vars').map fun out => out.map fun out => (out.1, records ++ out.2) := by
  induction rs generalizing vars records with
  | nil =>
      cases run
      rw [List.nil_append, MonitorCode.loop]
      generalize c.iterate r vars' = out
      obtain fault | - | ⟨next, more⟩ := out
      · rfl
      · rfl
      · simp [MonitorCode.loop, bind, Except.bind, pure, Except.pure, Except.map]
  | cons r' rs ih =>
      obtain ⟨out, first, run⟩ := Fault.bind_eq_ok.mp run
      obtain - | ⟨next, front⟩ := out
      · cases run
      · obtain ⟨out, rest, run⟩ := Fault.bind_eq_ok.mp run
        obtain - | ⟨last, back⟩ := out
        · cases run
        · cases run
          rw [List.cons_append, MonitorCode.loop, first]
          simp only [bind, Except.bind, ih rest]
          generalize c.iterate r vars' = out
          obtain fault | - | ⟨next', more⟩ := out
          · rfl
          · rfl
          · simp [pure, Except.pure, Except.map]

/-- One more iteration. -/
theorem MonitorCode.run_append {start : c.Start} {rs : List c.Reading} {vars next : c.Vars}
    {records more : List DataRecord} (run : c.run start rs = .ok (some (vars, records)))
    {r : c.Reading} (step : c.iterate r vars = .ok (some (next, more))) :
    c.run start (rs ++ [r]) = .ok (some (next, records ++ more)) := by
  obtain ⟨out, first, run⟩ := Fault.bind_eq_ok.mp run
  cases out with
  | none => cases run
  | some out =>
      rw [MonitorCode.run, first]
      show c.loop (rs ++ [r]) out = _
      rw [MonitorCode.loop_append run, step]
      rfl

end

/-! ### The three monitors -/

/-- What a monitor prints, by the name of its metric. -/
inductive Monitored (p : Nat → Rat) (samplingInterval : Int) : CText → List DataRecord → Prop where
  | resources {first : ResourcesTurn} {rs : List ResourcesTurn} {lines : List ResourcesLine}
      {records : List DataRecord} (run : resourcesMonitor true first rs = .ok (some lines))
      (printed : List.Forall₂ (fun l record => ∃ special, record = ResourcesLine.record special l)
        lines records) : Monitored p samplingInterval metricName1 records
  | disk {result : DiskStats} {first : DiskReading} {rs : List DiskReading}
      {records : List DataRecord}
      (printed : List.Forall₂ (fun l record => ∃ special, record = DiskLine.record special l)
        (diskMonitor samplingInterval true result first rs).1 records) :
      Monitored p samplingInterval metricName2 records
  | power {perfFd : Int} {before after : PidStatsInfo} {first : MonitorReading}
      {rs : List MonitorReading} {s : Streams} {iterations : List Iteration}
      {lines : List MonitorLine}
      {streams : Streams} {records : List DataRecord}
      (run : powerMonitor p true perfFd before after first rs s =
        (iterations, some (lines, streams)))
      (printed : List.Forall₂ (fun l record => ∃ special, record = MonitorLine.record special l)
        lines records) : Monitored p samplingInterval metricName3 records

theorem Monitored.printed {p : Nat → Rat} {samplingInterval : Int} {name : CText}
    {records : List DataRecord} (h : Monitored p samplingInterval name records) :
    ∀ record ∈ records, Printed record := by
  have each : ∀ {α : Type} {text : NotNumbers → α → DataRecord} {lines : List α},
      (∀ special l, Printed (text special l)) →
      List.Forall₂ (fun l record => ∃ special, record = text special l) lines records →
        ∀ record ∈ records, Printed record := by
    intro α text lines all printed
    refine (forall₂_forall_iff printed (P := fun _ => True) ?_).mpr fun _ _ => trivial
    rintro l record ⟨special, rfl⟩
    exact iff_of_true (all special l) trivial
  cases h with
  | resources run printed => exact each Printed.resources printed
  | disk printed => exact each Printed.disk printed
  | power run printed => exact each Printed.power printed

theorem resourcesCode_loop {rs : List (ResourcesTurn × NotNumbers)} {before after : ResourcesCpu}
    {records : List DataRecord} (run : resourcesCode.loop rs before = .ok (some (after, records))) :
    ∃ lines, resourcesLoop (rs.map Prod.fst) before = .ok (some lines) ∧
      List.Forall₂ (fun l record => ∃ special, record = ResourcesLine.record special l) lines
      records := by
  induction rs generalizing before records with
  | nil =>
      cases run
      exact ⟨[], rfl, .nil⟩
  | cons r rs ih =>
      obtain ⟨out, iterated, run⟩ := Fault.bind_eq_ok.mp run
      obtain - | ⟨next, front⟩ := out
      · cases run
      · obtain ⟨out, rest, run⟩ := Fault.bind_eq_ok.mp run
        obtain - | ⟨last, back⟩ := out
        · cases run
        · cases run
          obtain ⟨lines, loop, printed⟩ := ih rest
          obtain ⟨found, times, iterated⟩ := Fault.bind_eq_ok.mp iterated
          cases found with
          | none => cases iterated
          | some found =>
              dsimp only at iterated
              split at iterated
              · cases iterated
              · rename_i stats before' rates
                cases iterated
                refine ⟨⟨r.1.clock * 1000, stats⟩ :: lines, ?_, .cons ⟨r.2, rfl⟩ printed⟩
                rw [List.map_cons, resourcesLoop, times]
                simp only [bind, Except.bind, rates, loop]
                rfl

theorem diskCode_loop {samplingInterval : Int} {rs : List (DiskReading × NotNumbers)}
    {before after : DiskStats} {records : List DataRecord}
    (run : (diskCode samplingInterval).loop rs before = .ok (some (after, records))) :
    List.Forall₂ (fun l record => ∃ special, record = DiskLine.record special l)
      (diskLoop samplingInterval (rs.map Prod.fst) before) records := by
  induction rs generalizing before records with
  | nil =>
      cases run
      exact .nil
  | cons r rs ih =>
      obtain ⟨out, iterated, run⟩ := Fault.bind_eq_ok.mp run
      cases iterated
      obtain ⟨out, rest, run⟩ := Fault.bind_eq_ok.mp run
      obtain - | ⟨last, back⟩ := out
      · cases run
      · cases run
        exact .cons ⟨r.2, rfl⟩ (ih rest)

theorem monitorWrite_lines (p : Nat → Rat) (r : MonitorReading) (before after : PidStatsInfo)
    (streams : Streams) (lines : List MonitorLine) :
    monitorWrite p r ⟨before, after, streams, lines⟩ =
      let m := monitorWrite p r ⟨before, after, streams, []⟩
      ⟨m.before, m.after, m.streams, lines ++ m.lines⟩ := by
  unfold monitorWrite
  dsimp only
  cases calcualteAndUpdate before after with
  | none => simp
  | some delta => rfl

theorem powerCode_loop {p : Nat → Rat} {rs : List (MonitorReading × NotNumbers)}
    {before after : PidStatsInfo} {streams : Streams} (lines : List MonitorLine)
    {vars : PidStatsInfo × PidStatsInfo × Streams} {records : List DataRecord}
    (run : (powerCode p).loop rs (before, after, streams) = .ok (some (vars, records))) :
    ∃ iterations more, monitorLoop p (rs.map Prod.fst) ⟨before, after, streams, lines⟩ =
        (iterations, some ⟨vars.1, vars.2.1, vars.2.2, lines ++ more⟩) ∧
      List.Forall₂ (fun l record => ∃ special, record = MonitorLine.record special l) more
      records := by
  induction rs generalizing before after streams lines records with
  | nil =>
      cases run
      exact ⟨[], [], by rw [List.append_nil]; rfl, .nil⟩
  | cons r rs ih =>
      obtain ⟨out, iterated, run⟩ := Fault.bind_eq_ok.mp run
      obtain - | ⟨next, front⟩ := out
      · cases run
      · obtain ⟨out, rest, run⟩ := Fault.bind_eq_ok.mp run
        obtain - | ⟨last, back⟩ := out
        · cases run
        · cases run
          dsimp only [powerCode] at iterated
          split at iterated
          · cases iterated
          · rename_i good
            cases iterated
            set m := monitorWrite p r.1 ⟨before, (readAndCheck p r.1 after streams).2.1,
              (readAndCheck p r.1 after streams).2.2, []⟩ with written
            obtain ⟨iterations, more, loop, printed⟩ := ih (lines ++ m.lines) rest
            refine ⟨⟨streams.live, (readAndCheck p r.1 after streams).2.2.live,
              0 < (readFiles p r.1 after streams).1⟩ :: iterations, m.lines ++ more, ?_, ?_⟩
            · rw [List.map_cons, monitorLoop]
              dsimp only
              rw [if_neg good, monitorWrite_lines]
              dsimp only
              rw [← written, loop, List.append_assoc]
            · refine List.rel_append ?_ printed
              rw [List.forall₂_map_right_iff, List.forall₂_same]
              intro l _
              exact ⟨r.2, rfl⟩

theorem resourcesCode_run {p : Nat → Rat} {samplingInterval : Int} {start : resourcesCode.Start}
    {rs : List resourcesCode.Reading} {vars : resourcesCode.Vars} {records : List DataRecord}
    (run : resourcesCode.run start rs = .ok (some (vars, records))) :
    Monitored p samplingInterval metricName1 records := by
  obtain ⟨out, first, run⟩ := Fault.bind_eq_ok.mp run
  cases out with
  | none => cases run
  | some before =>
      obtain ⟨lines, loop, printed⟩ := resourcesCode_loop run
      have whole : resourcesMonitor true start (rs.map Prod.fst) = .ok (some lines) := by
        unfold resourcesMonitor
        rw [if_pos rfl,
          show resourcesStatCpu start.pidFile start.cpuFile start.cpuVars = _ from first]
        exact loop
      exact .resources whole printed

theorem diskCode_run {p : Nat → Rat} {samplingInterval : Int}
    {start : (diskCode samplingInterval).Start}
    {rs : List (diskCode samplingInterval).Reading} {vars : (diskCode samplingInterval).Vars}
    {records : List DataRecord}
    (run : (diskCode samplingInterval).run start rs = .ok (some (vars, records))) :
    Monitored p samplingInterval metricName2 records := by
  obtain ⟨out, first, run⟩ := Fault.bind_eq_ok.mp run
  cases first
  have printed := diskCode_loop run
  exact .disk printed

theorem powerCode_run {p : Nat → Rat} {samplingInterval : Int} {start : (powerCode p).Start}
    {rs : List (powerCode p).Reading} {vars : (powerCode p).Vars} {records : List DataRecord}
    (run : (powerCode p).run start rs = .ok (some (vars, records))) :
    Monitored p samplingInterval metricName3 records := by
  obtain ⟨out, first, run⟩ := Fault.bind_eq_ok.mp run
  cases out with
  | none => cases run
  | some started =>
      dsimp only [powerCode] at first
      split at first
      · cases first
      · rename_i streams opened
        split at first
        · cases first
        · rename_i perf
          split at first
          · cases first
          · rename_i good
            cases first
            obtain ⟨iterations, lines, loop, printed⟩ := powerCode_loop [] run
            have whole : powerMonitor p true start.perfFd start.before start.after start.first
                (rs.map Prod.fst) start.streams = (iterations, some (lines, vars.2.2.fclose)) := by
              rw [powerMonitor, opened]
              dsimp only
              rw [if_neg perf, if_neg good, loop]
              rfl
            exact .power whole printed

/-- The lines of a thread are those of the function that its metric names. -/
theorem monitorStart_run {p : Nat → Rat} {samplingInterval : Int} {name : CText}
    {start : (monitorStart p samplingInterval name).Start}
    {rs : List (monitorStart p samplingInterval name).Reading}
    {vars : (monitorStart p samplingInterval name).Vars} {records : List DataRecord}
    (run : (monitorStart p samplingInterval name).run start rs = .ok (some (vars, records))) :
    Monitored p samplingInterval name records := by
  revert start rs vars records
  generalize code : monitorStart p samplingInterval name = c
  intro start rs vars records run
  unfold monitorStart at code
  split at code
  · rename_i resources
    subst code resources
    exact resourcesCode_run run
  · split at code
    · rename_i disk
      subst code disk
      exact diskCode_run run
    · split at code
      · rename_i power
        subst code power
        exact powerCode_run run
      · subst code
        exact start.elim

/-! ## The invariant -/

section

variable {codes : Nat → MonitorCode}

/-- The reading of a move, if it is an iteration of thread `t`. -/
def ApiMove.reading (t : Nat) : ApiMove codes → Option (codes t).Reading
  | .sample u r => if same : u = t then some (same ▸ r) else none
  | _ => none

/-- The readings of the iterations of thread `t`. -/
def samples (t : Nat) (moves : List (ApiMove codes)) : List (codes t).Reading :=
  moves.filterMap (ApiMove.reading t)

theorem samples_append (t : Nat) (moves : List (ApiMove codes)) (move : ApiMove codes) :
    samples t (moves ++ [move]) = samples t moves ++ (move.reading t).toList := by
  rw [samples, List.filterMap_append]
  cases h : move.reading t <;> simp [samples, h]

end

/-- The thread of a monitor after some iterations, with its file: `old` at first and `now` at
present. -/
inductive Tracked (c : MonitorCode) (rs : List c.Reading) (old now : CText) :
    MonitorThread c → Prop where
  | entering (none : rs = []) (same : now = old) : Tracked c rs old now .entering
  | looping {place : LoopAt} {vars : c.Vars} {buffer : CText} {start : c.Start}
      {records : List DataRecord} (run : c.run start rs = .ok (some (vars, records)))
      (text : now ++ buffer = old ++ dataText records) :
      Tracked c rs old now (.looping place vars buffer)
  | finished {vars : c.Vars} {start : c.Start} {records : List DataRecord}
      (run : c.run start rs = .ok (some (vars, records))) (text : now = old ++ dataText records) :
      Tracked c rs old now .finished
  | unopened (returns : c.exits = false) (none : rs = []) (same : now = old) :
      Tracked c rs old now .finished

section

variable {codes : Nat → MonitorCode} {count : Nat} {paths : Nat → CText} {files : CText → CText}

/-- What holds after any moves from the start of a session. -/
structure SessionFiles (count : Nat) (paths : Nat → CText) (files : CText → CText)
    (moves : List (ApiMove codes)) (s : ApiThreads codes) : Prop where
  each : ∀ t < count, Tracked (codes t) (samples t moves) (files (paths t)) (s.files (paths t))
    (s.monitors t)
  others : ∀ path, (∀ t < count, path ≠ paths t) → s.files path = files path
  created : s.user.created count ≤ count
  joined : ∀ u, s.user = .joining u → ∀ t < u, s.monitors t = .finished
  ended : s.user = .ended → ∀ t < count, s.monitors t = .finished

/-- What a move of thread `t` may do. -/
structure MovesOnly (paths : Nat → CText) (t : Nat) (s s' : ApiThreads codes) : Prop where
  user : s'.user = s.user
  monitors : ∀ u ≠ t, s'.monitors u = s.monitors u
  files : ∀ path ≠ paths t, s'.files path = s.files path
  alive : s.monitors t ≠ .finished

theorem movesOnly_monitor {s : ApiThreads codes} {t : Nat} (alive : s.monitors t ≠ .finished)
    (m : MonitorThread (codes t)) : MovesOnly paths t s (s.withMonitor t m) :=
  ⟨rfl, fun _ other => Function.update_of_ne other _ _, fun _ _ => rfl, alive⟩

theorem movesOnly_write {s : ApiThreads codes} {t : Nat} (alive : s.monitors t ≠ .finished)
    (text : CText) (m : MonitorThread (codes t)) :
    MovesOnly paths t s ((s.write (paths t) text).withMonitor t m) :=
  ⟨rfl, fun _ other => Function.update_of_ne other _ _,
    fun _ other => Function.update_of_ne other _ _, alive⟩

/-- A move of another thread keeps the thread where it is, with the file of its own. -/
theorem SessionFiles.moved {moves : List (ApiMove codes)} {s s' : ApiThreads codes}
    (inv : SessionFiles count paths files moves s)
    (distinct : ∀ t < count, ∀ u < count, paths t = paths u → t = u) {t : Nat} (inside : t < count)
    (only : MovesOnly paths t s s') {move : ApiMove codes} (own : ∀ u ≠ t, move.reading u = none)
    (next : Tracked (codes t) (samples t (moves ++ [move])) (files (paths t)) (s'.files (paths t))
      (s'.monitors t)) : SessionFiles count paths files (moves ++ [move]) s' := by
  have stays : ∀ u, s.monitors u = .finished → s'.monitors u = .finished := by
    intro u done
    rw [only.monitors u (by rintro rfl; exact only.alive done), done]
  constructor
  · intro u below
    by_cases same : u = t
    · subst same
      exact next
    · rw [samples_append, own u same, only.monitors u same,
        only.files _ fun path => same (distinct u below t inside path)]
      simpa using inv.each u below
  · intro path apart
    rw [only.files path (apart t inside), inv.others path apart]
  · rw [only.user]
    exact inv.created
  · intro u user t' below
    exact stays t' (inv.joined u (only.user ▸ user) t' below)
  · intro user t' below
    exact stays t' (inv.ended (only.user ▸ user) t' below)

theorem SessionFiles.enter {moves : List (ApiMove codes)} {s s' : ApiThreads codes}
    (inv : SessionFiles count paths files moves s)
    (distinct : ∀ t < count, ∀ u < count, paths t = paths u → t = u) {t : Nat} (inside : t < count)
    {opened : Option (codes t).Start} (step : s.enterStep t opened = some s')
    (going : s'.exited = false) : SessionFiles count paths files
    (moves ++ [.enter t opened]) s' := by
  have unread : samples t (moves ++ [.enter t opened]) = samples t moves := by
    rw [samples_append]
    exact List.append_nil _
  have before := inv.each t inside
  unfold ApiThreads.enterStep at step
  cases monitor : s.monitors t with
  | entering =>
      have alive : s.monitors t ≠ .finished := by
        rw [monitor]
        rintro ⟨⟩
      rw [monitor] at before step
      cases before with
      | entering none same =>
          cases opened with
          | none =>
              cases step
              split at going
              · cases going
              · rename_i returns
                rw [if_neg returns]
                refine inv.moved distinct inside (movesOnly_monitor alive .finished)
                  (fun _ _ => rfl) ?_
                rw [unread, ApiThreads.withMonitor_self]
                exact .unopened (Bool.eq_false_iff.mpr returns) none same
          | some first =>
              dsimp only at step
              split at step
              · cases step
              · cases step
                cases going
              · rename_i vars started
                cases step
                have run : (codes t).run first [] = .ok (some (vars, [])) := by
                  rw [MonitorCode.run, started]
                  rfl
                refine inv.moved distinct inside
                  (movesOnly_monitor alive (.looping .testing vars [])) (fun _ _ => rfl) ?_
                rw [unread, none, ApiThreads.withMonitor_self]
                exact .looping run (by rw [← same]; rfl)
  | looping place vars buffer => rw [monitor] at step; cases step
  | finished => rw [monitor] at step; cases step

theorem SessionFiles.advance {moves : List (ApiMove codes)} {s s' : ApiThreads codes}
    (inv : SessionFiles count paths files moves s)
    (distinct : ∀ t < count, ∀ u < count, paths t = paths u → t = u) {t : Nat} (inside : t < count)
    (step : s.advanceStep paths t = some s') :
    SessionFiles count paths files (moves ++ [.advance t]) s' := by
  have unread : samples t (moves ++ [.advance t]) = samples t moves := by
    rw [samples_append]
    exact List.append_nil _
  have before := inv.each t inside
  unfold ApiThreads.advanceStep at step
  cases monitor : s.monitors t with
  | looping place vars buffer =>
      have alive : s.monitors t ≠ .finished := by
        rw [monitor]
        rintro ⟨⟩
      rw [monitor] at before step
      cases before with
      | looping run text =>
          cases place with
          | testing =>
              cases step
              refine inv.moved distinct inside (movesOnly_monitor alive _) (fun _ _ => rfl) ?_
              rw [unread, ApiThreads.withMonitor_self]
              exact .looping run text
          | sleeping => cases step
          | closing =>
              cases step
              refine inv.moved distinct inside (movesOnly_write alive buffer .finished)
                (fun _ _ => rfl) ?_
              rw [unread, ApiThreads.withMonitor_self]
              refine .finished run ?_
              rw [← text]
              exact s.write_self (paths t) buffer
  | entering => rw [monitor] at step; cases step
  | finished => rw [monitor] at step; cases step

theorem SessionFiles.sample {moves : List (ApiMove codes)} {s s' : ApiThreads codes}
    (inv : SessionFiles count paths files moves s)
    (distinct : ∀ t < count, ∀ u < count, paths t = paths u → t = u) {t : Nat} (inside : t < count)
    {reading : (codes t).Reading} (step : s.sampleStep t reading = some s')
    (going : s'.exited = false) : SessionFiles count paths files
    (moves ++ [.sample t reading]) s' := by
  have read : samples t (moves ++ [.sample t reading]) = samples t moves ++ [reading] := by
    rw [samples_append]
    simp [ApiMove.reading]
  have before := inv.each t inside
  unfold ApiThreads.sampleStep at step
  cases monitor : s.monitors t with
  | looping place vars buffer =>
      have alive : s.monitors t ≠ .finished := by
        rw [monitor]
        rintro ⟨⟩
      rw [monitor] at before step
      cases before with
      | looping run text =>
          cases place with
          | testing => cases step
          | closing => cases step
          | sleeping =>
              dsimp only at step
              split at step
              · cases step
              · cases step
                cases going
              · rename_i next more iterated
                cases step
                refine inv.moved distinct inside (movesOnly_monitor alive _)
                  (fun u other => dif_neg fun same => other same.symm) ?_
                rw [read, ApiThreads.withMonitor_self]
                refine .looping (MonitorCode.run_append run iterated) ?_
                rw [dataText_append, ← List.append_assoc, ← List.append_assoc, ← text]
                rfl
  | entering => rw [monitor] at step; cases step
  | finished => rw [monitor] at step; cases step

theorem SessionFiles.flush {moves : List (ApiMove codes)} {s s' : ApiThreads codes}
    (inv : SessionFiles count paths files moves s)
    (distinct : ∀ t < count, ∀ u < count, paths t = paths u → t = u) {t : Nat} (inside : t < count)
    {n : Nat} (step : s.flushStep paths t n = some s') :
    SessionFiles count paths files (moves ++ [.flush t n]) s' := by
  have unread : samples t (moves ++ [.flush t n]) = samples t moves := by
    rw [samples_append]
    exact List.append_nil _
  have before := inv.each t inside
  have split : ∀ buffer : CText, s.files (paths t) ++ buffer =
      (s.write (paths t) (buffer.take n)).files (paths t) ++ buffer.drop n := by
    intro buffer
    rw [ApiThreads.write_self, List.append_assoc, List.take_append_drop]
  unfold ApiThreads.flushStep at step
  cases monitor : s.monitors t with
  | looping place vars buffer =>
      have alive : s.monitors t ≠ .finished := by
        rw [monitor]
        rintro ⟨⟩
      rw [monitor] at before step
      cases before with
      | looping run text =>
          cases step
          refine inv.moved distinct inside (movesOnly_write alive _ _) (fun _ _ => rfl) ?_
          rw [unread, ApiThreads.withMonitor_self]
          exact .looping run ((split buffer).symm.trans text)
  | entering => rw [monitor] at step; cases step
  | finished => rw [monitor] at step; cases step

/-- A move of the user's thread touches neither the monitors nor the files. -/
theorem SessionFiles.user_moved {moves : List (ApiMove codes)} {s : ApiThreads codes}
    (inv : SessionFiles count paths files moves s) {move : ApiMove codes}
    (unread : ∀ t, move.reading t = none) {running : Bool} {user : UserAt}
    (created : user.created count ≤ count)
    (joined : ∀ u, user = .joining u → ∀ t < u, s.monitors t = .finished)
    (ended : user = .ended → ∀ t < count, s.monitors t = .finished) :
    SessionFiles count paths files (moves ++ [move])
      { s with running := running, user := user } := by
  refine ⟨?_, inv.others, created, joined, ended⟩
  intro t inside
  rw [samples_append, unread t]
  simpa using inv.each t inside

/-- `mf_end` goes on to the next thread when one has ended, and returns behind the last one. -/
theorem userStep_joining {s s' : ApiThreads codes} {t : Nat} (user : s.user = .joining t)
    (step : s.userStep count = some s') :
    (t < count ∧ s.monitors t = .finished ∧ s' = { s with user := .joining (t + 1) }) ∨
      count ≤ t ∧ s' = { s with user := .ended } := by
  unfold ApiThreads.userStep at step
  rw [user] at step
  dsimp only at step
  split at step
  · rename_i inside
    cases monitor : s.monitors t with
    | finished =>
        rw [monitor] at step
        cases step
        exact .inl ⟨inside, rfl, rfl⟩
    | entering => rw [monitor] at step; cases step
    | looping place vars buffer => rw [monitor] at step; cases step
  · rename_i last
    cases step
    exact .inr ⟨Nat.not_lt.mp last, rfl⟩

theorem SessionFiles.user {moves : List (ApiMove codes)} {s s' : ApiThreads codes}
    (inv : SessionFiles count paths files moves s) (step : s.userStep count = some s') :
    SessionFiles count paths files (moves ++ [.user]) s' := by
  have created := inv.created
  cases user : s.user with
  | creating u =>
      unfold ApiThreads.userStep at step
      rw [user] at step
      cases step
      split
      · rename_i more
        exact inv.user_moved (fun _ => rfl) more (by rintro u ⟨⟩) (by rintro ⟨⟩)
      · exact inv.user_moved (fun _ => rfl) (Nat.le_refl count) (by rintro u ⟨⟩) (by rintro ⟨⟩)
  | refused u =>
      unfold ApiThreads.userStep at step
      rw [user] at step created
      cases step
      exact inv.user_moved (fun _ => rfl) created (by rintro u ⟨⟩) (by rintro ⟨⟩)
  | working =>
      unfold ApiThreads.userStep at step
      rw [user] at step
      cases step
      refine inv.user_moved (fun _ => rfl) (Nat.le_refl count) ?_ (by rintro ⟨⟩)
      rintro u ⟨⟩ t below
      exact absurd below (Nat.not_lt_zero t)
  | joining u =>
      obtain ⟨-, monitor, rfl⟩ | ⟨last, rfl⟩ := userStep_joining user step
      · refine inv.user_moved (fun _ => rfl) (Nat.le_refl count) ?_ (by rintro ⟨⟩)
        rintro u' ⟨⟩ t below
        rcases Nat.lt_succ_iff_lt_or_eq.mp below with earlier | rfl
        · exact inv.joined u user t earlier
        · exact monitor
      · refine inv.user_moved (fun _ => rfl) (Nat.le_refl count) (by rintro u ⟨⟩) ?_
        intro _ t inside
        exact inv.joined u user t (Nat.lt_of_lt_of_le inside last)
  | joiningRefused u t =>
      unfold ApiThreads.userStep at step
      rw [user] at step created
      dsimp only at step
      split at step
      · cases monitor : s.monitors t with
        | finished =>
            rw [monitor] at step
            cases step
            exact inv.user_moved (fun _ => rfl) created (by rintro u ⟨⟩) (by rintro ⟨⟩)
        | entering => rw [monitor] at step; cases step
        | looping place vars buffer => rw [monitor] at step; cases step
      · cases step
  | ended =>
      unfold ApiThreads.userStep at step
      rw [user] at step
      cases step

theorem SessionFiles.refuse {moves : List (ApiMove codes)} {s s' : ApiThreads codes}
    (inv : SessionFiles count paths files moves s) (step : s.refuseStep count = some s') :
    SessionFiles count paths files (moves ++ [.refuse]) s' := by
  have created := inv.created
  unfold ApiThreads.refuseStep at step
  split at step
  · rename_i u user
    split at step
    · rw [user] at created
      cases step
      exact inv.user_moved (fun _ => rfl) created (by rintro u ⟨⟩) (by rintro ⟨⟩)
    · cases step
  · cases step

/-- What a thread has printed is in its file, or in the buffer behind it. -/
theorem SessionFiles.text {moves : List (ApiMove codes)} {s : ApiThreads codes}
    (inv : SessionFiles count paths files moves s) {t : Nat} (inside : t < count) :
    ∃ records, s.files (paths t) ++ s.unwritten t = files (paths t) ++ dataText records ∧
      ((∃ start vars, (codes t).run start (samples t moves) = .ok (some (vars, records))) ∨
        samples t moves = [] ∧ records = [] ∧
          (s.monitors t = .entering ∨ (codes t).exits = false)) := by
  have tracked := inv.each t inside
  unfold ApiThreads.unwritten
  cases monitor : s.monitors t with
  | entering =>
      rw [monitor] at tracked
      cases tracked with
      | entering none same => exact ⟨[], by rw [same]; rfl, .inr ⟨none, rfl, .inl rfl⟩⟩
  | looping place vars buffer =>
      rw [monitor] at tracked
      cases tracked with
      | looping run text => exact ⟨_, text, .inl ⟨_, vars, run⟩⟩
  | finished =>
      rw [monitor] at tracked
      cases tracked with
      | finished run text => exact ⟨_, by rw [List.append_nil, text], .inl ⟨_, _, run⟩⟩
      | unopened returns none same =>
          exact ⟨[], by rw [same]; rfl, .inr ⟨none, rfl, .inr returns⟩⟩

theorem SessionFiles.written {moves : List (ApiMove codes)} {s : ApiThreads codes}
    (inv : SessionFiles count paths files moves s) (ended : s.user = .ended) {t : Nat}
    (inside : t < count) : s.monitors t = .finished ∧ s.unwritten t = [] := by
  have done := inv.ended ended t inside
  refine ⟨done, ?_⟩
  rw [ApiThreads.unwritten, done]

/-- Nothing moves behind `mf_end`. -/
theorem step_ended {s : ApiThreads codes} (ended : s.user = .ended)
    (done : ∀ t < count, s.monitors t = .finished) (move : ApiMove codes) :
    ApiThreads.step count paths s move = none := by
  have created : ∀ t, s.Created count t → s.monitors t = .finished := by
    intro t inside
    unfold ApiThreads.Created at inside
    rw [ended] at inside
    exact done t inside
  unfold ApiThreads.step
  split
  · rfl
  · cases move with
    | user =>
        dsimp only
        rw [ApiThreads.userStep, ended]
    | refuse =>
        dsimp only
        rw [ApiThreads.refuseStep, ended]
    | enter t opened =>
        refine ite_eq_right_iff.mpr fun inside => ?_
        unfold ApiThreads.enterStep
        rw [created t inside]
    | advance t =>
        refine ite_eq_right_iff.mpr fun inside => ?_
        unfold ApiThreads.advanceStep
        rw [created t inside]
    | sample t reading =>
        refine ite_eq_right_iff.mpr fun inside => ?_
        unfold ApiThreads.sampleStep
        rw [created t inside]
    | flush t n =>
        refine ite_eq_right_iff.mpr fun inside => ?_
        unfold ApiThreads.flushStep
        rw [created t inside]

theorem sessionFiles_start : SessionFiles count paths files []
    (ApiThreads.start files : ApiThreads codes) := by
  refine ⟨fun t _ => .entering rfl rfl, fun _ _ => rfl, Nat.zero_le count, ?_, ?_⟩
  · rintro u ⟨⟩
  · rintro ⟨⟩

/-- What holds after the moves of a run, unless the process has exited. -/
theorem sessionFiles_run (distinct : ∀ t < count, ∀ u < count, paths t = paths u → t = u)
    {moves : List (ApiMove codes)} {s : ApiThreads codes}
    (reached : Runs.run (ApiThreads.step count paths) (ApiThreads.start files) moves = some s) :
    s.exited = false → SessionFiles count paths files moves s := by
  refine Runs.trace_run (fun moves (s : ApiThreads codes) =>
    s.exited = false → SessionFiles count paths files moves s)
    (fun _ => sessionFiles_start) ?_ reached
  intro moves s move s' before step going
  unfold ApiThreads.step at step
  split at step
  · cases step
  · rename_i alive
    have inv := before (Bool.eq_false_iff.mpr alive)
    cases move with
    | user => exact inv.user step
    | refuse => exact inv.refuse step
    | enter t opened =>
        dsimp only at step
        split at step
        · rename_i created
          exact inv.enter distinct (Nat.lt_of_lt_of_le created inv.created) step going
        · cases step
    | advance t =>
        dsimp only at step
        split at step
        · rename_i created
          exact inv.advance distinct (Nat.lt_of_lt_of_le created inv.created) step
        · cases step
    | sample t reading =>
        dsimp only at step
        split at step
        · rename_i created
          exact inv.sample distinct (Nat.lt_of_lt_of_le created inv.created) step going
        · cases step
    | flush t n =>
        dsimp only at step
        split at step
        · rename_i created
          exact inv.flush distinct (Nat.lt_of_lt_of_le created inv.created) step
        · cases step

end

/-! ## The files -/

section

variable {p : Nat → Rat} {samplingIntervals : Nat → Int} {names : Nat → CText} {dataPath : CText}
  {files : CText → CText} {count : Nat}

theorem dataFile_inj (distinct : ∀ t < count, ∀ u < count, names t = names u → t = u) :
    ∀ t < count, ∀ u < count, dataFile dataPath names t = dataFile dataPath names u → t = u := by
  intro t below u inside same
  exact distinct t below u inside ((List.cons_inj_right '/').mp (List.append_cancel_left same))

/-- Only the monitor of the disk returns when its file cannot be opened, or the thread of a metric
that is not known. -/
theorem monitorStart_returns {samplingInterval : Int} {name : CText}
    (returns : (monitorStart p samplingInterval name).exits = false) :
    name ≠ metricName1 ∧ name ≠ metricName3 := by
  constructor
  · rintro rfl
    cases returns
  · rintro rfl
    cases returns

end

/-- A session with the disk monitor. -/
def diskSession : Nat → MonitorCode :=
  sessionCodes (fun _ => 0) (fun _ => 1000) fun _ => metricName2

/-- A reading of five bytes read and seven bytes written at a second. -/
def diskSecond : DiskReading := ⟨some "read_bytes: 5\nwrite_bytes: 7\n".toList, [], 1⟩

/-- One iteration of the monitor; the C library writes a part of the line before `mf_end`. -/
def diskMoves : List (ApiMove diskSession) :=
  [.user, .enter 0 (some (⟨none, [], 0⟩, ⟨0, 0, 0, 0⟩)), .user, .advance 0,
    .sample 0 (diskSecond, nanTexts), .flush 0 20, .user, .advance 0, .advance 0, .user, .user]

theorem diskMoves_end : ∃ s : ApiThreads diskSession,
    Runs.run (ApiThreads.step 1 (dataFile "/tmp/7".toList fun _ => metricName2))
        (ApiThreads.start fun _ => []) diskMoves = some s ∧ s.user = .ended ∧ s.exited = false := by
  have ended : (Runs.run (ApiThreads.step 1 (dataFile "/tmp/7".toList fun _ => metricName2))
      (ApiThreads.start fun _ => []) diskMoves).map (fun s => (s.user, s.exited)) =
        some (.ended, false) := by
    decide
  obtain ⟨s, reached, state⟩ := Option.map_eq_some_iff.mp ended
  obtain ⟨user, going⟩ := Prod.mk.inj state
  exact ⟨s, reached, user, going⟩

end PhantomMonitor
