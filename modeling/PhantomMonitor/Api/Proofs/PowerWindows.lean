import Mathlib.Data.BitVec
import PhantomMonitor.Api.PowerMonitor
import PhantomMonitor.Misc.Steps

/-!
# The windows of the power monitor

An iteration that `calcualte_and_update` skips keeps the old counters, but the clock is read again
at the start of the next one. A record after skipped iterations averages the increments of a long
window over a short time.
-/

namespace PhantomMonitor

open Steps

/-! ## The iterations of a run -/

/-- An iteration that has read its counters. `opened` is the clock at which `before` was taken. -/
structure MonitorStep where
  reading : MonitorReading
  before : PidStatsInfo
  after : PidStatsInfo
  opened : Rat

namespace MonitorStep

/-- The increments, when the iteration is not skipped. -/
def delta (s : MonitorStep) : Option PidStatsInfo :=
  (calcualteAndUpdate s.before s.after).map Prod.fst

/-- The duration that the code takes, and the window of the counters. -/
def duration (s : MonitorStep) : Rat := s.reading.clockAfter - s.reading.clockBefore

def window (s : MonitorStep) : Rat := s.reading.clockAfter - s.opened

/-- The clock at which the counters in `before` were taken, after the iteration. -/
def reopened (s : MonitorStep) : Rat := if s.delta.isSome then s.reading.clockAfter else s.opened

end MonitorStep

/-- The iterations of the loop, up to the one that ends the process. -/
def monitorSteps (p : Nat → Rat) (opened : Rat) : List MonitorReading → Monitor → List MonitorStep
  | [], _ => []
  | r :: rs, m =>
      let (ok, after, streams) := readAndCheck p r m.after m.streams
      if ok ≤ 0 then []
      else
        let step : MonitorStep := ⟨r, m.before, after, opened⟩
        step :: monitorSteps p step.reopened rs (monitorWrite p r { m with after, streams })

/-- The iterations that write a record, with the increments. -/
def monitorRecords (run : List MonitorStep) : List (MonitorStep × PidStatsInfo) :=
  run.filterMap fun s => s.delta.map fun delta => (s, delta)

/-- The clock at the start of an iteration is the clock at the end of the one before. -/
def ClockGoesOn (now : Rat) : List MonitorReading → Prop
  | [] => True
  | r :: rs => r.clockBefore = now ∧ now ≤ r.clockAfter ∧ ClockGoesOn r.clockAfter rs

/-- A skipped iteration takes no time when a record follows. -/
def IdleSkips : List MonitorStep → Prop
  | [] => True
  | s :: rest =>
      (s.delta = none → monitorRecords rest ≠ [] → s.reading.clockAfter = s.reading.clockBefore) ∧
        IdleSkips rest

theorem calcualteAndUpdate_before {before after : PidStatsInfo} {out : PidStatsInfo × PidStatsInfo}
    (h : calcualteAndUpdate before after = some out) : out.2 = after := by
  unfold calcualteAndUpdate at h
  split at h
  · cases h
  · split at h
    · cases h
    · cases h
      rfl

/-- The counters after an iteration, with what it writes. -/
theorem monitorWrite_eq (p : Nat → Rat) (opened : Rat) (r : MonitorReading) (m : Monitor) :
    monitorWrite p r m =
      match (MonitorStep.mk r m.before m.after opened).delta with
      | none => m
      | some delta =>
        { m with before := m.after, lines := m.lines ++ [monitorLine p r delta] } := by
  unfold monitorWrite MonitorStep.delta
  cases h : calcualteAndUpdate m.before m.after with
  | none => rfl
  | some out =>
      obtain ⟨delta, before⟩ := out
      cases calcualteAndUpdate_before h
      rfl

/-- Each iteration goes on from the counters and the clock of the last record. -/
inductive MonitorTrace : Rat → PidStatsInfo → List MonitorReading → List MonitorStep → Prop where
  | stop (opened : Rat) (before : PidStatsInfo) (rs : List MonitorReading) :
      MonitorTrace opened before rs []
  | skip {opened : Rat} {before after : PidStatsInfo} {r : MonitorReading}
      {rs : List MonitorReading} {rest : List MonitorStep}
      (skipped : (MonitorStep.mk r before after opened).delta = none)
      (more : MonitorTrace opened before rs rest) :
      MonitorTrace opened before (r :: rs) (⟨r, before, after, opened⟩ :: rest)
  | record {opened : Rat} {before after delta : PidStatsInfo} {r : MonitorReading}
      {rs : List MonitorReading} {rest : List MonitorStep}
      (written : (MonitorStep.mk r before after opened).delta = some delta)
      (more : MonitorTrace r.clockAfter after rs rest) :
      MonitorTrace opened before (r :: rs) (⟨r, before, after, opened⟩ :: rest)

/-- The iterations are those of the loop, and the lines of the file are their records. -/
theorem monitorSteps_spec (p : Nat → Rat) (opened : Rat) (rs : List MonitorReading) (m : Monitor) :
    MonitorTrace opened m.before rs (monitorSteps p opened rs m) ∧
      ∀ m', (monitorLoop p rs m).2 = some m' →
        m'.lines = m.lines ++ (monitorRecords (monitorSteps p opened rs m)).map fun record =>
          monitorLine p record.1.reading record.2 := by
  induction rs generalizing opened m with
  | nil => exact ⟨.stop opened m.before [], by simp [monitorLoop, monitorSteps, monitorRecords]⟩
  | cons r rs ih =>
      rw [monitorSteps, monitorLoop]
      dsimp only
      generalize readAndCheck p r m.after m.streams = out
      obtain ⟨ok, after, streams⟩ := out
      dsimp only
      by_cases stop : ok ≤ 0
      · rw [if_pos stop, if_pos stop]
        exact ⟨.stop opened m.before (r :: rs), by simp⟩
      · rw [if_neg stop, if_neg stop, monitorWrite_eq p opened]
        cases h : (MonitorStep.mk r m.before after opened).delta with
        | none =>
            obtain ⟨trace, lines⟩ := ih opened { m with after, streams }
            refine ⟨?_, ?_⟩
            · simpa [MonitorStep.reopened, h] using .skip h trace
            · simpa [MonitorStep.reopened, h, monitorRecords] using lines
        | some delta =>
            obtain ⟨trace, lines⟩ := ih r.clockAfter
              { m with
                before := after, after, streams, lines := m.lines ++ [monitorLine p r delta] }
            refine ⟨?_, ?_⟩
            · simpa [MonitorStep.reopened, h] using .record h trace
            · simpa [MonitorStep.reopened, h, monitorRecords] using lines

/-! ## Windows and durations -/

/-- The durations are the windows exactly when no skipped iteration before a record took time. -/
theorem MonitorTrace.opened_iff {opened now : Rat} {before : PidStatsInfo}
    {rs : List MonitorReading} {run : List MonitorStep} (h : MonitorTrace opened before rs run)
    (clock : ClockGoesOn now rs) (past : opened ≤ now) :
    (∀ record ∈ monitorRecords run, record.1.opened = record.1.reading.clockBefore) ↔
      (monitorRecords run ≠ [] → opened = now) ∧ IdleSkips run := by
  induction h generalizing now with
  | stop opened before rs => simp [monitorRecords, IdleSkips]
  | @skip opened before after r rs rest skipped more ih =>
      obtain ⟨same, later, clock⟩ := clock
      have records : monitorRecords (⟨r, before, after, opened⟩ :: rest) = monitorRecords rest := by
        simp [monitorRecords, skipped]
      have between : opened = r.clockAfter ↔ opened = now ∧ r.clockAfter = r.clockBefore := by
        rw [same]
        constructor
        · rintro rfl
          exact ⟨le_antisymm past later, le_antisymm past later⟩
        · rintro ⟨rfl, still⟩
          exact still.symm
      rw [records, ih clock (past.trans later), IdleSkips, between]
      simp only [skipped, forall_const]
      tauto
  | @record opened before after delta r rs rest written more ih =>
      obtain ⟨same, later, clock⟩ := clock
      have records : monitorRecords (⟨r, before, after, opened⟩ :: rest) =
          (⟨r, before, after, opened⟩, delta) :: monitorRecords rest := by
        simp [monitorRecords, written]
      rw [records, List.forall_mem_cons, ih clock le_rfl, IdleSkips, same]
      simp [written]

/-- The windows lead from one record to the next. -/
theorem MonitorTrace.windows {opened : Rat} {before : PidStatsInfo} {rs : List MonitorReading}
    {run : List MonitorStep} (h : MonitorTrace opened before rs run) :
    (monitorRecords run).map (fun record => record.1.window) =
      steps (fun p q => q - p) opened
        ((monitorRecords run).map fun record => record.1.reading.clockAfter) := by
  induction h with
  | stop opened before rs => rfl
  | skip skipped more ih => simpa [monitorRecords, skipped] using ih
  | record written more ih =>
      simp only [monitorRecords, List.filterMap_cons, written, Option.map_some, List.map_cons,
        steps] at ih ⊢
      rw [ih]
      rfl

/-- The increments lead from the counters of one record to those of the next. -/
theorem MonitorTrace.deltas {K : Type} {opened : Rat} {before : PidStatsInfo}
    {rs : List MonitorReading} {run : List MonitorStep} (h : MonitorTrace opened before rs run)
    (f : PidStatsInfo → K) (amount : PidStatsInfo → PidStatsInfo → K)
    (spec : ∀ {before after : PidStatsInfo} {out : PidStatsInfo × PidStatsInfo},
      calcualteAndUpdate before after = some out → f out.1 = amount before after) :
    (monitorRecords run).map (fun record => f record.2) =
      steps amount before ((monitorRecords run).map fun record => record.1.after) := by
  induction h with
  | stop opened before rs => rfl
  | skip skipped more ih => simpa [monitorRecords, skipped] using ih
  | record written more ih =>
      obtain ⟨out, hout, rfl⟩ := Option.map_eq_some_iff.mp written
      simp only [monitorRecords, List.filterMap_cons, written, Option.map_some, List.map_cons,
        steps] at ih ⊢
      rw [ih, spec hout]

/-- The counters of a snapshot. -/
def monitorCounters : List (PidStatsInfo → BitVec 64) :=
  [PidStatsInfo.sysItv, PidStatsInfo.sysRuntime, PidStatsInfo.pidRuntime,
    PidStatsInfo.pidReadBytes, PidStatsInfo.pidWriteBytes, PidStatsInfo.pidCancelledWrites,
    PidStatsInfo.pidL2CacheMisses]

theorem calcualteAndUpdate_counter {counter : PidStatsInfo → BitVec 64}
    (known : counter ∈ monitorCounters) {before after : PidStatsInfo}
    {out : PidStatsInfo × PidStatsInfo} (h : calcualteAndUpdate before after = some out) :
    counter out.1 = counter after - counter before := by
  unfold calcualteAndUpdate at h
  split at h
  · cases h
  · split at h
    · cases h
    · cases h
      simp only [monitorCounters, List.mem_cons, List.not_mem_nil, or_false] at known
      rcases known with rfl | rfl | rfl | rfl | rfl | rfl | rfl <;> rfl

/-- The counters that the last record leaves behind. -/
def lastCounters (first : PidStatsInfo) (records : List (MonitorStep × PidStatsInfo)) :
    PidStatsInfo :=
  (records.map fun record => record.1.after).getLastD first

/-- Every record averages over the window of its counters, and the windows add up to the time from
the first counters to the last record, the increments to what was counted in it. -/
structure WindowsCovered (start : Rat) (first : PidStatsInfo)
    (records : List (MonitorStep × PidStatsInfo)) : Prop where
  window : ∀ record ∈ records, record.1.duration = record.1.window
  durations : (records.map fun record => record.1.duration).sum =
    (records.map fun record => record.1.reading.clockAfter).getLastD start - start
  counters : ∀ counter ∈ monitorCounters, (records.map fun record => counter record.2).sum =
    counter (lastCounters first records) - counter first
  energy : (∀ record ∈ records, record.1.after.sysCpuEnergy.isSome) → first.sysCpuEnergy.isSome →
    (records.map fun record => record.2.sysCpuEnergy.getD 0).sum =
      (lastCounters first records).sysCpuEnergy.getD 0 - first.sysCpuEnergy.getD 0

/-- The increment of the energy, 0 where one is not a number. -/
def energyIncrement (before after : PidStatsInfo) : Rat :=
  (do return (← after.sysCpuEnergy) - (← before.sysCpuEnergy) : Option Rat).getD 0

theorem calcualteAndUpdate_energy {before after : PidStatsInfo} {out : PidStatsInfo × PidStatsInfo}
    (h : calcualteAndUpdate before after = some out) :
    out.1.sysCpuEnergy.getD 0 = energyIncrement before after := by
  unfold calcualteAndUpdate at h
  split at h
  · cases h
  · split at h
    · cases h
    · cases h
      rfl

theorem energyIncrement_eq (before after : PidStatsInfo)
    (known : before.sysCpuEnergy.isSome ∧ after.sysCpuEnergy.isSome) :
    energyIncrement before after = after.sysCpuEnergy.getD 0 - before.sysCpuEnergy.getD 0 := by
  obtain ⟨x, hx⟩ := Option.isSome_iff_exists.mp known.1
  obtain ⟨y, hy⟩ := Option.isSome_iff_exists.mp known.2
  simp [energyIncrement, hx, hy]

theorem isChain_of_forall {α : Type} {P : α → Prop} {p : α} {qs : List α} (first : P p)
    (each : ∀ q ∈ qs, P q) : List.IsChain (fun p q => P p ∧ P q) (p :: qs) := by
  induction qs generalizing p with
  | nil => exact .singleton p
  | cons q qs ih =>
      have hq := each q (by simp)
      exact List.isChain_cons_cons.mpr ⟨⟨first, hq⟩, ih hq fun other h => each other (by simp [h])⟩

/-- A run covers its windows as soon as the durations are the windows. -/
theorem MonitorTrace.covered {opened : Rat} {first : PidStatsInfo} {rs : List MonitorReading}
    {run : List MonitorStep} (h : MonitorTrace opened first rs run)
    (same : ∀ record ∈ monitorRecords run, record.1.duration = record.1.window) :
    WindowsCovered opened first (monitorRecords run) where
  window := same
  durations := by
    rw [List.map_congr_left same, h.windows]
    exact sum_steps id (fun _ _ _ => rfl) (isChain_of_forall trivial fun _ _ => trivial)
  counters := by
    intro counter known
    rw [h.deltas counter (fun p q => counter q - counter p) (calcualteAndUpdate_counter known)]
    exact sum_steps counter (fun _ _ _ => rfl) (isChain_of_forall trivial fun _ _ => trivial)
  energy := by
    intro each start
    have chain : List.IsChain
        (fun p q : PidStatsInfo => p.sysCpuEnergy.isSome ∧ q.sysCpuEnergy.isSome)
        (first :: (monitorRecords run).map fun record => record.1.after) :=
      isChain_of_forall start (List.forall_mem_map.mpr each)
    rw [h.deltas (fun delta => delta.sysCpuEnergy.getD 0) energyIncrement calcualteAndUpdate_energy]
    exact sum_steps (fun info => info.sysCpuEnergy.getD 0) energyIncrement_eq chain

/-- The lines of the file are the records, and they cover their windows exactly when no skipped
iteration before a record took time. -/
theorem monitorLoop_windows_iff (p : Nat → Rat) {start : Rat} {rs : List MonitorReading}
    (clock : ClockGoesOn start rs) (m : Monitor) :
    (∀ m', (monitorLoop p rs m).2 = some m' →
      m'.lines = m.lines ++ (monitorRecords (monitorSteps p start rs m)).map fun record =>
        monitorLine p record.1.reading record.2) ∧
      (WindowsCovered start m.before (monitorRecords (monitorSteps p start rs m)) ↔
        IdleSkips (monitorSteps p start rs m)) := by
  obtain ⟨trace, lines⟩ := monitorSteps_spec p start rs m
  have opened := trace.opened_iff clock le_rfl
  have same : ∀ s : MonitorStep, s.duration = s.window ↔ s.opened = s.reading.clockBefore := by
    intro s
    rw [MonitorStep.duration, MonitorStep.window, sub_right_inj, eq_comm]
  refine ⟨lines, fun covered => (opened.mp ?_).2, fun idle => trace.covered ?_⟩
  · exact fun record inside => (same record.1).mp (covered.window record inside)
  · exact fun record inside =>
      (same record.1).mpr (opened.mpr ⟨fun _ => rfl, idle⟩ record inside)

/-! ## Two rounds -/

/-- The counters of a system at work, after some time. -/
def workedFor (time : BitVec 64) : PidStatsInfo :=
  ⟨time, time, time, 0, 0, 0, 1, some 0⟩

/-- A round of one second that finds all files, without CPU statistics for single processors. -/
def workRound (clock : Rat) (time : BitVec 64) : MonitorReading where
  clockBefore := clock
  clockAfter := clock + 1
  pidStat := some (time, 0)
  pidIo := some ⟨none, none, none⟩
  stat := some ⟨time, 0, 0, 0, 0, 0, 0, 0⟩
  sysfs := ⟨true, some []⟩
  perfCount := 1

def workMonitor : Monitor := ⟨workedFor 1, workedFor 1, ⟨8, 0⟩, []⟩

theorem workRounds_clock (first second : BitVec 64) :
    ClockGoesOn 0 [workRound 0 first, workRound 1 second] := by
  simp [ClockGoesOn, workRound]

theorem monitorLoop_windows_iff_worked :
    WindowsCovered 0 (workedFor 1)
      (monitorRecords (monitorSteps (fun _ => 1) 0 [workRound 0 2, workRound 1 3] workMonitor)) :=
  (monitorLoop_windows_iff (fun _ => 1) (workRounds_clock 2 3) workMonitor).2.mpr
    ⟨by decide +kernel, by decide +kernel, trivial⟩

/-- A round in which the counters stand still is left out of the duration of the next record. -/
theorem monitorLoop_windows_lost :
    ¬ ∀ (p : Nat → Rat) (start : Rat) (rs : List MonitorReading) (m : Monitor),
        ClockGoesOn start rs →
          WindowsCovered start m.before (monitorRecords (monitorSteps p start rs m)) := by
  intro claim
  have covered := claim (fun _ => 1) 0 [workRound 0 1, workRound 1 2] workMonitor
    (workRounds_clock 1 2)
  have durations := covered.durations
  revert durations
  decide +kernel

end PhantomMonitor
