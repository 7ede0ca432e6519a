import PhantomMonitor.Api.CpuFreq
import PhantomMonitor.Misc.FloatValue
import PhantomMonitor.Plugins.ProcStats

/-!
# `power_monitor`

The power monitor of the API (`power_monitor.c`): in a loop it reads the counters of the monitored
process and of the system and appends the power of the interval to a file. It runs in the process
that it monitors, so its `exit (0)` ends the application.

What a round of readings meets is given as a `MonitorReading`. The number of open streams is part of
the state. Floating-point arithmetic is exact; a float that is not a number is `none`.
-/

namespace PhantomMonitor

open CText

/-- `pid_stats_info` (`power_monitor.h`). -/
structure PidStatsInfo where
  sysItv : BitVec 64
  sysRuntime : BitVec 64
  pidRuntime : BitVec 64
  pidReadBytes : BitVec 64
  pidWriteBytes : BitVec 64
  pidCancelledWrites : BitVec 64
  pidL2CacheMisses : BitVec 64
  sysCpuEnergy : Option Rat
  deriving DecidableEq

/-- The counters found in `/proc/[pid]/io`. -/
structure PidIo where
  readBytes : Option (BitVec 64)
  writeBytes : Option (BitVec 64)
  cancelledWrites : Option (BitVec 64)
  deriving DecidableEq, Repr

/-- What one round meets: the clock before and after, the user and system time in
`/proc/[pid]/stat`, the other files, and the value of the perf counter. A file that cannot be read
is `none`. -/
structure MonitorReading where
  clockBefore : Rat
  clockAfter : Rat
  pidStat : Option (BitVec 64 × BitVec 64)
  pidIo : Option PidIo
  stat : Option CpuTimes
  sysfs : CpuSysfs
  perfCount : BitVec 64

/-- A reader of one file: it opens the file, fills in what it finds, and closes it again. -/
def readStat {α : Type} (file : Option α) (fill : α → PidStatsInfo) (info : PidStatsInfo)
    (s : Streams) : Int × PidStatsInfo × Streams :=
  match file with
  | none => (0, info, s)
  | some found =>
      match s.fopen true with
      | none => (0, info, s)
      | some s => (1, fill found, s.fclose)

/-- `read_pid_time` (`power_monitor.c:145-172`). -/
def readPidTime (r : MonitorReading) (info : PidStatsInfo) (s : Streams) :
    Int × PidStatsInfo × Streams :=
  readStat r.pidStat (fun time => { info with pidRuntime := time.1 + time.2 }) info s

/-- `read_pid_io` (`power_monitor.c:175-201`). A line that is missing leaves its counter alone. -/
def readPidIo (r : MonitorReading) (info : PidStatsInfo) (s : Streams) :
    Int × PidStatsInfo × Streams :=
  readStat r.pidIo (fun io => { info with
    pidReadBytes := io.readBytes.getD info.pidReadBytes
    pidWriteBytes := io.writeBytes.getD info.pidWriteBytes
    pidCancelledWrites := io.cancelledWrites.getD info.pidCancelledWrites }) info s

/-- `read_sys_time` (`power_monitor.c:204-231`). -/
def readSysTime (r : MonitorReading) (info : PidStatsInfo) (s : Streams) :
    Int × PidStatsInfo × Streams :=
  readStat r.stat (fun t => { info with
    sysItv := t.user + t.nice + t.sys + t.idle + t.iowait + t.irq + t.softirq + t.steal
    sysRuntime := t.user + t.sys }) info s

/-- `cpu_freq_stat` (`power_monitor.c:234-300`); `p` is `parameters_value`. -/
def cpuFreqStat (p : Nat → Rat) (r : MonitorReading) (info : PidStatsInfo) (s : Streams) :
    Int × PidStatsInfo × Streams :=
  match cpuFreqScan (p 0) (p 1) r.sysfs s with
  | (none, s) => (0, info, s)
  | (some energy, s) => (1, { info with sysCpuEnergy := energy }, s)

/-- The readers of files in `read_and_check` (`power_monitor.c:104-114`). -/
def readFiles (p : Nat → Rat) (r : MonitorReading) (info : PidStatsInfo) (s : Streams) :
    Int × PidStatsInfo × Streams :=
  let (ok, info, s) := readPidTime r info s
  if ok ≤ 0 then (0, info, s)
  else
    let (ok, info, s) := readPidIo r info s
    if ok ≤ 0 then (0, info, s)
    else
      let (ok, info, s) := readSysTime r info s
      if ok ≤ 0 then (0, info, s)
      else
        let (ok, info, s) := cpuFreqStat p r info s
        if ok ≤ 0 then (0, info, s) else (1, info, s)

/-- `read_and_check` (`power_monitor.c:102-121`). -/
def readAndCheck (p : Nat → Rat) (r : MonitorReading) (info : PidStatsInfo) (s : Streams) :
    Int × PidStatsInfo × Streams :=
  let (ok, info, s) := readFiles p r info s
  if ok ≤ 0 then (0, info, s)
  else
    let info := { info with pidL2CacheMisses := r.perfCount }
    if info.pidL2CacheMisses = 0 then (0, info, s) else (1, info, s)

/-- `calcualte_and_update` (`power_monitor.c:124-142`): the increments and the new `before`; `none`
when the system's counters have not advanced. -/
def calcualteAndUpdate (before after : PidStatsInfo) : Option (PidStatsInfo × PidStatsInfo) :=
  if after.sysItv ≤ before.sysItv then none
  else if after.sysRuntime ≤ before.sysRuntime then none
  else some (
    { sysItv := after.sysItv - before.sysItv
      sysRuntime := after.sysRuntime - before.sysRuntime
      pidRuntime := after.pidRuntime - before.pidRuntime
      pidReadBytes := after.pidReadBytes - before.pidReadBytes
      pidWriteBytes := after.pidWriteBytes - before.pidWriteBytes
      pidCancelledWrites := after.pidCancelledWrites - before.pidCancelledWrites
      pidL2CacheMisses := after.pidL2CacheMisses - before.pidL2CacheMisses
      sysCpuEnergy := do return (← after.sysCpuEnergy) - (← before.sysCpuEnergy) }, after)

/-- A line of the file (`power_monitor.c:68-72`). A float that is infinite or no number is
`none`. -/
structure MonitorLine where
  timestampMs : Rat
  sysCpuPower : Option Rat
  pidCpuPower : Option Rat
  pidMemPower : Option Rat
  pidDiskPower : Option Rat
  deriving DecidableEq

/-- The power of an interval (`power_monitor.c:53-66`). What is computed from a value that is no
number is none either. -/
def monitorLine (p : Nat → Rat) (r : MonitorReading) (delta : PidStatsInfo) : MonitorLine :=
  let duration := r.clockAfter - r.clockBefore
  let sysCpuPower := delta.sysCpuEnergy.bind fun energy =>
    FloatValue.ratio (energy * delta.sysRuntime.toNat) (delta.sysItv.toNat * duration)
  let bytes := delta.pidReadBytes + delta.pidWriteBytes - delta.pidCancelledWrites
  { timestampMs := r.clockAfter * 1000
    sysCpuPower
    pidCpuPower := sysCpuPower.bind fun power =>
      FloatValue.ratio (power * delta.pidRuntime.toNat) delta.sysRuntime.toNat
    pidMemPower := (FloatValue.ratio bytes.toNat (p 4)).bind fun accesses =>
      FloatValue.ratio
        ((accesses + delta.pidL2CacheMisses.toNat) * p 3 * p 2 * (1 / 10 ^ 6)) duration
    pidDiskPower := FloatValue.ratio
      (delta.pidReadBytes.toNat * p 5 +
        (delta.pidWriteBytes - delta.pidCancelledWrites).toNat * p 6) (1024 * duration) }

/-- The variables of the loop, and the lines written so far. -/
structure Monitor where
  before : PidStatsInfo
  after : PidStatsInfo
  streams : Streams
  lines : List MonitorLine

/-- What an iteration did with the streams: their number before and after it, and whether all files
were read. -/
structure Iteration where
  liveBefore : Nat
  liveAfter : Nat
  filesRead : Bool
  deriving DecidableEq, Repr

/-- The rest of an iteration after `read_and_check` (`power_monitor.c:47-72`). -/
def monitorWrite (p : Nat → Rat) (r : MonitorReading) (m : Monitor) : Monitor :=
  match calcualteAndUpdate m.before m.after with
  | none => m
  | some (delta, before) => { m with before, lines := m.lines ++ [monitorLine p r delta] }

/-- The loop (`power_monitor.c:38-73`), with one reading for each time that `running` is found set:
the iterations, and the variables after the last one (`none` when the process exited). -/
def monitorLoop (p : Nat → Rat) : List MonitorReading → Monitor → List Iteration × Option Monitor
  | [], m => ([], some m)
  | r :: rs, m =>
      let (ok, after, streams) := readAndCheck p r m.after m.streams
      let iteration : Iteration :=
        ⟨m.streams.live, streams.live, 0 < (readFiles p r m.after m.streams).1⟩
      if ok ≤ 0 then ([iteration], none)
      else
        let (iterations, stop) := monitorLoop p rs (monitorWrite p r { m with after, streams })
        (iteration :: iterations, stop)

/-- `power_monitor` (`power_monitor.c:14-77`): `fileOk` says whether the data file can be created,
`perfFd` is the descriptor of the perf counter, `before` and `after` are the variables before they
are written, `first` is what the readings before the loop meet. The iterations, and the lines and
open streams at the return (`none` when the process exited). -/
def powerMonitor (p : Nat → Rat) (fileOk : Bool) (perfFd : Int) (before after : PidStatsInfo)
    (first : MonitorReading) (rs : List MonitorReading) (s : Streams) :
    List Iteration × Option (List MonitorLine × Streams) :=
  match s.fopen fileOk with
  | none => ([], none)
  | some s =>
      if perfFd ≤ 0 then ([], none)
      else
        let (ok, before, s) := readAndCheck p first before s
        if ok ≤ 0 then ([], none)
        else
          let (iterations, stop) := monitorLoop p rs ⟨before, after, s, []⟩
          (iterations, stop.map fun m => (m.lines, m.streams.fclose))

end PhantomMonitor
