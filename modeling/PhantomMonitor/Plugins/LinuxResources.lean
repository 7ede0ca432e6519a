import PhantomMonitor.Plugins.PluginUtils
import PhantomMonitor.Plugins.ProcStats

/-!
# The Linux_resources plugin

`mf_Linux_resources_connector.c`: usage rates of CPU, RAM and swap and the throughput of network
and disks, each from the difference of two readings of counters.

The files under `/proc` and the clock are the environment: a reading says what each reader finds.
Floating-point arithmetic is exact. The plugin has five events, so it stays within the table.
-/

namespace PhantomMonitor

open CText

/-- `Linux_resources_metrics`, in the order of the flags. -/
inductive ResourcesMetric where
  | cpu
  | ram
  | swap
  | net
  | io
  deriving DecidableEq, Repr

namespace ResourcesMetric

/-- The table of metrics (`mf_Linux_resources_connector.c:48-50`). -/
def all : List ResourcesMetric := [cpu, ram, swap, net, io]

def name : ResourcesMetric → CText
  | cpu => "CPU_usage_rate".toList
  | ram => "RAM_usage_rate".toList
  | swap => "swap_usage_rate".toList
  | net => "net_throughput".toList
  | io => "io_throughput".toList

end ResourcesMetric

/-- `struct cpu_stats`. -/
structure CpuStats where
  totalCpuTime : BitVec 64
  totalIdleTime : BitVec 64
  deriving DecidableEq, Repr

/-- The file's variables. `flag` has one bit for each metric. -/
structure ResourcesState where
  flag : ResourcesMetric → Bool
  beforeTime : Rat
  afterTime : Rat
  cpuStatBefore : CpuStats
  cpuStatAfter : CpuStats
  netStatBefore : NetStats
  netStatAfter : NetStats
  ioStatBefore : IoStats
  ioStatAfter : IoStats

/-- What one call meets. A file that cannot be opened is `none`; `/proc/stat` may also be empty. -/
structure ResourcesReading where
  clock : Rat
  cpu : Option (Option CpuTimes)
  ramUsage : Rat
  swapUsage : Rat
  net : Option NetStats
  proc : Option ProcDir

/-- `CPU_stat_read` (`mf_Linux_resources_connector.c:265-295`). -/
def cpuStatRead (file : Option (Option CpuTimes)) (cpuInfo : CpuStats) : CpuStats × Nat :=
  match file with
  | none => (cpuInfo, 0)
  | some none => (⟨0, 0⟩, 1)
  | some (some t) =>
      (⟨t.user + t.nice + t.sys + t.idle + t.iowait + t.irq + t.softirq + t.steal,
        t.idle + t.iowait⟩, 1)

/-- `flag_init` (`mf_Linux_resources_connector.c:238-262`). -/
def resourcesFlagInit (flag : ResourcesMetric → Bool) (events : List CText) :
    (ResourcesMetric → Bool) × Nat :=
  flagInit ResourcesMetric.all ResourcesMetric.name flag events

/-- `mf_Linux_resources_init` (`mf_Linux_resources_connector.c:94-140`). -/
def mfLinuxResourcesInit (data : PluginMetrics) (events : List CText) (r : ResourcesReading)
    (st : ResourcesState) : Nat × PluginMetrics × ResourcesState :=
  let (flag, ok) := resourcesFlagInit st.flag events
  let st := { st with flag }
  if ok = 0 then (0, data, st)
  else
    let (data, i) :=
      ResourcesMetric.all.foldl (fun table m => nameMetric (flag m) m.name table) (data, 0)
    (1, { data with numEvents := i }, { st with
      beforeTime := r.clock
      cpuStatBefore :=
        if flag .cpu then (cpuStatRead r.cpu st.cpuStatBefore).1 else st.cpuStatBefore
      netStatBefore :=
        if flag .net then (netStatRead r.net st.netStatBefore).1 else st.netStatBefore
      ioStatBefore :=
        if flag .io then (sysIOStatRead r.proc st.ioStatBefore).1 else st.ioStatBefore })

/-- The variables of `mf_Linux_resources_sample`. -/
structure ResourcesSample where
  st : ResourcesState
  values : Nat → Rat
  i : Nat

/-- The share of the time that was not idle, in percent
(`mf_Linux_resources_connector.c:158-159`). -/
def cpuUsageRate (before after : CpuStats) : Rat :=
  (((after.totalCpuTime - before.totalCpuTime) -
      (after.totalIdleTime - before.totalIdleTime)).toNat : Rat) * 100 /
    (after.totalCpuTime - before.totalCpuTime).toNat

/-- `total_bytes` of the network (`mf_Linux_resources_connector.c:177-178`). -/
def netBytes (before after : NetStats) : BitVec 64 :=
  (after.rcvBytes - before.rcvBytes) + (after.sendBytes - before.sendBytes)

/-- `total_bytes` of the disks (`mf_Linux_resources_connector.c:191-192`). -/
def ioBytes (before after : IoStats) : BitVec 64 :=
  (after.readBytes - before.readBytes) + (after.writeBytes - before.writeBytes)

/-- The CPU (`mf_Linux_resources_connector.c:155-166`). -/
def sampleCpu (r : ResourcesReading) (s : ResourcesSample) : ResourcesSample :=
  if s.st.flag .cpu then
    let st := { s.st with cpuStatAfter := (cpuStatRead r.cpu s.st.cpuStatAfter).1 }
    if st.cpuStatBefore.totalCpuTime < st.cpuStatAfter.totalCpuTime then
      { st := { st with cpuStatBefore := st.cpuStatAfter }
        values := Function.update s.values s.i (cpuUsageRate st.cpuStatBefore st.cpuStatAfter)
        i := s.i + 1 }
    else { s with st, i := s.i + 1 }
  else s

/-- A rate that is read directly (`mf_Linux_resources_connector.c:167-174`). -/
def sampleRate (m : ResourcesMetric) (rate : Rat) (s : ResourcesSample) : ResourcesSample :=
  if s.st.flag m then { s with values := Function.update s.values s.i rate, i := s.i + 1 } else s

/-- The network (`mf_Linux_resources_connector.c:175-188`). -/
def sampleNet (r : ResourcesReading) (interval : Rat) (s : ResourcesSample) : ResourcesSample :=
  if s.st.flag .net then
    let st := { s.st with netStatAfter := (netStatRead r.net s.st.netStatAfter).1 }
    let totalBytes := netBytes st.netStatBefore st.netStatAfter
    if 0 < totalBytes.toNat then
      { st := { st with netStatBefore := st.netStatAfter }
        values := Function.update s.values s.i (totalBytes.toNat / interval)
        i := s.i + 1 }
    else { s with st, i := s.i + 1 }
  else s

/-- The disks (`mf_Linux_resources_connector.c:189-202`). -/
def sampleIo (r : ResourcesReading) (interval : Rat) (s : ResourcesSample) : ResourcesSample :=
  if s.st.flag .io then
    let st := { s.st with ioStatAfter := (sysIOStatRead r.proc s.st.ioStatAfter).1 }
    let totalBytes := ioBytes st.ioStatBefore st.ioStatAfter
    if 0 < totalBytes.toNat then
      { st := { st with ioStatBefore := st.ioStatAfter }
        values := Function.update s.values s.i (totalBytes.toNat / interval)
        i := s.i + 1 }
    else { s with st, i := s.i + 1 }
  else s

/-- `mf_Linux_resources_sample` (`mf_Linux_resources_connector.c:146-207`). -/
def mfLinuxResourcesSample (data : PluginMetrics) (r : ResourcesReading) (st : ResourcesState) :
    PluginMetrics × ResourcesState :=
  let st := { st with afterTime := r.clock }
  let interval := st.afterTime - st.beforeTime
  let s := sampleCpu r ⟨st, data.values, 0⟩
  let s := sampleRate .ram r.ramUsage s
  let s := sampleRate .swap r.swapUsage s
  let s := sampleNet r interval s
  let s := sampleIo r interval s
  ({ data with values := s.values }, { s.st with beforeTime := s.st.afterTime })

/-! ## The JSON text -/

/-- The entry of the table at an index, unless its value is negative
(`mf_Linux_resources_connector.c:229-234`). -/
def resourcesJsonEntry (data : PluginMetrics) (i : Nat) : Option (CText × Rat) :=
  match data.events i with
  | none => none
  | some name => if 0 ≤ data.values i then some (name, data.values i) else none

/-- The metrics of the text. -/
def resourcesJsonEntries (data : PluginMetrics) : List (CText × Rat) :=
  (List.range data.numEvents).filterMap (resourcesJsonEntry data)

/-- `mf_Linux_resources_to_json` (`mf_Linux_resources_connector.c:214-235`). -/
def mfLinuxResourcesToJson (data : PluginMetrics) (st : ResourcesState) : CText :=
  metricsText "Linux_resources".toList (st.afterTime * 1000) (resourcesJsonEntries data)

end PhantomMonitor
