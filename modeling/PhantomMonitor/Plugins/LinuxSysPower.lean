import PhantomMonitor.Plugins.PluginUtils
import PhantomMonitor.Plugins.ProcStats

/-!
# The Linux_sys_power plugin

`mf_Linux_sys_power_connector.c`: the power of CPU, wireless card, memory and disks, estimated from
the CPU frequencies, the network bytes, the memory accesses and the I/O bytes between two samples.

What the readers find and the clock are the environment, one reading for each call, with the number
of CPUs for the initialization. Numbers are exact; a power over no time at all is an infinity or no
number. The plugin has five events, so it stays within the table. The descriptors of the perf
counters have an array of twenty, and there is one for each CPU.
-/

namespace PhantomMonitor

open CText

/-- `Linux_sys_power_metrics`, in the order of the flags. -/
inductive PowerMetric where
  | cpu
  | net
  | ram
  | io
  | all
  deriving DecidableEq, Repr

namespace PowerMetric

/-- The table of metrics (`mf_Linux_sys_power_connector.c:81-83`). -/
def table : List PowerMetric := [cpu, net, ram, io, all]

def name : PowerMetric → CText
  | cpu => "estimated_CPU_power".toList
  | net => "estimated_wifi_power".toList
  | ram => "estimated_memory_power".toList
  | io => "estimated_disk_power".toList
  | all => "estimated_total_power".toList

end PowerMetric

/-- The table of the plugin. -/
abbrev PowerMetrics := PluginTable FloatValue

/-- The size of `fd` (`mf_Linux_sys_power_connector.c:86`). -/
def maxPerfFds : Nat := 20

/-- The file's variables. `flag` has one bit for each metric. -/
structure PowerState where
  flag : PowerMetric → Bool
  beforeTime : Rat
  afterTime : Rat
  cpuEnergyBefore : Rat
  cpuEnergyAfter : Rat
  memaccessBefore : BitVec 64
  memaccessAfter : BitVec 64
  netStatBefore : NetStats
  netStatAfter : NetStats
  ioStatBefore : IoStats
  ioStatAfter : IoStats

/-- The file's variables when the plugin is loaded. -/
def freshPower : PowerState where
  flag := fun _ => false
  beforeTime := 0
  afterTime := 0
  cpuEnergyBefore := 0
  cpuEnergyAfter := 0
  memaccessBefore := 0
  memaccessAfter := 0
  netStatBefore := ⟨0, 0⟩
  netStatAfter := ⟨0, 0⟩
  ioStatBefore := ⟨0, 0⟩
  ioStatAfter := ⟨0, 0⟩

/-- The plugin's table when it is loaded. -/
def blankPower : PowerMetrics := ⟨fun _ => none, fun _ => .num 0, 0⟩

/-- What one call meets. `cpuEnergy` is `none` when `CPU_energy_read` cannot open its files. -/
structure PowerReading where
  clock : Rat
  cpuEnergy : Option Rat
  memaccess : BitVec 64
  net : Option NetStats
  proc : Option ProcDir

/-- `MEMORY_POWER` (`mf_Linux_sys_power_connector.c:38`). -/
def memoryPower : Rat := 32 / 10

/-- `L2CACHE_MISS_LATENCY` (`mf_Linux_sys_power_connector.c:39`). -/
def l2cacheMissLatency : Rat := 209 / 100

/-- `L2CACHE_LINE_SIZE` (`mf_Linux_sys_power_connector.c:40`). -/
def l2cacheLineSize : BitVec 64 := 256

/-- `E_DISK_R_PER_KB` (`mf_Linux_sys_power_connector.c:47`). -/
def eDiskRPerKB : Rat := 2 / 100 * (278 / 100)

/-- `E_DISK_W_PER_KB` (`mf_Linux_sys_power_connector.c:48`). -/
def eDiskWPerKB : Rat := 2 / 100 * (219 / 100)

/-- `E_NET_SND_PER_KB` (`mf_Linux_sys_power_connector.c:57`). -/
def eNetSndPerKB : Rat := 1800 / (1024 * (12330 / 1000))

/-- `E_NET_RCV_PER_KB` (`mf_Linux_sys_power_connector.c:58`). -/
def eNetRcvPerKB : Rat := 1400 / (1024 * (5665 / 1000))

/-- The value of `CPU_energy_read`: 0.0 when it fails. -/
def cpuEnergyValue (energy : Option Rat) : Rat := energy.getD 0

/-- `flag_init` (`mf_Linux_sys_power_connector.c:352-376`). -/
def powerFlagInit (flag : PowerMetric → Bool) (events : List CText) :
    (PowerMetric → Bool) × Nat :=
  flagInit PowerMetric.table PowerMetric.name flag events

/-- The names of the single metrics (`mf_Linux_sys_power_connector.c:157-174`,
`mf_Linux_sys_power_connector.c:178-205`). -/
def powerNames (flag : PowerMetric → Bool) (table : PowerMetrics × Nat) : PowerMetrics × Nat :=
  let table := nameMetric (flag .cpu) PowerMetric.cpu.name table
  let table := nameMetric (flag .net) PowerMetric.net.name table
  let table := nameMetric (flag .ram || flag .io) PowerMetric.ram.name table
  nameMetric (flag .ram || flag .io) PowerMetric.io.name table

/-- `create_perf_stat_counter` (`mf_Linux_sys_power_connector.c:576-596`): a descriptor for each CPU
is stored in `fd`. -/
def createPerfStatCounter (nrCpus : Int) : Except Fault Unit :=
  if nrCpus ≤ maxPerfFds then .ok () else .error .outOfBounds

/-- The first readings (`mf_Linux_sys_power_connector.c:143-154`,
`mf_Linux_sys_power_connector.c:178-205`). -/
def powerFirstRead (r : PowerReading) (st : PowerState) : PowerState :=
  let cpu := st.flag .all || st.flag .cpu
  let net := st.flag .all || st.flag .net
  let io := st.flag .all || st.flag .ram || st.flag .io
  { st with
    cpuEnergyBefore := if cpu then cpuEnergyValue r.cpuEnergy else st.cpuEnergyBefore
    memaccessBefore := if io then r.memaccess else st.memaccessBefore
    netStatBefore := if net then (netStatRead r.net st.netStatBefore).1 else st.netStatBefore
    ioStatBefore := if io then (sysIOStatRead r.proc st.ioStatBefore).1 else st.ioStatBefore }

/-- `mf_Linux_sys_power_init` (`mf_Linux_sys_power_connector.c:128-216`). The perf counters are made
before the memory accesses are read. -/
def mfLinuxSysPowerInit (data : PowerMetrics) (events : List CText) (nrCpus : Int)
    (r : PowerReading) (st : PowerState) : Except Fault (Nat × PowerMetrics × PowerState) := do
  let (flag, ok) := powerFlagInit st.flag events
  let st := { st with flag }
  if ok = 0 then return (0, data, st)
  else
    let (data, i) := powerNames flag (nameMetric (flag .all) PowerMetric.all.name (data, 0))
    if flag .all || flag .ram || flag .io then createPerfStatCounter nrCpus
    return (1, { data with numEvents := i }, { powerFirstRead r st with beforeTime := r.clock })

/-! ## Energies -/

/-- The bytes sent and received between two readings (`mf_Linux_sys_power_connector.c:483-484`). -/
def netIncrement (before after : NetStats) : NetStats :=
  ⟨after.rcvBytes - before.rcvBytes, after.sendBytes - before.sendBytes⟩

/-- `sys_net_energy` (`mf_Linux_sys_power_connector.c:479-493`): the energy and the statistics
that it leaves in `stats_before`. -/
def sysNetEnergy (before after : NetStats) : Rat × NetStats :=
  let bytes := netIncrement before after
  ((bytes.rcvBytes.toNat * eNetRcvPerKB + bytes.sendBytes.toNat * eNetSndPerKB) / 1024, after)

/-- The bytes read and written between two readings (`mf_Linux_sys_power_connector.c:500-501`). -/
def diskIncrement (before after : IoStats) : IoStats :=
  ⟨after.readBytes - before.readBytes, after.writeBytes - before.writeBytes⟩

/-- `sys_disk_energy` (`mf_Linux_sys_power_connector.c:496-510`): the energy and the statistics
that it leaves in `stats_before`. -/
def sysDiskEnergy (before after : IoStats) : Rat × IoStats :=
  let bytes := diskIncrement before after
  ((bytes.readBytes.toNat * eDiskRPerKB + bytes.writeBytes.toNat * eDiskWPerKB) / 1024, after)

/-- `emem` (`mf_Linux_sys_power_connector.c:251-252`, `mf_Linux_sys_power_connector.c:297-298`). -/
def memEnergy (st : PowerState) : Rat :=
  (((st.ioStatAfter.readBytes + st.ioStatAfter.writeBytes - st.ioStatBefore.readBytes -
        st.ioStatBefore.writeBytes) / l2cacheLineSize +
      (st.memaccessAfter - st.memaccessBefore)).toNat : Rat) *
    l2cacheMissLatency * memoryPower * (1 / 10 ^ 6)

/-! ## Sampling -/

/-- The variables of `mf_Linux_sys_power_sample`. -/
structure PowerSample where
  st : PowerState
  values : Nat → FloatValue
  i : Nat

/-- `data->values[i] = value; i++`. -/
def PowerSample.put (s : PowerSample) (value : FloatValue) : PowerSample :=
  { s with values := Function.update s.values s.i value, i := s.i + 1 }

/-- The branch of the total (`mf_Linux_sys_power_connector.c:234-277`). -/
def samplePowerAll (r : PowerReading) (interval : Rat) (s : PowerSample) : PowerSample :=
  let st := { s.st with
    cpuEnergyAfter := cpuEnergyValue r.cpuEnergy
    memaccessAfter := r.memaccess
    netStatAfter := (netStatRead r.net s.st.netStatAfter).1
    ioStatAfter := (sysIOStatRead r.proc s.st.ioStatAfter).1 }
  let ecpu := st.cpuEnergyAfter - st.cpuEnergyBefore
  let st := { st with cpuEnergyBefore := st.cpuEnergyAfter }
  let emem := memEnergy st
  let st := { st with memaccessBefore := st.memaccessAfter }
  let (enet, netStatBefore) := sysNetEnergy st.netStatBefore st.netStatAfter
  let (edisk, ioStatBefore) := sysDiskEnergy st.ioStatBefore st.ioStatAfter
  let s := { s with st := { st with netStatBefore, ioStatBefore } }
  let s := s.put (.quotient (ecpu + emem + enet + edisk) interval)
  let s := if st.flag .cpu then s.put (.quotient ecpu interval) else s
  let s := if st.flag .net then s.put (.quotient enet interval) else s
  if st.flag .ram || st.flag .io then
    (s.put (.quotient emem interval)).put (.quotient edisk interval)
  else s

/-- The CPU alone (`mf_Linux_sys_power_connector.c:279-285`). -/
def samplePowerCpu (r : PowerReading) (interval : Rat) (s : PowerSample) : PowerSample :=
  if s.st.flag .cpu then
    let st := { s.st with cpuEnergyAfter := cpuEnergyValue r.cpuEnergy }
    let ecpu := st.cpuEnergyAfter - st.cpuEnergyBefore
    let st := { st with cpuEnergyBefore := st.cpuEnergyAfter }
    PowerSample.put { s with st } (.quotient ecpu interval)
  else s

/-- The wireless card alone (`mf_Linux_sys_power_connector.c:286-292`). -/
def samplePowerNet (r : PowerReading) (interval : Rat) (s : PowerSample) : PowerSample :=
  if s.st.flag .net then
    let st := { s.st with netStatAfter := (netStatRead r.net s.st.netStatAfter).1 }
    let (enet, netStatBefore) := sysNetEnergy st.netStatBefore st.netStatAfter
    PowerSample.put { s with st := { st with netStatBefore } } (.quotient enet interval)
  else s

/-- Memory and disks (`mf_Linux_sys_power_connector.c:293-307`). -/
def samplePowerIo (r : PowerReading) (interval : Rat) (s : PowerSample) : PowerSample :=
  if s.st.flag .ram || s.st.flag .io then
    let st := { s.st with
      memaccessAfter := r.memaccess
      ioStatAfter := (sysIOStatRead r.proc s.st.ioStatAfter).1 }
    let emem := memEnergy st
    let st := { st with memaccessBefore := st.memaccessAfter }
    let s := PowerSample.put { s with st } (.quotient emem interval)
    let (edisk, ioStatBefore) := sysDiskEnergy st.ioStatBefore st.ioStatAfter
    PowerSample.put { s with st := { st with ioStatBefore } } (.quotient edisk interval)
  else s

/-- `mf_Linux_sys_power_sample` (`mf_Linux_sys_power_connector.c:222-312`). -/
def mfLinuxSysPowerSample (data : PowerMetrics) (r : PowerReading) (st : PowerState) :
    PowerMetrics × PowerState :=
  let st := { st with afterTime := r.clock }
  let interval := st.afterTime - st.beforeTime
  let s : PowerSample := ⟨st, data.values, 0⟩
  let s :=
    if st.flag .all then samplePowerAll r interval s
    else samplePowerIo r interval (samplePowerNet r interval (samplePowerCpu r interval s))
  ({ data with values := s.values }, { s.st with beforeTime := s.st.afterTime })

/-! ## The JSON text -/

/-- An event that is in the table without having been asked for
(`mf_Linux_sys_power_connector.c:335-341`). -/
def powerIgnored (flag : PowerMetric → Bool) (name : CText) : Bool :=
  (name == PowerMetric.ram.name && !flag .ram) || (name == PowerMetric.io.name && !flag .io)

/-- The entry of the table at an index, as far as it goes into the text
(`mf_Linux_sys_power_connector.c:333-347`). -/
def powerJsonEntry (data : PowerMetrics) (flag : PowerMetric → Bool) (i : Nat) :
    Option (CText × FloatValue) :=
  match data.events i with
  | none => none
  | some name =>
      if powerIgnored flag name then none
      else if (data.values i).isNonneg then some (name, data.values i) else none

/-- The metrics of the text. -/
def powerJsonEntries (data : PowerMetrics) (flag : PowerMetric → Bool) :
    List (CText × FloatValue) :=
  (List.range data.numEvents).filterMap (powerJsonEntry data flag)

/-- `mf_Linux_sys_power_to_json` (`mf_Linux_sys_power_connector.c:319-348`). -/
def mfLinuxSysPowerToJson (data : PowerMetrics) (st : PowerState) : CText :=
  metricsTextWith (FloatValue.fixed 3) "Linux_sys_power".toList (st.afterTime * 1000)
    (powerJsonEntries data st.flag)

end PhantomMonitor
