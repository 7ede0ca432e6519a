import PhantomMonitor.Api.DiskMonitor
import PhantomMonitor.Api.MfSend
import PhantomMonitor.Api.PowerMonitor
import PhantomMonitor.Api.ResourcesMonitor
import PhantomMonitor.Misc.Json

/-!
# The data files of the API

The loop of `resources_monitor`, and what the three monitors and the user metrics print into the
files of the data directory. A line has a timestamp and a number of values, in one format for all of
them.

`printf` writes `nan` or `inf`, with or without a minus sign, for a float that is no number;
`NotNumbers` says what it writes for which value of a line.
-/

namespace PhantomMonitor

open CText

/-! ## `resources_monitor` -/

/-- What an iteration meets: the four files (`none` for one that cannot be opened), the variables
that are not initialized, and the clock. -/
structure ResourcesTurn where
  pidFile : Option CText
  cpuFile : Option CText
  cpuVars : CpuLocals
  statusFile : Option CText
  meminfoFile : Option CText
  memoryVars : MemoryLocals
  clock : Rat

/-- A line of the data file (`resources_monitor.c:37-40`). -/
structure ResourcesLine where
  timestampMs : Rat
  stats : ResourcesStats
  deriving DecidableEq

/-- The loop (`resources_monitor.c:30-41`), with one reading for each time that `running` is found
set; `none` when the process exits. -/
def resourcesLoop :
    List ResourcesTurn → ResourcesCpu → Except Fault (Option (List ResourcesLine))
  | [], _ => .ok (some [])
  | r :: rs, before => do
      match ← resourcesStatCpu r.pidFile r.cpuFile r.cpuVars with
      | none => return none
      | some after =>
          match resourcesStatAllAndCalculate r.statusFile r.meminfoFile r.memoryVars
            before after with
          | none => return none
          | some (stats, before) => do
              let lines ← resourcesLoop rs before
              return lines.map fun lines => ⟨r.clock * 1000, stats⟩ :: lines

/-- `resources_monitor` (`resources_monitor.c:13-45`): `fileOk` says whether the data file can be
opened, and the call before the loop reads the first two files of `first`. The lines that it
appends; `none` when the process exits. -/
def resourcesMonitor (fileOk : Bool) (first : ResourcesTurn) (rs : List ResourcesTurn) :
    Except Fault (Option (List ResourcesLine)) :=
  if fileOk then do
    match ← resourcesStatCpu first.pidFile first.cpuFile first.cpuVars with
    | none => return none
    | some before => resourcesLoop rs before
  else .ok none

/-! ## Lines -/

/-- The text of a line, without the newline: the timestamp, and `, "%s":` with the text of the value
for each value. -/
def recordText (timestamp : CText) (values : List (CText × CText)) : CText :=
  "\"local_timestamp\":\"".toList ++ timestamp ++ ['"'] ++
    values.flatMap fun value => ", \"".toList ++ value.1 ++ "\":".toList ++ value.2

/-- What `%.3f` writes for the values of a line that are no numbers. -/
structure NotNumbers where
  text : CText → CText
  listed : ∀ name, text name ∈ Json.notNumberTexts

/-- A value of a line that is printed with `%.3f`. -/
def floatField (special : NotNumbers) (name : CText) : Option Rat → Json.Field
  | some q => ⟨name, fixed 3 q, some (.num (Decimal.rounded 3 q))⟩
  | none => ⟨name, special.text name, none⟩

/-- A value of a line that is printed with `%llu`. -/
def counterField (name : CText) (n : BitVec 64) : Json.Field :=
  ⟨name, Nat.toDigits 10 n.toNat, some (.num n.toNat)⟩

/-- A line of a data file: the timestamp as it is printed, and the values. -/
structure DataRecord where
  timestamp : CText
  values : List Json.Field

def DataRecord.text (r : DataRecord) : CText :=
  recordText r.timestamp (r.values.map fun value => (value.name, value.text))

/-- The content of a data file. -/
def dataText (records : List DataRecord) : CText := unlines (records.map DataRecord.text)

/-- `resources_monitor.c:37-40`. -/
def ResourcesLine.record (special : NotNumbers) (l : ResourcesLine) : DataRecord :=
  ⟨fixed 1 l.timestampMs,
    [floatField special "CPU_usage_rate".toList l.stats.cpuUsageRate,
      floatField special "RAM_usage_rate".toList l.stats.ramUsageRate,
      floatField special "swap_usage_rate".toList l.stats.swapUsageRate]⟩

/-- `disk_monitor.c:45-48`. -/
def DiskLine.record (special : NotNumbers) (l : DiskLine) : DataRecord :=
  ⟨fixed 1 l.timestampMs,
    [counterField "disk_read".toList l.diskRead, counterField "disk_write".toList l.diskWrite,
      floatField special "disk_throughput".toList l.diskThroughput]⟩

/-- `power_monitor.c:68-72`. -/
def MonitorLine.record (special : NotNumbers) (l : MonitorLine) : DataRecord :=
  ⟨fixed 1 l.timestampMs,
    [floatField special "total_CPU_power".toList l.sysCpuPower,
      floatField special "process_CPU_power".toList l.pidCpuPower,
      floatField special "process_mem_power".toList l.pidMemPower,
      floatField special "process_disk_power".toList l.pidDiskPower]⟩

/-- The record of a user metric, whose value shows what its text is as JSON. -/
def userDataRecord (timestamp metricName value : CText) (shown : Option Json) : DataRecord :=
  ⟨timestamp, [⟨metricName, value, shown⟩]⟩

end PhantomMonitor
