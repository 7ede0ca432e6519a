import PhantomMonitor.Api.PidFiles

/-!
# Rates of the monitored process

The functions of `resources_monitor.c` that read the CPU time and the memory of the monitored
process and compute its rates. A file that cannot be opened ends the application, by `exit (0)`.
Floating-point arithmetic is exact; a float that is not a number is `none`.
-/

namespace PhantomMonitor

open CText

/-- `resources_cpu` (`resources_monitor.h`). -/
structure ResourcesCpu where
  processCpuTime : BitVec 64
  globalCpuTime : BitVec 64
  deriving DecidableEq, Repr

/-- `resources_stats` (`resources_monitor.h`). -/
structure ResourcesStats where
  cpuUsageRate : Option Rat
  ramUsageRate : Option Rat
  swapUsageRate : Option Rat
  deriving DecidableEq

/-- The variables of `resources_stat_cpu` that are not initialized. -/
structure CpuLocals where
  line : CText
  pidUtime : BitVec 64
  pidStime : BitVec 64
  cpuUser : BitVec 64
  cpuSys : BitVec 64

/-- A buffer after `fgets`. -/
def lineAfter (size : Nat) (content buffer : CText) : CText :=
  match fgets size content with
  | none => buffer
  | some (line, _) => strcpy buffer line

/-- `resources_stat_cpu` (`resources_monitor.c:47-90`), with `/proc/[pid]/stat` and `/proc/stat`;
`none` when it exits. -/
def resourcesStatCpu (pidFile cpuFile : Option CText) (vars : CpuLocals) :
    Except Fault (Option ResourcesCpu) :=
  match pidFile with
  | none => .ok none
  | some pidStat => do
      let (pidUtime, pidStime) ← findPidTimes pidStat vars.pidUtime vars.pidStime
      match cpuFile with
      | none => return none
      | some cpuStat =>
          let line := lineAfter 1024 pidStat vars.line
          let numbers :=
            match fgets 1024 cpuStat with
            | none => []
            | some (first, _) => scanUnsigned 8 (cstr ((strcpy line first).drop 5))
          return some ⟨pidUtime + pidStime,
            numbers[0]?.getD vars.cpuUser + numbers[2]?.getD vars.cpuSys⟩

/-- The variables of `resources_stat_all_and_calculate` that are not initialized. -/
structure MemoryLocals where
  pidVmRSS : BitVec 64
  pidVmSwap : BitVec 64
  memTotal : BitVec 64
  swapTotal : BitVec 64

/-- A variable after a line: the number behind the key if the line starts with it
(`resources_monitor.c:107-109`). -/
def keyedUlong (key line : CText) (value : BitVec 64) : BitVec 64 :=
  if key.isPrefixOf line then sscanfUlong (line.drop key.length) value else value

/-- The loop over a file that looks for two keys (`resources_monitor.c:106-113`,
`resources_monitor.c:124-131`). -/
def keyedPair (key key' content : CText) (values : BitVec 64 × BitVec 64) : BitVec 64 × BitVec 64 :=
  (procLines content).foldl
    (fun values line => (keyedUlong key line values.1, keyedUlong key' line values.2)) values

/-- A part of a whole in percent, which is no number for a whole of 0. -/
def percentage (part whole : BitVec 64) : Option Rat :=
  if whole = 0 then none else some (part.toNat * 100 / whole.toNat)

/-- The rate of the CPU (`resources_monitor.c:135-141`). -/
def processUsageRate (before after : ResourcesCpu) : Option Rat :=
  if after.processCpuTime ≤ before.processCpuTime ∨ after.globalCpuTime ≤ before.globalCpuTime then
    some 0
  else
    percentage (after.processCpuTime - before.processCpuTime)
      (after.globalCpuTime - before.globalCpuTime)

/-- `resources_stat_all_and_calculate` (`resources_monitor.c:92-150`), with `/proc/[pid]/status` and
`/proc/meminfo`: the rates and the new `before`; `none` when it exits. -/
def resourcesStatAllAndCalculate (statusFile meminfoFile : Option CText) (vars : MemoryLocals)
    (before after : ResourcesCpu) : Option (ResourcesStats × ResourcesCpu) := do
  let status ← statusFile
  let (pidVmRSS, pidVmSwap) :=
    keyedPair "VmRSS:".toList "VmSwap:".toList status (vars.pidVmRSS, vars.pidVmSwap)
  let meminfo ← meminfoFile
  let (memTotal, swapTotal) :=
    keyedPair "MemTotal:".toList "SwapTotal:".toList meminfo (vars.memTotal, vars.swapTotal)
  return (⟨processUsageRate before after, percentage pidVmRSS memTotal,
    percentage pidVmSwap swapTotal⟩, after)

end PhantomMonitor
