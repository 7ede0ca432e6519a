import Mathlib.Algebra.Ring.Rat
import PhantomMonitor.Misc.CText
import PhantomMonitor.Misc.Streams

/-!
# CPU energy from the frequency statistics

`cpu_freq_stat` of the API and `CPU_energy_read` of the Linux_sys_power plugin run through the
directory of the CPUs with code of the same text; they differ in the power of a CPU and in what they
do with the result.

What a reading meets is given as a `CpuSysfs`. The time spent at each frequency is given as the
table says; a float that is not a number is `none`.
-/

namespace PhantomMonitor

open CText

/-- An entry of the directory of the CPUs, and the times in its `time_in_state` (`none` when there
is no such file). -/
structure CpuDirEntry where
  name : CText
  times : Option (List (BitVec 64))
  deriving DecidableEq, Repr

/-- The files under `/sys/devices/system/cpu`: whether `cpu0` has statistics, and the directory. -/
structure CpuSysfs where
  probe : Bool
  dir : Option (List CpuDirEntry)
  deriving DecidableEq, Repr

/-- The size of `freqs` (`power_monitor.c:248`). -/
def maxFreqs : Nat := 16

/-- `energy_each` (`power_monitor.c:291`) for the state `i` of `maxI + 1`. With one state alone
`i / max_i` is 0 / 0. -/
def energyEach (maxPower minPower : Rat) (maxI i : Nat) (time : BitVec 64) : Option Rat :=
  if maxI = 0 then none
  else some ((maxPower - (maxPower - minPower) * i / maxI) * time.toNat * 10)

/-- The energy of one CPU (`power_monitor.c:287-293`). -/
def cpuEnergy (maxPower minPower : Rat) (times : List (BitVec 64)) : Option Rat :=
  let freqs := times.take maxFreqs
  (freqs.zipIdx.mapM fun (time, i) => energyEach maxPower minPower (freqs.length - 1) i time).map
    List.sum

/-- The body of the loop over the directory (`power_monitor.c:268-294`). -/
def addCpu (maxPower minPower : Rat) (acc : Option Rat × Streams) (entry : CpuDirEntry) :
    Option Rat × Streams :=
  if "cpu".toList <+: entry.name then
    match entry.times with
    | none => acc
    | some times =>
        match acc.2.fopen true with
        | none => acc
        | some s =>
            ((do return (← acc.1) + (← cpuEnergy maxPower minPower times)), s.fclose)
  else acc

/-- The run through the directory (`power_monitor.c:253-296`,
`mf_Linux_sys_power_connector.c:528-572`); `none` when it stops before the loop. The stream of the
first file is not closed. -/
def cpuFreqScan (maxPower minPower : Rat) (sysfs : CpuSysfs) (s : Streams) :
    Option (Option Rat) × Streams :=
  match s.fopen sysfs.probe with
  | none => (none, s)
  | some s =>
      match sysfs.dir with
      | none => (none, s)
      | some entries =>
          match s.fopen true with
          | none => (none, s)
          | some s =>
              let (energy, s) := entries.foldl (addCpu maxPower minPower) (some 0, s)
              (some energy, s.fclose)

/-- `MAX_CPU_POWER` (`mf_Linux_sys_power_connector.c:32`). -/
def maxCpuPower : Rat := 823 / 100

/-- `MIN_CPU_POWER` (`mf_Linux_sys_power_connector.c:33`). -/
def minCpuPower : Rat := 75 / 100

/-- `CPU_energy_read` (`mf_Linux_sys_power_connector.c:513-573`): 0.0 when it fails. -/
def cpuEnergyRead (sysfs : CpuSysfs) (s : Streams) : Option Rat × Streams :=
  match cpuFreqScan maxCpuPower minCpuPower sysfs s with
  | (none, s) => (some 0, s)
  | (some energy, s) => (energy, s)

end PhantomMonitor
