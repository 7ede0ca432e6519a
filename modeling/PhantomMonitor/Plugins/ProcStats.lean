import Mathlib.Algebra.GroupWithZero.Nat
import PhantomMonitor.Misc.Numeral

/-!
# Statistics from `/proc`

Counters of the kernel. The plugins Linux_resources and Linux_sys_power read the bytes of the
network interfaces, and the bytes that all processes have read and written, with functions of the
same text.
-/

namespace PhantomMonitor

open CText

/-- The counters of the first line of `/proc/stat`. -/
structure CpuTimes where
  user : BitVec 64
  nice : BitVec 64
  sys : BitVec 64
  idle : BitVec 64
  iowait : BitVec 64
  irq : BitVec 64
  softirq : BitVec 64
  steal : BitVec 64
  deriving DecidableEq, Repr

/-- `struct net_stats`. -/
structure NetStats where
  rcvBytes : BitVec 64
  sendBytes : BitVec 64
  deriving DecidableEq, Repr

/-- `struct io_stats`. -/
structure IoStats where
  readBytes : BitVec 64
  writeBytes : BitVec 64
  deriving DecidableEq, Repr

/-- The directory `/proc`: the names that `readdir` delivers, and what `process_IO_stat_read` finds
for a pid (`none` when the file of the process cannot be opened). -/
structure ProcDir where
  names : List CText
  processIo : Int → Option IoStats

/-- One entry of `/proc` (`mf_Linux_resources_connector.c:422-428`). -/
def addProcess (proc : ProcDir) (total : IoStats) (name : CText) : IoStats :=
  if startsWithDigit name then
    match proc.processIo (atoi name) with
    | none => total
    | some io => ⟨total.readBytes + io.readBytes, total.writeBytes + io.writeBytes⟩
  else total

/-- `sys_IO_stat_read` (`mf_Linux_resources_connector.c:398-436`,
`mf_Linux_sys_power_connector.c:410-448`): the statistics after it and its value. -/
def sysIOStatRead (proc : Option ProcDir) (total : IoStats) : IoStats × Nat :=
  match proc with
  | none => (total, 0)
  | some proc => (proc.names.foldl (addProcess proc) ⟨0, 0⟩, 1)

/-- The effect of `NET_stat_read` on the statistics, given the totals that it finds (`none` when
its file cannot be opened). -/
def netStatRead (net : Option NetStats) (total : NetStats) : NetStats × Nat :=
  match net with
  | none => (total, 0)
  | some found => (found, 1)

/-! ## The processes behind the totals -/

namespace ProcDir

/-- The processes of a directory with their statistics, keyed by pid. -/
def processes (proc : ProcDir) : List (Int × IoStats) :=
  proc.names.filterMap fun name =>
    if startsWithDigit name then
      (proc.processIo (atoi name)).map fun io => (atoi name, io)
    else none

/-- The bytes read by all processes. -/
def readTotal (proc : ProcDir) : Nat :=
  (proc.processes.map fun process => process.2.readBytes.toNat).sum

/-- The bytes written by all processes. -/
def writeTotal (proc : ProcDir) : Nat :=
  (proc.processes.map fun process => process.2.writeBytes.toNat).sum

end ProcDir

end PhantomMonitor
