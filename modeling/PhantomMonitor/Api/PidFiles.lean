import PhantomMonitor.Api.PowerMonitor
import PhantomMonitor.Plugins.ProcFiles

/-!
# Files of the monitored process

What the monitors of the API find in `/proc/[pid]/stat` and `/proc/[pid]/io`. A variable that is not
initialized has an arbitrary value, and so has a buffer.
-/

namespace PhantomMonitor

open CText

/-- The conversions of `/proc/[pid]/stat` (`power_monitor.c:162-165`): `pid_utime` and `pid_stime`
after them. The name goes to a buffer of 32 bytes. The ten numbers between the state and `pid_utime`
are not used. -/
def scanPidStat (line : CText) (utime stime : BitVec 64) :
    Except Fault (BitVec 64 × BitVec 64) :=
  match (scanInteger line).bind scanWord with
  | none => .ok (utime, stime)
  | some (word, rest) => do
      let _ ← store 32 word
      match scanChar rest with
      | none => return (utime, stime)
      | some rest =>
          let numbers := scanUnsigned 12 rest
          return (numbers[10]?.getD utime, numbers[11]?.getD stime)

/-- What `read_pid_time` (`power_monitor.c:161-166`) and `resources_stat_cpu`
(`resources_monitor.c:65-70`) find in `/proc/[pid]/stat`: `pid_utime` and `pid_stime`. -/
def findPidTimes (content : CText) (utime stime : BitVec 64) :
    Except Fault (BitVec 64 × BitVec 64) :=
  match fgets 1024 content with
  | none => .ok (utime, stime)
  | some (line, _) => scanPidStat (cstr line) utime stime

/-- A line of `/proc/[pid]/io`, with the buffer and what was found before
(`power_monitor.c:188-197`). -/
def pidIoLine (acc : CText × PidIo) (line : CText) : CText × PidIo :=
  let buffer := strcpy acc.1 line
  let io := acc.2
  if "read_bytes:".toList.isPrefixOf buffer then
    (buffer, { io with readBytes := (behindKey "read_bytes:".toList buffer).or io.readBytes })
  else if "write_bytes:".toList.isPrefixOf buffer then
    (buffer, { io with writeBytes := (behindKey "write_bytes:".toList buffer).or io.writeBytes })
  else if "cancelled_write_bytes:".toList.isPrefixOf buffer then
    (buffer, { io with
      cancelledWrites := (behindKey "cancelled_write_bytes:".toList buffer).or io.cancelledWrites })
  else (buffer, io)

/-- What `read_pid_io` (`power_monitor.c:187-198`) finds in `/proc/[pid]/io`. -/
def findPidIo (content buffer : CText) : PidIo :=
  ((readLines 128 content).foldl pidIoLine (buffer, ⟨none, none, none⟩)).2

end PhantomMonitor
