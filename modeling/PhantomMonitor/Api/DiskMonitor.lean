import PhantomMonitor.Plugins.ProcFiles

/-!
# `disk_monitor`

The disk monitor of the API (`disk_monitor.c`): in a loop it reads the bytes that the monitored
process has read and written, and appends those of the interval to a file.

What a call of `disk_stats_read` meets is given as a `DiskReading`. Floating-point arithmetic is
exact.
-/

namespace PhantomMonitor

open CText

/-- `disk_stats` (`disk_monitor.h`). -/
structure DiskStats where
  readBytesBefore : BitVec 64
  readBytesAfter : BitVec 64
  writeBytesBefore : BitVec 64
  writeBytesAfter : BitVec 64
  deriving DecidableEq, Repr

/-- What one call meets: `/proc/[pid]/io` (`none` when it cannot be opened), what `line` holds at
first, and the clock after it. -/
structure DiskReading where
  file : Option CText
  buffer : CText
  clock : Rat

/-- A line of the file, with the buffer and the statistics (`disk_monitor.c:72-77`). -/
def diskLine (acc : CText × DiskStats) (line : CText) : CText × DiskStats :=
  let buffer := strcpy acc.1 line
  (buffer, { acc.2 with
    readBytesAfter := keyedBytes "read_bytes:".toList buffer acc.2.readBytesAfter
    writeBytesAfter := keyedBytes "write_bytes:".toList buffer acc.2.writeBytesAfter })

/-- `disk_stats_read` (`disk_monitor.c:56-81`): the statistics after it and its value. -/
def diskStatsRead (file : Option CText) (buffer : CText) (diskInfo : DiskStats) :
    DiskStats × Nat :=
  let diskInfo := { diskInfo with
    readBytesBefore := diskInfo.readBytesAfter
    writeBytesBefore := diskInfo.writeBytesAfter }
  match file with
  | none => (diskInfo, 0)
  | some content => (((readLines 256 content).foldl diskLine (buffer, diskInfo)).2, 1)

/-- A line of the data file (`disk_monitor.c:45-48`); a float that is not a number is `none`. -/
structure DiskLine where
  timestampMs : Rat
  diskRead : BitVec 64
  diskWrite : BitVec 64
  diskThroughput : Option Rat
  deriving DecidableEq

/-- What an interval adds to the data file (`disk_monitor.c:39-48`). -/
def diskInterval (samplingInterval : Int) (clock : Rat) (result : DiskStats) : DiskLine :=
  let read := result.readBytesAfter - result.readBytesBefore
  let write := result.writeBytesAfter - result.writeBytesBefore
  { timestampMs := clock * 1000
    diskRead := read
    diskWrite := write
    diskThroughput :=
      if samplingInterval = 0 then none
      else some ((read + write).toNat * 1000 / samplingInterval) }

/-- The loop (`disk_monitor.c:34-49`), with one reading for each time that `running` is found
set. -/
def diskLoop (samplingInterval : Int) : List DiskReading → DiskStats → List DiskLine
  | [], _ => []
  | r :: rs, result =>
      let result := (diskStatsRead r.file r.buffer result).1
      diskInterval samplingInterval r.clock result :: diskLoop samplingInterval rs result

/-- `disk_monitor` (`disk_monitor.c:13-54`): `fileOk` says whether the data file can be created,
`result` is the variable before it is written, `first` is what the call before the loop meets. The
lines of the data file and the value. -/
def diskMonitor (samplingInterval : Int) (fileOk : Bool) (result : DiskStats) (first : DiskReading)
    (rs : List DiskReading) : List DiskLine × Nat :=
  if fileOk then
    let result := { result with readBytesAfter := 0, writeBytesAfter := 0 }
    let result := (diskStatsRead first.file first.buffer result).1
    (diskLoop samplingInterval rs result, 1)
  else ([], 0)

end PhantomMonitor
