import PhantomMonitor.Misc.Scanf
import PhantomMonitor.Plugins.ProcStats

/-!
# Text files under `/proc`

The readers of `/proc/meminfo`, `/proc/net/dev` and `/proc/[pid]/io` in the plugins Linux_resources
and Linux_sys_power. They go through a file line by line and look for numbers behind a key or behind
the name of a network interface.
-/

namespace PhantomMonitor

open CText

/-- The lines of a file as the loops of the readers see them, with a buffer of 1024 bytes. -/
def procLines (content : CText) : List CText := (readLines 1024 content).map cstr

/-- Lines that fit into the buffer are seen as they are. -/
theorem procLines_unlines {lines : List CText}
    (short : ∀ line ∈ lines, '\n' ∉ line ∧ line.length + 1 < 1024)
    (text : ∀ line ∈ lines, nul ∉ line) : procLines (unlines lines) = lines.map (· ++ ['\n']) := by
  rw [procLines, readLines_unlines short, List.map_map]
  apply List.map_congr_left
  intro line member
  apply cstr_eq_self
  simp only [List.mem_append, List.mem_singleton, not_or]
  exact ⟨text line member, by decide⟩

/-! ## Memory -/

/-- A variable after a line: the number behind the key if the line starts with it
(`mf_Linux_resources_connector.c:312-314`). -/
def keyedInt (key line : CText) (value : BitVec 32) : BitVec 32 :=
  if key.isPrefixOf line then sscanfInt (line.drop key.length) value else value

/-- The loop over the lines, and the rate that is returned
(`mf_Linux_resources_connector.c:311-324`). -/
def usageLoop (totalKey freeKey : CText) : List CText → BitVec 32 → BitVec 32 → Rat
  | [], _, _ => 0
  | line :: lines, total, free =>
      let total := keyedInt totalKey line total
      let free := keyedInt freeKey line free
      if total * free ≠ 0 then ((total - free).toInt : Rat) * 100 / total.toInt
      else usageLoop totalKey freeKey lines total free

/-- A usage rate from `/proc/meminfo`; `none` for a file that cannot be opened. -/
def usageRateRead (totalKey freeKey : CText) (file : Option CText) : Rat :=
  match file with
  | none => 0
  | some content => usageLoop totalKey freeKey (procLines content) 0 0

/-- `RAM_usage_rate_read` (`mf_Linux_resources_connector.c:298-325`). -/
def ramUsageRateRead : Option CText → Rat := usageRateRead "MemTotal:".toList "MemFree:".toList

/-- `swap_usage_rate_read` (`mf_Linux_resources_connector.c:328-355`). -/
def swapUsageRateRead : Option CText → Rat := usageRateRead "SwapTotal:".toList "SwapFree:".toList

/-! ## Network -/

/-- `temp_rcv_bytes` and `temp_send_bytes`, which are not initialized. What is read into `temp` is
not used. -/
structure NetTemps where
  rcvBytes : BitVec 64
  sendBytes : BitVec 64
  deriving DecidableEq, Repr

/-- `strstr (line, word)`. -/
def subLine (line word : CText) : Option CText :=
  (line.dropInfix? word).map fun found => word ++ found.2

/-- The statistics after the search for a word in a line: the numbers are read from a fixed offset
on, and the first and the ninth of them are added (`mf_Linux_resources_connector.c:375-382`). -/
def addInterface (word : CText) (offset : Nat) (line : CText) (acc : NetStats × NetTemps) :
    Except Fault (NetStats × NetTemps) :=
  match subLine line word with
  | none => .ok acc
  | some text =>
      if text.length < offset then .error .outOfBounds
      else
        let numbers := scanUnsigned 9 (text.drop offset)
        let temps : NetTemps :=
          ⟨numbers[0]?.getD acc.2.rcvBytes, numbers[8]?.getD acc.2.sendBytes⟩
        .ok (⟨acc.1.rcvBytes + temps.rcvBytes, acc.1.sendBytes + temps.sendBytes⟩, temps)

/-- One turn of the loop, with a search for each word. -/
def addInterfaces (words : List (CText × Nat)) (acc : NetStats × NetTemps) (line : CText) :
    Except Fault (NetStats × NetTemps) :=
  words.foldlM (fun acc (word, offset) => addInterface word offset line acc) acc

/-- The network statistics from `/proc/net/dev`, with what the variables hold at first: the
statistics and the value that is returned. -/
def readNetDev (words : List (CText × Nat)) (file : Option CText) (temps : NetTemps)
    (netsInfo : NetStats) : Except Fault (NetStats × Nat) :=
  match file with
  | none => .ok (netsInfo, 0)
  | some content => do
      let (netsInfo, _) ← (procLines content).foldlM (addInterfaces words) (⟨0, 0⟩, temps)
      return (netsInfo, 1)

/-- `NET_stat_read` of Linux_resources (`mf_Linux_resources_connector.c:358-395`). -/
def resourcesNetStatRead : Option CText → NetTemps → NetStats → Except Fault (NetStats × Nat) :=
  readNetDev [("eth".toList, 5), ("wlan".toList, 6)]

/-- `NET_stat_read` of Linux_sys_power (`mf_Linux_sys_power_connector.c:379-407`). -/
def powerNetStatRead : Option CText → NetTemps → NetStats → Except Fault (NetStats × Nat) :=
  readNetDev [("wlan".toList, 6)]

/-! ## Processes -/

/-- `sscanf (line + n, "%llu", &value)`, where `n` leaves room for the key and a blank. The buffer
holds the line, its NUL, and what it held before. -/
def behindKey (key buffer : CText) : Option (BitVec 64) :=
  scanUlong (cstr (buffer.drop (key.length + 1)))

/-- A variable after a line: the number behind the key if the line starts with it
(`mf_Linux_sys_power_connector.c:463-465`). -/
def keyedBytes (key buffer : CText) (value : BitVec 64) : BitVec 64 :=
  if key.isPrefixOf buffer then (behindKey key buffer).getD value else value

/-- The loop over the lines (`mf_Linux_sys_power_connector.c:462-472`). -/
def processIOLoop : List CText → CText → IoStats → IoStats
  | [], _, ioInfo => ioInfo
  | line :: lines, buffer, ioInfo =>
      let buffer := strcpy buffer line
      let ioInfo : IoStats := ⟨keyedBytes "read_bytes:".toList buffer ioInfo.readBytes,
        keyedBytes "write_bytes:".toList buffer ioInfo.writeBytes⟩
      if ioInfo.readBytes * ioInfo.writeBytes ≠ 0 then ioInfo
      else processIOLoop lines buffer ioInfo

/-- `process_IO_stat_read` (`mf_Linux_sys_power_connector.c:451-476`,
`mf_Linux_resources_connector.c:439-466`), with what `line` holds at first: the statistics after it
and its value. -/
def processIOStatRead (file : Option CText) (buffer : CText) (ioInfo : IoStats) : IoStats × Nat :=
  match file with
  | none => (ioInfo, 0)
  | some content => (processIOLoop (readLines 256 content) buffer ⟨0, 0⟩, 1)

end PhantomMonitor
