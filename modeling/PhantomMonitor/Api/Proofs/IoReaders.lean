import PhantomMonitor.Api.DiskMonitor
import PhantomMonitor.Api.PidFiles
import PhantomMonitor.Api.Proofs.StreamBalance
import PhantomMonitor.Misc.KeyedLines

/-!
# The readers of `/proc/[pid]/io`

Three functions read the bytes of a process from the same file. One of them stops as soon as both
values are there, the others read to the end. They find the same numbers wherever the two lines are
and whatever the other ones say.
-/

namespace PhantomMonitor

open CText

/-! ## A key in the buffer -/

/-- The number behind the key and a blank. -/
theorem behindKey_given {key line : CText} {value : BitVec 64}
    (h : Gives (key ++ [' ']) value.toNat line) (buffer : CText) :
    behindKey key (strcpy buffer line) = some value := by
  obtain ⟨n, rest, rfl, same, stop⟩ := h
  have behind : (strcpy buffer (key ++ [' '] ++ n.text ++ rest)).drop (key.length + 1) =
      n.text ++ (rest ++ nul :: buffer.drop ((key ++ [' '] ++ n.text ++ rest).length + 1)) := by
    rw [strcpy, List.append_assoc, List.append_assoc]
    exact List.drop_left' List.length_append
  rw [behindKey, behind, cstr_append n.nul_notMem_text, cstr_append_nul,
    n.scanUlong_text (fun c first => stop c (mem_head?_cstr first)) (same ▸ value.isLt), same,
    BitVec.ofNat_toNat, BitVec.setWidth_eq]

section

variable {key line : CText} {value : BitVec 64}

theorem isPrefixOf_strcpy (plain : nul ∉ key) (buffer : CText) :
    key.isPrefixOf (strcpy buffer line) = true ↔ key <+: line :=
  List.isPrefixOf_iff_prefix.trans (prefix_strcpy_iff plain buffer line)

theorem Gives.prefix_key (h : Gives (key ++ [' ']) value.toNat line) : key <+: line := by
  obtain ⟨n, rest, rfl, -, -⟩ := h
  exact ⟨[' '] ++ n.text ++ rest, by simp⟩

theorem keyedBytes_given (plain : nul ∉ key) (h : Gives (key ++ [' ']) value.toNat line)
    (buffer : CText) (held : BitVec 64) : keyedBytes key (strcpy buffer line) held = value := by
  rw [keyedBytes, if_pos ((isPrefixOf_strcpy plain buffer).mpr h.prefix_key), behindKey_given h]
  rfl

theorem keyedBytes_other (plain : nul ∉ key) (h : ¬ key <+: line) (buffer : CText)
    (held : BitVec 64) : keyedBytes key (strcpy buffer line) held = held :=
  if_neg fun starts => h ((isPrefixOf_strcpy plain buffer).mp starts)

end

/-! ## The file -/

/-- The one line of a key gives a number of 64 bits behind a blank. -/
def IoLine (key : CText) (value : BitVec 64) (lines : List CText) : Prop :=
  Sole (key <+: ·) (Gives (key ++ [' ']) value.toNat) lines

/-- A file of lines that fit into the buffer, with one line for each of the two counters. -/
structure IoFile (size : Nat) (content : CText) (io : IoStats) : Prop where
  short : ∀ line ∈ fileLines content, line.length + 1 < size
  reads : IoLine "read_bytes:".toList io.readBytes (fileLines content)
  writes : IoLine "write_bytes:".toList io.writeBytes (fileLines content)

/-- The line of a key is the one that a loop sees. -/
theorem IoLine.seen {key : CText} {value : BitVec 64} {size : Nat} {content : CText}
    (h : IoLine key value (fileLines content)) (plain : '\n' ∉ key)
    (short : ∀ line ∈ fileLines content, line.length + 1 < size) :
    IoLine key value (readLines size content) := by
  refine Sole.forall₂ h (forall₂_readLines short) ?_ ?_
  · rintro line seen (rfl | rfl) gives
    · exact gives
    · exact gives.newline
  · rintro line seen (rfl | rfl) other
    · exact other
    · exact not_prefix_newline plain other

theorem IoFile.mono {size size' : Nat} {content : CText} {io : IoStats} (h : IoFile size content io)
    (le : size ≤ size') : IoFile size' content io :=
  ⟨fun line member => (h.short line member).trans_le le, h.reads, h.writes⟩

theorem IoFile.readLine {size : Nat} {content : CText} {io : IoStats} (h : IoFile size content io) :
    IoLine "read_bytes:".toList io.readBytes (readLines size content) :=
  h.reads.seen (by decide) h.short

theorem IoFile.writeLine {size : Nat} {content : CText} {io : IoStats}
    (h : IoFile size content io) :
    IoLine "write_bytes:".toList io.writeBytes (readLines size content) :=
  h.writes.seen (by decide) h.short

/-! ## The readers -/

theorem readKey_plain : nul ∉ "read_bytes:".toList := by decide

theorem writeKey_plain : nul ∉ "write_bytes:".toList := by decide

/-- The loop that stops early. A product that is not zero has two factors that are not zero, and
these have been read. -/
theorem processIOLoop_eq {io held : IoStats} {lines : List CText}
    (reads : Awaits ("read_bytes:".toList <+: ·) (Gives "read_bytes: ".toList io.readBytes.toNat)
      0 io.readBytes lines held.readBytes)
    (writes : Awaits ("write_bytes:".toList <+: ·)
      (Gives "write_bytes: ".toList io.writeBytes.toNat) 0 io.writeBytes lines held.writeBytes)
    (buffer : CText) : processIOLoop lines buffer held = io := by
  induction lines generalizing held buffer with
  | nil =>
      show (⟨held.readBytes, held.writeBytes⟩ : IoStats) = io
      rw [reads.done, writes.done]
  | cons line lines ih =>
      have read := reads.step
        (fun other => keyedBytes_other readKey_plain other buffer held.readBytes)
        (fun given => keyedBytes_given readKey_plain given buffer held.readBytes)
      have write := writes.step
        (fun other => keyedBytes_other writeKey_plain other buffer held.writeBytes)
        (fun given => keyedBytes_given writeKey_plain given buffer held.writeBytes)
      unfold processIOLoop
      dsimp only
      split
      · rename_i product
        rw [read.eq_of_ne, write.eq_of_ne]
        · intro zero
          rw [zero] at product
          exact product BitVec.mul_zero
        · intro zero
          rw [zero] at product
          exact product BitVec.zero_mul
      · exact ih read write _

theorem processIOStatRead_file {content : CText} {io : IoStats} (h : IoFile 256 content io)
    (buffer : CText) (ioInfo : IoStats) :
    processIOStatRead (some content) buffer ioInfo = (io, 1) := by
  rw [processIOStatRead, processIOLoop_eq (Or.inl ⟨rfl, h.readLine⟩) (Or.inl ⟨rfl, h.writeLine⟩)]

theorem diskStatsRead_file {content : CText} {io : IoStats} (h : IoFile 256 content io)
    (buffer : CText) (diskInfo : DiskStats) :
    diskStatsRead (some content) buffer diskInfo =
      (⟨diskInfo.readBytesAfter, io.readBytes, diskInfo.writeBytesAfter, io.writeBytes⟩, 1) := by
  let start : CText × DiskStats := (buffer, { diskInfo with
    readBytesBefore := diskInfo.readBytesAfter
    writeBytesBefore := diskInfo.writeBytesAfter })
  let last := (readLines 256 content).foldl diskLine start
  have read : last.2.readBytesAfter = io.readBytes :=
    h.readLine.foldl (fun acc => acc.2.readBytesAfter)
      (fun acc _ other => keyedBytes_other readKey_plain other acc.1 _)
      (fun acc _ given => keyedBytes_given readKey_plain given acc.1 _) start
  have write : last.2.writeBytesAfter = io.writeBytes :=
    h.writeLine.foldl (fun acc => acc.2.writeBytesAfter)
      (fun acc _ other => keyedBytes_other writeKey_plain other acc.1 _)
      (fun acc _ given => keyedBytes_given writeKey_plain given acc.1 _) start
  have before : (last.2.readBytesBefore, last.2.writeBytesBefore) =
      (diskInfo.readBytesAfter, diskInfo.writeBytesAfter) :=
    foldl_kept (f := diskLine) (fun acc => (acc.2.readBytesBefore, acc.2.writeBytesBefore))
      (fun _ _ (_ : ¬ False) => rfl) (fun _ _ => not_false) start
  obtain ⟨readBefore, writeBefore⟩ := Prod.mk.inj before
  show (last.2, 1) = _
  rw [← read, ← write, ← readBefore, ← writeBefore]

/-- `read_pid_io` tries the keys one after the other; no line has two of them. -/
theorem keys_apart {line : CText} (write : "write_bytes:".toList <+: line) :
    ¬ "read_bytes:".toList <+: line := by
  obtain ⟨rest, rfl⟩ := write
  exact not_prefix_append (by decide) (by decide) rest

section

variable {io : IoStats} {line : CText} (acc : CText × PidIo)

theorem pidIoLine_read_other (other : ¬ "read_bytes:".toList <+: line) :
    (pidIoLine acc line).2.readBytes = acc.2.readBytes := by
  unfold pidIoLine
  dsimp only
  rw [if_neg fun starts => other ((isPrefixOf_strcpy readKey_plain acc.1).mp starts)]
  split
  · rfl
  · split <;> rfl

theorem pidIoLine_read_given (given : Gives "read_bytes: ".toList io.readBytes.toNat line) :
    (pidIoLine acc line).2.readBytes = some io.readBytes := by
  have starts : "read_bytes:".toList <+: line := Gives.prefix_key given
  have found : behindKey "read_bytes:".toList (strcpy acc.1 line) = some io.readBytes :=
    behindKey_given given acc.1
  unfold pidIoLine
  dsimp only
  rw [if_pos ((isPrefixOf_strcpy readKey_plain acc.1).mpr starts), found]
  rfl

theorem pidIoLine_write_other (other : ¬ "write_bytes:".toList <+: line) :
    (pidIoLine acc line).2.writeBytes = acc.2.writeBytes := by
  unfold pidIoLine
  dsimp only
  split
  · rfl
  · rw [if_neg fun starts => other ((isPrefixOf_strcpy writeKey_plain acc.1).mp starts)]
    split <;> rfl

theorem pidIoLine_write_given (given : Gives "write_bytes: ".toList io.writeBytes.toNat line) :
    (pidIoLine acc line).2.writeBytes = some io.writeBytes := by
  have starts : "write_bytes:".toList <+: line := Gives.prefix_key given
  have found : behindKey "write_bytes:".toList (strcpy acc.1 line) = some io.writeBytes :=
    behindKey_given given acc.1
  unfold pidIoLine
  dsimp only
  rw [if_neg fun read => keys_apart starts ((isPrefixOf_strcpy readKey_plain acc.1).mp read),
    if_pos ((isPrefixOf_strcpy writeKey_plain acc.1).mpr starts), found]
  rfl

end

theorem findPidIo_file {content : CText} {io : IoStats} (h : IoFile 128 content io)
    (buffer : CText) :
    (findPidIo content buffer).readBytes = some io.readBytes ∧
      (findPidIo content buffer).writeBytes = some io.writeBytes :=
  ⟨h.readLine.foldl (fun acc : CText × PidIo => acc.2.readBytes)
      (fun acc _ => pidIoLine_read_other acc) (fun acc _ => pidIoLine_read_given acc) _,
    h.writeLine.foldl (fun acc : CText × PidIo => acc.2.writeBytes)
      (fun acc _ => pidIoLine_write_other acc) (fun acc _ => pidIoLine_write_given acc) _⟩

/-- The three readers of `/proc/[pid]/io` find the numbers that the file gives. -/
theorem ioReaders_agree {content : CText} {io : IoStats} (h : IoFile 128 content io)
    (buffer buffer' buffer'' : CText) (ioInfo : IoStats) (diskInfo : DiskStats)
    {r : MonitorReading} (found : r.pidIo = some (findPidIo content buffer''))
    (info : PidStatsInfo) {s : Streams} (free : s.live < s.limit) :
    processIOStatRead (some content) buffer ioInfo = (io, 1) ∧
      diskStatsRead (some content) buffer' diskInfo =
        (⟨diskInfo.readBytesAfter, io.readBytes, diskInfo.writeBytesAfter, io.writeBytes⟩, 1) ∧
      ∃ info', readPidIo r info s = (1, info', s) ∧ info'.pidReadBytes = io.readBytes ∧
        info'.pidWriteBytes = io.writeBytes := by
  obtain ⟨read, write⟩ := findPidIo_file h buffer''
  have wide := h.mono (by decide : 128 ≤ 256)
  refine ⟨processIOStatRead_file wide buffer ioInfo, diskStatsRead_file wide buffer' diskInfo,
    _, readStat_found found _ info free, ?_, ?_⟩
  · rw [read]
    rfl
  · rw [write]
    rfl

/-! ## A file as the kernel writes it -/

/-- The numbers that the kernel writes behind the keys of the file. -/
def ioNumbers (io : IoStats) : List (CText × BitVec 64) :=
  [("rchar: ".toList, io.readBytes), ("wchar: ".toList, io.writeBytes),
    ("read_bytes: ".toList, io.readBytes), ("write_bytes: ".toList, io.writeBytes),
    ("cancelled_write_bytes: ".toList, 0)]

/-- A line of the file. -/
def ioNumberLine (number : CText × BitVec 64) : CText := number.1 ++ Nat.toDigits 10 number.2.toNat

/-- The file of a process that has cancelled no writes. -/
def ioText (io : IoStats) : CText := unlines ((ioNumbers io).map ioNumberLine)

theorem ioNumbers_keys (io : IoStats) :
    ∀ number ∈ ioNumbers io, '\n' ∉ number.1 ∧ number.1.length ≤ 23 := by
  simp only [ioNumbers, List.forall_mem_cons]
  decide

theorem fileLines_ioText (io : IoStats) :
    fileLines (ioText io) = (ioNumbers io).map ioNumberLine := by
  have lines := @fileLines_unlines_append ((ioNumbers io).map ioNumberLine)
    (List.forall_mem_map.mpr fun number member => ?_) []
  · rwa [List.append_nil, fileLines, List.append_nil] at lines
  · rw [ioNumberLine, List.mem_append, not_or]
    exact ⟨(ioNumbers_keys io number member).1, notMem_toDigits _ rfl⟩

/-- The key at a place of the file starts no other line. -/
theorem ioLine_ioText {io : IoStats} {key : CText} {value : BitVec 64} (i : Nat)
    (here : (ioNumbers io)[i]? = some (key ++ [' '], value))
    (apart : ∀ number ∈ (ioNumbers io).eraseIdx i, ¬ key <+: number.1 ∧ ¬ number.1 <+: key) :
    IoLine key value (fileLines (ioText io)) := by
  obtain ⟨inside, here⟩ := List.getElem?_eq_some_iff.mp here
  rw [List.eraseIdx_eq_take_drop_succ] at apart
  rw [fileLines_ioText]
  refine ⟨((ioNumbers io).take i).map ioNumberLine, ioNumberLine (key ++ [' '], value),
    ((ioNumbers io).drop (i + 1)).map ioNumberLine, ?_, gives_toDigits _ _, ?_⟩
  · rw [← here, ← List.map_cons, ← List.map_append, List.getElem_cons_drop, List.take_append_drop]
  · rw [← List.map_append]
    exact List.forall_mem_map.mpr fun number member =>
      not_prefix_append (apart number member).1 (apart number member).2 _

theorem ioFile_ioText (io : IoStats) : IoFile 128 (ioText io) io where
  short := by
    rw [fileLines_ioText]
    refine List.forall_mem_map.mpr fun number member => ?_
    have key := (ioNumbers_keys io number member).2
    have digits := length_toDigits_toNat_le number.2
    rw [ioNumberLine, List.length_append]
    omega
  reads := by
    refine ioLine_ioText 2 rfl ?_
    simp only [ioNumbers, List.eraseIdx, List.forall_mem_cons]
    decide
  writes := by
    refine ioLine_ioText 3 rfl ?_
    simp only [ioNumbers, List.eraseIdx, List.forall_mem_cons]
    decide

theorem ioReaders_agree_file :
    processIOStatRead (some (ioText ⟨5, 0⟩)) [] ⟨0, 0⟩ = (⟨5, 0⟩, 1) ∧
      diskStatsRead (some (ioText ⟨5, 0⟩)) [] ⟨0, 0, 0, 0⟩ = (⟨0, 5, 0, 0⟩, 1) ∧
      ∃ info, readPidIo { plainRound with pidIo := some (findPidIo (ioText ⟨5, 0⟩) []) } zeroInfo
          ⟨1024, 3⟩ = (1, info, ⟨1024, 3⟩) ∧
        info.pidReadBytes = 5 ∧ info.pidWriteBytes = 0 :=
  ioReaders_agree (ioFile_ioText ⟨5, 0⟩) [] [] [] ⟨0, 0⟩ ⟨0, 0, 0, 0⟩ rfl zeroInfo (by decide)

end PhantomMonitor
