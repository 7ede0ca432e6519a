import Mathlib.Algebra.Order.BigOperators.Group.List
import PhantomMonitor.Api.Proofs.StreamBalance
import PhantomMonitor.Api.ResourcesMonitor
import PhantomMonitor.Misc.Conversions

/-!
# The CPU time of a process with any name

The name of the process stands in parentheses in front of the fields that the monitors read, and
`%s` takes it up to the first white space. A name without white space is taken whole. Behind a piece
of a name the conversions meet the rest of it and its parenthesis: they come to an end before the
times, which keep what the variables held.
-/

namespace PhantomMonitor

open CText

/-! ## The line -/

/-- A line of `/proc/[pid]/stat` as the kernel writes it. The ten fields stand between the state and
the user time; what stands behind the system time is `rest`. -/
structure PidStatLine where
  pid : Nat
  comm : CText
  state : Char
  fields : List Int
  utime : BitVec 64
  stime : BitVec 64
  rest : CText
  pid_lt : pid < 2 ^ 31
  comm_length : comm.length ≤ 15
  comm_line : '\n' ∉ comm
  comm_text : nul ∉ comm
  state_letter : state.isAlpha = true
  fields_length : fields.length = 10
  fields_lt : ∀ n ∈ fields, n.natAbs < 2 ^ 64
  rest_stop : ∀ c ∈ rest.head?, c.isDigit = false

namespace PidStatLine

/-- The two times. -/
def times (l : PidStatLine) : List NumberText :=
  [.ofNat [' '] NumberText.blank_space l.utime.toNat,
    .ofNat [' '] NumberText.blank_space l.stime.toNat]

/-- What stands behind the name and its parenthesis, up to the times. -/
def behind (l : PidStatLine) : CText :=
  ' ' :: l.state :: (l.fields.flatMap (fun n => ' ' :: intText n) ++
    l.times.flatMap NumberText.text)

/-- The line up to the times. -/
def front (l : PidStatLine) : CText :=
  Nat.toDigits 10 l.pid ++ (' ' :: '(' :: l.comm ++ ')' :: l.behind)

def text (l : PidStatLine) : CText := l.front ++ l.rest

variable (l : PidStatLine)

theorem notMem_times {c : Char} (digit : c.isDigit = false) (blank : c ≠ ' ') :
    c ∉ l.times.flatMap NumberText.text := by
  have number (n : Nat) : c ∉ (NumberText.ofNat [' '] NumberText.blank_space n).text := by
    rw [NumberText.text, List.mem_append, not_or]
    exact ⟨fun gap => blank (List.mem_singleton.mp gap), notMem_toDigits n digit⟩
  simp only [times, List.flatMap_cons, List.flatMap_nil, List.mem_append, not_or]
  exact ⟨number _, number _, List.not_mem_nil⟩

theorem notMem_fields {c : Char} (digit : c.isDigit = false) (blank : c ≠ ' ') (minus : c ≠ '-') :
    c ∉ l.fields.flatMap fun n => ' ' :: intText n := by
  rw [List.mem_flatMap]
  rintro ⟨n, -, member⟩
  rcases List.mem_cons.mp member with same | number
  · exact blank same
  · exact notMem_intText n digit minus number

theorem notMem_front {c : Char} (digit : c.isDigit = false) (letter : c.isAlpha = false)
    (name : c ∉ l.comm) (other : c ∉ [' ', '(', ')', '-']) : c ∉ l.front := by
  simp only [List.mem_cons, List.not_mem_nil, or_false, not_or] at other
  obtain ⟨blank, opening, closing, minus⟩ := other
  have state : c ≠ l.state := by
    rintro rfl
    rw [l.state_letter] at letter
    cases letter
  have fields := l.notMem_fields digit blank minus
  have times := l.notMem_times digit blank
  simp only [front, behind, List.mem_append, List.mem_cons, not_or]
  exact ⟨notMem_toDigits l.pid digit, ⟨blank, opening, name⟩, closing, blank, state, fields, times⟩

theorem length_front_lt : l.front.length < 1023 := by
  have pid : (Nat.toDigits 10 l.pid).length ≤ 10 :=
    (Nat.length_toDigits_le_iff (by decide) (by decide)).mpr (l.pid_lt.trans (by decide))
  have fields : (l.fields.flatMap fun n => ' ' :: intText n).length ≤ 10 * 22 := by
    rw [List.length_flatMap, ← l.fields_length,
      ← List.length_map (fun n => (' ' :: intText n).length)]
    refine List.sum_le_card_nsmul _ 22 (List.forall_mem_map.mpr fun n member => ?_)
    have number := length_intText_le (k := 20) (by decide)
        ((l.fields_lt n member).trans (by decide))
    exact Nat.succ_le_succ number
  have utime := length_toDigits_toNat_le l.utime
  have stime := length_toDigits_toNat_le l.stime
  have name := l.comm_length
  simp only [front, behind, times, NumberText.text, NumberText.ofNat, List.flatMap_cons,
    List.flatMap_nil, List.length_append, List.length_cons, List.length_nil]
  omega

end PidStatLine

/-! ## The conversions -/

section

variable (l : PidStatLine) {rest : CText} (u s : BitVec 64)

/-- What `fgets` and the NUL leave of the line ends behind the times. -/
theorem findPidTimes_text :
    ∃ rest, (∀ c ∈ rest.head?, c.isDigit = false) ∧
      findPidTimes l.text u s = scanPidStat (l.front ++ rest) u s := by
  have line := l.notMem_front (c := '\n') rfl rfl l.comm_line (by decide)
  have text := l.notMem_front (c := nul) rfl rfl l.comm_text (by decide)
  have nonempty : l.text ≠ [] := by simp [PidStatLine.text, PidStatLine.front]
  have cut := splitLine_append_left line l.rest l.length_front_lt.le
  refine ⟨cstr (splitLine (1023 - l.front.length) l.rest).1, fun c first => ?_, ?_⟩
  · exact l.rest_stop c (mem_head?_splitLine (mem_head?_cstr first))
  · unfold findPidTimes fgets
    rw [if_neg nonempty]
    show scanPidStat (cstr (splitLine 1023 (l.front ++ l.rest)).1) u s = _
    rw [cut, cstr_append text]

/-- The number at the start. -/
theorem scanPid (rest : CText) :
    scanInteger (l.front ++ rest) = some ([' '] ++ ('(' :: l.comm ++ ')' :: l.behind ++ rest)) := by
  let pid := NumberText.ofNat [] (List.forall_mem_nil _) l.pid
  have number : l.front ++ rest = pid.text ++ (' ' :: '(' :: l.comm ++ ')' :: l.behind ++ rest) :=
    List.append_assoc ..
  rw [number]
  refine pid.scanInteger_text ?_
  rintro c ⟨⟩
  rfl

/-- The times from what `%s` and `%c` leave of the line. -/
theorem scanPidStat_eq {word tail after : CText}
    (name : scanWord ([' '] ++ ('(' :: l.comm ++ ')' :: l.behind ++ rest)) = some (word, tail))
    (fits : word.length < 32) (char : scanChar tail = some after) :
    scanPidStat (l.front ++ rest) u s =
      .ok ((scanUnsigned 12 after)[10]?.getD u, (scanUnsigned 12 after)[11]?.getD s) := by
  unfold scanPidStat
  rw [scanPid, Option.bind_some, name]
  dsimp only
  rw [store_ok fits, char]
  rfl

theorem unsigned_time (value : BitVec 64) :
    (NumberText.ofNat [' '] NumberText.blank_space value.toNat).unsigned = value := by
  rw [NumberText.unsigned_eq (by rw [NumberText.value_ofNat]; exact value.isLt),
    NumberText.value_ofNat, BitVec.ofNat_toNat, BitVec.setWidth_eq]

/-- The conversions behind the state. -/
theorem scanTimes (stop : ∀ c ∈ rest.head?, c.isDigit = false) :
    let numbers := scanUnsigned 12
      (l.fields.flatMap (fun n => ' ' :: intText n) ++ (l.times.flatMap NumberText.text ++ rest))
    numbers[10]? = some l.utime ∧ numbers[11]? = some l.stime := by
  have blank : ∀ c ∈ (l.times.flatMap NumberText.text ++ rest).head?, c.isDigit = false := by
    rintro c ⟨⟩
    rfl
  have ints := getElem?_scanUnsigned_ints l.fields blank 2
  rw [l.fields_length] at ints
  have apart : NumberText.Apart l.times := by
    intro n member
    rw [List.mem_singleton.mp member]
    exact List.cons_ne_nil _ _
  have row : scanUnsigned 2 (l.times.flatMap NumberText.text ++ rest) = [l.utime, l.stime] := by
    rw [NumberText.scanUnsigned_row apart stop (le_refl 2), PidStatLine.times]
    simp only [List.take_succ_cons, List.take_zero, List.map_cons, List.map_nil, unsigned_time]
  rw [row] at ints
  exact ⟨ints 0, ints 1⟩

theorem scanPidStat_plain (plain : ∀ c ∈ l.comm, isSpace c = false)
    (stop : ∀ c ∈ rest.head?, c.isDigit = false) :
    scanPidStat (l.front ++ rest) u s = .ok (l.utime, l.stime) := by
  let numbers := l.fields.flatMap (fun n => ' ' :: intText n) ++
    (l.times.flatMap NumberText.text ++ rest)
  have word_plain : ∀ c ∈ '(' :: l.comm ++ [')'], isSpace c = false := by
    intro c member
    rcases List.mem_append.mp member with front | closing
    · rcases List.mem_cons.mp front with rfl | name
      · rfl
      · exact plain c name
    · rw [List.mem_singleton.mp closing]
      rfl
  have word : scanWord ([' '] ++ ('(' :: l.comm ++ ')' :: l.behind ++ rest)) =
      some ('(' :: l.comm ++ [')'], ' ' :: l.state :: numbers) := by
    have split : '(' :: l.comm ++ ')' :: l.behind ++ rest =
        ('(' :: l.comm ++ [')']) ++ (' ' :: l.state :: numbers) := by
      simp [PidStatLine.behind, numbers]
    rw [split]
    refine scanWord_word NumberText.blank_space (List.cons_ne_nil _ _) word_plain ?_
    rintro c ⟨⟩
    rfl
  have fits : ('(' :: l.comm ++ [')']).length < 32 := by
    have name := l.comm_length
    simp only [List.length_append, List.length_cons, List.length_nil]
    omega
  have state : scanChar (' ' :: l.state :: numbers) = some numbers :=
    scanChar_char NumberText.blank_space
      (isSpace_eq_false_of_barrier (isNumeric_eq_false_of_isAlpha l.state_letter)) numbers
  obtain ⟨utime, stime⟩ := scanTimes l stop
  rw [scanPidStat_eq l u s word fits state, utime, stime]
  rfl

/-- Behind white space in the name no conversion comes to the times. -/
theorem scanPidStat_spaces {c : Char} (member : c ∈ l.comm) (space : isSpace c = true) :
    scanPidStat (l.front ++ rest) u s = .ok (u, s) := by
  obtain ⟨w, found⟩ := Option.isSome_iff_exists.mp (List.find?_isSome.mpr ⟨c, member, space⟩)
  obtain ⟨white, piece, later, split, plain⟩ := List.find?_eq_some_iff_append.mp found
  have name := l.comm_length
  rw [split, List.length_append, List.length_cons] at name
  let tail := w :: later ++ ')' :: (l.behind ++ rest)
  have word : scanWord ([' '] ++ ('(' :: l.comm ++ ')' :: l.behind ++ rest)) =
      some ('(' :: piece, tail) := by
    have whole : '(' :: l.comm ++ ')' :: l.behind ++ rest = ('(' :: piece) ++ tail := by
      simp [split, tail]
    rw [whole]
    refine scanWord_word NumberText.blank_space (List.cons_ne_nil _ _) ?_ ?_
    · exact List.forall_mem_cons.mpr ⟨rfl, fun d member => by simpa using plain d member⟩
    · rintro d ⟨⟩
      exact white
  have fits : ('(' :: piece).length < 32 := by
    rw [List.length_cons]
    omega
  have few : ∃ after, scanChar tail = some after ∧ (scanUnsigned 12 after).length ≤ 10 := by
    rcases scanChar_before (w :: later) (by rfl : isSpace ')' = false) (l.behind ++ rest) with
      ⟨before, shorter, char⟩ | char
    · have bound := length_scanUnsigned_before (by rfl : isNumeric ')' = false) 12 before
        (l.behind ++ rest)
      rw [List.length_cons] at shorter
      exact ⟨_, char, by omega⟩
    · have bound := length_scanUnsigned_before
        (isNumeric_eq_false_of_isAlpha l.state_letter) 12 [' ']
        (l.fields.flatMap (fun n => ' ' :: intText n) ++ l.times.flatMap NumberText.text ++ rest)
      rw [List.length_singleton] at bound
      refine ⟨_, char, ?_⟩
      show (scanUnsigned 12 ([' '] ++ l.state :: (l.fields.flatMap (fun n => ' ' :: intText n) ++
        l.times.flatMap NumberText.text ++ rest))).length ≤ 10
      omega
  obtain ⟨after, char, few⟩ := few
  rw [scanPidStat_eq l u s word fits char, List.getElem?_eq_none few,
    List.getElem?_eq_none (few.trans (by decide))]
  rfl

end

/-! ## The readers -/

/-- No character of the name is white space. -/
def PidStatLine.Plain (l : PidStatLine) : Prop := ∀ c ∈ l.comm, isSpace c = false

/-- The times are found for a name without white space. For another name the variables keep what
they held. -/
theorem findPidTimes_line (l : PidStatLine) (u s : BitVec 64) :
    ∃ times : BitVec 64 × BitVec 64, findPidTimes l.text u s = .ok times ∧
      (times.1 + times.2 = l.utime + l.stime ↔ l.Plain ∨ u + s = l.utime + l.stime) := by
  obtain ⟨rest, stop, found⟩ := findPidTimes_text l u s
  rw [found]
  by_cases plain : l.Plain
  · exact ⟨_, scanPidStat_plain l u s plain stop, iff_of_true rfl (Or.inl plain)⟩
  · have white := plain
    unfold PidStatLine.Plain at white
    push Not at white
    obtain ⟨c, member, space⟩ := white
    refine ⟨_, scanPidStat_spaces l u s member (by simpa using space), ?_⟩
    rw [or_iff_right plain]

theorem readPidTime_iff (l : PidStatLine) (u s : BitVec 64) (r : MonitorReading)
    (info : PidStatsInfo) {streams : Streams} (free : streams.live < streams.limit) :
    (∃ times info', findPidTimes l.text u s = .ok times ∧
        readPidTime { r with pidStat := some times } info streams = (1, info', streams) ∧
        info'.pidRuntime = l.utime + l.stime) ↔
      l.Plain ∨ u + s = l.utime + l.stime := by
  obtain ⟨times, found, time⟩ := findPidTimes_line l u s
  have read : readPidTime { r with pidStat := some times } info streams =
      (1, { info with pidRuntime := times.1 + times.2 }, streams) := readStat_found rfl _ info free
  rw [← time]
  constructor
  · rintro ⟨times', info', found', read', runtime⟩
    rw [found] at found'
    cases found'
    rw [read] at read'
    cases read'
    exact runtime
  · intro runtime
    exact ⟨times, _, found, read, runtime⟩

theorem resourcesStatCpu_iff (l : PidStatLine) (cpuStat : CText) (vars : CpuLocals) :
    (∃ cpu, resourcesStatCpu (some l.text) (some cpuStat) vars = .ok (some cpu) ∧
        cpu.processCpuTime = l.utime + l.stime) ↔
      l.Plain ∨ vars.pidUtime + vars.pidStime = l.utime + l.stime := by
  obtain ⟨times, found, time⟩ := findPidTimes_line l vars.pidUtime vars.pidStime
  rw [← time]
  unfold resourcesStatCpu
  dsimp only
  rw [found]
  constructor
  · rintro ⟨cpu, ⟨⟩, runtime⟩
    exact runtime
  · intro runtime
    exact ⟨_, rfl, runtime⟩

/-- Both monitors find the CPU time of a process exactly when there is no white space in its name,
or the variables that are not initialized happen to hold it. -/
theorem processTime_iff (l : PidStatLine) (u s : BitVec 64) (r : MonitorReading)
    (info : PidStatsInfo) {streams : Streams} (free : streams.live < streams.limit)
    (cpuStat : CText) (vars : CpuLocals) :
    ((∃ times info', findPidTimes l.text u s = .ok times ∧
          readPidTime { r with pidStat := some times } info streams = (1, info', streams) ∧
          info'.pidRuntime = l.utime + l.stime) ∧
        ∃ cpu, resourcesStatCpu (some l.text) (some cpuStat) vars = .ok (some cpu) ∧
          cpu.processCpuTime = l.utime + l.stime) ↔
      l.Plain ∨ u + s = l.utime + l.stime ∧ vars.pidUtime + vars.pidStime = l.utime + l.stime := by
  rw [readPidTime_iff l u s r info free, resourcesStatCpu_iff, ← or_and_left]

/-! ## Two names -/

/-- A process that has run for 8 ticks. -/
def eightTicks (comm : CText) (short : comm.length ≤ 15) (line : '\n' ∉ comm) (text : nul ∉ comm) :
    PidStatLine where
  pid := 9
  comm := comm
  state := 'S'
  fields := [1, 9, 9, 0, -1, 4194304, 100, 0, 0, 0]
  utime := 5
  stime := 3
  rest := " 0 0 20 0 1\n".toList
  pid_lt := by decide
  comm_length := short
  comm_line := line
  comm_text := text
  state_letter := rfl
  fields_length := rfl
  fields_lt := by decide
  rest_stop := by
    rintro c ⟨⟩
    rfl

theorem processTime_iff_shell :
    let l := eightTicks ['s', 'h'] (by decide) (by decide) (by decide)
    (∃ times info', findPidTimes l.text 0 0 = .ok times ∧
        readPidTime { plainRound with pidStat := some times } zeroInfo ⟨1024, 3⟩ =
          (1, info', ⟨1024, 3⟩) ∧
        info'.pidRuntime = 8) ∧
      ∃ cpu, resourcesStatCpu (some l.text) (some []) ⟨[], 0, 0, 0, 0⟩ = .ok (some cpu) ∧
        cpu.processCpuTime = 8 := by
  intro l
  have plain : l.Plain := List.forall_mem_cons.mpr ⟨rfl, List.forall_mem_singleton.mpr rfl⟩
  exact (processTime_iff l 0 0 plainRound zeroInfo (by decide) [] ⟨[], 0, 0, 0, 0⟩).mpr
    (Or.inl plain)

/-- With a blank in its name the time of the process is what the variables held. -/
theorem processTime_blank :
    let l := eightTicks ['a', ' ', 'b'] (by decide) (by decide) (by decide)
    ¬ ((∃ times info', findPidTimes l.text 0 0 = .ok times ∧
          readPidTime { plainRound with pidStat := some times } zeroInfo ⟨1024, 3⟩ =
            (1, info', ⟨1024, 3⟩) ∧
          info'.pidRuntime = l.utime + l.stime) ∧
        ∃ cpu, resourcesStatCpu (some l.text) (some []) ⟨[], 0, 0, 0, 0⟩ = .ok (some cpu) ∧
          cpu.processCpuTime = l.utime + l.stime) := by
  intro l read
  have found := (readPidTime_iff l 0 0 plainRound zeroInfo (by decide : 3 < 1024)).mp read.1
  rcases found with plain | held
  · exact absurd (plain ' ' (by decide)) (by decide)
  · revert held
    decide

end PhantomMonitor
