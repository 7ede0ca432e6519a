import PhantomMonitor.Api.PowerMonitor

/-!
# Streams left open by the power monitors

The readers of single files close what they open. The run through the CPU statistics opens a first
file to see whether the statistics are supported, and forgets it: every round costs one stream,
until none is left and `power_monitor` ends the application that it runs in.
-/

namespace PhantomMonitor

/-! ## The readers -/

/-- The statistics of the CPUs are there. -/
structure CpuSysfs.Present (sysfs : CpuSysfs) : Prop where
  probe : sysfs.probe = true
  dir : sysfs.dir.isSome = true

/-- All files and directories that a round reads are there. -/
structure MonitorReading.Present (r : MonitorReading) : Prop where
  pidStat : r.pidStat.isSome = true
  pidIo : r.pidIo.isSome = true
  stat : r.stat.isSome = true
  sysfs : r.sysfs.Present

/-- The streams after a round: one more, as long as there is one to take. -/
def Streams.leak (s : Streams) : Streams :=
  if s.live < s.limit then { s with live := s.live + 1 } else s

theorem addCpu_streams (maxPower minPower : Rat) (acc : Option Rat × Streams)
    (entry : CpuDirEntry) : (addCpu maxPower minPower acc entry).2 = acc.2 := by
  unfold addCpu
  split
  · split
    · rfl
    · split
      · rfl
      · rename_i hopen
        exact Streams.fclose_of_fopen hopen
  · rfl

theorem foldl_addCpu_streams (maxPower minPower : Rat) (entries : List CpuDirEntry)
    (acc : Option Rat × Streams) :
    (entries.foldl (addCpu maxPower minPower) acc).2 = acc.2 := by
  induction entries generalizing acc with
  | nil => rfl
  | cons entry entries ih => rw [List.foldl_cons, ih, addCpu_streams]

/-- The run through the CPU statistics, with two streams to take. -/
theorem cpuFreqScan_free (maxPower minPower : Rat) {sysfs : CpuSysfs} {entries : List CpuDirEntry}
    (probe : sysfs.probe = true) (dir : sysfs.dir = some entries) {s : Streams}
    (free : s.live + 2 ≤ s.limit) :
    cpuFreqScan maxPower minPower sysfs s =
      (some (entries.foldl (addCpu maxPower minPower) (some 0, ⟨s.limit, s.live + 2⟩)).1,
        s.leak) := by
  have one : s.live < s.limit := by omega
  have hopen : Streams.fopen ⟨s.limit, s.live + 1⟩ true = some ⟨s.limit, s.live + 2⟩ :=
    Streams.fopen_free free
  unfold cpuFreqScan
  rw [probe, dir, Streams.fopen_free one]
  dsimp only
  rw [hopen]
  dsimp only
  rw [foldl_addCpu_streams, Streams.leak, if_pos one]
  rfl

/-- The run through the CPU statistics finds an energy when two streams are free, and keeps one. -/
theorem cpuFreqScan_spec (maxPower minPower : Rat) {sysfs : CpuSysfs} (h : sysfs.Present)
    (s : Streams) :
    ((cpuFreqScan maxPower minPower sysfs s).1.isSome = true ↔ s.live + 2 ≤ s.limit) ∧
      (cpuFreqScan maxPower minPower sysfs s).2 = s.leak := by
  obtain ⟨entries, hdir⟩ := Option.isSome_iff_exists.mp h.dir
  by_cases free : s.live + 2 ≤ s.limit
  · rw [cpuFreqScan_free maxPower minPower h.probe hdir free]
    exact ⟨iff_of_true rfl free, rfl⟩
  · unfold cpuFreqScan Streams.leak
    rw [h.probe, hdir]
    by_cases hprobe : s.live < s.limit
    · have full : s.limit ≤ s.live + 1 := by omega
      have hopen : Streams.fopen ⟨s.limit, s.live + 1⟩ true = none := Streams.fopen_full full true
      rw [Streams.fopen_free hprobe, if_pos hprobe]
      dsimp only
      rw [hopen]
      exact ⟨iff_of_false Bool.false_ne_true free, rfl⟩
    · rw [Streams.fopen_full (Nat.not_lt.mp hprobe), if_neg hprobe]
      exact ⟨iff_of_false Bool.false_ne_true free, rfl⟩

theorem readStat_found {α : Type} {file : Option α} {found : α} (present : file = some found)
    (fill : α → PidStatsInfo) (info : PidStatsInfo) {s : Streams} (free : s.live < s.limit) :
    readStat file fill info s = (1, fill found, s) := by
  subst present
  unfold readStat
  dsimp only
  rw [Streams.fopen_free free]
  rfl

theorem readStat_free {α : Type} {file : Option α} (present : file.isSome = true)
    (fill : α → PidStatsInfo) (info : PidStatsInfo) {s : Streams} (free : s.live < s.limit) :
    ∃ info', readStat file fill info s = (1, info', s) := by
  obtain ⟨found, present⟩ := Option.isSome_iff_exists.mp present
  exact ⟨fill found, readStat_found present fill info free⟩

theorem readStat_full {α : Type} (file : Option α) (fill : α → PidStatsInfo)
    (info : PidStatsInfo) {s : Streams} (full : s.limit ≤ s.live) :
    readStat file fill info s = (0, info, s) := by
  unfold readStat
  cases file with
  | none => rfl
  | some found =>
      dsimp only
      rw [Streams.fopen_full full]

theorem cpuFreqStat_eq (p : Nat → Rat) {r : MonitorReading} (h : r.sysfs.Present)
    (info : PidStatsInfo) (s : Streams) :
    ∃ info', cpuFreqStat p r info s =
      (if s.live + 2 ≤ s.limit then 1 else 0, info', s.leak) := by
  obtain ⟨hsome, hstreams⟩ := cpuFreqScan_spec (p 0) (p 1) h s
  unfold cpuFreqStat
  rcases hscan : cpuFreqScan (p 0) (p 1) r.sysfs s with ⟨energy, s'⟩
  rw [hscan] at hsome hstreams
  rw [← hstreams]
  cases energy with
  | none =>
      have full : ¬ s.live + 2 ≤ s.limit := fun free => nomatch hsome.mpr free
      rw [if_neg full]
      exact ⟨info, rfl⟩
  | some energy =>
      rw [if_pos (hsome.mp rfl)]
      exact ⟨{ info with sysCpuEnergy := energy }, rfl⟩

theorem readPidTime_free {r : MonitorReading} (h : r.Present) (info : PidStatsInfo) {s : Streams}
    (free : s.live < s.limit) : ∃ info', readPidTime r info s = (1, info', s) :=
  readStat_free h.pidStat _ info free

theorem readPidIo_free {r : MonitorReading} (h : r.Present) (info : PidStatsInfo) {s : Streams}
    (free : s.live < s.limit) : ∃ info', readPidIo r info s = (1, info', s) :=
  readStat_free h.pidIo _ info free

theorem readSysTime_free {r : MonitorReading} (h : r.Present) (info : PidStatsInfo) {s : Streams}
    (free : s.live < s.limit) : ∃ info', readSysTime r info s = (1, info', s) :=
  readStat_free h.stat _ info free

/-- A round of readers succeeds when two streams are free, and keeps one. -/
theorem readFiles_eq (p : Nat → Rat) {r : MonitorReading} (h : r.Present)
    (info : PidStatsInfo) (s : Streams) :
    ∃ info', readFiles p r info s = (if s.live + 2 ≤ s.limit then 1 else 0, info', s.leak) := by
  unfold readFiles
  have succeeded : ¬ (1 : Int) ≤ 0 := by decide
  by_cases free : s.live < s.limit
  · -- the three files are read; the CPU statistics decide
    obtain ⟨info₁, htime⟩ := readPidTime_free h info free
    obtain ⟨info₂, hio⟩ := readPidIo_free h info₁ free
    obtain ⟨info₃, hsys⟩ := readSysTime_free h info₂ free
    rw [htime]
    dsimp only
    rw [if_neg succeeded, hio]
    dsimp only
    rw [if_neg succeeded, hsys]
    dsimp only
    rw [if_neg succeeded]
    obtain ⟨info₄, hfreq⟩ := cpuFreqStat_eq p h.sysfs info₃ s
    rw [hfreq]
    refine ⟨info₄, ?_⟩
    by_cases two : s.live + 2 ≤ s.limit
    · rw [if_pos two]
      rfl
    · rw [if_neg two]
      rfl
  · have full : ¬ s.live + 2 ≤ s.limit := by omega
    have htime : readPidTime r info s = (0, info, s) :=
      readStat_full r.pidStat _ info (Nat.not_lt.mp free)
    rw [htime, if_neg full, Streams.leak, if_neg free]
    exact ⟨info, rfl⟩

/-- A round keeps one stream whatever comes of it. -/
theorem readAndCheck_eq (p : Nat → Rat) {r : MonitorReading} (h : r.Present)
    (info : PidStatsInfo) (s : Streams) :
    ∃ info', readAndCheck p r info s =
      (if s.live + 2 ≤ s.limit ∧ r.perfCount ≠ 0 then 1 else 0, info', s.leak) := by
  obtain ⟨info', hfiles⟩ := readFiles_eq p h info s
  unfold readAndCheck
  rw [hfiles]
  by_cases free : s.live + 2 ≤ s.limit
  · rw [if_pos free]
    refine ⟨{ info' with pidL2CacheMisses := r.perfCount }, ?_⟩
    by_cases counted : r.perfCount = 0
    · rw [if_neg fun both => both.2 counted]
      dsimp only
      rw [if_neg (by decide), if_pos counted]
    · rw [if_pos ⟨free, counted⟩]
      dsimp only
      rw [if_neg (by decide), if_neg counted]
  · rw [if_neg free, if_neg fun both => free both.1]
    exact ⟨info', rfl⟩

/-! ## Runs -/

/-- An iteration that leaves the number of open streams as it found it, and finds a descriptor for
every file. -/
structure Iteration.Balanced (i : Iteration) : Prop where
  live : i.liveAfter = i.liveBefore
  filesRead : i.filesRead = true

/-- No iteration is balanced: it keeps a stream, or finds no descriptor. -/
theorem monitorLoop_unbalanced (p : Nat → Rat) {r : MonitorReading} (h : r.Present)
    (rs : List MonitorReading) (m : Monitor) :
    ∃ i ∈ (monitorLoop p (r :: rs) m).1, ¬ i.Balanced := by
  obtain ⟨info, hfiles⟩ := readFiles_eq p h m.after m.streams
  obtain ⟨info', hcheck⟩ := readAndCheck_eq p h m.after m.streams
  unfold monitorLoop
  rw [hfiles, hcheck]
  refine ⟨⟨m.streams.live, m.streams.leak.live, 0 < (if m.streams.live + 2 ≤ m.streams.limit
    then (1 : Int) else 0)⟩, ?_, ?_⟩
  · dsimp only
    by_cases stop : (if m.streams.live + 2 ≤ m.streams.limit ∧ r.perfCount ≠ 0
        then (1 : Int) else 0) ≤ 0
    · rw [if_pos stop]
      exact List.mem_cons_self
    · rw [if_neg stop]
      exact List.mem_cons_self
  · rintro ⟨same, read⟩
    dsimp only at same read
    by_cases free : m.streams.live + 2 ≤ m.streams.limit
    · rw [Streams.leak, if_pos (by omega)] at same
      exact absurd same (Nat.succ_ne_self _)
    · rw [if_neg free] at read
      exact absurd read (by decide)

/-- A run that comes to its end has had a descriptor for every iteration, so a run that is long
enough exits. -/
theorem monitorLoop_length (p : Nat → Rat) {rs : List MonitorReading}
    (h : ∀ r ∈ rs, r.Present) {m m' : Monitor} (run : (monitorLoop p rs m).2 = some m') :
    rs = [] ∨ m.streams.live + rs.length + 1 ≤ m.streams.limit := by
  induction rs generalizing m with
  | nil => exact .inl rfl
  | cons r rs ih =>
      right
      obtain ⟨info', hcheck⟩ := readAndCheck_eq p (h r List.mem_cons_self) m.after m.streams
      unfold monitorLoop at run
      rw [hcheck] at run
      by_cases go : m.streams.live + 2 ≤ m.streams.limit ∧ r.perfCount ≠ 0
      · rw [if_pos go] at run
        have leaked : m.streams.leak = ⟨m.streams.limit, m.streams.live + 1⟩ :=
          if_pos (by omega)
        have write : (monitorWrite p r { m with after := info', streams := m.streams.leak }).streams
            = m.streams.leak := by
          unfold monitorWrite
          split <;> rfl
        have rest := ih (fun r' member => h r' (List.mem_cons_of_mem _ member)) run
        rw [write, leaked] at rest
        dsimp only at rest
        rw [List.length_cons]
        rcases rest with rfl | rest
        · exact go.1
        · omega
      · rw [if_neg go] at run
        cases run

/-- What `power_monitor` needs to come to its loop: the data file, a perf counter that counts, and
two more streams. -/
def MonitorStarts (fileOk : Bool) (perfFd : Int) (first : MonitorReading) (s : Streams) : Prop :=
  fileOk = true ∧ s.live + 3 ≤ s.limit ∧ 0 < perfFd ∧ first.perfCount ≠ 0

theorem powerMonitor_unstarted (p : Nat → Rat) {fileOk : Bool} {perfFd : Int}
    (before after : PidStatsInfo) {first : MonitorReading} (hfirst : first.Present)
    (rs : List MonitorReading) {s : Streams} (h : ¬ MonitorStarts fileOk perfFd first s) :
    powerMonitor p fileOk perfFd before after first rs s = ([], none) := by
  unfold powerMonitor
  cases hfile : s.fopen fileOk with
  | none => rfl
  | some s₁ =>
      obtain ⟨hfileOk, hfree, rfl⟩ := Streams.fopen_eq_some.mp hfile
      dsimp only
      by_cases hperf : perfFd ≤ 0
      · rw [if_pos hperf]
      · obtain ⟨info, hcheck⟩ := readAndCheck_eq p hfirst before ⟨s.limit, s.live + 1⟩
        have stops : ¬ (s.live + 1 + 2 ≤ s.limit ∧ first.perfCount ≠ 0) := fun both =>
          h ⟨hfileOk, both.1, Int.not_le.mp hperf, both.2⟩
        rw [if_neg hperf, hcheck, if_neg stops]
        rfl

/-- Started, the loop begins with the stream of the file and one of the first round open. -/
theorem powerMonitor_started (p : Nat → Rat) {fileOk : Bool} {perfFd : Int}
    (before after : PidStatsInfo) {first : MonitorReading} (hfirst : first.Present)
    (rs : List MonitorReading) {s : Streams} (h : MonitorStarts fileOk perfFd first s) :
    ∃ info, powerMonitor p fileOk perfFd before after first rs s =
      ((monitorLoop p rs ⟨info, after, ⟨s.limit, s.live + 2⟩, []⟩).1,
        (monitorLoop p rs ⟨info, after, ⟨s.limit, s.live + 2⟩, []⟩).2.map fun m =>
          (m.lines, m.streams.fclose)) := by
  obtain ⟨rfl, hfree, hperf, hcount⟩ := h
  obtain ⟨info, hcheck⟩ := readAndCheck_eq p hfirst before ⟨s.limit, s.live + 1⟩
  have leaked : Streams.leak ⟨s.limit, s.live + 1⟩ = ⟨s.limit, s.live + 2⟩ :=
    if_pos (Nat.lt_of_succ_lt hfree)
  have goes : s.live + 1 + 2 ≤ s.limit ∧ first.perfCount ≠ 0 := ⟨hfree, hcount⟩
  refine ⟨info, ?_⟩
  unfold powerMonitor
  rw [Streams.fopen_free (by omega)]
  dsimp only
  rw [if_neg (Int.not_le.mpr hperf), hcheck, if_pos goes, leaked]
  rfl

/-- The run of `power_monitor` keeps the balance: every iteration does, and the monitor comes to its
end without ending the application. -/
def MonitorBalanced (run : List Iteration × Option (List MonitorLine × Streams)) : Prop :=
  (∀ i ∈ run.1, i.Balanced) ∧ run.2.isSome = true

/-- A run of `power_monitor` keeps the balance only if it is started and stopped before an
iteration. -/
theorem powerMonitor_balanced_iff (p : Nat → Rat) (fileOk : Bool) (perfFd : Int)
    (before after : PidStatsInfo) {first : MonitorReading} (hfirst : first.Present)
    {rs : List MonitorReading} (hrs : ∀ r ∈ rs, r.Present) (s : Streams) :
    MonitorBalanced (powerMonitor p fileOk perfFd before after first rs s) ↔
      rs = [] ∧ MonitorStarts fileOk perfFd first s := by
  by_cases starts : MonitorStarts fileOk perfFd first s
  · obtain ⟨info, hrun⟩ := powerMonitor_started p before after hfirst rs starts
    rw [hrun]
    constructor
    · rintro ⟨balanced, -⟩
      cases rs with
      | nil => exact ⟨rfl, starts⟩
      | cons r rs =>
          obtain ⟨i, member, unbalanced⟩ := monitorLoop_unbalanced p (hrs r List.mem_cons_self) rs
            ⟨info, after, ⟨s.limit, s.live + 2⟩, []⟩
          exact absurd (balanced i member) unbalanced
    · rintro ⟨rfl, -⟩
      exact ⟨fun i member => (nomatch member), rfl⟩
  · rw [powerMonitor_unstarted p before after hfirst rs starts]
    constructor
    · rintro ⟨-, ended⟩
      cases ended
    · rintro ⟨-, started⟩
      exact absurd started starts

/-- A run of `power_monitor` with more iterations than free descriptors ends the application. -/
theorem powerMonitor_exits (p : Nat → Rat) (fileOk : Bool) (perfFd : Int)
    (before after : PidStatsInfo) {first : MonitorReading} (hfirst : first.Present)
    {rs : List MonitorReading} (hrs : ∀ r ∈ rs, r.Present) {s : Streams} (hne : rs ≠ [])
    (long : s.limit ≤ s.live + rs.length + 2) :
    (powerMonitor p fileOk perfFd before after first rs s).2 = none := by
  by_cases starts : MonitorStarts fileOk perfFd first s
  · obtain ⟨info, hrun⟩ := powerMonitor_started p before after hfirst rs starts
    rw [hrun]
    cases hloop : (monitorLoop p rs ⟨info, after, ⟨s.limit, s.live + 2⟩, []⟩).2 with
    | none => rfl
    | some m =>
        rcases monitorLoop_length p hrs hloop with empty | fits
        · exact absurd empty hne
        · dsimp only at fits
          omega
  · rw [powerMonitor_unstarted p before after hfirst rs starts]

/-- `CPU_energy_read` leaves the number of streams alone only when no descriptor is free. -/
theorem cpuEnergyRead_balanced_iff {sysfs : CpuSysfs} (h : sysfs.Present) (s : Streams) :
    (cpuEnergyRead sysfs s).2.live = s.live ↔ s.limit ≤ s.live := by
  have streams : (cpuEnergyRead sysfs s).2 = s.leak := by
    rw [← (cpuFreqScan_spec maxCpuPower minCpuPower h s).2]
    unfold cpuEnergyRead
    split <;> (rename_i hscan; rw [hscan])
  rw [streams, Streams.leak]
  by_cases free : s.live < s.limit
  · rw [if_pos free]
    exact ⟨fun same => absurd same (Nat.succ_ne_self _), fun full => absurd free (by omega)⟩
  · rw [if_neg free]
    exact ⟨fun _ => Nat.not_lt.mp free, fun _ => rfl⟩

/-- With all files and directories present, the two monitors keep the number of open streams, and
`power_monitor` finds a descriptor for every file and leaves the application running, exactly when
it is stopped before its first iteration and `CPU_energy_read` is called without a free descriptor.
A run with more iterations than free descriptors ends the application. -/
theorem streamBalance_iff (p : Nat → Rat) (fileOk : Bool) (perfFd : Int)
    (before after : PidStatsInfo) {first : MonitorReading} (hfirst : first.Present)
    {rs : List MonitorReading} (hrs : ∀ r ∈ rs, r.Present) (s : Streams)
    {sysfs : CpuSysfs} (hsysfs : sysfs.Present) (s' : Streams) :
    (MonitorBalanced (powerMonitor p fileOk perfFd before after first rs s) ∧
        (cpuEnergyRead sysfs s').2.live = s'.live ↔
      (rs = [] ∧ MonitorStarts fileOk perfFd first s) ∧ s'.limit ≤ s'.live) ∧
    (rs ≠ [] → s.limit ≤ s.live + rs.length + 2 →
      (powerMonitor p fileOk perfFd before after first rs s).2 = none) :=
  ⟨and_congr (powerMonitor_balanced_iff p fileOk perfFd before after hfirst hrs s)
      (cpuEnergyRead_balanced_iff hsysfs s'),
    powerMonitor_exits p fileOk perfFd before after hfirst hrs⟩

/-! ## One CPU -/

/-- A CPU that has spent 5 and 7 units at its two frequencies. -/
def oneCpu : CpuSysfs where
  probe := true
  dir := some [⟨"cpu0".toList, some [5, 7]⟩, ⟨"cpuidle".toList, none⟩, ⟨"online".toList, none⟩]

theorem oneCpu_present : oneCpu.Present := ⟨rfl, rfl⟩

/-- A round in which everything is there. -/
def plainRound : MonitorReading where
  clockBefore := 0
  clockAfter := 1
  pidStat := some (3, 4)
  pidIo := some ⟨some 10, some 20, some 0⟩
  stat := some ⟨100, 0, 50, 900, 10, 0, 0, 0⟩
  sysfs := oneCpu
  perfCount := 1000

theorem plainRound_present : plainRound.Present := ⟨rfl, rfl, rfl, oneCpu_present⟩

def zeroInfo : PidStatsInfo := ⟨0, 0, 0, 0, 0, 0, 0, some 0⟩

theorem streamBalance_iff_round :
    ¬ (MonitorBalanced (powerMonitor (fun _ => 1) true 5 zeroInfo zeroInfo plainRound [plainRound]
          ⟨1024, 3⟩) ∧
        (cpuEnergyRead oneCpu ⟨1024, 3⟩).2.live = 3) ∧
      (powerMonitor (fun _ => 1) true 5 zeroInfo zeroInfo plainRound [plainRound] ⟨6, 3⟩).2 =
        none := by
  have hrs : ∀ r ∈ [plainRound], r.Present := by
    intro r member
    rw [List.mem_singleton.mp member]
    exact plainRound_present
  constructor
  · intro balanced
    have unmet := ((streamBalance_iff (fun _ => 1) true 5 zeroInfo zeroInfo plainRound_present hrs
      ⟨1024, 3⟩ oneCpu_present ⟨1024, 3⟩).1.mp balanced).2
    exact absurd unmet (by decide)
  · exact (streamBalance_iff (fun _ => 1) true 5 zeroInfo zeroInfo plainRound_present hrs
      ⟨6, 3⟩ oneCpu_present ⟨1024, 3⟩).2 (List.cons_ne_nil _ _) (by decide)

/-- One iteration costs a stream, and so does one call of `CPU_energy_read`. -/
theorem streams_leaked :
    (powerMonitor (fun _ => 1) true 5 zeroInfo zeroInfo plainRound [plainRound] ⟨1024, 3⟩).1 =
        [⟨5, 6, true⟩] ∧
      (cpuEnergyRead oneCpu ⟨1024, 3⟩).2.live = 4 := by
  decide +kernel

end PhantomMonitor
