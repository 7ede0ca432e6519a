import PhantomMonitor.Api.Proofs.ResourceRates
import PhantomMonitor.Api.Proofs.SentRecords
import PhantomMonitor.Misc.Steps

/-!
# A run of the resources monitor

The CPU time of each iteration is compared with that of the one before, whether or not a rate could
be computed, so the rates over a run account for the time that the process has used. The rate of the
swap space is no number on a machine without swap, and then nothing of the file can be read by the
server.
-/

namespace PhantomMonitor

open CText Steps

/-! ## The loop -/

/-- A run of the loop from the times before it: the times that its iterations find, and its
lines. -/
inductive ResourcesTrace :
    ResourcesCpu → List ResourcesTurn → List ResourcesCpu → List ResourcesLine → Prop where
  | nil (before : ResourcesCpu) : ResourcesTrace before [] [] []
  | cons {before after : ResourcesCpu} {r : ResourcesTurn} {stats : ResourcesStats}
      {rs : List ResourcesTurn} {ts : List ResourcesCpu} {lines : List ResourcesLine}
      (times : resourcesStatCpu r.pidFile r.cpuFile r.cpuVars = .ok (some after))
      (rates : resourcesStatAllAndCalculate r.statusFile r.meminfoFile r.memoryVars before after =
        some (stats, after))
      (rest : ResourcesTrace after rs ts lines) :
      ResourcesTrace before (r :: rs) (after :: ts) (⟨r.clock * 1000, stats⟩ :: lines)

theorem resourcesStatAll_cpu {status meminfo : Option CText} {vars : MemoryLocals}
    {before after before' : ResourcesCpu} {stats : ResourcesStats}
    (run : resourcesStatAllAndCalculate status meminfo vars before after = some (stats, before')) :
    before' = after ∧ stats.cpuUsageRate = processUsageRate before after := by
  cases status with
  | none => cases run
  | some status =>
      cases meminfo with
      | none => cases run
      | some meminfo =>
          cases run
          exact ⟨rfl, rfl⟩

theorem resourcesLoop_trace {rs : List ResourcesTurn} {before : ResourcesCpu}
    {lines : List ResourcesLine} (run : resourcesLoop rs before = .ok (some lines)) :
    ∃ ts, ResourcesTrace before rs ts lines := by
  induction rs generalizing before lines with
  | nil =>
      cases run
      exact ⟨[], .nil before⟩
  | cons r rs ih =>
      obtain ⟨found, times, run⟩ := Fault.bind_eq_ok.mp run
      cases found with
      | none => cases run
      | some after =>
          dsimp only at run
          split at run
          · cases run
          · rename_i stats before' rates
            obtain ⟨rest, loop, run⟩ := Fault.bind_eq_ok.mp run
            obtain ⟨rfl, -⟩ := resourcesStatAll_cpu rates
            cases rest with
            | none => cases run
            | some rest =>
                cases run
                obtain ⟨ts, trace⟩ := ih loop
                exact ⟨_, .cons times rates trace⟩

theorem resourcesMonitor_trace {first : ResourcesTurn} {rs : List ResourcesTurn}
    {lines : List ResourcesLine} (run : resourcesMonitor true first rs = .ok (some lines)) :
    ∃ before ts, resourcesStatCpu first.pidFile first.cpuFile first.cpuVars = .ok (some before) ∧
      ResourcesTrace before rs ts lines := by
  rw [resourcesMonitor, if_pos rfl] at run
  obtain ⟨found, times, run⟩ := Fault.bind_eq_ok.mp run
  cases found with
  | none => cases run
  | some before =>
      obtain ⟨ts, trace⟩ := resourcesLoop_trace run
      exact ⟨before, ts, times, trace⟩

/-! ## The CPU time -/

/-- The counters of the kernel do not go back. -/
def ResourcesCpu.Later (before after : ResourcesCpu) : Prop :=
  before.processCpuTime ≤ after.processCpuTime ∧ before.globalCpuTime ≤ after.globalCpuTime

/-- The time that the machine was busy, in ticks. -/
def machineTime (before after : ResourcesCpu) : Rat :=
  after.globalCpuTime.toNat - before.globalCpuTime.toNat

/-- The percentages of a run, each times the machine's time of its iteration. -/
def reportedTime (before : ResourcesCpu) (ts : List ResourcesCpu)
    (lines : List ResourcesLine) : Rat :=
  (List.zipWith (fun l time => l.stats.cpuUsageRate.getD 0 * time) lines
    (steps machineTime before ts)).sum

theorem sub_ne_zero_of_moved {x y : BitVec 64} (moved : ¬ y ≤ x) : y - x ≠ 0 := by
  intro none
  have same : y = x := (BitVec.sub_eq_iff_eq_add.mp none).trans (BitVec.zero_add x)
  exact moved (BitVec.le_of_eq same)

/-- A rate stands for the time of the process, unless the machine's counter stands still. -/
theorem processUsageRate_time {before after : ResourcesCpu} (later : before.Later after) :
    (processUsageRate before after).getD 0 * machineTime before after =
      if after.globalCpuTime = before.globalCpuTime then 0
      else 100 * ((after.processCpuTime.toNat : Rat) - before.processCpuTime.toNat) := by
  obtain ⟨process, machine⟩ := later
  have counted : ∀ {x y : BitVec 64}, x ≤ y → ((y - x).toNat : Rat) = y.toNat - x.toNat := by
    intro x y le
    rw [BitVec.toNat_sub_of_le le, Nat.cast_sub (BitVec.le_def.mp le)]
  unfold processUsageRate machineTime
  by_cases still : after.globalCpuTime = before.globalCpuTime
  · rw [if_pos (Or.inr (by rw [still]; exact BitVec.le_refl _)), if_pos still]
    simp
  · rw [if_neg still]
    have moved : ¬ after.globalCpuTime ≤ before.globalCpuTime :=
      fun back => still (BitVec.le_antisymm back machine)
    by_cases idle : after.processCpuTime ≤ before.processCpuTime
    · have same : after.processCpuTime = before.processCpuTime := BitVec.le_antisymm idle process
      rw [if_pos (Or.inl idle), same]
      simp
    · have whole := sub_ne_zero_of_moved moved
      have some : ((after.globalCpuTime - before.globalCpuTime).toNat : Rat) ≠ 0 :=
        Nat.cast_ne_zero.mpr fun none => whole (BitVec.eq_of_toNat_eq none)
      rw [if_neg (not_or.mpr ⟨idle, moved⟩), percentage, if_neg whole, Option.getD_some,
        ← counted machine, ← counted process, div_mul_cancel₀ _ some, mul_comm]

theorem ResourcesTrace.reported {before : ResourcesCpu} {rs : List ResourcesTurn}
    {ts : List ResourcesCpu} {lines : List ResourcesLine}
    (trace : ResourcesTrace before rs ts lines)
    (later : List.IsChain ResourcesCpu.Later (before :: ts)) :
    reportedTime before ts lines ≤
        100 * ((ts.getLastD before).processCpuTime.toNat - before.processCpuTime.toNat) ∧
      (reportedTime before ts lines =
          100 * ((ts.getLastD before).processCpuTime.toNat - before.processCpuTime.toNat) ↔
        List.IsChain (fun t t' : ResourcesCpu =>
          t'.globalCpuTime = t.globalCpuTime → t'.processCpuTime = t.processCpuTime)
            (before :: ts)) := by
  induction trace with
  | nil before => simp [reportedTime, steps]
  | @cons before after r stats rs ts lines times rates rest ih =>
      obtain ⟨first, later⟩ := List.isChain_cons_cons.mp later
      obtain ⟨bound, exact⟩ := ih later
      have time := processUsageRate_time first
      rw [← (resourcesStatAll_cpu rates).2] at time
      have split : reportedTime before (after :: ts) (⟨r.clock * 1000, stats⟩ :: lines) =
          stats.cpuUsageRate.getD 0 * machineTime before after + reportedTime after ts lines := by
        rw [reportedTime, steps, List.zipWith_cons_cons, List.sum_cons]
        rfl
      have process : (before.processCpuTime.toNat : Rat) ≤ after.processCpuTime.toNat :=
        Nat.cast_le.mpr (BitVec.le_def.mp first.1)
      have same : (after.processCpuTime.toNat : Rat) = before.processCpuTime.toNat ↔
          after.processCpuTime = before.processCpuTime := by
        rw [Nat.cast_inj, BitVec.toNat_inj]
      rw [split, time, List.getLastD_cons, List.isChain_cons_cons, ← exact, ← same]
      by_cases still : after.globalCpuTime = before.globalCpuTime
      · rw [if_pos still]
        refine ⟨by linarith, fun all => ⟨fun _ => by linarith, by linarith⟩, ?_⟩
        rintro ⟨kept, all⟩
        have kept := kept still
        linarith
      · rw [if_neg still]
        refine ⟨by linarith, fun all => ⟨fun none => absurd none still, by linarith⟩, ?_⟩
        rintro ⟨-, all⟩
        linarith

theorem ResourcesTrace.times {before : ResourcesCpu} {rs : List ResourcesTurn}
    {ts : List ResourcesCpu} {lines : List ResourcesLine}
    (trace : ResourcesTrace before rs ts lines) :
    List.Forall₂ (fun (r : ResourcesTurn) t =>
      resourcesStatCpu r.pidFile r.cpuFile r.cpuVars = .ok (some t)) rs ts := by
  induction trace with
  | nil => exact .nil
  | cons times _ _ ih => exact .cons times ih

/-- The CPU rates of a run, weighted with the machine's time, never exceed the time that the process
has used, and account for all of it exactly when in no iteration the process has used time while the
machine's counter stood still. -/
theorem resourcesMonitor_cpuTime_iff {first : ResourcesTurn} {rs : List ResourcesTurn}
    {lines : List ResourcesLine} (run : resourcesMonitor true first rs = .ok (some lines))
    {before : ResourcesCpu} {ts : List ResourcesCpu}
    (start : resourcesStatCpu first.pidFile first.cpuFile first.cpuVars = .ok (some before))
    (times : List.Forall₂ (fun (r : ResourcesTurn) t =>
      resourcesStatCpu r.pidFile r.cpuFile r.cpuVars = .ok (some t)) rs ts)
    (later : List.IsChain ResourcesCpu.Later (before :: ts)) :
    reportedTime before ts lines ≤
        100 * ((ts.getLastD before).processCpuTime.toNat - before.processCpuTime.toNat) ∧
      (reportedTime before ts lines =
          100 * ((ts.getLastD before).processCpuTime.toNat - before.processCpuTime.toNat) ↔
        List.IsChain (fun t t' : ResourcesCpu =>
          t'.globalCpuTime = t.globalCpuTime → t'.processCpuTime = t.processCpuTime)
            (before :: ts)) := by
  obtain ⟨before', ts', start', trace⟩ := resourcesMonitor_trace run
  have unique : Relator.RightUnique (fun (r : ResourcesTurn) t =>
      resourcesStatCpu r.pidFile r.cpuFile r.cpuVars = .ok (some t)) := by
    intro r t t' found found'
    exact Option.some.inj (Except.ok.inj (found.symm.trans found'))
  obtain rfl : before' = before := Option.some.inj (Except.ok.inj (start'.symm.trans start))
  obtain rfl : ts' = ts := unique.forall₂ trace.times times
  exact trace.reported later

/-! ### A process that takes half of the time of its machine -/

theorem zero_isDigit : '0'.isDigit = true := rfl

/-- A host of 8 kilobytes without swap. -/
def swaplessReading (pidStat cpuStat : CText) : ResourcesTurn where
  pidFile := some pidStat
  cpuFile := some cpuStat
  cpuVars := ⟨[], 0, 0, 0, 0⟩
  statusFile := some (unlines smallStatus)
  meminfoFile := some (unlines (smallMeminfo (.blankDigit '0' zero_isDigit)))
  memoryVars := ⟨0, 0, 0, 0⟩
  clock := 1

def readingBefore : ResourcesTurn :=
  swaplessReading "7 (app) S 1 7 7 0 7 0 0 0 0 0 4 1\n".toList "cpu  20 0 10 70 0 0 0 0\n".toList

def readingAfter : ResourcesTurn :=
  swaplessReading "7 (app) S 1 7 7 0 7 0 0 0 0 0 9 1\n".toList "cpu  25 0 15 70 0 0 0 0\n".toList

theorem swaplessRun : resourcesMonitor true readingBefore [readingAfter] =
    .ok (some [⟨1000, ⟨some 50, some 25, none⟩⟩]) := by decide +kernel

theorem resourcesMonitor_cpuTime_half :
    reportedTime ⟨5, 30⟩ [⟨10, 40⟩] [⟨1000, ⟨some 50, some 25, none⟩⟩] = 100 * (10 - 5) := by
  have start : resourcesStatCpu readingBefore.pidFile readingBefore.cpuFile readingBefore.cpuVars =
      .ok (some ⟨5, 30⟩) := by decide
  have next : resourcesStatCpu readingAfter.pidFile readingAfter.cpuFile readingAfter.cpuVars =
      .ok (some ⟨10, 40⟩) := by decide
  have later : List.IsChain ResourcesCpu.Later [⟨5, 30⟩, ⟨10, 40⟩] :=
    List.isChain_pair.mpr ⟨by decide, by decide⟩
  have moved := (resourcesMonitor_cpuTime_iff swaplessRun start (.cons next .nil) later).2.mpr
    (List.isChain_pair.mpr fun still => absurd still (by decide))
  exact moved

/-! ## The file -/

theorem recordText_oneLine {timestamp : CText} (stamp : OneLine timestamp)
    {values : List (CText × CText)} (each : ∀ value ∈ values, OneLine value.1 ∧ OneLine value.2) :
    OneLine (recordText timestamp values) := by
  have texts : OneLine "\"local_timestamp\":\"".toList ∧ OneLine ", \"".toList ∧
      OneLine "\":".toList ∧ OneLine ['"'] ∧ OneLine [] := by
    unfold OneLine
    decide
  unfold recordText
  refine ((texts.1.append stamp).append texts.2.2.2.1).append ?_
  induction values with
  | nil => exact texts.2.2.2.2
  | cons value values ih =>
      obtain ⟨⟨name, text⟩, others⟩ := List.forall_mem_cons.mp each
      rw [List.flatMap_cons]
      exact (((texts.2.1.append name).append texts.2.2.1).append text).append (ih others)

theorem recordText_length (timestamp : CText) (values : List (CText × CText)) :
    (recordText timestamp values).length =
      20 + timestamp.length +
        (values.map fun value => 5 + value.1.length + value.2.length).sum := by
  have stamp : "\"local_timestamp\":\"".toList.length = 19 := by decide
  have comma : ", \"".toList.length = 3 := by decide
  have colon : "\":".toList.length = 2 := by decide
  have texts :
      (values.flatMap fun value => ", \"".toList ++ value.1 ++ "\":".toList ++ value.2).length =
        (values.map fun value => 5 + value.1.length + value.2.length).sum := by
    induction values with
    | nil => rfl
    | cons value values ih =>
        rw [List.flatMap_cons, List.map_cons, List.sum_cons, List.length_append, ih]
        simp only [List.length_append, comma, colon]
        omega
  unfold recordText
  rw [List.length_append, texts]
  simp only [List.length_append, stamp, List.length_singleton]
  omega

theorem notNumber_short {text : CText} (listed : text ∈ Json.notNumberTexts) :
    OneLine text ∧ text.length ≤ 4 := by
  unfold OneLine
  revert text
  decide

/-- A rate as it is printed. -/
theorem floatField_short (special : NotNumbers) (name : CText) {q : Option Rat}
    (bounded : ∀ rate ∈ q, 0 ≤ rate ∧ rate < 10 ^ 22) :
    OneLine (floatField special name q).text ∧ (floatField special name q).text.length ≤ 27 := by
  cases q with
  | none =>
      obtain ⟨line, short⟩ := notNumber_short (special.listed name)
      exact ⟨line, Nat.le_trans short (by decide)⟩
  | some rate =>
      obtain ⟨nonneg, small⟩ := bounded rate rfl
      exact ⟨fixed_oneLine 3 rate, Decimal.length_fixed_le (by decide) nonneg small⟩

theorem percentage_bounded {part whole : BitVec 64} :
    ∀ rate ∈ percentage part whole, 0 ≤ rate ∧ rate < 10 ^ 22 := by
  intro rate found
  unfold percentage at found
  split at found
  · cases found
  · rename_i some
    cases found
    have positive : (1 : Rat) ≤ whole.toNat := by
      have one : 1 ≤ whole.toNat :=
        Nat.one_le_iff_ne_zero.mpr fun none => some (BitVec.eq_of_toNat_eq none)
      exact_mod_cast one
    have small : (part.toNat : Rat) < 2 ^ 64 := by exact_mod_cast part.isLt
    refine ⟨by positivity, ?_⟩
    rw [div_lt_iff₀ (by linarith)]
    calc (part.toNat : Rat) * 100 < 2 ^ 64 * 100 := by linarith
      _ ≤ 10 ^ 22 * 1 := by norm_num
      _ ≤ 10 ^ 22 * whole.toNat := by linarith

theorem processUsageRate_bounded {before after : ResourcesCpu} :
    ∀ rate ∈ processUsageRate before after, 0 ≤ rate ∧ rate < 10 ^ 22 := by
  unfold processUsageRate
  split
  · rintro rate ⟨⟩
    norm_num
  · exact percentage_bounded

/-- What an iteration finds in the files of the memory. -/
def FindsMemory (memory : ResourcesTurn → MemoryUse) (r : ResourcesTurn) : Prop :=
  ∃ status meminfo, r.statusFile = some status ∧ r.meminfoFile = some meminfo ∧
    MemoryFiles status meminfo (memory r)

/-- The line of an iteration. -/
structure ReportedLine (m : MemoryUse) (r : ResourcesTurn) (l : ResourcesLine) : Prop where
  timestamp : l.timestampMs = r.clock * 1000
  cpu : ∃ before after, l.stats.cpuUsageRate = processUsageRate before after
  ram : l.stats.ramUsageRate = percentage m.vmRSS m.memTotal
  swap : ∃ used, l.stats.swapUsageRate = percentage used m.swapTotal

theorem ResourcesTrace.lines {memory : ResourcesTurn → MemoryUse} {before : ResourcesCpu}
    {rs : List ResourcesTurn} {ts : List ResourcesCpu} {lines : List ResourcesLine}
    (trace : ResourcesTrace before rs ts lines) (finds : ∀ r ∈ rs, FindsMemory memory r) :
    List.Forall₂ (fun r l => ReportedLine (memory r) r l) rs lines := by
  induction trace with
  | nil => exact .nil
  | cons times rates rest ih =>
      obtain ⟨⟨status, meminfo, statusFile, meminfoFile, files⟩, finds⟩ :=
          List.forall_mem_cons.mp finds
      rw [statusFile, meminfoFile, resourcesStatAllAndCalculate_eq files] at rates
      cases rates
      exact .cons ⟨rfl, ⟨_, _, rfl⟩, rfl, _, rfl⟩ (ih finds)

theorem percentage_isSome_iff {part whole : BitVec 64} :
    (percentage part whole).isSome = true ↔ whole ≠ 0 := by
  unfold percentage
  split
  · rename_i zero
    exact iff_of_false Bool.false_ne_true (not_not_intro zero)
  · rename_i some
    exact iff_of_true rfl some

/-- A rate of the CPU is a number: it is only computed when the machine's counter has moved. -/
theorem isSome_processUsageRate (before after : ResourcesCpu) :
    (processUsageRate before after).isSome = true := by
  unfold processUsageRate
  split
  · rfl
  · rename_i moved
    obtain ⟨-, moved⟩ := not_or.mp moved
    exact percentage_isSome_iff.mpr (sub_ne_zero_of_moved moved)

/-- A line that an iteration prints. -/
structure PrintedLine (m : MemoryUse) (record : DataRecord) : Prop where
  printed : Printed record
  short : ShortLine record.text
  valued : record.Valued ↔ m.swapTotal ≠ 0

theorem isSome_floatField {special : NotNumbers} {name : CText} {q : Option Rat} :
    (floatField special name q).value.isSome = true ↔ q.isSome = true := by
  cases q <;> exact Iff.rfl

theorem floatField_name (special : NotNumbers) (name : CText) (q : Option Rat) :
    (floatField special name q).name = name := by
  cases q <;> rfl

theorem resourcesNames_short : OneLine "CPU_usage_rate".toList ∧ OneLine "RAM_usage_rate".toList ∧
    OneLine "swap_usage_rate".toList ∧ "CPU_usage_rate".toList.length = 14 ∧
    "RAM_usage_rate".toList.length = 14 ∧ "swap_usage_rate".toList.length = 15 := by
  unfold OneLine
  decide

theorem ReportedLine.printed {m : MemoryUse} {r : ResourcesTurn} {l : ResourcesLine}
    (line : ReportedLine m r l) (positive : m.memTotal ≠ 0)
    (clock : 0 ≤ r.clock ∧ r.clock < 10 ^ 12)
    (special : NotNumbers) : PrintedLine m (l.record special) := by
  obtain ⟨before, after, cpu⟩ := line.cpu
  obtain ⟨used, swap⟩ := line.swap
  obtain ⟨cpuName, ramName, swapName, cpuLength, ramLength, swapLength⟩ := resourcesNames_short
  have time : (fixed 1 l.timestampMs).length ≤ 18 := by
    rw [line.timestamp]
    refine Decimal.length_fixed_le (by decide) (mul_nonneg clock.1 (by norm_num)) ?_
    linarith [clock.2]
  obtain ⟨cpuLine, cpuShort⟩ := floatField_short special "CPU_usage_rate".toList
    (cpu ▸ processUsageRate_bounded : ∀ rate ∈ l.stats.cpuUsageRate, 0 ≤ rate ∧ rate < 10 ^ 22)
  obtain ⟨ramLine, ramShort⟩ := floatField_short special "RAM_usage_rate".toList
    (line.ram ▸ percentage_bounded : ∀ rate ∈ l.stats.ramUsageRate, 0 ≤ rate ∧ rate < 10 ^ 22)
  obtain ⟨swapLine, swapShort⟩ := floatField_short special "swap_usage_rate".toList
    (swap ▸ percentage_bounded : ∀ rate ∈ l.stats.swapUsageRate, 0 ≤ rate ∧ rate < 10 ^ 22)
  have oneLine : OneLine (l.record special).text := by
    refine recordText_oneLine (fixed_oneLine 1 _) ?_
    simp only [ResourcesLine.record, List.map_cons, List.map_nil, List.forall_mem_cons,
      floatField_name]
    exact ⟨⟨cpuName, cpuLine⟩, ⟨ramName, ramLine⟩, ⟨swapName, swapLine⟩, List.forall_mem_nil _⟩
  have length : (l.record special).text.length ≤ 318 := by
    rw [DataRecord.text, recordText_length]
    simp only [ResourcesLine.record, List.map_cons, List.map_nil, List.sum_cons, List.sum_nil,
      floatField_name, cpuLength, ramLength, swapLength]
    omega
  refine ⟨.resources special l, ⟨oneLine.1, oneLine.2, length⟩, ?_⟩
  simp only [DataRecord.Valued, ResourcesLine.record, List.forall_mem_cons, isSome_floatField, cpu,
    line.ram, swap, isSome_processUsageRate, percentage_isSome_iff]
  exact ⟨fun all => all.2.2.1, fun some => ⟨trivial, positive, some, List.forall_mem_nil _⟩⟩

/-- The iterations and the records of a file. -/
theorem printedLines {memory : ResourcesTurn → MemoryUse} {rs : List ResourcesTurn}
    {lines : List ResourcesLine} {records : List DataRecord}
    (reported : List.Forall₂ (fun r l => ReportedLine (memory r) r l) rs lines)
    (finds : ∀ r ∈ rs, FindsMemory memory r) (clocks : ∀ r ∈ rs, 0 ≤ r.clock ∧ r.clock < 10 ^ 12)
    (file : List.Forall₂ (fun l record => ∃ special, record = ResourcesLine.record special l)
      lines records) :
    List.Forall₂ (fun r record => PrintedLine (memory r) record) rs records := by
  induction reported generalizing records with
  | nil =>
      cases file
      exact .nil
  | cons line rest ih =>
      obtain ⟨⟨status, meminfo, -, -, files⟩, finds⟩ := List.forall_mem_cons.mp finds
      obtain ⟨clock, clocks⟩ := List.forall_mem_cons.mp clocks
      cases file with
      | cons printed file =>
          obtain ⟨special, rfl⟩ := printed
          exact .cons (line.printed files.positive clock special) (ih finds clocks file)

/-- The server can read the file of the resources monitor exactly when every iteration has found
swap space on the machine; on a machine without swap it can read no message of it. -/
theorem resourcesMonitor_readable_iff {memory : ResourcesTurn → MemoryUse}
    {first : ResourcesTurn} {rs : List ResourcesTurn} {lines : List ResourcesLine}
    (monitored : resourcesMonitor true first rs = .ok (some lines))
    (finds : ∀ r ∈ rs, FindsMemory memory r) (clocks : ∀ r ∈ rs, 0 ≤ r.clock ∧ r.clock < 10 ^ 12)
    {records : List DataRecord}
    (printed : List.Forall₂ (fun l record => ∃ special, record = ResourcesLine.record special l)
      lines records)
    {env : SendEnv} {r : Resources} {out : SendResult} (run : mfSend env r = .ok out) {v : Visit}
    (visited : v ∈ out.visits) {id : CText} (registered : out.ret = some id)
    (ids : PlainSend env id v.entry) (curl : v.entry.curlInit = true)
    (file : v.entry.kind = .regular (dataText records) true)
    (accepted : ∀ post ∈ v.posts, post.ok = true) :
    ((∀ post ∈ v.posts, (Json.read post.body).isSome = true) ↔
        ∀ r ∈ rs, (memory r).swapTotal ≠ 0) ∧
      ((∀ r ∈ rs, (memory r).swapTotal = 0) → ∀ post ∈ v.posts, Json.read post.body = none) := by
  obtain ⟨before, ts, -, trace⟩ := resourcesMonitor_trace monitored
  obtain ⟨go, content⟩ := mfSend_visited run visited registered curl file
  have each := printedLines (trace.lines finds) finds clocks printed
  have lines : ∀ record ∈ records, Printed record ∧ ShortLine record.text :=
    (forall₂_forall_iff each (P := fun _ => True) fun _ _ line =>
      iff_of_true ⟨line.printed, line.short⟩ trivial).mpr fun _ _ => trivial
  have printed : ∀ record ∈ records, Printed record := fun record member => (lines record member).1
  have short : ∀ record ∈ records, ShortLine record.text :=
    fun record member => (lines record member).2
  constructor
  · rw [posts_readable_iff content ids printed short accepted]
    exact forall₂_forall_iff each fun _ _ line => line.valued
  · intro none
    refine posts_unreadable content ids printed short ?_
    refine (forall₂_forall_iff each fun _ _ line => ?_).mpr none
    rw [line.valued, not_not]

theorem resourcesMonitor_readable_swapless : ∃ out, mfSend (oneLineEnv none) ⟨0, 1⟩ = .ok out ∧
    ∃ v ∈ out.visits, ∀ post ∈ v.posts, Json.read post.body = none := by
  obtain ⟨out, run, ret, v, visited, ids, curl, kind, accepted⟩ := oneLineEnv_sent
  have files := @smallFiles (.blankDigit '0' zero_isDigit) (by decide) (by decide) (by decide)
  have finds : ∀ r ∈ [readingAfter], FindsMemory (fun _ => ⟨2, some 0, 8, 0⟩) r :=
    List.forall_mem_singleton.mpr ⟨_, _, rfl, rfl, files⟩
  have clocks : ∀ r ∈ [readingAfter], 0 ≤ r.clock ∧ r.clock < 10 ^ 12 := by
    refine List.forall_mem_singleton.mpr ⟨?_, ?_⟩ <;> decide
  have all : ∀ post ∈ v.posts, post.ok = true := by
    have same : ∀ ok ∈ v.posts.map Post.ok, ok = true := by
      rw [accepted]
      decide
    exact List.forall_mem_map.mp same
  have file : List.Forall₂ (fun l record => ∃ special, record = ResourcesLine.record special l)
      [⟨1000, ⟨some 50, some 25, none⟩⟩] [oneLine none] := .cons ⟨nanTexts, rfl⟩ .nil
  obtain ⟨-, unread⟩ := resourcesMonitor_readable_iff swaplessRun finds clocks file run
      visited ret ids
    curl kind all
  exact ⟨out, run, v, visited, unread (List.forall_mem_singleton.mpr rfl)⟩

end PhantomMonitor
