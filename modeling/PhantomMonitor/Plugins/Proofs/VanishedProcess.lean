import PhantomMonitor.Misc.Counter
import PhantomMonitor.Plugins.LinuxResources
import PhantomMonitor.Plugins.LinuxSysPower

/-!
# I/O of processes that ended

The I/O increments that Linux_resources and Linux_sys_power take from two consecutive snapshots of
`/proc`. A process that ends takes its bytes out of the totals, and an unsigned difference turns the
decrease into an increment of almost `2 ^ 64`.

The saved counters of Linux_sys_power are those of the last snapshot. Linux_resources saves them
only when bytes were moved, so only the sum of its two counters is the one of the last snapshot.
-/

namespace PhantomMonitor

open CText

/-! ## Totals of a snapshot -/

/-- The totals that `sys_IO_stat_read` finds. -/
def ProcDir.totals (proc : ProcDir) : IoStats := proc.names.foldl (addProcess proc) ⟨0, 0⟩

/-- The sums over all processes are below `2 ^ 64`. -/
def ProcDir.Fits (proc : ProcDir) : Prop := proc.readTotal + proc.writeTotal < 2 ^ 64

theorem foldl_addProcess (proc : ProcDir) (names : List CText) (total : IoStats) :
    names.foldl (addProcess proc) total =
      let processes := names.filterMap fun name =>
        if startsWithDigit name then (proc.processIo (atoi name)).map fun io => (atoi name, io)
        else none
      ⟨processes.foldl (fun total process => total + process.2.readBytes) total.readBytes,
        processes.foldl (fun total process => total + process.2.writeBytes) total.writeBytes⟩ := by
  induction names generalizing total with
  | nil => rfl
  | cons name names ih =>
      rw [List.foldl_cons, ih, List.filterMap_cons, addProcess]
      by_cases isProcess : startsWithDigit name = true
      · rw [if_pos isProcess, if_pos isProcess]
        cases proc.processIo (atoi name) <;> rfl
      · rw [if_neg isProcess, if_neg isProcess]

theorem ProcDir.Fits.read {proc : ProcDir} (h : proc.Fits) :
    proc.totals.readBytes.toNat = proc.readTotal := by
  have bound : proc.readTotal < 2 ^ 64 := Nat.lt_of_le_of_lt (Nat.le_add_right _ _) h
  rw [totals, foldl_addProcess]
  show (proc.processes.foldl
    (fun (total : BitVec 64) (process : Int × IoStats) => total + process.2.readBytes)
      0#64).toNat = _
  rw [Counter.foldl_add, BitVec.toNat_zero, Nat.zero_add]
  exact Nat.mod_eq_of_lt bound

theorem ProcDir.Fits.write {proc : ProcDir} (h : proc.Fits) :
    proc.totals.writeBytes.toNat = proc.writeTotal := by
  have bound : proc.writeTotal < 2 ^ 64 := Nat.lt_of_le_of_lt (Nat.le_add_left _ _) h
  rw [totals, foldl_addProcess]
  show (proc.processes.foldl
    (fun (total : BitVec 64) (process : Int × IoStats) => total + process.2.writeBytes)
      0#64).toNat = _
  rw [Counter.foldl_add, BitVec.toNat_zero, Nat.zero_add]
  exact Nat.mod_eq_of_lt bound

/-- All bytes of a snapshot. -/
def IoStats.sum (io : IoStats) : BitVec 64 := io.readBytes + io.writeBytes

theorem ProcDir.Fits.sum {proc : ProcDir} (h : proc.Fits) :
    proc.totals.sum.toNat = proc.readTotal + proc.writeTotal := by
  rw [IoStats.sum, BitVec.toNat_add, h.read, h.write]
  exact Nat.mod_eq_of_lt h

theorem ioBytes_eq (before after : IoStats) : ioBytes before after = after.sum - before.sum :=
  Counter.add_sub_add _ _ _ _

/-! ## Linux_resources -/

/-- A part of the sampler that leaves the flags and the saved I/O counters alone. -/
structure KeepsIo (s s' : ResourcesSample) : Prop where
  flag : s'.st.flag = s.st.flag
  before : s'.st.ioStatBefore = s.st.ioStatBefore
  after : s'.st.ioStatAfter = s.st.ioStatAfter

theorem KeepsIo.trans {s s' s'' : ResourcesSample} (h : KeepsIo s s') (h' : KeepsIo s' s'') :
    KeepsIo s s'' :=
  ⟨h'.flag.trans h.flag, h'.before.trans h.before, h'.after.trans h.after⟩

theorem sampleCpu_keepsIo (r : ResourcesReading) (s : ResourcesSample) :
    KeepsIo s (sampleCpu r s) := by
  unfold sampleCpu
  split
  · dsimp only
    split <;> exact ⟨rfl, rfl, rfl⟩
  · exact ⟨rfl, rfl, rfl⟩

theorem sampleRate_keepsIo (m : ResourcesMetric) (rate : Rat) (s : ResourcesSample) :
    KeepsIo s (sampleRate m rate s) := by
  unfold sampleRate
  split <;> exact ⟨rfl, rfl, rfl⟩

theorem sampleNet_keepsIo (r : ResourcesReading) (interval : Rat) (s : ResourcesSample) :
    KeepsIo s (sampleNet r interval s) := by
  unfold sampleNet
  split
  · dsimp only
    split <;> exact ⟨rfl, rfl, rfl⟩
  · exact ⟨rfl, rfl, rfl⟩

/-- What a sample does with the I/O counters. -/
theorem sampleIo_spec (r : ResourcesReading) (interval : Rat) {s : ResourcesSample}
    (hflag : s.st.flag .io = true) :
    (sampleIo r interval s).st.flag = s.st.flag ∧
      (sampleIo r interval s).st.ioStatAfter = (sysIOStatRead r.proc s.st.ioStatAfter).1 ∧
      (sampleIo r interval s).st.ioStatBefore =
        if 0 < (ioBytes s.st.ioStatBefore (sysIOStatRead r.proc s.st.ioStatAfter).1).toNat
        then (sysIOStatRead r.proc s.st.ioStatAfter).1 else s.st.ioStatBefore := by
  unfold sampleIo
  rw [if_pos hflag]
  dsimp only
  split <;> exact ⟨rfl, rfl, rfl⟩

theorem resourcesSample_io (data : PluginMetrics) (r : ResourcesReading) {st : ResourcesState}
    (hflag : st.flag .io = true) :
    (mfLinuxResourcesSample data r st).2.flag = st.flag ∧
      (mfLinuxResourcesSample data r st).2.ioStatAfter =
        (sysIOStatRead r.proc st.ioStatAfter).1 ∧
      (mfLinuxResourcesSample data r st).2.ioStatBefore =
        if 0 < (ioBytes st.ioStatBefore (sysIOStatRead r.proc st.ioStatAfter).1).toNat
        then (sysIOStatRead r.proc st.ioStatAfter).1 else st.ioStatBefore := by
  -- the four parts of the sampler before the disks
  have keeps : KeepsIo ⟨{ st with afterTime := r.clock }, data.values, 0⟩
      (sampleNet r (r.clock - st.beforeTime) (sampleRate .swap r.swapUsage
        (sampleRate .ram r.ramUsage
          (sampleCpu r ⟨{ st with afterTime := r.clock }, data.values, 0⟩)))) :=
    (((sampleCpu_keepsIo r _).trans (sampleRate_keepsIo .ram r.ramUsage _)).trans
      (sampleRate_keepsIo .swap r.swapUsage _)).trans (sampleNet_keepsIo r _ _)
  have flagged := congrFun keeps.flag ResourcesMetric.io
  have spec := sampleIo_spec r (r.clock - st.beforeTime) (flagged.trans hflag)
  rw [keeps.flag, keeps.before, keeps.after] at spec
  exact spec

/-- The states of the plugin, with I/O asked for, whose last snapshot is `prev`. -/
inductive ResourcesReach : ProcDir → PluginMetrics → ResourcesState → Prop where
  | init {prev : ProcDir} (data : PluginMetrics) {events : List CText} {r : ResourcesReading}
      (st : ResourcesState) (asked : ResourcesMetric.io.name ∈ events)
      (hproc : r.proc = some prev) :
      ResourcesReach prev (mfLinuxResourcesInit data events r st).2.1
        (mfLinuxResourcesInit data events r st).2.2
  | sample {first prev : ProcDir} {data : PluginMetrics} {st : ResourcesState}
      {r : ResourcesReading} (reached : ResourcesReach first data st)
      (hproc : r.proc = some prev) :
      ResourcesReach prev (mfLinuxResourcesSample data r st).1 (mfLinuxResourcesSample data r st).2

theorem sysIOStatRead_some {proc : Option ProcDir} {found : ProcDir} (h : proc = some found)
    (total : IoStats) : (sysIOStatRead proc total).1 = found.totals := by
  subst h
  rfl

theorem resourcesInit_io (data : PluginMetrics) {events : List CText} (r : ResourcesReading)
    (st : ResourcesState) (asked : ResourcesMetric.io.name ∈ events) :
    (mfLinuxResourcesInit data events r st).2.2.flag .io = true ∧
      (mfLinuxResourcesInit data events r st).2.2.ioStatBefore =
        (sysIOStatRead r.proc st.ioStatBefore).1 := by
  obtain ⟨hflag, hok⟩ : (resourcesFlagInit st.flag events).1 .io = true ∧
      (resourcesFlagInit st.flag events).2 = 1 := flagInit_of_mem st.flag (by decide) asked
  unfold mfLinuxResourcesInit
  dsimp only
  rw [if_neg (by rw [hok]; exact Nat.one_ne_zero)]
  exact ⟨hflag, if_pos hflag⟩

/-- The sum of the saved counters is the one of the last snapshot. -/
theorem ResourcesReach.saved {prev : ProcDir} {data : PluginMetrics} {st : ResourcesState}
    (h : ResourcesReach prev data st) :
    st.flag .io = true ∧ st.ioStatBefore.sum = prev.totals.sum := by
  induction h with
  | init data st asked hproc =>
      obtain ⟨hflag, hbefore⟩ := resourcesInit_io data _ st asked
      rw [hbefore, sysIOStatRead_some hproc]
      exact ⟨hflag, rfl⟩
  | @sample first prev data st r reached hproc ih =>
      obtain ⟨hflag, -, hbefore⟩ := resourcesSample_io data r ih.1
      rw [sysIOStatRead_some hproc] at hbefore
      refine ⟨(congrFun hflag _).trans ih.1, ?_⟩
      rw [hbefore]
      split
      · rfl
      · -- no byte was moved, so the two sums are equal
        rename_i idle
        have zero : ioBytes st.ioStatBefore prev.totals = 0#64 :=
          BitVec.eq_of_toNat_eq (Nat.eq_zero_of_not_pos idle)
        rw [ioBytes_eq, BitVec.sub_eq_iff_eq_add, BitVec.zero_add] at zero
        exact zero.symm

/-! ## Linux_sys_power -/

/-- One of the metrics that need the I/O counters is asked for. -/
def PowerState.watchesIo (st : PowerState) : Bool := st.flag .all || st.flag .ram || st.flag .io

/-- What a part of the sampler leaves in the I/O counters: the snapshot it has read. -/
structure TakesIo (r : PowerReading) (s s' : PowerSample) : Prop where
  flag : s'.st.flag = s.st.flag
  after : s'.st.ioStatAfter = (sysIOStatRead r.proc s.st.ioStatAfter).1
  before : s'.st.ioStatBefore = (sysIOStatRead r.proc s.st.ioStatAfter).1

theorem samplePowerAll_takesIo (r : PowerReading) (interval : Rat) (s : PowerSample) :
    TakesIo r s (samplePowerAll r interval s) := by
  unfold samplePowerAll sysNetEnergy sysDiskEnergy
  dsimp only
  -- the optional values leave the state alone
  split <;> split <;> split <;> exact ⟨rfl, rfl, rfl⟩

theorem samplePowerIo_takesIo (r : PowerReading) (interval : Rat) {s : PowerSample}
    (hflag : (s.st.flag .ram || s.st.flag .io) = true) :
    TakesIo r s (samplePowerIo r interval s) := by
  unfold samplePowerIo
  rw [if_pos hflag]
  exact ⟨rfl, rfl, rfl⟩

theorem samplePowerCpu_keeps (r : PowerReading) (interval : Rat) (s : PowerSample) :
    (samplePowerCpu r interval s).st.flag = s.st.flag ∧
      (samplePowerCpu r interval s).st.ioStatAfter = s.st.ioStatAfter := by
  unfold samplePowerCpu
  split <;> exact ⟨rfl, rfl⟩

theorem samplePowerNet_keeps (r : PowerReading) (interval : Rat) (s : PowerSample) :
    (samplePowerNet r interval s).st.flag = s.st.flag ∧
      (samplePowerNet r interval s).st.ioStatAfter = s.st.ioStatAfter := by
  unfold samplePowerNet
  split <;> exact ⟨rfl, rfl⟩

/-- The parts of the sampler when the total is not asked for. -/
theorem samplePowerParts_takesIo (r : PowerReading) (interval : Rat) {s : PowerSample}
    (hflag : (s.st.flag .ram || s.st.flag .io) = true) :
    TakesIo r s (samplePowerIo r interval (samplePowerNet r interval
      (samplePowerCpu r interval s))) := by
  obtain ⟨cpuFlag, cpuAfter⟩ := samplePowerCpu_keeps r interval s
  obtain ⟨netFlag, netAfter⟩ := samplePowerNet_keeps r interval (samplePowerCpu r interval s)
  have hio : ((samplePowerNet r interval (samplePowerCpu r interval s)).st.flag .ram ||
      (samplePowerNet r interval (samplePowerCpu r interval s)).st.flag .io) = true := by
    rw [netFlag, cpuFlag]
    exact hflag
  have takes := samplePowerIo_takesIo r interval hio
  refine ⟨takes.flag.trans (netFlag.trans cpuFlag), ?_, ?_⟩
  · rw [takes.after, netAfter, cpuAfter]
  · rw [takes.before, netAfter, cpuAfter]

/-- What a sample does with the I/O counters. -/
theorem powerSample_io (data : PowerMetrics) (r : PowerReading) {st : PowerState}
    (hwatches : st.watchesIo = true) :
    (mfLinuxSysPowerSample data r st).2.flag = st.flag ∧
      (mfLinuxSysPowerSample data r st).2.ioStatAfter = (sysIOStatRead r.proc st.ioStatAfter).1 ∧
      (mfLinuxSysPowerSample data r st).2.ioStatBefore =
        (sysIOStatRead r.proc st.ioStatAfter).1 := by
  unfold mfLinuxSysPowerSample
  dsimp only
  by_cases hall : st.flag .all = true
  · rw [if_pos hall]
    have takes := samplePowerAll_takesIo r (r.clock - st.beforeTime)
      ⟨{ st with afterTime := r.clock }, data.values, 0⟩
    exact ⟨takes.flag, takes.after, takes.before⟩
  · rw [if_neg hall]
    rw [PowerState.watchesIo, Bool.eq_false_iff.mpr hall, Bool.false_or] at hwatches
    have takes : TakesIo r ⟨{ st with afterTime := r.clock }, data.values, 0⟩ _ :=
      samplePowerParts_takesIo r (r.clock - st.beforeTime) hwatches
    exact ⟨takes.flag, takes.after, takes.before⟩

/-- The states of the plugin, with the I/O counters in use, whose last snapshot is `prev`. The perf
counters play no part in it. -/
inductive PowerReach : ProcDir → PowerMetrics → PowerState → Prop where
  | init {prev : ProcDir} (data : PowerMetrics) {r : PowerReading} {st : PowerState}
      (beforeTime : Rat) (watched : st.watchesIo = true) (hproc : r.proc = some prev) :
      PowerReach prev data { powerFirstRead r st with beforeTime := beforeTime }
  | sample {first prev : ProcDir} {data : PowerMetrics} {st : PowerState}
      {r : PowerReading} (reached : PowerReach first data st)
      (hproc : r.proc = some prev) :
      PowerReach prev (mfLinuxSysPowerSample data r st).1 (mfLinuxSysPowerSample data r st).2

/-- The initialization reaches such a state when it is asked for one of the metrics. -/
theorem powerInit_reach {data data' : PowerMetrics} {events : List CText} {nrCpus : Int}
    {r : PowerReading} {st st' : PowerState} {ret : Nat}
    (run : mfLinuxSysPowerInit data events nrCpus r st = .ok (ret, data', st')) {m : PowerMetric}
    (watched : m = .all ∨ m = .ram ∨ m = .io) (asked : m.name ∈ events) {prev : ProcDir}
    (hproc : r.proc = some prev) : PowerReach prev data' st' := by
  obtain ⟨hflag, hok⟩ : (powerFlagInit st.flag events).1 m = true ∧
      (powerFlagInit st.flag events).2 = 1 :=
    flagInit_of_mem st.flag (by cases m <;> decide) asked
  have watches : ((powerFlagInit st.flag events).1 .all || (powerFlagInit st.flag events).1 .ram ||
      (powerFlagInit st.flag events).1 .io) = true := by
    rcases watched with rfl | rfl | rfl
    · rw [hflag, Bool.true_or, Bool.true_or]
    · rw [hflag, Bool.or_true, Bool.true_or]
    · rw [hflag, Bool.or_true]
  unfold mfLinuxSysPowerInit at run
  dsimp only at run
  rw [if_neg (by rw [hok]; exact Nat.one_ne_zero), if_pos watches] at run
  obtain ⟨-, -, run⟩ := Fault.bind_eq_ok.mp run
  cases run
  exact .init _ r.clock watches hproc

/-- The saved counters are those of the last snapshot. -/
theorem PowerReach.saved {prev : ProcDir} {data : PowerMetrics} {st : PowerState}
    (h : PowerReach prev data st) : st.watchesIo = true ∧ st.ioStatBefore = prev.totals := by
  induction h with
  | @init prev data r st beforeTime watched hproc =>
      refine ⟨watched, (if_pos watched).trans ?_⟩
      rw [sysIOStatRead_some hproc]
  | @sample first prev data st r reached hproc ih =>
      obtain ⟨hflag, -, hbefore⟩ := powerSample_io data r ih.1
      rw [hbefore, sysIOStatRead_some hproc]
      refine ⟨?_, rfl⟩
      rw [PowerState.watchesIo, hflag]
      exact ih.1

/-! ## Two consecutive snapshots -/

/-- The increment behind `io_throughput` is no larger than all bytes of the second snapshot, and
there is none when they decreased. -/
structure ThroughputBounded (prev next : ProcDir) (bytes : BitVec 64) : Prop where
  le : bytes.toNat ≤ next.readTotal + next.writeTotal
  decrease : next.readTotal + next.writeTotal < prev.readTotal + prev.writeTotal → bytes.toNat = 0

/-- The increments behind the energy of the disks are no larger than the totals of the second
snapshot, and there is none where a total decreased. -/
structure EnergyBounded (prev next : ProcDir) (bytes : IoStats) : Prop where
  read_le : bytes.readBytes.toNat ≤ next.readTotal
  write_le : bytes.writeBytes.toNat ≤ next.writeTotal
  read_decrease : next.readTotal < prev.readTotal → bytes.readBytes.toNat = 0
  write_decrease : next.writeTotal < prev.writeTotal → bytes.writeBytes.toNat = 0

theorem throughputBounded_iff {prev next : ProcDir} (hprev : prev.Fits) (hnext : next.Fits)
    {data : PluginMetrics} {st : ResourcesState} (reached : ResourcesReach prev data st)
    {r : ResourcesReading} (hproc : r.proc = some next) :
    ThroughputBounded prev next
        (ioBytes st.ioStatBefore (mfLinuxResourcesSample data r st).2.ioStatAfter) ↔
      prev.readTotal + prev.writeTotal ≤ next.readTotal + next.writeTotal := by
  obtain ⟨hflag, hsaved⟩ := reached.saved
  obtain ⟨-, hafter, -⟩ := resourcesSample_io data r hflag
  have grown := Counter.sub_le_iff prev.totals.sum next.totals.sum
  rw [hprev.sum, hnext.sum] at grown
  rw [hafter, sysIOStatRead_some hproc, ioBytes_eq, hsaved]
  constructor
  · intro bounded
    exact grown.mp bounded.le
  · intro le
    exact ⟨grown.mpr le, fun decreased => absurd decreased (Nat.not_lt.mpr le)⟩

theorem energyBounded_iff {prev next : ProcDir} (hprev : prev.Fits) (hnext : next.Fits)
    {data : PowerMetrics} {st : PowerState} (reached : PowerReach prev data st)
    {r : PowerReading} (hproc : r.proc = some next) :
    EnergyBounded prev next
        (diskIncrement st.ioStatBefore (mfLinuxSysPowerSample data r st).2.ioStatAfter) ↔
      prev.readTotal ≤ next.readTotal ∧ prev.writeTotal ≤ next.writeTotal := by
  obtain ⟨hwatches, hsaved⟩ := reached.saved
  obtain ⟨-, hafter, -⟩ := powerSample_io data r hwatches
  have readGrown := Counter.sub_le_iff prev.totals.readBytes next.totals.readBytes
  have writeGrown := Counter.sub_le_iff prev.totals.writeBytes next.totals.writeBytes
  rw [hprev.read, hnext.read] at readGrown
  rw [hprev.write, hnext.write] at writeGrown
  rw [hafter, sysIOStatRead_some hproc, hsaved]
  constructor
  · intro bounded
    exact ⟨readGrown.mp bounded.read_le, writeGrown.mp bounded.write_le⟩
  · rintro ⟨readLe, writeLe⟩
    exact ⟨readGrown.mpr readLe, writeGrown.mpr writeLe,
      fun decreased => absurd decreased (Nat.not_lt.mpr readLe),
      fun decreased => absurd decreased (Nat.not_lt.mpr writeLe)⟩

/-- Between any two consecutive snapshots of any runs of the two plugins: the increments are bounded
by the second snapshot exactly when neither total decreased. -/
theorem vanishedProcess_iff {prev next : ProcDir} (hprev : prev.Fits) (hnext : next.Fits)
    {data : PluginMetrics} {st : ResourcesState} (reached : ResourcesReach prev data st)
    {r : ResourcesReading} (hproc : r.proc = some next)
    {data' : PowerMetrics} {st' : PowerState} (reached' : PowerReach prev data' st')
    {r' : PowerReading} (hproc' : r'.proc = some next) :
    (ThroughputBounded prev next
          (ioBytes st.ioStatBefore (mfLinuxResourcesSample data r st).2.ioStatAfter) ∧
        EnergyBounded prev next
          (diskIncrement st'.ioStatBefore (mfLinuxSysPowerSample data' r' st').2.ioStatAfter)) ↔
      prev.readTotal ≤ next.readTotal ∧ prev.writeTotal ≤ next.writeTotal := by
  rw [throughputBounded_iff hprev hnext reached hproc,
    energyBounded_iff hprev hnext reached' hproc']
  constructor
  · exact fun both => both.2
  · intro grown
    exact ⟨Nat.add_le_add grown.1 grown.2, grown⟩

/-! ## A process that ends -/

/-- Two processes; the second has read most of the bytes. -/
def twoProcesses : ProcDir where
  names := ["1".toList, "2".toList, "self".toList]
  processIo pid := if pid = 1 then some ⟨5, 0⟩ else if pid = 2 then some ⟨100, 0⟩ else none

/-- The first of them alone. -/
def oneProcess : ProcDir where
  names := ["1".toList, "self".toList]
  processIo pid := if pid = 1 then some ⟨5, 0⟩ else none

/-- The variables of the Linux_resources plugin when it is loaded. -/
def loadedResources : ResourcesState :=
  ⟨fun _ => false, 0, 0, ⟨0, 0⟩, ⟨0, 0⟩, ⟨0, 0⟩, ⟨0, 0⟩, ⟨0, 0⟩, ⟨0, 0⟩⟩

def resourcesAt (clock : Rat) (proc : ProcDir) : ResourcesReading :=
  ⟨clock, none, 0, 0, none, some proc⟩

def powerAt (clock : Rat) (proc : ProcDir) : PowerReading := ⟨clock, none, 0, none, some proc⟩

/-- The Linux_resources plugin after its first snapshot. -/
def resourcesWatching (proc : ProcDir) : PluginMetrics × ResourcesState :=
  (mfLinuxResourcesInit .blank [ResourcesMetric.io.name] (resourcesAt 0 proc) loadedResources).2

/-- The Linux_sys_power plugin after its first snapshot. -/
def powerWatching (proc : ProcDir) : PowerMetrics × PowerState :=
  match mfLinuxSysPowerInit blankPower [PowerMetric.io.name] 8 (powerAt 0 proc) freshPower with
  | .ok out => out.2
  | .error _ => (blankPower, freshPower)

theorem powerWatching_run (proc : ProcDir) :
    mfLinuxSysPowerInit blankPower [PowerMetric.io.name] 8 (powerAt 0 proc) freshPower =
      .ok (1, powerWatching proc) := rfl

theorem vanishedProcess_iff_appeared :
    ThroughputBounded oneProcess twoProcesses
        (ioBytes (resourcesWatching oneProcess).2.ioStatBefore
          (mfLinuxResourcesSample (resourcesWatching oneProcess).1 (resourcesAt 1 twoProcesses)
            (resourcesWatching oneProcess).2).2.ioStatAfter) ∧
      EnergyBounded oneProcess twoProcesses
        (diskIncrement (powerWatching oneProcess).2.ioStatBefore
          (mfLinuxSysPowerSample (powerWatching oneProcess).1 (powerAt 1 twoProcesses)
            (powerWatching oneProcess).2).2.ioStatAfter) := by
  have hone : oneProcess.Fits := by
    unfold ProcDir.Fits
    decide +kernel
  have htwo : twoProcesses.Fits := by
    unfold ProcDir.Fits
    decide +kernel
  have reached : ResourcesReach oneProcess (resourcesWatching oneProcess).1
      (resourcesWatching oneProcess).2 :=
    .init .blank loadedResources List.mem_cons_self rfl
  have reached' : PowerReach oneProcess (powerWatching oneProcess).1
      (powerWatching oneProcess).2 :=
    powerInit_reach (powerWatching_run oneProcess) (.inr (.inr rfl)) List.mem_cons_self rfl
  apply (vanishedProcess_iff hone htwo reached rfl reached' rfl).mpr
  decide +kernel

/-- The second process ends: both plugins take the decrease of 100 bytes for almost `2 ^ 64`. -/
theorem vanishedProcess_counted :
    oneProcess.readTotal + oneProcess.writeTotal = 5 ∧
      (mfLinuxResourcesSample (resourcesWatching twoProcesses).1 (resourcesAt 1 oneProcess)
        (resourcesWatching twoProcesses).2).1.values 0 = 18446744073709551516 ∧
      (diskIncrement (powerWatching twoProcesses).2.ioStatBefore
        (mfLinuxSysPowerSample (powerWatching twoProcesses).1 (powerAt 1 oneProcess)
          (powerWatching twoProcesses).2).2.ioStatAfter).readBytes = 18446744073709551516 := by
  decide +kernel

end PhantomMonitor
