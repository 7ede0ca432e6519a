import Mathlib.Tactic.Ring
import PhantomMonitor.Misc.Average
import PhantomMonitor.Misc.Counter
import PhantomMonitor.Plugins.Proofs.PowerParts

/-!
# Conservation of the estimated energy

What a run of Linux_sys_power reports, each value over its interval, is the energy of the difference
between the last readings and the first. The memory loses what does not fill a cache line.
-/

namespace PhantomMonitor

open CText Average

/-- The energy of one cache line. -/
def lineEnergy : Rat := l2cacheMissLatency * memoryPower * (1 / 10 ^ 6)

theorem lineEnergy_pos : 0 < lineEnergy := by
  norm_num [lineEnergy, l2cacheMissLatency, memoryPower]

/-! ## Readings -/

namespace PowerReading

/-- The bytes of the network and of the disks that a reading finds. -/
def netCount (r : PowerReading) : NetStats := (netStatRead r.net ⟨0, 0⟩).1

def ioCount (r : PowerReading) : IoStats := (sysIOStatRead r.proc ⟨0, 0⟩).1

/-- The energies of all that a reading has counted. -/
def netCounted (r : PowerReading) : Rat :=
  (r.netCount.rcvBytes.toNat * eNetRcvPerKB + r.netCount.sendBytes.toNat * eNetSndPerKB) / 1024

def memCounted (r : PowerReading) : Rat :=
  (((r.ioCount.readBytes.toNat : Rat) + r.ioCount.writeBytes.toNat) / l2cacheLineSize.toNat +
    r.memaccess.toNat) * lineEnergy

def diskCounted (r : PowerReading) : Rat :=
  (r.ioCount.readBytes.toNat * eDiskRPerKB + r.ioCount.writeBytes.toNat * eDiskWPerKB) / 1024

def counted (r : PowerReading) : PowerMetric → Rat
  | .cpu => cpuEnergyValue r.cpuEnergy
  | .net => r.netCounted
  | .ram => r.memCounted
  | .io => r.diskCounted
  | .all => cpuEnergyValue r.cpuEnergy + r.memCounted + r.netCounted + r.diskCounted

/-- All reads succeed. -/
structure Succeeds (r : PowerReading) : Prop where
  cpu : r.cpuEnergy.isSome
  net : r.net.isSome
  proc : r.proc.isSome

/-- All counters are below `2 ^ 62`. -/
structure Small (r : PowerReading) : Prop where
  rcv : r.netCount.rcvBytes.toNat < 2 ^ 62
  send : r.netCount.sendBytes.toNat < 2 ^ 62
  read : r.ioCount.readBytes.toNat < 2 ^ 62
  write : r.ioCount.writeBytes.toNat < 2 ^ 62
  memaccess : r.memaccess.toNat < 2 ^ 62

/-- Time goes on and no counter decreases. -/
structure Grows (before after : PowerReading) : Prop where
  clock : before.clock < after.clock
  cpu : cpuEnergyValue before.cpuEnergy ≤ cpuEnergyValue after.cpuEnergy
  rcv : before.netCount.rcvBytes.toNat ≤ after.netCount.rcvBytes.toNat
  send : before.netCount.sendBytes.toNat ≤ after.netCount.sendBytes.toNat
  read : before.ioCount.readBytes.toNat ≤ after.ioCount.readBytes.toNat
  write : before.ioCount.writeBytes.toNat ≤ after.ioCount.writeBytes.toNat
  memaccess : before.memaccess.toNat ≤ after.memaccess.toNat

theorem netStatRead_succeeds {r : PowerReading} (h : r.Succeeds) (total : NetStats) :
    (netStatRead r.net total).1 = r.netCount := by
  obtain ⟨found, hfound⟩ := Option.isSome_iff_exists.mp h.net
  simp [netCount, hfound, netStatRead]

theorem sysIOStatRead_succeeds {r : PowerReading} (h : r.Succeeds) (total : IoStats) :
    (sysIOStatRead r.proc total).1 = r.ioCount := by
  obtain ⟨proc, hproc⟩ := Option.isSome_iff_exists.mp h.proc
  simp [ioCount, hproc, sysIOStatRead]

end PowerReading

open PowerReading

/-- A run in which every read succeeds. -/
structure SteadyReadings (first : PowerReading) (rs : List PowerReading) : Prop where
  succeeds : ∀ r ∈ first :: rs, r.Succeeds
  small : ∀ r ∈ first :: rs, r.Small
  grows : List.IsChain Grows (first :: rs)

theorem SteadyReadings.tail {first r : PowerReading} {rs : List PowerReading}
    (h : SteadyReadings first (r :: rs)) : SteadyReadings r rs where
  succeeds := fun other inside => h.succeeds other (List.mem_cons_of_mem _ inside)
  small := fun other inside => h.small other (List.mem_cons_of_mem _ inside)
  grows := (List.isChain_cons_cons.mp h.grows).2

theorem SteadyReadings.advances {first : PowerReading} {rs : List PowerReading}
    (h : SteadyReadings first rs) : Advances first.clock (rs.map PowerReading.clock) := by
  induction rs generalizing first with
  | nil => trivial
  | cons r rs ih => exact ⟨(List.isChain_cons_cons.mp h.grows).1.clock, ih h.tail⟩

/-! ## The amounts behind the values -/

/-- The energies of the samples with their times. -/
def Meter.amounts (m : Meter) (rs : List PowerReading) (metric : PowerMetric) : List (Rat × Rat) :=
  (m.run rs).map fun sample => (sample.2.clock, sample.1.energy sample.2 metric)

theorem Meter.amounts_fst (m : Meter) (rs : List PowerReading) (metric : PowerMetric) :
    (m.amounts rs metric).map Prod.fst = rs.map PowerReading.clock := by
  induction rs generalizing m with
  | nil => rfl
  | cons r rs ih => exact congrArg (r.clock :: ·) (ih (m.next r))

/-- Where time goes on, the powers are the averages of the energies. -/
theorem Meter.powers_eq {m : Meter} {rs : List PowerReading}
    (advances : Advances m.time (rs.map PowerReading.clock)) (metric : PowerMetric) :
    m.powers rs metric = (averages m.time (m.amounts rs metric)).map .num := by
  induction rs generalizing m with
  | nil => rfl
  | cons r rs ih =>
      obtain ⟨later, advances⟩ := advances
      have moved : r.clock - m.time ≠ 0 := (sub_pos.mpr later).ne'
      have first : m.power r metric = .num (m.energy r metric / (r.clock - m.time)) :=
        FloatValue.quotient_of_ne moved _
      have rest : (m.next r).powers rs metric = _ := ih advances
      simp only [powers, run, amounts, List.map_cons, averages] at rest ⊢
      rw [first, rest]
      rfl

/-- The energy that values report over a run. -/
def reportedEnergy (first : PowerReading) (rs : List PowerReading) (values : List Rat) : Rat :=
  integral first.clock ((rs.map PowerReading.clock).zip values)

/-! ## One sample -/

/-- The meter holds what a reading has counted. -/
structure Meter.Saved (m : Meter) (r : PowerReading) : Prop where
  cpu : m.cpu = cpuEnergyValue r.cpuEnergy
  memaccess : m.memaccess = r.memaccess
  net : m.net = r.netCount
  io : m.io = r.ioCount

theorem Meter.start_saved (first : PowerReading) : (Meter.start first).Saved first :=
  ⟨rfl, rfl, rfl, rfl⟩

theorem Meter.next_saved (m : Meter) {r : PowerReading} (h : r.Succeeds) : (m.next r).Saved r :=
  ⟨rfl, rfl, netStatRead_succeeds h m.netAfter, sysIOStatRead_succeeds h m.ioAfter⟩

/-- What the energy of a metric may lose in a sample. -/
structure LineLoss (metric : PowerMetric) (loss : Rat) : Prop where
  nonneg : 0 ≤ loss
  line : loss < lineEnergy
  exact : metric ≠ .ram → metric ≠ .all → loss = 0

theorem lineLoss_zero (metric : PowerMetric) : LineLoss metric 0 :=
  ⟨le_rfl, lineEnergy_pos, fun _ _ => rfl⟩

theorem cast_increment {before after : BitVec 64} (grown : before.toNat ≤ after.toNat) :
    ((after - before).toNat : Rat) = after.toNat - before.toNat := by
  rw [Counter.sub_eq_of_le grown, Nat.cast_sub grown]

theorem Meter.Saved.netEnergy {m : Meter} {before after : PowerReading} (h : m.Saved before)
    (succeeds : after.Succeeds) (grows : Grows before after) :
    m.netEnergy after = after.netCounted - before.netCounted := by
  have found : m.netNext after = after.netCount := netStatRead_succeeds succeeds m.netAfter
  simp only [Meter.netEnergy, found, h.net, sysNetEnergy, netIncrement, cast_increment grows.rcv,
    cast_increment grows.send, netCounted]
  ring

theorem Meter.Saved.ioEnergy {m : Meter} {before after : PowerReading} (h : m.Saved before)
    (succeeds : after.Succeeds) (grows : Grows before after) :
    m.ioEnergy after = after.diskCounted - before.diskCounted := by
  have found : m.ioNext after = after.ioCount := sysIOStatRead_succeeds succeeds m.ioAfter
  simp only [Meter.ioEnergy, found, h.io, sysDiskEnergy, diskIncrement, cast_increment grows.read,
    cast_increment grows.write, diskCounted]
  ring

/-- The lines between two readings, without the remainder of the division. -/
theorem memoryLines {before after : IoStats} {accessBefore accessAfter : BitVec 64}
    (read : before.readBytes.toNat ≤ after.readBytes.toNat)
    (write : before.writeBytes.toNat ≤ after.writeBytes.toNat)
    (access : accessBefore.toNat ≤ accessAfter.toNat)
    (smallRead : after.readBytes.toNat < 2 ^ 62) (smallWrite : after.writeBytes.toNat < 2 ^ 62)
    (smallAccess : accessAfter.toNat < 2 ^ 62) :
    ((after.readBytes + after.writeBytes - before.readBytes - before.writeBytes) /
        l2cacheLineSize + (accessAfter - accessBefore)).toNat =
      (after.readBytes.toNat + after.writeBytes.toNat -
        (before.readBytes.toNat + before.writeBytes.toNat)) / l2cacheLineSize.toNat +
          (accessAfter.toNat - accessBefore.toNat) := by
  have total : (after.readBytes + after.writeBytes).toNat =
      after.readBytes.toNat + after.writeBytes.toNat := BitVec.toNat_add_of_lt (by omega)
  have first : (after.readBytes + after.writeBytes - before.readBytes).toNat =
      after.readBytes.toNat + after.writeBytes.toNat - before.readBytes.toNat := by
    rw [Counter.sub_eq_of_le (by omega), total]
  have second : (after.readBytes + after.writeBytes - before.readBytes - before.writeBytes).toNat =
      after.readBytes.toNat + after.writeBytes.toNat -
        (before.readBytes.toNat + before.writeBytes.toNat) := by
    rw [Counter.sub_eq_of_le (by omega), first, Nat.sub_sub]
  have lines := Nat.div_le_self (after.readBytes.toNat + after.writeBytes.toNat -
    (before.readBytes.toNat + before.writeBytes.toNat)) l2cacheLineSize.toNat
  rw [BitVec.toNat_add_of_lt, BitVec.toNat_udiv, second, Counter.sub_eq_of_le access]
  rw [BitVec.toNat_udiv, second, Counter.sub_eq_of_le access]
  omega

theorem Meter.Saved.ramEnergy {m : Meter} {before after : PowerReading} (h : m.Saved before)
    (succeeds : after.Succeeds) (small : after.Small) (grows : Grows before after) :
    ∃ loss, LineLoss .ram loss ∧
      m.ramEnergy after + loss = after.memCounted - before.memCounted := by
  have found : m.ioNext after = after.ioCount := sysIOStatRead_succeeds succeeds m.ioAfter
  have lines := memoryLines grows.read grows.write grows.memaccess small.read small.write
    small.memaccess
  generalize hbytes : after.ioCount.readBytes.toNat + after.ioCount.writeBytes.toNat -
    (before.ioCount.readBytes.toNat + before.ioCount.writeBytes.toNat) = bytes at lines
  have size : l2cacheLineSize.toNat = 256 := rfl
  have total : (bytes : Rat) = (after.ioCount.readBytes.toNat + after.ioCount.writeBytes.toNat) -
      (before.ioCount.readBytes.toNat + before.ioCount.writeBytes.toNat) := by
    rw [← hbytes, Nat.cast_sub (Nat.add_le_add grows.read grows.write)]
    push_cast
    ring
  have split : (bytes : Rat) = 256 * (bytes / 256 : Nat) + (bytes % 256 : Nat) := by
    exact_mod_cast (Nat.div_add_mod bytes 256).symm
  have remainder : ((bytes % 256 : Nat) : Rat) < 256 := by
    exact_mod_cast Nat.mod_lt bytes (by decide)
  refine ⟨((bytes % 256 : Nat) : Rat) / 256 * lineEnergy, ⟨?_, ?_, fun h => absurd rfl h⟩, ?_⟩
  · have := lineEnergy_pos
    positivity
  · exact mul_lt_of_lt_one_left lineEnergy_pos (by linarith)
  · have energy : m.ramEnergy after = ((bytes / 256 : Nat) +
        ((after.memaccess.toNat : Rat) - before.memaccess.toNat)) * lineEnergy := by
      rw [Meter.ramEnergy, found, h.io, h.memaccess, memoryEnergy, lines, size, Nat.cast_add,
        Nat.cast_sub grows.memaccess, lineEnergy]
      ring
    have difference : after.memCounted - before.memCounted = ((bytes : Rat) / 256 +
        ((after.memaccess.toNat : Rat) - before.memaccess.toNat)) * lineEnergy := by
      rw [memCounted, memCounted, size, total]
      push_cast
      ring
    rw [energy, difference, split]
    ring

/-- The energy of a sample is what was counted since the reading before, up to the loss. -/
theorem Meter.Saved.energy {m : Meter} {before after : PowerReading} (h : m.Saved before)
    (succeeds : after.Succeeds) (small : after.Small) (grows : Grows before after)
    (metric : PowerMetric) :
    ∃ loss, LineLoss metric loss ∧
      m.energy after metric + loss = after.counted metric - before.counted metric := by
  have cpu : m.cpuEnergy after =
      cpuEnergyValue after.cpuEnergy - cpuEnergyValue before.cpuEnergy := by
    rw [Meter.cpuEnergy, h.cpu]
  cases metric with
  | cpu => exact ⟨0, lineLoss_zero .cpu, by rw [add_zero]; exact cpu⟩
  | net => exact ⟨0, lineLoss_zero .net, by rw [add_zero]; exact h.netEnergy succeeds grows⟩
  | io => exact ⟨0, lineLoss_zero .io, by rw [add_zero]; exact h.ioEnergy succeeds grows⟩
  | ram => exact h.ramEnergy succeeds small grows
  | all =>
      obtain ⟨loss, ⟨nonneg, line, -⟩, ram⟩ := h.ramEnergy succeeds small grows
      refine ⟨loss, ⟨nonneg, line, fun _ h => absurd rfl h⟩, ?_⟩
      simp only [Meter.energy, counted, cpu, h.netEnergy succeeds grows, h.ioEnergy succeeds grows]
      linarith

/-! ## Whole runs -/

/-- The energies of a run add up to what was counted from the first reading to the last. -/
theorem Meter.Saved.amounts {m : Meter} {first : PowerReading} (h : m.Saved first)
    {rs : List PowerReading} (steady : SteadyReadings first rs) (metric : PowerMetric) :
    ∃ losses : List Rat, losses.length = rs.length ∧ (∀ loss ∈ losses, LineLoss metric loss) ∧
      ((m.amounts rs metric).map Prod.snd).sum + losses.sum =
        (rs.getLastD first).counted metric - first.counted metric := by
  induction rs generalizing m first with
  | nil => exact ⟨[], rfl, by simp, by simp [Meter.amounts, Meter.run]⟩
  | cons r rs ih =>
      have succeeds := steady.succeeds r (by simp)
      obtain ⟨loss, bounded, step⟩ :=
        h.energy succeeds (steady.small r (by simp)) (List.isChain_cons_cons.mp steady.grows).1
        metric
      obtain ⟨losses, length, allBounded, rest⟩ := ih (m.next_saved succeeds) steady.tail
      refine ⟨loss :: losses, by simp [length], ?_, ?_⟩
      · simpa [bounded] using allBounded
      · simp only [Meter.amounts, Meter.run, List.map_cons, List.sum_cons,
          List.getLastD_cons] at rest ⊢
        linarith

/-- A run goes through its samples and its values report what was counted: exactly for CPU, network
and disks, up to less than a cache line for each sample for the memory. -/
def EnergyConserved (metric : PowerMetric) (first : PowerReading) (rs : List PowerReading)
    (run : Except Fault (List (PowerMetrics × PowerState))) : Prop :=
  ∃ (tables : List (PowerMetrics × PowerState)) (values : List Rat), run = .ok tables ∧
    tables.map (powerValue metric) = values.map (fun value => some (.num value)) ∧
    (metric ≠ .ram → metric ≠ .all → reportedEnergy first rs values =
      (rs.getLastD first).counted metric - first.counted metric) ∧
    ∃ losses : List Rat, losses.length = rs.length ∧
      (∀ loss ∈ losses, 0 ≤ loss ∧ loss < lineEnergy) ∧
      reportedEnergy first rs values + losses.sum =
        (rs.getLastD first).counted metric - first.counted metric

/-- The energy of a steady run is conserved exactly when the perf counters of the request have
room. -/
theorem powerRun_energy_conserved_iff (data : PowerMetrics) {events : List CText} (nrCpus : Int)
    {first : PowerReading} {rs : List PowerReading} (steady : SteadyReadings first rs)
    {metric : PowerMetric} (asked : metric.name ∈ events) :
    EnergyConserved metric first rs (powerRun data events nrCpus first rs) ↔
      CountersFit nrCpus events := by
  rw [← powerRun_ok_iff data first rs asked]
  constructor
  · rintro ⟨tables, -, run, -⟩
    exact ⟨tables, run⟩
  · rintro ⟨tables, run⟩
    have advances := steady.advances
    have powers := Meter.powers_eq (m := Meter.start first) advances metric
    have reported : integral first.clock (shown first.clock id
        ((Meter.start first).amounts rs metric)) =
        _ := integral_averages (by rwa [Meter.amounts_fst])
    rw [shown, Meter.amounts_fst, List.map_id] at reported
    obtain ⟨losses, length, bounded, total⟩ := (Meter.start_saved first).amounts steady metric
    rw [← reported] at total
    refine ⟨tables, averages first.clock ((Meter.start first).amounts rs metric), run, ?_, ?_,
      losses, length, fun loss inside => ⟨(bounded loss inside).nonneg, (bounded loss inside).line⟩,
      total⟩
    · rw [powerRun_values data first rs asked run, powers, List.map_map]
      rfl
    · intro noMemory noTotal
      have none : losses.sum = 0 :=
        List.sum_eq_zero fun loss inside => (bounded loss inside).exact noMemory noTotal
      rwa [none, add_zero] at total

/-- A reading two seconds after `twoSeconds`. -/
def fourSeconds : PowerReading where
  clock := 4
  cpuEnergy := some 30
  memaccess := 250
  net := some ⟨4096, 3072⟩
  proc := some ⟨["1".toList], fun _ => some ⟨8292, 1024⟩⟩

theorem steadyReadings_twoSeconds : SteadyReadings twoSeconds [fourSeconds] where
  succeeds := by
    intro r inside
    simp only [List.mem_cons, List.not_mem_nil, or_false] at inside
    rcases inside with rfl | rfl <;> exact ⟨rfl, rfl, rfl⟩
  small := by
    intro r inside
    simp only [List.mem_cons, List.not_mem_nil, or_false] at inside
    rcases inside with rfl | rfl <;> constructor <;> decide
  grows := by
    refine List.isChain_cons_cons.mpr ⟨⟨?_, ?_, ?_, ?_, ?_, ?_, ?_⟩, .singleton _⟩
    all_goals decide

theorem powerRun_energy_conserved_iff_memory :
    EnergyConserved .ram twoSeconds [fourSeconds]
      (powerRun blankPower [PowerMetric.ram.name] 20 twoSeconds [fourSeconds]) :=
  (powerRun_energy_conserved_iff blankPower 20 steadyReadings_twoSeconds (by simp)).mpr
    (Or.inl (by decide))

/-- On 21 CPUs the descriptors of a request for CPU and memory do not fit, and neither energy is
conserved. -/
theorem powerRun_energy_overruns :
    ¬ ∀ (events : List CText) (nrCpus : Int) (first : PowerReading) (rs : List PowerReading)
        (metric : PowerMetric), SteadyReadings first rs → metric.name ∈ events →
        EnergyConserved metric first rs (powerRun blankPower events nrCpus first rs) := by
  intro claim
  obtain ⟨tables, -, run, -⟩ := claim [PowerMetric.cpu.name, PowerMetric.ram.name] 21 twoSeconds
    [fourSeconds] .cpu steadyReadings_twoSeconds (by simp)
  have overrun : powerRun blankPower [PowerMetric.cpu.name, PowerMetric.ram.name] 21 twoSeconds
      [fourSeconds] = .error .outOfBounds := rfl
  rw [overrun] at run
  cases run

end PhantomMonitor
