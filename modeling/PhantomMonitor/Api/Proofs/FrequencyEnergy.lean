import Mathlib.Algebra.Order.Field.Basic
import Mathlib.Data.Rat.Cast.Order
import Mathlib.Tactic.Linarith
import Mathlib.Tactic.Positivity
import PhantomMonitor.Api.Proofs.StreamBalance

/-!
# Bounds on the CPU energy

Every state of a CPU has a power between the minimum and the maximum, so the energy lies between the
two powers times the time that was read. The array of the times has room for sixteen of them: what a
table has behind its sixteenth line is not read.
-/

namespace PhantomMonitor

open CText

/-! ## Energies within bounds -/

/-- An energy, in millijoules, that is no less than at the minimum power and no more than at the
maximum one, for a time in units of 10 ms. -/
def EnergyWithin (minPower maxPower : Rat) (energy : Option Rat) (time : Nat) : Prop :=
  ∃ q, energy = some q ∧ 10 * minPower * time ≤ q ∧ q ≤ 10 * maxPower * time

section

variable {minPower maxPower : Rat}

theorem EnergyWithin.zero : EnergyWithin minPower maxPower (some 0) 0 :=
  ⟨0, rfl, by simp, by simp⟩

theorem EnergyWithin.add {energy energy' : Option Rat} {time time' : Nat}
    (h : EnergyWithin minPower maxPower energy time)
    (h' : EnergyWithin minPower maxPower energy' time') :
    EnergyWithin minPower maxPower (do return (← energy) + (← energy')) (time + time') := by
  obtain ⟨q, rfl, low, high⟩ := h
  obtain ⟨q', rfl, low', high'⟩ := h'
  refine ⟨q + q', rfl, ?_, ?_⟩
  · rw [Nat.cast_add, mul_add]
    exact add_le_add low low'
  · rw [Nat.cast_add, mul_add]
    exact add_le_add high high'

/-- The power of a state lies between the two powers. -/
theorem statePower_bounds (ordered : minPower ≤ maxPower) {maxI i : Nat} (several : maxI ≠ 0)
    (inside : i ≤ maxI) :
    minPower ≤ maxPower - (maxPower - minPower) * i / maxI ∧
      maxPower - (maxPower - minPower) * i / maxI ≤ maxPower := by
  have positive : (0 : Rat) < maxI := Nat.cast_pos.mpr (Nat.pos_of_ne_zero several)
  have range : 0 ≤ maxPower - minPower := sub_nonneg.mpr ordered
  have share : (maxPower - minPower) * i / maxI ≤ maxPower - minPower := by
    rw [div_le_iff₀ positive]
    exact mul_le_mul_of_nonneg_left (Nat.cast_le.mpr inside) range
  have share' : 0 ≤ (maxPower - minPower) * i / maxI :=
    div_nonneg (mul_nonneg range (Nat.cast_nonneg i)) positive.le
  exact ⟨by linarith, by linarith⟩

theorem energyEach_within (ordered : minPower ≤ maxPower) {maxI i : Nat} (several : maxI ≠ 0)
    (inside : i ≤ maxI) (time : BitVec 64) :
    EnergyWithin minPower maxPower (energyEach maxPower minPower maxI i time) time.toNat := by
  obtain ⟨low, high⟩ := statePower_bounds ordered several inside
  have units : (0 : Rat) ≤ 10 * time.toNat := by positivity
  refine ⟨_, if_neg several, ?_, ?_⟩
  · linarith [mul_le_mul_of_nonneg_right low units]
  · linarith [mul_le_mul_of_nonneg_right high units]

theorem mapM_within {f : BitVec 64 × Nat → Option Rat} {states : List (BitVec 64 × Nat)}
    (each : ∀ state ∈ states, EnergyWithin minPower maxPower (f state) state.1.toNat) :
    EnergyWithin minPower maxPower ((states.mapM f).map List.sum)
      (states.map fun state => state.1.toNat).sum := by
  induction states with
  | nil => exact .zero
  | cons state states ih =>
      obtain ⟨first, each⟩ := List.forall_mem_cons.mp each
      obtain ⟨q, hfirst, bounds⟩ := first
      obtain ⟨q', hsum, bounds'⟩ := ih each
      obtain ⟨energies, hrest, rfl⟩ := Option.map_eq_some_iff.mp hsum
      rw [List.mapM_cons, hfirst, hrest, List.map_cons, List.sum_cons]
      exact .add ⟨q, rfl, bounds⟩ ⟨energies.sum, rfl, bounds'⟩

/-- The times of a CPU that are read. -/
def readTimes (times : List (BitVec 64)) : Nat := ((times.take maxFreqs).map BitVec.toNat).sum

/-- A table of two lines or more. -/
theorem cpuEnergy_within (ordered : minPower ≤ maxPower) {times : List (BitVec 64)}
    (two : 2 ≤ times.length) :
    EnergyWithin minPower maxPower (cpuEnergy maxPower minPower times) (readTimes times) := by
  have length : 2 ≤ (times.take maxFreqs).length := by
    rw [List.length_take]
    exact le_min (by decide) two
  have times_eq : (times.take maxFreqs).zipIdx.map (fun state => state.1.toNat) =
      (times.take maxFreqs).map BitVec.toNat := by
    rw [← Function.comp_def BitVec.toNat Prod.fst, ← List.map_map, List.zipIdx_map_fst]
  rw [readTimes, ← times_eq]
  refine mapM_within fun state member => ?_
  have inside := List.snd_lt_of_mem_zipIdx member
  exact energyEach_within ordered (by omega) (by omega) state.1

end

/-! ## All CPUs -/

/-- The table of an entry that is a CPU. -/
def cpuTable (entry : CpuDirEntry) : Option (List (BitVec 64)) :=
  if "cpu".toList <+: entry.name then entry.times else none

/-- The tables of the CPUs. -/
def cpuTables (entries : List CpuDirEntry) : List (List (BitVec 64)) := entries.filterMap cpuTable

/-- The time of all CPUs that is read. -/
def totalReadTime (entries : List CpuDirEntry) : Nat := ((cpuTables entries).map readTimes).sum

/-- An entry, with a stream for its file. -/
theorem addCpu_free (maxPower minPower : Rat) {s : Streams} (free : s.live < s.limit)
    (energy : Option Rat) (entry : CpuDirEntry) :
    addCpu maxPower minPower (energy, s) entry =
      (match cpuTable entry with
        | none => energy
        | some times => do return (← energy) + (← cpuEnergy maxPower minPower times), s) := by
  unfold addCpu cpuTable
  split
  · cases entry.times with
    | none => rfl
    | some times =>
        dsimp only
        rw [Streams.fopen_free free]
        rfl
  · rfl

section

variable {minPower maxPower : Rat}

/-- The run through the directory, with a stream for each file. -/
theorem foldl_addCpu_within (ordered : minPower ≤ maxPower) {entries : List CpuDirEntry}
    (two : ∀ times ∈ cpuTables entries, 2 ≤ times.length) {s : Streams} (free : s.live < s.limit)
    {energy : Option Rat} {time : Nat} (h : EnergyWithin minPower maxPower energy time) :
    EnergyWithin minPower maxPower (entries.foldl (addCpu maxPower minPower) (energy, s)).1
      (time + totalReadTime entries) := by
  induction entries generalizing energy time with
  | nil => exact h
  | cons entry entries ih =>
      rw [List.foldl_cons, addCpu_free maxPower minPower free]
      unfold totalReadTime cpuTables at *
      cases htable : cpuTable entry with
      | none =>
          rw [List.filterMap_cons_none htable] at two ⊢
          exact ih two h
      | some times =>
          rw [List.filterMap_cons_some htable] at two ⊢
          obtain ⟨first, two⟩ := List.forall_mem_cons.mp two
          rw [List.map_cons, List.sum_cons, ← Nat.add_assoc]
          exact ih two (h.add (cpuEnergy_within ordered first))

/-- With the files there and three streams to take, the energy is within the bounds for the times
that are read. -/
theorem cpuFreqScan_within (ordered : minPower ≤ maxPower) {sysfs : CpuSysfs}
    {entries : List CpuDirEntry} (probe : sysfs.probe = true) (dir : sysfs.dir = some entries)
    (two : ∀ times ∈ cpuTables entries, 2 ≤ times.length) {s : Streams}
    (free : s.live + 3 ≤ s.limit) :
    ∃ energy, cpuFreqScan maxPower minPower sysfs s = (some energy, s.leak) ∧
      EnergyWithin minPower maxPower energy (totalReadTime entries) := by
  have opened : (⟨s.limit, s.live + 2⟩ : Streams).live < s.limit := free
  have within := foldl_addCpu_within ordered two opened EnergyWithin.zero
  rw [Nat.zero_add] at within
  exact ⟨_, cpuFreqScan_free maxPower minPower probe dir (by omega), within⟩

end

/-- The two functions find an energy between the two powers times the time that is read. -/
theorem frequencyEnergy_bounds {p : Nat → Rat} (ordered : p 1 ≤ p 0) {r : MonitorReading}
    {entries : List CpuDirEntry} (probe : r.sysfs.probe = true) (dir : r.sysfs.dir = some entries)
    (two : ∀ times ∈ cpuTables entries, 2 ≤ times.length) (info : PidStatsInfo) {s : Streams}
    (free : s.live + 3 ≤ s.limit) :
    (∃ energy, cpuFreqStat p r info s = (1, { info with sysCpuEnergy := energy }, s.leak) ∧
        EnergyWithin (p 1) (p 0) energy (totalReadTime entries)) ∧
      EnergyWithin minCpuPower maxCpuPower (cpuEnergyRead r.sysfs s).1 (totalReadTime entries) := by
  constructor
  · obtain ⟨energy, scan, within⟩ := cpuFreqScan_within ordered probe dir two free
    refine ⟨energy, ?_, within⟩
    rw [cpuFreqStat, scan]
  · have powers : minCpuPower ≤ maxCpuPower := by norm_num [minCpuPower, maxCpuPower]
    obtain ⟨energy, scan, within⟩ := cpuFreqScan_within powers probe dir two free
    rw [cpuEnergyRead, scan]
    exact within

theorem frequencyEnergy_bounds_round :
    (∃ energy, cpuFreqStat (fun i => if i = 0 then 8 else 1) plainRound zeroInfo ⟨1024, 3⟩ =
        (1, { zeroInfo with sysCpuEnergy := energy }, ⟨1024, 4⟩) ∧
        EnergyWithin 1 8 energy 12) ∧
      EnergyWithin minCpuPower maxCpuPower (cpuEnergyRead oneCpu ⟨1024, 3⟩).1 12 :=
  frequencyEnergy_bounds (p := fun i => if i = 0 then 8 else 1) (by decide)
    (r := plainRound) rfl rfl (by decide) zeroInfo (by decide)

/-! ## Long tables -/

/-- A table of seventeen lines, of a CPU that has spent all its time in the last of the states. -/
def seventeenTimes : List (BitVec 64) := List.replicate 16 0 ++ [1]

/-- The time in the seventeenth line is not read, and the energy that is found is 0. -/
theorem frequencyEnergy_seventeen :
    let sysfs : CpuSysfs := ⟨true, some [⟨"cpu0".toList, some seventeenTimes⟩]⟩
    ¬ EnergyWithin 1 1
      (cpuFreqStat (fun _ => 1) { plainRound with sysfs } zeroInfo ⟨1024, 3⟩).2.1.sysCpuEnergy
      (seventeenTimes.map BitVec.toNat).sum := by
  intro sysfs
  have energy : (cpuFreqStat (fun _ => 1) { plainRound with sysfs } zeroInfo
      ⟨1024, 3⟩).2.1.sysCpuEnergy = some 0 := by decide +kernel
  rw [energy]
  rintro ⟨q, ⟨⟩, low, -⟩
  revert low
  decide +kernel

end PhantomMonitor
