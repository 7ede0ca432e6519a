import Mathlib.Algebra.Order.BigOperators.Group.List
import Mathlib.Data.List.Chain
import PhantomMonitor.Api.CpuFreq
import PhantomMonitor.Misc.Steps
import PhantomMonitor.Plugins.Proofs.PowerEnergy

/-!
# Failed reads of Linux_sys_power

A failed read of the CPU energy stands for a reading of 0.0, so the next one that succeeds counts
all energy again. The network and the disks keep the statistics of the sample before, but before the
first sample these are the zeros of the load.
-/

namespace PhantomMonitor

open CText Average Steps PowerReading

/-! ## What the readers find -/

/-- The CPU energy of a reading is one that `CPU_energy_read` finds. -/
def ScansCpu (r : PowerReading) : Prop :=
  ∃ (sysfs : CpuSysfs) (s : Streams),
    (cpuFreqScan maxCpuPower minCpuPower sysfs s).1 = r.cpuEnergy.map some

theorem energyEach_nonneg {maxI i : Nat} {time : BitVec 64} {energy : Rat} (bound : i ≤ maxI)
    (h : energyEach maxCpuPower minCpuPower maxI i time = some energy) : 0 ≤ energy := by
  unfold energyEach at h
  split at h
  · cases h
  · cases h
    have share : (i : Rat) / maxI ≤ 1 := by
      apply div_le_one_of_le₀
      · exact_mod_cast bound
      · positivity
    have power : 0 ≤ maxCpuPower - (maxCpuPower - minCpuPower) * i / maxI := by
      rw [mul_div_assoc, maxCpuPower, minCpuPower]
      linarith
    positivity

theorem sum_nonneg_of_mapM {α : Type} {f : α → Option Rat} {items : List α} {energies : List Rat}
    (each : ∀ item ∈ items, ∀ energy, f item = some energy → 0 ≤ energy)
    (h : items.mapM f = some energies) : 0 ≤ energies.sum := by
  induction items generalizing energies with
  | nil =>
      cases h
      simp
  | cons item items ih =>
      rw [List.mapM_cons] at h
      obtain ⟨energy, hitem, h⟩ := Option.bind_eq_some_iff.mp h
      obtain ⟨rest, hrest, h⟩ := Option.bind_eq_some_iff.mp h
      cases h
      rw [List.sum_cons]
      exact add_nonneg (each item (by simp) energy hitem)
        (ih (fun other inside => each other (by simp [inside])) hrest)

theorem cpuEnergy_nonneg {times : List (BitVec 64)} {energy : Rat}
    (h : cpuEnergy maxCpuPower minCpuPower times = some energy) : 0 ≤ energy := by
  obtain ⟨energies, hmap, rfl⟩ := Option.map_eq_some_iff.mp h
  refine sum_nonneg_of_mapM ?_ hmap
  rintro ⟨time, i⟩ inside energy henergy
  have := List.mem_zipIdx inside
  exact energyEach_nonneg (by omega) henergy

theorem foldl_addCpu_nonneg {entries : List CpuDirEntry} {acc : Option Rat × Streams} {energy : Rat}
    (start : ∀ energy, acc.1 = some energy → 0 ≤ energy)
    (h : (entries.foldl (addCpu maxCpuPower minCpuPower) acc).1 = some energy) : 0 ≤ energy := by
  induction entries generalizing acc with
  | nil => exact start energy h
  | cons entry entries ih =>
      refine ih (fun next hnext => ?_) h
      unfold addCpu at hnext
      split at hnext
      · split at hnext
        · exact start next hnext
        · split at hnext
          · exact start next hnext
          · obtain ⟨total, htotal, hnext⟩ := Option.bind_eq_some_iff.mp hnext
            obtain ⟨one, hone, hnext⟩ := Option.bind_eq_some_iff.mp hnext
            cases hnext
            exact add_nonneg (start total htotal) (cpuEnergy_nonneg hone)
      · exact start next hnext

/-- A CPU energy is not negative. -/
theorem ScansCpu.nonneg {r : PowerReading} (h : ScansCpu r) : 0 ≤ cpuEnergyValue r.cpuEnergy := by
  obtain ⟨sysfs, s, scan⟩ := h
  cases hr : r.cpuEnergy with
  | none => exact le_rfl
  | some energy =>
      rw [hr] at scan
      unfold cpuFreqScan at scan
      split at scan
      · cases scan
      · split at scan
        · cases scan
        · split at scan
          · cases scan
          · exact foldl_addCpu_nonneg (fun total h => by cases h; exact le_rfl)
              (Option.some.inj scan)

/-! ## Bytes as a gauge -/

/-- Two weighted counters, one of which is not zero. -/
theorem weighted_pos {x y : BitVec 64} {a b : Rat} (ha : 0 < a) (hb : 0 < b)
    (counts : x ≠ 0 ∨ y ≠ 0) : 0 < (x.toNat * a + y.toNat * b) / 1024 := by
  have nonzero : ∀ z : BitVec 64, z ≠ 0 → (0 : Rat) < z.toNat := by
    intro z hz
    exact_mod_cast Nat.pos_of_ne_zero fun zero => hz (BitVec.eq_of_toNat_eq zero)
  rcases counts with hx | hy
  · have := nonzero x hx
    positivity
  · have := nonzero y hy
    positivity

section

variable {σ : Type} {a b : Rat}

/-- The energy of two byte counters. A counter that goes back to zero wraps around. -/
def byteGauge (zero : σ) (first second : σ → BitVec 64) (ha : 0 < a) (hb : 0 < b)
    (isZero : ∀ s, s = zero ↔ first s = 0 ∧ second s = 0) : Gauge σ Rat where
  zero
  le p q := (first p).toNat ≤ (first q).toNat ∧ (second p).toNat ≤ (second q).toNat
  amount p q := ((first q - first p).toNat * a + (second q - second p).toNat * b) / 1024
  potential p := ((first p).toNat * a + (second p).toNat * b) / 1024
  le_refl _ := ⟨le_rfl, le_rfl⟩
  zero_le p := by
    obtain ⟨hfirst, hsecond⟩ := (isZero zero).mp rfl
    simp [hfirst, hsecond]
  amount_eq := by
    rintro p q ⟨grownFirst, grownSecond⟩
    rw [cast_increment grownFirst, cast_increment grownSecond]
    ring
  amount_nonneg _ _ := by positivity
  amount_zero := by
    intro p nonzero
    obtain ⟨hfirst, hsecond⟩ := (isZero zero).mp rfl
    have wraps : ∀ x : BitVec 64, 0 - x = 0 ↔ x = 0 := by
      intro x
      rw [show 0 - x = -x from BitVec.zero_sub x]
      exact BitVec.neg_eq_zero_iff
    apply weighted_pos ha hb
    rw [hfirst, hsecond, ne_eq, ne_eq, wraps, wraps, ← not_and_or]
    exact fun both => nonzero ((isZero p).mpr both)
  potential_zero := by
    obtain ⟨hfirst, hsecond⟩ := (isZero zero).mp rfl
    simp [hfirst, hsecond]

end

def netGauge : Gauge NetStats Rat :=
  byteGauge ⟨0, 0⟩ NetStats.rcvBytes NetStats.sendBytes
    (show 0 < eNetRcvPerKB by norm_num [eNetRcvPerKB])
    (show 0 < eNetSndPerKB by norm_num [eNetSndPerKB])
    fun s => by cases s; simp

def diskGauge : Gauge IoStats Rat :=
  byteGauge ⟨0, 0⟩ IoStats.readBytes IoStats.writeBytes
    (show 0 < eDiskRPerKB by norm_num [eDiskRPerKB])
    (show 0 < eDiskWPerKB by norm_num [eDiskWPerKB])
    fun s => by cases s; simp

/-! ## The amounts of the meter -/

theorem Meter.amounts_cpu (m : Meter) (rs : List PowerReading) :
    (m.amounts rs .cpu).map Prod.snd =
      steps (fun p q => q - p) m.cpu ((rs.map PowerReading.cpuEnergy).map fun e => e.getD 0) := by
  induction rs generalizing m with
  | nil => rfl
  | cons r rs ih => exact congrArg (m.cpuEnergy r :: ·) (ih (m.next r))

theorem Meter.amounts_net (m : Meter) (rs : List PowerReading) :
    (m.amounts rs .net).map Prod.snd =
      steps netGauge.amount m.net (held m.netAfter (rs.map PowerReading.net)) := by
  induction rs generalizing m with
  | nil => rfl
  | cons r rs ih =>
      have rest := ih (m.next r)
      cases hr : r.net with
      | none =>
          have kept : m.netNext r = m.netAfter := by rw [Meter.netNext, hr]; rfl
          simp only [List.map_cons, hr, held, steps]
          rw [← kept]
          exact congrArg (m.netEnergy r :: ·) rest
      | some found =>
          have read : m.netNext r = found := by rw [Meter.netNext, hr]; rfl
          simp only [List.map_cons, hr, held, steps]
          rw [← read]
          exact congrArg (m.netEnergy r :: ·) rest

/-- What `sys_IO_stat_read` finds. -/
def PowerReading.io (r : PowerReading) : Option IoStats := r.proc.map fun _ => r.ioCount

theorem Meter.amounts_io (m : Meter) (rs : List PowerReading) :
    (m.amounts rs .io).map Prod.snd =
      steps diskGauge.amount m.io (held m.ioAfter (rs.map PowerReading.io)) := by
  induction rs generalizing m with
  | nil => rfl
  | cons r rs ih =>
      have rest := ih (m.next r)
      cases hr : r.proc with
      | none =>
          have kept : m.ioNext r = m.ioAfter := by rw [Meter.ioNext, hr]; rfl
          simp only [List.map_cons, PowerReading.io, hr, Option.map_none, held, steps]
          rw [← kept]
          exact congrArg (m.ioEnergy r :: ·) rest
      | some proc =>
          have read : m.ioNext r = r.ioCount := by rw [Meter.ioNext, ioCount, hr]; rfl
          simp only [List.map_cons, PowerReading.io, hr, Option.map_some, held, steps]
          rw [← read]
          exact congrArg (m.ioEnergy r :: ·) rest

/-! ## Runs with failures -/

/-- The readers of a metric succeed. -/
def readsMetric (metric : PowerMetric) (r : PowerReading) : Bool :=
  match metric with
  | .cpu => r.cpuEnergy.isSome
  | .net => r.net.isSome
  | .ram | .io => r.proc.isSome
  | .all => r.cpuEnergy.isSome && r.net.isSome && r.proc.isSome

/-- The counters of a metric do not decrease from one reading to another. -/
def KeepsGrowing (metric : PowerMetric) (before after : PowerReading) : Prop :=
  match metric with
  | .cpu => cpuEnergyValue before.cpuEnergy ≤ cpuEnergyValue after.cpuEnergy
  | .net => netGauge.le before.netCount after.netCount
  | .ram | .io => diskGauge.le before.ioCount after.ioCount
  | .all => True

/-- The failed reads of a metric do no harm: for the CPU, every read that succeeds after one follows
nothing but zeros, and for the others the first sample is read or follows zeros. -/
def HarmlessFailures (first : PowerReading) (rs : List PowerReading) : PowerMetric → Prop
  | .cpu => Recovers (cpuEnergyValue first.cpuEnergy) false (rs.map PowerReading.cpuEnergy)
  | .net => rs.head?.map PowerReading.net = some none → first.netCount = ⟨0, 0⟩
  | .io => rs.head?.map PowerReading.io = some none → first.ioCount = ⟨0, 0⟩
  | .ram | .all => True

/-- The readings that succeed, in terms of what they find. -/
theorem reduceOption_map {α : Type} {read : PowerReading → Option α} {found : PowerReading → α}
    {succeeds : PowerReading → Bool}
    (spec : ∀ r, read r = if succeeds r then some (found r) else none) (rs : List PowerReading) :
    (rs.map read).reduceOption = (rs.filter succeeds).map found := by
  induction rs with
  | nil => rfl
  | cons r rs ih =>
      rw [List.map_cons, spec r]
      cases hr : succeeds r with
      | false => simpa [hr, List.reduceOption_cons_of_none] using ih
      | true => simpa [hr, List.reduceOption_cons_of_some] using ih

theorem found_chain {α : Type} {read : PowerReading → Option α} (found : PowerReading → α)
    (R : α → α → Prop) {succeeds : PowerReading → Bool}
    (spec : ∀ r, read r = if succeeds r then some (found r) else none)
    {first : PowerReading} {rs : List PowerReading}
    (grows : List.IsChain (fun before after => R (found before) (found after))
      (first :: rs.filter succeeds)) :
    List.IsChain R (found first :: (rs.map read).reduceOption) ∧
      (rs.map read).reduceOption.getLastD (found first) =
        found ((rs.filter succeeds).getLastD first) := by
  rw [reduceOption_map spec]
  exact ⟨(List.isChain_cons_map found).mpr grows, List.getLastD_map⟩

theorem cpuEnergy_spec (r : PowerReading) :
    r.cpuEnergy = if readsMetric .cpu r then some (cpuEnergyValue r.cpuEnergy) else none := by
  cases hr : r.cpuEnergy <;> simp [readsMetric, hr, cpuEnergyValue]

theorem net_spec (r : PowerReading) :
    r.net = if readsMetric .net r then some r.netCount else none := by
  cases hr : r.net <;> simp [readsMetric, hr, netCount, netStatRead]

theorem io_spec (r : PowerReading) :
    r.io = if readsMetric .io r then some r.ioCount else none := by
  cases hr : r.proc <;> simp [readsMetric, hr, PowerReading.io]

theorem posSum_of_nonneg {amounts : List Rat} (h : ∀ amount ∈ amounts, 0 ≤ amount) :
    (amounts.map (max 0)).sum = amounts.sum := by
  rw [List.map_congr_left fun amount inside => max_eq_right (h amount inside), List.map_id']

theorem Gauge.steps_nonneg {α : Type} (g : Gauge α Rat) (p : α) (qs : List α) :
    ∀ amount ∈ steps g.amount p qs, 0 ≤ amount := by
  induction qs generalizing p with
  | nil => simp [steps]
  | cons q qs ih => simpa [steps, g.amount_nonneg p q] using ih q

/-- The energies of a metric that can be negative or not are bounded by the difference of the
readings exactly when the failures do no harm. -/
theorem Meter.start_bounded_iff {first : PowerReading} {rs : List PowerReading}
    {metric : PowerMetric} (single : metric ≠ .ram ∧ metric ≠ .all)
    (energies : ∀ r ∈ first :: rs, ScansCpu r)
    (grows : List.IsChain (KeepsGrowing metric) (first :: rs.filter (readsMetric metric))) :
    (((Meter.start first).amounts rs metric).map fun entry => max 0 entry.2).sum ≤
        ((rs.filter (readsMetric metric)).getLastD first).counted metric - first.counted metric ↔
      HarmlessFailures first rs metric := by
  have split : (((Meter.start first).amounts rs metric).map fun entry => max 0 entry.2) =
      (((Meter.start first).amounts rs metric).map Prod.snd).map (max 0) := by
    rw [List.map_map]; rfl
  rw [split]
  cases metric with
  | ram => exact absurd rfl single.1
  | all => exact absurd rfl single.2
  | cpu =>
      have start := (energies first (by simp)).nonneg
      obtain ⟨chain, last⟩ := found_chain (fun r => cpuEnergyValue r.cpuEnergy) (· ≤ ·)
        cpuEnergy_spec grows
      have bound := sum_reset_le_iff start chain
      rw [last] at bound
      rw [Meter.amounts_cpu]
      exact bound
  | net =>
      obtain ⟨chain, last⟩ := found_chain netCount netGauge.le net_spec grows
      have bound := netGauge.sum_held_zero_le_iff chain
      rw [last, List.head?_map] at bound
      rw [Meter.amounts_net, posSum_of_nonneg (Gauge.steps_nonneg netGauge _ _)]
      exact bound
  | io =>
      obtain ⟨chain, last⟩ := found_chain ioCount diskGauge.le io_spec grows
      have bound := diskGauge.sum_held_zero_le_iff chain
      rw [last, List.head?_map] at bound
      rw [Meter.amounts_io, posSum_of_nonneg (Gauge.steps_nonneg diskGauge _ _)]
      exact bound

/-- A value without the negative ones. What is no number stands over no time at all. -/
def atLeastZero : FloatValue → Rat
  | .num q => max 0 q
  | .inf _ | .nan => 0

theorem atLeastZero_quotient (x y : Rat) : atLeastZero (.quotient x y) = max 0 (x / y) := by
  by_cases zero : y = 0
  · subst zero
    rw [div_zero, max_self]
    unfold FloatValue.quotient
    rw [if_neg (not_not.mpr rfl)]
    split <;> rfl
  · rw [FloatValue.quotient_of_ne zero]
    rfl

theorem Meter.powers_atLeastZero (m : Meter) (rs : List PowerReading) (metric : PowerMetric) :
    (m.powers rs metric).map atLeastZero =
      (averages m.time (m.amounts rs metric)).map (max 0) := by
  induction rs generalizing m with
  | nil => rfl
  | cons r rs ih =>
      have first : atLeastZero (m.power r metric) = _ :=
        atLeastZero_quotient (m.energy r metric) (r.clock - m.time)
      have rest : ((m.next r).powers rs metric).map atLeastZero = _ := ih (m.next r)
      simp only [powers, run, amounts, List.map_cons, averages] at rest ⊢
      rw [first, rest]
      rfl

/-- What the values of a run report, over their intervals, is not above the energy of the difference
between the last reading and the first. -/
def FailuresBounded (metric : PowerMetric) (first : PowerReading) (rs : List PowerReading)
    (run : Except Fault (List (PowerMetrics × PowerState))) : Prop :=
  ∃ (tables : List (PowerMetrics × PowerState)) (values : List FloatValue), run = .ok tables ∧
    tables.map (powerValue metric) = values.map some ∧
    reportedEnergy first rs (values.map atLeastZero) ≤
      ((rs.filter (readsMetric metric)).getLastD first).counted metric - first.counted metric

theorem failuresBounded_of_ok {data : PowerMetrics} {events : List CText} {nrCpus : Int}
    {first : PowerReading} {rs : List PowerReading} {metric : PowerMetric}
    (asked : metric.name ∈ events) {tables : List (PowerMetrics × PowerState)}
    (run : powerRun data events nrCpus first rs = .ok tables) :
    FailuresBounded metric first rs (powerRun data events nrCpus first rs) ↔
      integral first.clock (shown first.clock (max 0) ((Meter.start first).amounts rs metric)) ≤
        ((rs.filter (readsMetric metric)).getLastD first).counted metric -
          first.counted metric := by
  have values := powerRun_values data first rs asked run
  have reported : reportedEnergy first rs
      (((Meter.start first).powers rs metric).map atLeastZero) =
      integral first.clock (shown first.clock (max 0) ((Meter.start first).amounts rs metric)) := by
    rw [Meter.powers_atLeastZero, shown, Meter.amounts_fst]
    rfl
  rw [← reported]
  constructor
  · rintro ⟨tables', values', run', values'', bounded⟩
    rw [run] at run'
    cases run'
    rw [values] at values''
    rwa [List.map_injective_iff.mpr (Option.some_injective _) values'']
  · intro bounded
    exact ⟨tables, _, run, values, bounded⟩

/-- What a run reports of energies that are not negative stays within the difference of the readings
when the perf counters have room and the failures do no harm, and where time goes on only then. -/
theorem powerRun_failures_iff (data : PowerMetrics) {events : List CText} (nrCpus : Int)
    {first : PowerReading} {rs : List PowerReading} {metric : PowerMetric}
    (single : metric ≠ .ram ∧ metric ≠ .all) (asked : metric.name ∈ events)
    (energies : ∀ r ∈ first :: rs, ScansCpu r)
    (grows : List.IsChain (KeepsGrowing metric) (first :: rs.filter (readsMetric metric))) :
    (CountersFit nrCpus events ∧ HarmlessFailures first rs metric →
      FailuresBounded metric first rs (powerRun data events nrCpus first rs)) ∧
    (Advances first.clock (rs.map PowerReading.clock) →
      (FailuresBounded metric first rs (powerRun data events nrCpus first rs) ↔
        CountersFit nrCpus events ∧ HarmlessFailures first rs metric)) := by
  have bounded := Meter.start_bounded_iff single energies grows
  rw [← powerRun_ok_iff data first rs asked]
  constructor
  · rintro ⟨⟨tables, run⟩, harmless⟩
    rw [failuresBounded_of_ok asked run]
    exact (integral_positive_le _ _).trans (bounded.mpr harmless)
  · intro advances
    constructor
    · intro fits
      have ran := fits
      obtain ⟨tables, -, run, -⟩ := ran
      rw [failuresBounded_of_ok asked run,
        integral_positive (by rwa [Meter.amounts_fst])] at fits
      exact ⟨⟨tables, run⟩, bounded.mp fits⟩
    · rintro ⟨⟨tables, run⟩, harmless⟩
      rw [failuresBounded_of_ok asked run]
      exact (integral_positive_le _ _).trans (bounded.mpr harmless)

/-- A reading at which the slower of two frequencies was in use. -/
def slowReading (clock energy : Rat) : PowerReading :=
  { twoSeconds with clock, cpuEnergy := some energy }

/-- A reading that finds no CPU statistics. -/
def cpuFailure (clock : Rat) : PowerReading := { twoSeconds with clock, cpuEnergy := none }

theorem slowRun_scans : ∀ r ∈ [slowReading 2 15, cpuFailure 3, slowReading 4 30], ScansCpu r := by
  intro r inside
  simp only [List.mem_cons, List.not_mem_nil, or_false] at inside
  rcases inside with rfl | rfl | rfl
  · exact ⟨⟨true, some [⟨"cpu0".toList, some [0, 2]⟩]⟩, ⟨8, 0⟩, by decide +kernel⟩
  · exact ⟨⟨false, none⟩, ⟨8, 0⟩, rfl⟩
  · exact ⟨⟨true, some [⟨"cpu0".toList, some [0, 4]⟩]⟩, ⟨8, 0⟩, by decide +kernel⟩

theorem powerRun_failures_iff_net :
    FailuresBounded .net (slowReading 2 15) [cpuFailure 3, slowReading 4 30]
      (powerRun blankPower [PowerMetric.net.name] 64 (slowReading 2 15)
        [cpuFailure 3, slowReading 4 30]) := by
  have grows : List.IsChain (KeepsGrowing .net)
      (slowReading 2 15 :: [cpuFailure 3, slowReading 4 30].filter (readsMetric .net)) :=
    List.isChain_cons_cons.mpr ⟨⟨le_rfl, le_rfl⟩, List.isChain_cons_cons.mpr
      ⟨⟨le_rfl, le_rfl⟩, .singleton _⟩⟩
  refine (powerRun_failures_iff blankPower 64 (by simp)
    (show PowerMetric.net.name ∈ [PowerMetric.net.name] by simp) slowRun_scans grows).1 ⟨?_, ?_⟩
  · exact Or.inr (by decide)
  · simp [HarmlessFailures, cpuFailure, twoSeconds]

/-- After a failed read the CPU reports 30 mJ where 15 were counted. -/
theorem powerRun_failure_recounts :
    ¬ ∀ (events : List CText) (nrCpus : Int) (first : PowerReading) (rs : List PowerReading)
        (metric : PowerMetric), metric ≠ .ram ∧ metric ≠ .all →
        metric.name ∈ events → first.Succeeds →
        (∀ r ∈ first :: rs, ScansCpu r) →
        List.IsChain (KeepsGrowing metric) (first :: rs.filter (readsMetric metric)) →
        Advances first.clock (rs.map PowerReading.clock) →
        FailuresBounded metric first rs (powerRun blankPower events nrCpus first rs) := by
  intro claim
  have grows : List.IsChain (KeepsGrowing .cpu)
      (slowReading 2 15 :: [cpuFailure 3, slowReading 4 30].filter (readsMetric .cpu)) :=
    List.isChain_cons_cons.mpr
      ⟨show cpuEnergyValue (slowReading 2 15).cpuEnergy ≤
        cpuEnergyValue (slowReading 4 30).cpuEnergy by decide, .singleton _⟩
  have advances : Advances (slowReading 2 15).clock
      ([cpuFailure 3, slowReading 4 30].map PowerReading.clock) :=
    ⟨by decide, by decide, trivial⟩
  obtain ⟨tables, values, run, shows, bounded⟩ := claim [PowerMetric.cpu.name] 4 (slowReading 2 15)
    [cpuFailure 3, slowReading 4 30] .cpu (by simp) (by simp) ⟨rfl, rfl, rfl⟩ slowRun_scans grows
    advances
  have run' : (powerRun blankPower [PowerMetric.cpu.name] 4 (slowReading 2 15)
      [cpuFailure 3, slowReading 4 30]).map (fun tables => tables.map (powerValue .cpu)) =
      .ok ([FloatValue.num (-15), .num 30].map some) := by
    decide +kernel
  rw [run] at run'
  have same : values = [FloatValue.num (-15), .num 30] :=
    List.map_injective_iff.mpr (Option.some_injective _) (shows.symm.trans (Except.ok.inj run'))
  subst same
  revert bounded
  decide +kernel

end PhantomMonitor
