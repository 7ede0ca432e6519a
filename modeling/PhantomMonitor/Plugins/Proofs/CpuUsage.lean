import Mathlib.Tactic.Linarith
import Mathlib.Tactic.Positivity
import PhantomMonitor.Misc.Counter
import PhantomMonitor.Plugins.Proofs.ResourcesTable
import PhantomMonitor.Plugins.Proofs.VanishedProcess

/-!
# The CPU usage

A new usage rate is computed when the total of all counters has increased. The total may increase
although a part of it decreases, and then the rate is not a percentage.
-/

namespace PhantomMonitor

/-- The time in which a CPU had nothing to do. -/
def CpuTimes.idleSum (t : CpuTimes) : Nat := t.idle.toNat + t.iowait.toNat

/-- The other six counters. -/
def CpuTimes.busySum (t : CpuTimes) : Nat :=
  t.user.toNat + t.nice.toNat + t.sys.toNat + t.irq.toNat + t.softirq.toNat + t.steal.toNat

/-- All eight counters. -/
def CpuTimes.sum (t : CpuTimes) : Nat := t.busySum + t.idleSum

theorem cpuStatRead_total {t : CpuTimes} (fits : t.sum < 2 ^ 64) (cpuInfo : CpuStats) :
    (cpuStatRead (some (some t)) cpuInfo).1.totalCpuTime.toNat = t.sum := by
  unfold CpuTimes.sum CpuTimes.busySum CpuTimes.idleSum at *
  simp only [cpuStatRead, BitVec.toNat_add]
  omega

theorem cpuStatRead_idle {t : CpuTimes} (fits : t.sum < 2 ^ 64) (cpuInfo : CpuStats) :
    (cpuStatRead (some (some t)) cpuInfo).1.totalIdleTime.toNat = t.idleSum := by
  unfold CpuTimes.sum CpuTimes.idleSum at *
  simp only [cpuStatRead, BitVec.toNat_add]
  omega

/-- A usage rate is never negative. -/
theorem cpuUsageRate_nonneg (before after : CpuStats) : 0 ≤ cpuUsageRate before after := by
  unfold cpuUsageRate
  positivity

/-- A usage rate is at most 100 exactly when the idle time has not passed the total time. -/
theorem cpuUsageRate_le_iff {before after : CpuStats}
    (increased : before.totalCpuTime.toNat < after.totalCpuTime.toNat) :
    cpuUsageRate before after ≤ 100 ↔
      (after.totalIdleTime - before.totalIdleTime).toNat ≤
        (after.totalCpuTime - before.totalCpuTime).toNat := by
  have total : 0 < (after.totalCpuTime - before.totalCpuTime).toNat := by
    rw [Counter.sub_eq_of_le increased.le]
    omega
  have positive : (0 : Rat) < (after.totalCpuTime - before.totalCpuTime).toNat := by
    exact_mod_cast total
  rw [cpuUsageRate, div_le_iff₀ positive, mul_comm _ (100 : Rat),
    mul_le_mul_iff_right₀ (by norm_num), Nat.cast_le]
  exact Counter.sub_le_iff _ _

/-- What a sample stores for the CPU, which is the first one of the metrics. -/
theorem sample_cpuUsage (data : PluginMetrics) {r : ResourcesReading} {st : ResourcesState}
    (asked : st.flag .cpu = true) {after : CpuStats}
    (read : (cpuStatRead r.cpu st.cpuStatAfter).1 = after)
    (increased : st.cpuStatBefore.totalCpuTime < after.totalCpuTime) :
    (mfLinuxResourcesSample data r st).1.values 0 = cpuUsageRate st.cpuStatBefore after := by
  have sampled := resourcesSample_sampled r
    (tabulates_held data.values (resourcesLayout_nodup st.flag))
  obtain ⟨rest, layout⟩ : ∃ rest, resourcesLayout st.flag = .cpu :: rest :=
    ⟨_, List.filter_cons_of_pos asked⟩
  have write : resourcesWrite r st .cpu = some (cpuUsageRate st.cpuStatBefore after) := by
    simp only [resourcesWrite, read]
    rw [if_pos increased]
  have values := sampled.values
  rw [layout, List.map_cons, write, Option.getD_some] at values
  exact values 0 _ rfl

/-- When the total of the counters has increased, the value stored is a percentage exactly when
neither the idle time nor the rest has decreased. -/
theorem cpuUsage_percentage_iff {t₀ t : CpuTimes} (fits₀ : t₀.sum < 2 ^ 64) (fits : t.sum < 2 ^ 64)
    {st : ResourcesState} (asked : st.flag .cpu = true) {cpuInfo : CpuStats}
    (before : st.cpuStatBefore = (cpuStatRead (some (some t₀)) cpuInfo).1) {r : ResourcesReading}
    (read : r.cpu = some (some t)) (increased : t₀.sum < t.sum) (data : PluginMetrics) :
    (0 ≤ (mfLinuxResourcesSample data r st).1.values 0 ∧
        (mfLinuxResourcesSample data r st).1.values 0 ≤ 100) ↔
      t₀.idleSum ≤ t.idleSum ∧ t₀.busySum ≤ t.busySum := by
  have total₀ := cpuStatRead_total fits₀ cpuInfo
  have idle₀ := cpuStatRead_idle fits₀ cpuInfo
  have total := cpuStatRead_total fits st.cpuStatAfter
  have idle := cpuStatRead_idle fits st.cpuStatAfter
  rw [← before] at total₀ idle₀
  rw [← read] at total idle
  have more : st.cpuStatBefore.totalCpuTime.toNat <
      (cpuStatRead r.cpu st.cpuStatAfter).1.totalCpuTime.toNat := by rwa [total₀, total]
  rw [sample_cpuUsage data asked rfl more, and_iff_right (cpuUsageRate_nonneg _ _),
    cpuUsageRate_le_iff more, Counter.part_sub_le_iff _ _ more.le, total₀, idle₀, total, idle]
  · unfold CpuTimes.sum
    omega
  · rw [total₀, idle₀]
    exact Nat.le_add_left _ _
  · rw [total, idle]
    exact Nat.le_add_left _ _

/-- A reading of the CPU alone. -/
def cpuAt (t : CpuTimes) : ResourcesReading := ⟨0, some (some t), 0, 0, none, none⟩

/-- The plugin after a first reading of the CPU. -/
def cpuStarted (t : CpuTimes) : ResourcesState :=
  { loadedResources with
    flag := fun m => m = .cpu
    cpuStatBefore := (cpuStatRead (some (some t)) ⟨0, 0⟩).1 }

theorem cpuUsage_percentage_iff_half :
    let st := cpuStarted ⟨10, 0, 0, 10, 0, 0, 0, 0⟩
    0 ≤ (mfLinuxResourcesSample .blank (cpuAt ⟨15, 0, 0, 14, 1, 0, 0, 0⟩) st).1.values 0 ∧
      (mfLinuxResourcesSample .blank (cpuAt ⟨15, 0, 0, 14, 1, 0, 0, 0⟩) st).1.values 0 ≤ 100 := by
  have before : (cpuStarted ⟨10, 0, 0, 10, 0, 0, 0, 0⟩).cpuStatBefore =
      (cpuStatRead (some (some ⟨10, 0, 0, 10, 0, 0, 0, 0⟩)) ⟨0, 0⟩).1 := rfl
  exact (cpuUsage_percentage_iff (t := ⟨15, 0, 0, 14, 1, 0, 0, 0⟩) (by decide)
    (by decide) rfl before rfl (by decide) .blank).mpr (by decide)

/-- While twenty ticks are used, `iowait` goes back by five: the rate is above 133 percent. -/
theorem cpuUsage_iowait_decreased :
    ¬ ∀ (t₀ t : CpuTimes) (st : ResourcesState) (cpuInfo : CpuStats) (r : ResourcesReading)
      (data : PluginMetrics), t₀.sum < 2 ^ 64 → t.sum < 2 ^ 64 → st.flag .cpu = true →
      st.cpuStatBefore = (cpuStatRead (some (some t₀)) cpuInfo).1 → r.cpu = some (some t) →
      t₀.sum < t.sum →
      0 ≤ (mfLinuxResourcesSample data r st).1.values 0 ∧
        (mfLinuxResourcesSample data r st).1.values 0 ≤ 100 := by
  intro claim
  have bounded := claim ⟨0, 0, 0, 0, 10, 0, 0, 0⟩ ⟨20, 0, 0, 0, 5, 0, 0, 0⟩
    (cpuStarted ⟨0, 0, 0, 0, 10, 0, 0, 0⟩) ⟨0, 0⟩ (cpuAt ⟨20, 0, 0, 0, 5, 0, 0, 0⟩) .blank
    (by decide) (by decide) rfl rfl rfl (by decide)
  have stored := @sample_cpuUsage .blank (cpuAt ⟨20, 0, 0, 0, 5, 0, 0, 0⟩)
    (cpuStarted ⟨0, 0, 0, 0, 10, 0, 0, 0⟩) rfl _ rfl (by decide)
  rw [stored, cpuUsageRate_le_iff (by decide)] at bounded
  exact absurd bounded.2 (by decide)

end PhantomMonitor
