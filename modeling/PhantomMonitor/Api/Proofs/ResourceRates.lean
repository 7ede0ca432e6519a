import Mathlib.Algebra.Order.Field.Basic
import Mathlib.Data.Rat.Cast.Order
import PhantomMonitor.Api.ResourcesMonitor
import PhantomMonitor.Plugins.Proofs.MemoryUsage

/-!
# The rates of the resources monitor

Three rates in percent, of which only that of the CPU has a guard. The rate of the swap space is no
number on a host without swap, and is taken from an arbitrary value for a process without the line.
The CPU time of the machine is taken without the time of nice processes, in which the process may
have run.
-/

namespace PhantomMonitor

open CText

/-! ## Keys -/

section

variable {key line : CText} {value : BitVec 64}

theorem keyedUlong_given (h : Gives key value.toNat line) (held : BitVec 64) :
    keyedUlong key line held = value := by
  obtain ⟨n, rest, rfl, same, stop⟩ := h
  rw [List.append_assoc, keyedUlong,
    if_pos (List.isPrefixOf_iff_prefix.mpr (List.prefix_append _ _)), List.drop_left, sscanfUlong,
    n.scanUlong_text stop (same ▸ value.isLt), same, BitVec.ofNat_toNat, BitVec.setWidth_eq]
  rfl

theorem keyedUlong_other (h : ¬ key <+: line) (held : BitVec 64) :
    keyedUlong key line held = held :=
  if_neg fun starts => h (List.isPrefixOf_iff_prefix.mp starts)

end

section

variable {key content : CText} {value : BitVec 64} (other : CText) (values : BitVec 64 × BitVec 64)

theorem keyedPair_fst (h : SoleLine key value.toNat (procLines content)) :
    (keyedPair key other content values).1 = value :=
  Sole.foldl h Prod.fst (fun values _ unmarked => keyedUlong_other unmarked values.1)
    (fun values _ given => keyedUlong_given given values.1) values

theorem keyedPair_snd (h : SoleLine key value.toNat (procLines content)) :
    (keyedPair other key content values).2 = value :=
  Sole.foldl h Prod.snd (fun values _ unmarked => keyedUlong_other unmarked values.2)
    (fun values _ given => keyedUlong_given given values.2) values

/-- Without a line of the key, the variable keeps what it held. -/
theorem keyedPair_snd_kept (h : ∀ line ∈ procLines content, ¬ key <+: line) :
    (keyedPair other key content values).2 = values.2 :=
  foldl_kept Prod.snd (fun values _ unmarked => keyedUlong_other unmarked values.2) h values

end

/-! ## The two files -/

/-- The memory of a process and of its host. A process without swap has no line for it. -/
structure MemoryUse where
  vmRSS : BitVec 64
  vmSwap : Option (BitVec 64)
  memTotal : BitVec 64
  swapTotal : BitVec 64

/-- The line of the swap space, which may be missing. -/
def SwapLine (vmSwap : Option (BitVec 64)) (lines : List CText) : Prop :=
  match vmSwap with
  | none => ∀ line ∈ lines, ¬ "VmSwap:".toList <+: line
  | some value => SoleLine "VmSwap:".toList value.toNat lines

/-- The files give the memory of a process that fits into the host. -/
structure MemoryFiles (status meminfo : CText) (m : MemoryUse) : Prop where
  vmRSS : SoleLine "VmRSS:".toList m.vmRSS.toNat (procLines status)
  vmSwap : SwapLine m.vmSwap (procLines status)
  memTotal : SoleLine "MemTotal:".toList m.memTotal.toNat (procLines meminfo)
  swapTotal : SoleLine "SwapTotal:".toList m.swapTotal.toNat (procLines meminfo)
  ram : m.vmRSS ≤ m.memTotal
  positive : m.memTotal ≠ 0
  swap : ∀ value ∈ m.vmSwap, value ≤ m.swapTotal

/-- Without its line, the swap space of the process is what the variable happens to hold. -/
theorem resourcesStatAllAndCalculate_eq {status meminfo : CText} {m : MemoryUse}
    (files : MemoryFiles status meminfo m) (vars : MemoryLocals) (before after : ResourcesCpu) :
    resourcesStatAllAndCalculate (some status) (some meminfo) vars before after =
      some (⟨processUsageRate before after, percentage m.vmRSS m.memTotal,
        percentage (m.vmSwap.getD vars.pidVmSwap) m.swapTotal⟩, after) := by
  have rss := keyedPair_fst "VmSwap:".toList (vars.pidVmRSS, vars.pidVmSwap) files.vmRSS
  have mem := keyedPair_fst "SwapTotal:".toList (vars.memTotal, vars.swapTotal) files.memTotal
  have total := keyedPair_snd "MemTotal:".toList (vars.memTotal, vars.swapTotal) files.swapTotal
  have swap : (keyedPair "VmRSS:".toList "VmSwap:".toList status
      (vars.pidVmRSS, vars.pidVmSwap)).2 = m.vmSwap.getD vars.pidVmSwap := by
    have line := files.vmSwap
    cases h : m.vmSwap with
    | none =>
        rw [h] at line
        exact keyedPair_snd_kept _ _ line
    | some value =>
        rw [h] at line
        exact keyedPair_snd _ _ line
  rw [← rss, ← mem, ← total, ← swap]
  rfl

/-! ## Rates -/

/-- A number between 0 and 100. -/
def IsRate (rate : Option Rat) : Prop := ∃ q, rate = some q ∧ 0 ≤ q ∧ q ≤ 100

theorem percentage_isRate_iff (part whole : BitVec 64) :
    IsRate (percentage part whole) ↔ whole ≠ 0 ∧ part ≤ whole := by
  unfold IsRate percentage
  by_cases zero : whole = 0
  · simp [zero]
  · have positive : (0 : Rat) < whole.toNat := by
      rw [Nat.cast_pos, Nat.pos_iff_ne_zero]
      exact fun none => zero (BitVec.eq_of_toNat_eq none)
    have bounded : (part.toNat * 100 / whole.toNat : Rat) ≤ 100 ↔ part ≤ whole := by
      rw [div_le_iff₀ positive, mul_comm, mul_le_mul_iff_right₀ (by norm_num), Nat.cast_le,
        BitVec.le_def]
    rw [if_neg zero, ← bounded]
    constructor
    · rintro ⟨q, ⟨⟩, -, small⟩
      exact ⟨zero, small⟩
    · rintro ⟨-, small⟩
      exact ⟨_, rfl, div_nonneg (mul_nonneg (Nat.cast_nonneg _) (by norm_num)) positive.le, small⟩

/-- The increment of the process is at most that of the machine without nice processes, or the rate
is not computed. -/
def CpuBounded (before after : ResourcesCpu) : Prop :=
  before.processCpuTime < after.processCpuTime → before.globalCpuTime < after.globalCpuTime →
    after.processCpuTime.toNat - before.processCpuTime.toNat ≤
      after.globalCpuTime.toNat - before.globalCpuTime.toNat

theorem processUsageRate_isRate_iff (before after : ResourcesCpu) :
    IsRate (processUsageRate before after) ↔ CpuBounded before after := by
  unfold processUsageRate CpuBounded
  by_cases idle : after.processCpuTime ≤ before.processCpuTime ∨
      after.globalCpuTime ≤ before.globalCpuTime
  · rw [if_pos idle]
    refine iff_of_true ⟨0, rfl, by norm_num, by norm_num⟩ fun process machine => ?_
    rcases idle with idle | idle
    · exact absurd process (BitVec.not_lt.mpr idle)
    · exact absurd machine (BitVec.not_lt.mpr idle)
  · obtain ⟨process, machine⟩ := not_or.mp idle
    rw [BitVec.not_le] at process machine
    rw [if_neg idle, percentage_isRate_iff, BitVec.le_def,
      BitVec.toNat_sub_of_le (BitVec.le_of_lt process),
      BitVec.toNat_sub_of_le (BitVec.le_of_lt machine)]
    have moved : after.globalCpuTime - before.globalCpuTime ≠ 0 := by
      intro same
      rw [BitVec.sub_eq_iff_eq_add] at same
      simp [same] at machine
    exact ⟨fun bounded _ _ => bounded.2, fun bounded => ⟨moved, bounded process machine⟩⟩

/-- The three rates are numbers between 0 and 100 exactly when the host has swap space, a process
without the line finds a small enough value in the variable, and the process has not run longer than
the machine without nice processes. -/
theorem resourceRates_iff {status meminfo : CText} {m : MemoryUse}
    (files : MemoryFiles status meminfo m) (vars : MemoryLocals) (before after : ResourcesCpu) :
    (∃ stats, resourcesStatAllAndCalculate (some status) (some meminfo) vars before after =
        some (stats, after) ∧ IsRate stats.cpuUsageRate ∧ IsRate stats.ramUsageRate ∧
          IsRate stats.swapUsageRate) ↔
      m.swapTotal ≠ 0 ∧ (m.vmSwap = none → vars.pidVmSwap ≤ m.swapTotal) ∧
        CpuBounded before after := by
  have ram : IsRate (percentage m.vmRSS m.memTotal) :=
    (percentage_isRate_iff _ _).mpr ⟨files.positive, files.ram⟩
  have part : m.vmSwap.getD vars.pidVmSwap ≤ m.swapTotal ↔
      (m.vmSwap = none → vars.pidVmSwap ≤ m.swapTotal) := by
    have le := files.swap
    cases h : m.vmSwap with
    | none => exact (imp_iff_right rfl).symm
    | some value => exact iff_of_true (le value h) fun absent => nomatch absent
  rw [resourcesStatAllAndCalculate_eq files, ← part, ← and_assoc, ← percentage_isRate_iff,
    ← processUsageRate_isRate_iff]
  constructor
  · rintro ⟨stats, ⟨⟩, cpu, -, swap⟩
    exact ⟨swap, cpu⟩
  · rintro ⟨swap, cpu⟩
    exact ⟨_, rfl, cpu, ram, swap⟩

/-! ## Two hosts -/

/-- `/proc/[pid]/status` of a process that uses 2 kilobytes. -/
def smallStatus : List CText :=
  [kilobyteLine "VmRSS:".toList (.blankDigit '2' rfl),
    kilobyteLine "VmSwap:".toList (.blankDigit '0' rfl)]

/-- `/proc/meminfo` of a host of 8 kilobytes. -/
def smallMeminfo (swap : NumberText) : List CText :=
  [kilobyteLine "MemTotal:".toList (.blankDigit '8' rfl), kilobyteLine "SwapTotal:".toList swap]

theorem smallFiles {swap : NumberText}
    (short : ∀ line ∈ smallMeminfo swap, '\n' ∉ line ∧ line.length + 1 < 1024)
    (text : ∀ line ∈ smallMeminfo swap, nul ∉ line) (fits : swap.value < 2 ^ 64) :
    MemoryFiles (unlines smallStatus) (unlines (smallMeminfo swap))
      ⟨2, some 0, 8, BitVec.ofNat 64 swap.value⟩ := by
  have short' : ∀ line ∈ smallStatus, '\n' ∉ line ∧ line.length + 1 < 1024 := by decide +kernel
  have text' : ∀ line ∈ smallStatus, nul ∉ line := by decide +kernel
  obtain ⟨rss, swapped⟩ := soleLine_pair (by decide : ¬ "VmRSS:".toList <+: "VmSwap:".toList)
    (by decide) (.blankDigit '2' rfl) (.blankDigit '0' rfl)
  obtain ⟨mem, total⟩ := soleLine_pair (by decide : ¬ "MemTotal:".toList <+: "SwapTotal:".toList)
    (by decide) (.blankDigit '8' rfl) swap
  have same : (BitVec.ofNat 64 swap.value).toNat = swap.value := by
    rw [BitVec.toNat_ofNat, Nat.mod_eq_of_lt fits]
  exact {
    vmRSS := rss.seen (by decide) short' text'
    vmSwap := swapped.seen (by decide) short' text'
    memTotal := mem.seen (by decide) short text
    swapTotal := by
      rw [same]
      exact total.seen (by decide) short text
    ram := (by decide : (2 : BitVec 64) ≤ 8)
    positive := (by decide : (8 : BitVec 64) ≠ 0)
    swap := by
      rintro value ⟨⟩
      exact BitVec.le_def.mpr (Nat.zero_le _) }

theorem resourceRates_iff_swap :
    ∃ stats, resourcesStatAllAndCalculate (some (unlines smallStatus))
        (some (unlines (smallMeminfo (.blankDigit '4' rfl)))) ⟨0, 0, 0, 0⟩ ⟨1, 5⟩ ⟨2, 9⟩ =
      some (stats, ⟨2, 9⟩) ∧
      IsRate stats.cpuUsageRate ∧ IsRate stats.ramUsageRate ∧ IsRate stats.swapUsageRate := by
  have files := @smallFiles (.blankDigit '4' rfl) (by decide +kernel) (by decide +kernel)
    (by decide)
  exact (resourceRates_iff files ⟨0, 0, 0, 0⟩ ⟨1, 5⟩ ⟨2, 9⟩).mpr
    ⟨by decide, fun absent => (nomatch absent), fun _ _ => by decide⟩

/-- Without swap space the rate of the swap space is 0 / 0. -/
theorem resourceRates_noSwap :
    MemoryFiles (unlines smallStatus) (unlines (smallMeminfo (.blankDigit '0' rfl)))
        ⟨2, some 0, 8, 0⟩ ∧
      ¬ ∃ stats, resourcesStatAllAndCalculate (some (unlines smallStatus))
          (some (unlines (smallMeminfo (.blankDigit '0' rfl)))) ⟨0, 0, 0, 0⟩ ⟨1, 5⟩ ⟨2, 9⟩ =
        some (stats, ⟨2, 9⟩) ∧
        IsRate stats.cpuUsageRate ∧ IsRate stats.ramUsageRate ∧ IsRate stats.swapUsageRate := by
  have files := @smallFiles (.blankDigit '0' rfl) (by decide +kernel) (by decide +kernel)
    (by decide)
  refine ⟨files, ?_⟩
  rw [resourcesStatAllAndCalculate_eq files]
  rintro ⟨stats, ⟨⟩, -, -, q, number, -⟩
  cases number

end PhantomMonitor
