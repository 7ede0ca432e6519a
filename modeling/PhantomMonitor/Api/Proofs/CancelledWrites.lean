import Mathlib.Algebra.Order.Field.Basic
import Mathlib.Algebra.Order.Field.Rat
import Mathlib.Tactic.GCongr
import Mathlib.Tactic.Linarith
import PhantomMonitor.Api.PowerMonitor
import PhantomMonitor.Misc.Counter

/-!
# Cancelled writes

`power_monitor` takes the bytes whose writing was cancelled off the bytes written in the interval,
in unsigned arithmetic. Writes of an earlier interval may be cancelled in this one, and then the
difference wraps around.
-/

namespace PhantomMonitor

/-- The increments of the I/O counters of the process. -/
def readIncrement (before after : PidStatsInfo) : Nat :=
  after.pidReadBytes.toNat - before.pidReadBytes.toNat

def writeIncrement (before after : PidStatsInfo) : Nat :=
  after.pidWriteBytes.toNat - before.pidWriteBytes.toNat

def cancelIncrement (before after : PidStatsInfo) : Nat :=
  after.pidCancelledWrites.toNat - before.pidCancelledWrites.toNat

/-- The I/O counters of the process do not decrease. -/
structure IoGrows (before after : PidStatsInfo) : Prop where
  read : before.pidReadBytes.toNat ≤ after.pidReadBytes.toNat
  write : before.pidWriteBytes.toNat ≤ after.pidWriteBytes.toNat
  cancelled : before.pidCancelledWrites.toNat ≤ after.pidCancelledWrites.toNat

/-- The bytes behind the powers are the true differences, and no power is above that of the bytes
read and written, where the powers are numbers. -/
structure TrueBytes (before after delta : PidStatsInfo) : Prop where
  mem : ((delta.pidReadBytes + delta.pidWriteBytes - delta.pidCancelledWrites).toNat : Int) =
    readIncrement before after + writeIncrement before after - cancelIncrement before after
  disk : ((delta.pidWriteBytes - delta.pidCancelledWrites).toNat : Int) =
    writeIncrement before after - cancelIncrement before after
  memPower : ∀ (p : Nat → Rat) (r : MonitorReading), (∀ i, 0 ≤ p i) → p 4 ≠ 0 →
    r.clockBefore < r.clockAfter → ∃ power, (monitorLine p r delta).pidMemPower = some power ∧
      power ≤ ((readIncrement before after + writeIncrement before after : Nat) / p 4 +
        delta.pidL2CacheMisses.toNat) * p 3 * p 2 * (1 / 10 ^ 6) /
          (r.clockAfter - r.clockBefore)
  diskPower : ∀ (p : Nat → Rat) (r : MonitorReading), (∀ i, 0 ≤ p i) →
    r.clockBefore < r.clockAfter → ∃ power, (monitorLine p r delta).pidDiskPower = some power ∧
      power ≤ (readIncrement before after * p 5 + writeIncrement before after * p 6) /
        (1024 * (r.clockAfter - r.clockBefore))

theorem calcualteAndUpdate_io {before after : PidStatsInfo} {out : PidStatsInfo × PidStatsInfo}
    (h : calcualteAndUpdate before after = some out) (grows : IoGrows before after) :
    out.1.pidReadBytes.toNat = readIncrement before after ∧
      out.1.pidWriteBytes.toNat = writeIncrement before after ∧
      out.1.pidCancelledWrites.toNat = cancelIncrement before after := by
  unfold calcualteAndUpdate at h
  split at h
  · cases h
  · split at h
    · cases h
    · cases h
      exact ⟨Counter.sub_eq_of_le grows.read, Counter.sub_eq_of_le grows.write,
        Counter.sub_eq_of_le grows.cancelled⟩

/-- The difference of two quantities is the true one exactly when it is not negative. -/
theorem toNat_sub_cast_iff (x y : BitVec 64) :
    ((x - y).toNat : Int) = x.toNat - y.toNat ↔ y.toNat ≤ x.toNat := by
  rcases Nat.lt_or_ge x.toNat y.toNat with less | le
  · rw [Counter.sub_eq_of_lt less]
    have := y.isLt
    omega
  · rw [Counter.sub_eq_of_le le]
    omega

theorem toNat_add_sub_cast_iff (x y z : BitVec 64) (covered : z.toNat ≤ y.toNat) :
    ((x + y - z).toNat : Int) = x.toNat + y.toNat - z.toNat ↔
      x.toNat + y.toNat < z.toNat + 2 ^ 64 := by
  have := x.isLt
  have := y.isLt
  have := z.isLt
  rw [BitVec.toNat_sub, BitVec.toNat_add]
  omega

section

variable {p : Nat → Rat} {r : MonitorReading} {delta : PidStatsInfo} {dRead dWrite : Nat}

/-- The powers of bytes that are no more than those read and written. -/
theorem pidMemPower_le (nonneg : ∀ i, 0 ≤ p i) (divisor : p 4 ≠ 0)
    (clock : r.clockBefore < r.clockAfter)
    (mem : (delta.pidReadBytes + delta.pidWriteBytes - delta.pidCancelledWrites).toNat ≤
      dRead + dWrite) :
    ∃ power, (monitorLine p r delta).pidMemPower = some power ∧
      power ≤ ((dRead + dWrite : Nat) / p 4 + delta.pidL2CacheMisses.toNat) * p 3 * p 2 *
        (1 / 10 ^ 6) / (r.clockAfter - r.clockBefore) := by
  have duration : 0 < r.clockAfter - r.clockBefore := sub_pos.mpr clock
  have h2 := nonneg 2
  have h3 := nonneg 3
  have h4 := nonneg 4
  unfold monitorLine
  dsimp only
  rw [FloatValue.ratio_of_ne divisor, Option.bind_some, FloatValue.ratio_of_ne duration.ne']
  refine ⟨_, rfl, ?_⟩
  gcongr

theorem pidDiskPower_le (nonneg : ∀ i, 0 ≤ p i) (clock : r.clockBefore < r.clockAfter)
    (read : delta.pidReadBytes.toNat = dRead)
    (disk : (delta.pidWriteBytes - delta.pidCancelledWrites).toNat ≤ dWrite) :
    ∃ power, (monitorLine p r delta).pidDiskPower = some power ∧
      power ≤ (dRead * p 5 + dWrite * p 6) / (1024 * (r.clockAfter - r.clockBefore)) := by
  have duration : 0 < 1024 * (r.clockAfter - r.clockBefore) := by
    have := sub_pos.mpr clock
    positivity
  have h6 := nonneg 6
  unfold monitorLine
  dsimp only
  rw [FloatValue.ratio_of_ne duration.ne', read]
  refine ⟨_, rfl, ?_⟩
  gcongr

end

/-- The bytes are true exactly when the interval cancels no more than it writes and the sum stays
within 64 bits. -/
theorem trueBytes_iff {before after : PidStatsInfo} {out : PidStatsInfo × PidStatsInfo}
    (accepted : calcualteAndUpdate before after = some out) (grows : IoGrows before after) :
    TrueBytes before after out.1 ↔
      cancelIncrement before after ≤ writeIncrement before after ∧
        readIncrement before after + writeIncrement before after <
          cancelIncrement before after + 2 ^ 64 := by
  obtain ⟨read, write, cancelled⟩ := calcualteAndUpdate_io accepted grows
  rw [← read, ← write, ← cancelled]
  have disk := toNat_sub_cast_iff out.1.pidWriteBytes out.1.pidCancelledWrites
  have mem := toNat_add_sub_cast_iff out.1.pidReadBytes out.1.pidWriteBytes
    out.1.pidCancelledWrites
  constructor
  · intro bytes
    have covered := disk.mp (by rw [bytes.disk, ← write, ← cancelled])
    exact ⟨covered, (mem covered).mp (by rw [bytes.mem, ← read, ← write, ← cancelled])⟩
  · rintro ⟨covered, small⟩
    have memBytes := (mem covered).mpr small
    have diskBytes := disk.mpr covered
    have memLe : (out.1.pidReadBytes + out.1.pidWriteBytes - out.1.pidCancelledWrites).toNat ≤
        readIncrement before after + writeIncrement before after := by omega
    have diskLe : (out.1.pidWriteBytes - out.1.pidCancelledWrites).toNat ≤
        writeIncrement before after := by omega
    exact ⟨by rw [memBytes, read, write, cancelled], by rw [diskBytes, write, cancelled],
      fun p r nonneg divisor clock => pidMemPower_le nonneg divisor clock memLe,
      fun p r nonneg clock => pidDiskPower_le nonneg clock read diskLe⟩

/-- The counters before an interval, and after one in which some bytes were read, written and
cancelled. -/
def idleProcess : PidStatsInfo := ⟨0, 0, 0, 0, 0, 0, 0, some 0⟩

def busyProcess (read write cancelled : BitVec 64) : PidStatsInfo :=
  ⟨1, 1, 0, read, write, cancelled, 0, some 0⟩

theorem busyProcess_accepted (read write cancelled : BitVec 64) :
    calcualteAndUpdate idleProcess (busyProcess read write cancelled) =
      some (busyProcess read write cancelled, busyProcess read write cancelled) := by
  simp [calcualteAndUpdate, idleProcess, busyProcess]

theorem trueBytes_iff_covered :
    TrueBytes idleProcess (busyProcess 512 4096 1024) (busyProcess 512 4096 1024) :=
  (trueBytes_iff (busyProcess_accepted 512 4096 1024) ⟨by decide, by decide, by decide⟩).mpr
    ⟨by decide, by decide⟩

/-- An interval that cancels a page of an earlier one. -/
theorem trueBytes_wraps :
    ¬ ∀ (before after : PidStatsInfo) (out : PidStatsInfo × PidStatsInfo),
        calcualteAndUpdate before after = some out → IoGrows before after →
          TrueBytes before after out.1 := by
  intro claim
  have bytes := claim _ _ _ (busyProcess_accepted 0 0 4096) ⟨by decide, by decide, by decide⟩
  have disk := bytes.disk
  revert disk
  decide

end PhantomMonitor
