import PhantomMonitor.Api.Proofs.IoReaders
import PhantomMonitor.Misc.Steps

/-!
# The bytes that the disk monitor reports

Each interval is reported from the last reading that succeeded, so a reading that fails loses
nothing and counts nothing twice. A monitor whose reading before the loop fails starts from zero,
and reports what the process had done before the first reading that succeeds.
-/

namespace PhantomMonitor

open CText Steps

/-! ## One counter -/

/-- The two counters of the monitor. -/
inductive DiskCounter where
  | read | write
  deriving DecidableEq, Repr

namespace DiskCounter

def bytes : DiskCounter → IoStats → BitVec 64
  | read => IoStats.readBytes
  | write => IoStats.writeBytes

def before : DiskCounter → DiskStats → BitVec 64
  | read => DiskStats.readBytesBefore
  | write => DiskStats.writeBytesBefore

def after : DiskCounter → DiskStats → BitVec 64
  | read => DiskStats.readBytesAfter
  | write => DiskStats.writeBytesAfter

/-- What a line of the data file reports. -/
def reported : DiskCounter → DiskLine → Int
  | read, line => line.diskRead.toNat
  | write, line => line.diskWrite.toNat

/-- What the counter shows over a run, where a reading that fails shows nothing. -/
def shown (c : DiskCounter) (found : List (Option IoStats)) : List (BitVec 64) :=
  found.reduceOption.map c.bytes

/-- The last value less the first one; 0 without a value. -/
def increase (c : DiskCounter) (found : List (Option IoStats)) : Int :=
  ((c.shown found).getLastD 0).toNat - ((c.shown found).headD 0).toNat

/-- A counter of 64 bits as a gauge. -/
def gauge : Gauge (BitVec 64) Int where
  zero := 0
  le := (· ≤ ·)
  amount p q := (q - p).toNat
  potential p := p.toNat
  le_refl := BitVec.le_refl
  zero_le := fun p => BitVec.le_def.mpr (Nat.zero_le _)
  amount_eq := fun {p q} le => by
    rw [BitVec.toNat_sub_of_le le, Nat.cast_sub (BitVec.le_def.mp le)]
  amount_nonneg := fun _ _ => Int.natCast_nonneg _
  amount_zero := fun {p} moved => by
    have wrapped : (0 - p).toNat ≠ 0 := by
      intro none
      exact moved (by simpa using BitVec.eq_of_toNat_eq (y := 0#64) none)
    omega
  potential_zero := rfl

end DiskCounter

/-! ## The loop -/

/-- What a call finds: the bytes that the file gives, nothing when it cannot be opened. -/
def DiskReading.Finds (r : DiskReading) (found : Option IoStats) : Prop :=
  Option.Rel (IoFile 256) r.file found

/-- A call shifts the counters, and keeps them when it fails. -/
theorem diskStatsRead_counter (c : DiskCounter) {r : DiskReading} {found : Option IoStats}
    (finds : r.Finds found) (diskInfo : DiskStats) :
    c.before (diskStatsRead r.file r.buffer diskInfo).1 = c.after diskInfo ∧
      c.after (diskStatsRead r.file r.buffer diskInfo).1 =
        (found.map c.bytes).getD (c.after diskInfo) := by
  unfold DiskReading.Finds at finds
  generalize r.file = file at finds
  cases finds with
  | none => cases c <;> exact ⟨rfl, rfl⟩
  | some content =>
      rw [diskStatsRead_file content]
      cases c <;> exact ⟨rfl, rfl⟩

theorem reported_diskInterval (c : DiskCounter) (samplingInterval : Int) (clock : Rat)
    (result : DiskStats) :
    c.reported (diskInterval samplingInterval clock result) =
      (c.after result - c.before result).toNat := by
  cases c <;> rfl

/-- The loop reports the amounts from each reading to the next. -/
theorem diskLoop_reported (c : DiskCounter) (samplingInterval : Int) {rs : List DiskReading}
    {found : List (Option IoStats)} (finds : List.Forall₂ DiskReading.Finds rs found)
    (result : DiskStats) :
    (diskLoop samplingInterval rs result).map c.reported =
      steps DiskCounter.gauge.amount (c.after result)
        (held (c.after result) (found.map (Option.map c.bytes))) := by
  induction finds generalizing result with
  | nil => rfl
  | @cons r io rs found first _ ih =>
      obtain ⟨before, after⟩ := diskStatsRead_counter c first result
      rw [diskLoop, List.map_cons, reported_diskInterval, ih, before, after]
      cases io <;> rfl

/-- The sum of what is reported: the last value less that of the reading before the loop, which
stands for zero when it fails. -/
theorem diskMonitor_sum (c : DiskCounter) (samplingInterval : Int) (result : DiskStats)
    {first : DiskReading} {rs : List DiskReading} {io : Option IoStats}
    {found : List (Option IoStats)} (before : first.Finds io)
    (finds : List.Forall₂ DiskReading.Finds rs found)
    (rising : List.IsChain (· ≤ ·) (c.shown (io :: found))) :
    (((diskMonitor samplingInterval true result first rs).1).map c.reported).sum =
      ((c.shown (io :: found)).getLastD 0).toNat - ((io.map c.bytes).getD 0).toNat := by
  let start : DiskStats := { result with readBytesAfter := 0, writeBytesAfter := 0 }
  have zero : c.after start = 0 := by cases c <;> rfl
  obtain ⟨-, after⟩ := diskStatsRead_counter c before start
  rw [zero] at after
  show ((diskLoop samplingInterval rs (diskStatsRead first.file first.buffer start).1).map
    c.reported).sum = _
  rw [diskLoop_reported c samplingInterval finds, after]
  let readings := found.map (Option.map c.bytes)
  have values : readings.reduceOption = c.shown found := List.reduceOption_map
  cases io with
  | none =>
      have chain : List.IsChain (· ≤ ·) readings.reduceOption := values ▸ rising
      calc (steps DiskCounter.gauge.amount 0 (held 0 readings)).sum
          = (readings.reduceOption.getLastD 0).toNat := DiskCounter.gauge.sum_held_zero chain
        _ = ((c.shown found).getLastD 0).toNat - (0#64).toNat := by
          rw [values]
          exact (sub_zero _).symm
  | some p =>
      have chain : List.IsChain (· ≤ ·) (c.bytes p :: readings.reduceOption) := values ▸ rising
      calc (steps DiskCounter.gauge.amount (c.bytes p) (held (c.bytes p) readings)).sum
          = (readings.reduceOption.getLastD (c.bytes p)).toNat - (c.bytes p).toNat :=
            DiskCounter.gauge.sum_held chain
        _ = ((c.bytes p :: c.shown found).getLastD 0).toNat - (c.bytes p).toNat := by
          rw [values, List.getLastD_cons]

theorem DiskCounter.bytes_eq_zero_iff {io : IoStats} :
    (∀ c : DiskCounter, c.bytes io = 0) ↔ io = ⟨0, 0⟩ := by
  refine ⟨fun zero => ?_, ?_⟩
  · exact congrArg₂ IoStats.mk (zero .read) (zero .write)
  · rintro rfl c
    cases c <;> rfl

/-- What the monitor reports adds up to the increase of the counters exactly when the reading before
the loop succeeds, or the counters are zero when a reading first does. -/
theorem diskTotals_iff (samplingInterval : Int) (result : DiskStats) {first : DiskReading}
    {rs : List DiskReading} {io : Option IoStats} {found : List (Option IoStats)}
    (finds : List.Forall₂ DiskReading.Finds (first :: rs) (io :: found))
    (rising : ∀ c : DiskCounter, List.IsChain (· ≤ ·) (c.shown (io :: found))) :
    (∀ c : DiskCounter, ((diskMonitor samplingInterval true result first rs).1.map c.reported).sum =
        c.increase (io :: found)) ↔
      (io = none → ∀ early ∈ found.reduceOption.head?, early = ⟨0, 0⟩) := by
  obtain ⟨before, finds⟩ := List.forall₂_cons.mp finds
  have counted : ∀ c : DiskCounter,
      ((diskMonitor samplingInterval true result first rs).1.map c.reported).sum =
          c.increase (io :: found) ↔
        (io.map c.bytes).getD 0 = (c.shown (io :: found)).headD 0 := by
    intro c
    rw [diskMonitor_sum c samplingInterval result before finds (rising c), DiskCounter.increase,
      sub_right_inj, Nat.cast_inj, BitVec.toNat_inj]
  simp only [counted]
  cases io with
  | some p => exact ⟨fun _ fails => (nomatch fails), fun _ c => rfl⟩
  | none =>
      simp only [DiskCounter.shown, List.reduceOption_cons_of_none]
      cases found.reduceOption with
      | nil => exact ⟨fun _ _ early none => (nomatch none), fun _ _ => rfl⟩
      | cons early later =>
          have zero : (∀ c : DiskCounter, 0 = c.bytes early) ↔ early = ⟨0, 0⟩ := by
            rw [← DiskCounter.bytes_eq_zero_iff]
            exact forall_congr' fun c => eq_comm
          refine zero.trans ⟨?_, fun h => h trivial early rfl⟩
          rintro rfl - io ⟨⟩
          rfl

/-! ## Two runs -/

def readingOf (io : Option IoStats) : DiskReading := ⟨io.map ioText, [], 0⟩

theorem readingOf_finds (io : Option IoStats) : (readingOf io).Finds io := by
  cases io with
  | none => exact .none
  | some io => exact .some ((ioFile_ioText io).mono (by decide))

def middleFails : List (Option IoStats) := [some ⟨7, 1⟩, none, some ⟨9, 4⟩]

/-- A reading in the middle fails. -/
theorem diskTotals_iff_run :
    ((diskMonitor 1000 true ⟨0, 0, 0, 0⟩ (readingOf (some ⟨5, 1⟩))
      (middleFails.map readingOf)).1.map
        DiskCounter.read.reported).sum = 4 ∧
      ((diskMonitor 1000 true ⟨0, 0, 0, 0⟩ (readingOf (some ⟨5, 1⟩))
        (middleFails.map readingOf)).1.map DiskCounter.write.reported).sum = 3 := by
  have finds : List.Forall₂ DiskReading.Finds (readingOf (some ⟨5, 1⟩) :: middleFails.map readingOf)
      (some ⟨5, 1⟩ :: middleFails) :=
    .cons (readingOf_finds _)
      (List.forall₂_map_left_iff.mpr (List.forall₂_same.mpr fun io _ => readingOf_finds io))
  have rising : ∀ c : DiskCounter, List.IsChain (· ≤ ·) (c.shown (some ⟨5, 1⟩ :: middleFails)) := by
    rintro (_ | _) <;> decide
  have total := (diskTotals_iff 1000 ⟨0, 0, 0, 0⟩ finds rising).mpr fun fails => nomatch fails
  exact ⟨total .read, total .write⟩

/-- The reading before the loop fails, and the 5 bytes that the process had read before the monitor
first saw it are reported. -/
theorem diskMonitor_early_bytes :
    List.Forall₂ DiskReading.Finds [readingOf none, readingOf (some ⟨5, 0⟩)] [none, some ⟨5, 0⟩] ∧
      ((diskMonitor 1000 true ⟨0, 0, 0, 0⟩ (readingOf none) [readingOf (some ⟨5, 0⟩)]).1.map
        DiskCounter.read.reported).sum = 5 ∧
      DiskCounter.read.increase [none, some ⟨5, 0⟩] = 0 := by
  have finds : List.Forall₂ DiskReading.Finds [readingOf (some ⟨5, 0⟩)] [some ⟨5, 0⟩] :=
    .cons (readingOf_finds _) .nil
  exact ⟨.cons (readingOf_finds none) finds,
    diskMonitor_sum .read 1000 ⟨0, 0, 0, 0⟩ (readingOf_finds none) finds (.singleton _), rfl⟩

end PhantomMonitor
