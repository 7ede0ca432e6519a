import PhantomMonitor.Plugins.Proofs.PowerParts

/-!
# What Linux_sys_power reports

The initialization lays out the names, a sample stores the values, and the text leaves some entries
out, each with tests of its own on the flags. They agree: the text of a sample has the requested
metrics and no others, each with the power that the meter shows for it.
-/

namespace PhantomMonitor

open CText

/-- The text of a sample: an entry for each requested metric whose power is not negative. Where no
time has passed, a power is an infinity or no number. -/
def PowerReport (events : List CText) (power : PowerMetric → FloatValue) (clock : Rat)
    (text : CText) : Prop :=
  ∃ entries,
    text = metricsTextWith (FloatValue.fixed 3) "Linux_sys_power".toList (clock * 1000) entries ∧
    Reports PowerMetric.name
      (fun metric value => metric.name ∈ events ∧ value.isNonneg = true ∧ value = power metric)
      entries

theorem powerIgnored_iff (flag : PowerMetric → Bool) {metric : PowerMetric}
    (listed : metric ∈ powerLayout flag) :
    powerIgnored flag metric.name = true ↔ flag metric = false := by
  rw [powerIgnored, PowerMetric.name_beq, PowerMetric.name_beq]
  cases metric with
  | ram | io => simp
  | cpu | net | all => simpa [powerLayout] using listed

/-- The entries that follow from a table. -/
theorem PowerTable.reports {data : PowerMetrics} {flag : PowerMetric → Bool}
    {power : PowerMetric → FloatValue} (h : PowerTable data flag power) :
    Reports PowerMetric.name
      (fun metric value => flag metric = true ∧ value.isNonneg = true ∧ value = power metric)
      (powerJsonEntries data flag) := by
  rw [h.jsonEntries]
  refine reports_filterMap PowerMetric.name_inj (powerLayout_nodup flag) ?_
    fun metric _ shows => mem_powerLayout shows.1
  intro metric listed entry
  by_cases asked : flag metric = true
  · rw [powerIgnored_of_flag asked, if_neg Bool.false_ne_true]
    by_cases positive : (power metric).isNonneg = true
    · simp [asked, positive, eq_comm]
    · simp [positive]
  · rw [if_pos ((powerIgnored_iff flag listed).mpr (Bool.eq_false_iff.mpr asked))]
    simp [asked]

/-- One sample after another reports what the meter shows. -/
theorem PowerFollows.reports {events : List CText} {data : PowerMetrics} {st : PowerState}
    {m : Meter} (h : PowerFollows data st m)
    (asked : ∀ metric : PowerMetric, st.flag metric = true ↔ metric.name ∈ events)
    (rs : List PowerReading) :
    List.Forall₂
      (fun out sample => PowerReport events (sample.1.power sample.2) sample.2.clock
        (mfLinuxSysPowerToJson out.1 out.2))
      (powerSamples data st rs) (m.run rs) := by
  induction rs generalizing data st m with
  | nil => exact .nil
  | cons r rs ih =>
      obtain ⟨flag, follows, table⟩ := h.sample r
      have stamp : (mfLinuxSysPowerSample data r st).2.afterTime = r.clock := follows.meters.time
      have reports := table.reports
      simp only [flag, asked] at reports
      refine .cons ⟨powerJsonEntries (mfLinuxSysPowerSample data r st).1 st.flag, ?_, reports⟩
        (ih follows (by rwa [flag]))
      rw [← stamp, ← flag, mfLinuxSysPowerToJson]

/-- The initialization is a success, and each sample after it has the text of its report. -/
def RequestReported (events : List CText) (first : PowerReading) (rs : List PowerReading)
    (init : Except Fault (Nat × PowerMetrics × PowerState)) : Prop :=
  ∃ (data : PowerMetrics) (st : PowerState), init = .ok (1, data, st) ∧
    List.Forall₂
      (fun out sample => PowerReport events (sample.1.power sample.2) sample.2.clock
        (mfLinuxSysPowerToJson out.1 out.2))
      (powerSamples data st rs) ((Meter.start first).run rs)

/-- A request with a valid name is accepted, and after each sample the text has each requested
metric whose power is not negative once, with that power, and no other metric, exactly when the perf
counters have room. A request without a valid name is refused. -/
theorem powerRun_reports_iff (data : PowerMetrics) (events : List CText) (nrCpus : Int)
    (first : PowerReading) (rs : List PowerReading) :
    ((∃ metric : PowerMetric, metric.name ∈ events) →
      (RequestReported events first rs (mfLinuxSysPowerInit data events nrCpus first freshPower) ↔
        CountersFit nrCpus events)) ∧
      ((∀ metric : PowerMetric, metric.name ∉ events) →
        ∃ st, mfLinuxSysPowerInit data events nrCpus first freshPower = .ok (0, data, st)) := by
  constructor
  · rintro ⟨metric, asked⟩
    obtain ⟨table, st, bits, follows, init⟩ := powerInit_spec data nrCpus first asked
    rw [countersFit_iff nrCpus bits, init]
    constructor
    · rintro ⟨data', st', run, -⟩
      split at run
      · rename_i room
        exact room
      · cases run
    · intro room
      rw [if_pos room]
      exact ⟨table, st, rfl, follows.reports bits rs⟩
  · intro unknown
    have refused : powerFlagInit freshPower.flag events = (fun _ => false, 0) :=
      flagInit_of_notMem unknown
    unfold mfLinuxSysPowerInit
    rw [refused]
    exact ⟨_, rfl⟩

/-- A sample on a clock that has stood still: nothing is shown of what has no energy either. -/
theorem powerRun_reports_iff_disk :
    let events := ["other".toList, PowerMetric.io.name, PowerMetric.io.name]
    RequestReported events twoSeconds
      [{ twoSeconds with clock := 4 }, { twoSeconds with clock := 4 }]
      (mfLinuxSysPowerInit blankPower events 8 twoSeconds freshPower) :=
  ((powerRun_reports_iff _ _ 8 _ _).1 ⟨.io, by simp⟩).mpr (Or.inl (by decide))

/-- On 21 CPUs a request for the disk power writes behind the descriptors. -/
theorem powerRun_reports_overruns :
    ¬ ∀ (events : List CText) (nrCpus : Int) (first : PowerReading) (rs : List PowerReading),
        (∃ metric : PowerMetric, metric.name ∈ events) →
        RequestReported events first rs
          (mfLinuxSysPowerInit blankPower events nrCpus first freshPower) := by
  intro claim
  obtain ⟨data, st, run, -⟩ := claim [PowerMetric.io.name] 21 twoSeconds [] ⟨.io, by simp⟩
  have overrun : mfLinuxSysPowerInit blankPower [PowerMetric.io.name] 21 twoSeconds freshPower =
      .error .outOfBounds := rfl
  rw [overrun] at run
  cases run

end PhantomMonitor
