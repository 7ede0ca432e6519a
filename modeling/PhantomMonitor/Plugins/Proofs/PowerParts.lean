import PhantomMonitor.Plugins.Proofs.PowerMeter

/-!
# The total and the parts

A run of Linux_sys_power shows for each requested metric what the meter shows, in the table and in
the text. So a part does not depend on what else is requested, and the total is the sum of the
parts.
-/

namespace PhantomMonitor

open CText

/-! ## What a table shows -/

/-- The value under the name of a metric. -/
def powerValue (metric : PowerMetric) (out : PowerMetrics × PowerState) : Option FloatValue :=
  ((List.range out.1.numEvents).find? fun i => out.1.events i = some metric.name).map out.1.values

/-- The values in the text under the name of a metric. -/
def powerShown (metric : PowerMetric) (out : PowerMetrics × PowerState) :
    List (CText × FloatValue) :=
  (powerJsonEntries out.1 out.2.flag).filter fun entry => entry.1 = metric.name

/-- The entries of a metric whose value is known. Negative values, and what is no number, are left
out. -/
def shownAs (metric : PowerMetric) (value : FloatValue) : List (CText × FloatValue) :=
  if value.isNonneg then [(metric.name, value)] else []

/-- The table of the sampled metrics. -/
structure PowerTable (data : PowerMetrics) (flag : PowerMetric → Bool)
    (power : PowerMetric → FloatValue) : Prop where
  named : Named (data, data.numEvents) (powerLayout flag)
  values : Tabulates data.values ((powerLayout flag).map power)

theorem PowerTable.powerValue {data : PowerMetrics} {st : PowerState}
    {power : PowerMetric → FloatValue}
    (h : PowerTable data st.flag power) {metric : PowerMetric} (asked : st.flag metric = true) :
    powerValue metric (data, st) = some (power metric) := by
  obtain ⟨k, hk⟩ := List.mem_iff_getElem?.mp (mem_powerLayout asked)
  have distinct : ((powerLayout st.flag).map fun metric => some metric.name).Nodup :=
    (powerLayout_nodup st.flag).map fun _ _ same => PowerMetric.name_inj (Option.some.inj same)
  have named : ((powerLayout st.flag).map fun metric => some metric.name)[k]? =
      some (some metric.name) := by simp [hk]
  have found := h.named.names.find? distinct named data.values
  rw [List.length_map, ← h.named.count] at found
  rw [PhantomMonitor.powerValue, found, h.values k (power metric) (by simp [hk])]

/-- The text as it follows from the table. -/
theorem PowerTable.jsonEntries {data : PowerMetrics} {flag : PowerMetric → Bool}
    {power : PowerMetric → FloatValue} (h : PowerTable data flag power) :
    powerJsonEntries data flag = (powerLayout flag).filterMap fun metric =>
      if powerIgnored flag metric.name then none
      else if (power metric).isNonneg then some (metric.name, power metric) else none := by
  have both := (h.named.names.pair h.values).map_range
  rw [List.length_map, ← h.named.count] at both
  calc powerJsonEntries data flag
      = ((List.range data.numEvents).map fun i => (data.events i, data.values i)).filterMap
          fun entry => entry.1.bind fun name =>
            if powerIgnored flag name then none
            else if entry.2.isNonneg then some (name, entry.2) else none := by
        rw [List.filterMap_map]
        refine List.filterMap_congr fun i _ => ?_
        rw [powerJsonEntry, Function.comp_apply]
        cases data.events i <;> rfl
    _ = _ := by
        rw [both, List.filterMap_map]
        rfl

theorem PowerMetric.name_beq (m m' : PowerMetric) : (m.name == m'.name) = decide (m = m') := by
  rw [beq_eq_decide]
  exact decide_eq_decide.mpr ⟨PowerMetric.name_inj, congrArg _⟩

theorem powerIgnored_of_flag {flag : PowerMetric → Bool} {metric : PowerMetric}
    (asked : flag metric = true) : powerIgnored flag metric.name = false := by
  rw [powerIgnored, PowerMetric.name_beq, PowerMetric.name_beq]
  cases metric with
  | ram | io => simp [asked]
  | cpu | net | all => simp

/-- A metric that was asked for is in the text unless its value is negative. -/
theorem PowerTable.powerShown {data : PowerMetrics} {st : PowerState}
    {power : PowerMetric → FloatValue}
    (h : PowerTable data st.flag power) {metric : PowerMetric} (asked : st.flag metric = true) :
    powerShown metric (data, st) = shownAs metric (power metric) := by
  rw [PhantomMonitor.powerShown, h.jsonEntries,
    filter_filterMap_name PowerMetric.name_inj ?_ (powerLayout_nodup st.flag)
      (mem_powerLayout asked)]
  · rw [powerIgnored_of_flag asked, shownAs, if_neg Bool.false_ne_true]
    split <;> rfl
  · intro other entry
    split
    · exact fun none => nomatch none
    · split
      · intro some
        cases some
        rfl
      · exact fun none => nomatch none

/-! ## Runs -/

/-- The tables of a number of samples, with the state behind each. -/
def powerSamples (data : PowerMetrics) (st : PowerState) :
    List PowerReading → List (PowerMetrics × PowerState)
  | [] => []
  | r :: rs =>
      mfLinuxSysPowerSample data r st ::
        powerSamples (mfLinuxSysPowerSample data r st).1 (mfLinuxSysPowerSample data r st).2 rs

/-- The initialization for a request on a machine with some CPUs, and the samples after it. -/
def powerRun (data : PowerMetrics) (events : List CText) (nrCpus : Int) (first : PowerReading)
    (rs : List PowerReading) : Except Fault (List (PowerMetrics × PowerState)) := do
  let started ← mfLinuxSysPowerInit data events nrCpus first freshPower
  return powerSamples started.2.1 started.2.2 rs

/-- There is a descriptor for each CPU, or the request does without the perf counters. -/
def CountersFit (nrCpus : Int) (events : List CText) : Prop :=
  nrCpus ≤ maxPerfFds ∨ ∀ metric ∈ [PowerMetric.all, .ram, .io], metric.name ∉ events

/-- The meter when the plugin is initialized. The statistics after a sample are those of the
load. -/
def Meter.start (first : PowerReading) : Meter :=
  ⟨first.clock, cpuEnergyValue first.cpuEnergy, first.memaccess,
    (netStatRead first.net ⟨0, 0⟩).1, ⟨0, 0⟩, (sysIOStatRead first.proc ⟨0, 0⟩).1, ⟨0, 0⟩⟩

/-- The powers that the meter shows. -/
def Meter.powers (m : Meter) (rs : List PowerReading) (metric : PowerMetric) : List FloatValue :=
  (m.run rs).map fun sample => sample.1.power sample.2 metric

/-- The plugin at a sample: its table is named, its readings are those of the meter. -/
structure PowerFollows (data : PowerMetrics) (st : PowerState) (m : Meter) : Prop where
  named : Named (data, data.numEvents) (powerLayout st.flag)
  meters : Meters st m

/-- One sample keeps pace with the meter and fills the table. -/
theorem PowerFollows.sample {data : PowerMetrics} {st : PowerState} {m : Meter}
    (h : PowerFollows data st m) (r : PowerReading) :
    let out := mfLinuxSysPowerSample data r st
    out.2.flag = st.flag ∧ PowerFollows out.1 out.2 (m.next r) ∧
      PowerTable out.1 out.2.flag (m.power r) := by
  obtain ⟨flag, meters, ⟨events, count⟩, values⟩ := powerSample_spec data r h.meters
  have named : Named ((mfLinuxSysPowerSample data r st).1,
      (mfLinuxSysPowerSample data r st).1.numEvents)
      (powerLayout (mfLinuxSysPowerSample data r st).2.flag) := by
    rw [flag]
    exact ⟨count.trans h.named.count, events ▸ h.named.names⟩
  refine ⟨flag, ⟨named, meters⟩, ⟨named, ?_⟩⟩
  rwa [flag]

/-- What the tables of a run show. -/
theorem PowerFollows.samples {α : Type} {data : PowerMetrics} {st : PowerState} {m : Meter}
    (h : PowerFollows data st m) (look : PowerMetrics × PowerState → α)
    (show' : (PowerMetric → FloatValue) → α)
    (shows : ∀ {data : PowerMetrics} {st' : PowerState} {power : PowerMetric → FloatValue},
      PowerTable data st'.flag power → st'.flag = st.flag → look (data, st') = show' power)
    (rs : List PowerReading) :
    (powerSamples data st rs).map look =
      (m.run rs).map fun sample => show' (sample.1.power sample.2) := by
  induction rs generalizing data st m with
  | nil => rfl
  | cons r rs ih =>
      obtain ⟨flag, follows, filled⟩ := h.sample r
      have rest := ih follows fun table same => shows table (same.trans flag)
      simp only [powerSamples, Meter.run, List.map_cons]
      rw [rest, shows filled flag]

/-- On a fresh state the bits are those of the names in the request. -/
theorem powerFlagInit_iff (events : List CText) (metric : PowerMetric) :
    (powerFlagInit freshPower.flag events).1 metric = true ↔ metric.name ∈ events := by
  have bit : (powerFlagInit freshPower.flag events).1 metric =
      events.any fun event => event == metric.name := by
    unfold powerFlagInit flagInit
    dsimp only
    split <;> exact (foldl_flag _ _ _ _).trans (Bool.false_or _)
  rw [bit, List.any_eq_true]
  constructor
  · rintro ⟨event, member, same⟩
    exact eq_of_beq same ▸ member
  · intro member
    exact ⟨metric.name, member, beq_self_eq_true _⟩

/-- The first readings start the meter. -/
theorem powerFirstRead_meters (flag : PowerMetric → Bool) (first : PowerReading) :
    Meters { powerFirstRead first { freshPower with flag } with beforeTime := first.clock }
      (Meter.start first) where
  time := rfl
  cpu := fun watched => if_pos watched
  net := fun watched => ⟨if_pos watched, rfl⟩
  io := fun watched => by
    rw [← Bool.or_assoc] at watched
    exact ⟨if_pos watched, if_pos watched, rfl⟩

/-- The perf counters of a request have room when those of its bits have. -/
theorem countersFit_iff (nrCpus : Int) {events : List CText} {flag : PowerMetric → Bool}
    (bits : ∀ metric : PowerMetric, flag metric = true ↔ metric.name ∈ events) :
    CountersFit nrCpus events ↔
      nrCpus ≤ maxPerfFds ∨ (flag .all || flag .ram || flag .io) = false := by
  have unset : ∀ metric, metric.name ∉ events ↔ flag metric = false :=
    fun metric => (not_congr (bits metric)).symm.trans Bool.eq_false_iff.symm
  simp [CountersFit, unset, and_assoc]

/-- A request with a metric is accepted when the perf counters have room. The initialization then
starts the meter, and watches what is requested. -/
theorem powerInit_spec (data : PowerMetrics) {events : List CText} (nrCpus : Int)
    (first : PowerReading) {metric : PowerMetric} (asked : metric.name ∈ events) :
    ∃ (table : PowerMetrics) (st : PowerState),
      (∀ other : PowerMetric, st.flag other = true ↔ other.name ∈ events) ∧
      PowerFollows table st (Meter.start first) ∧
      mfLinuxSysPowerInit data events nrCpus first freshPower =
        if nrCpus ≤ maxPerfFds ∨ (st.flag .all || st.flag .ram || st.flag .io) = false then
          .ok (1, table, st)
        else .error .outOfBounds := by
  have known : ∀ metric, metric ∈ PowerMetric.table := by
    intro metric
    cases metric <;> decide
  have ok : (powerFlagInit freshPower.flag events).2 = 1 :=
    (flagInit_of_mem freshPower.flag (known metric) asked).2
  have bits := powerFlagInit_iff events
  unfold mfLinuxSysPowerInit
  revert ok bits
  generalize powerFlagInit freshPower.flag events = init
  obtain ⟨flag, one⟩ := init
  rintro rfl bits
  obtain ⟨count, names⟩ := powerNames_named flag data
  refine ⟨{ (powerNames flag (nameMetric (flag .all) PowerMetric.all.name (data, 0))).1 with
      numEvents := (powerNames flag (nameMetric (flag .all) PowerMetric.all.name (data, 0))).2 },
    { powerFirstRead first { freshPower with flag } with beforeTime := first.clock },
    bits, ⟨⟨count, names⟩, powerFirstRead_meters flag first⟩, ?_⟩
  have same : (powerFirstRead first { freshPower with flag }).flag = flag := rfl
  dsimp only
  rw [same, if_neg Nat.one_ne_zero]
  cases flag .all || flag .ram || flag .io with
  | false => rw [if_pos (Or.inr rfl)]; rfl
  | true =>
      unfold createPerfStatCounter
      by_cases room : nrCpus ≤ maxPerfFds
      · rw [if_pos (Or.inl room), if_pos room]
        rfl
      · have full : ¬ (nrCpus ≤ maxPerfFds ∨ true = false) := by simpa using room
        rw [if_neg room, if_neg full]
        rfl

/-- What the tables of a run show is what the meter does, when the perf counters have room. -/
theorem powerRun_map {α : Type} (data : PowerMetrics) {events : List CText} {nrCpus : Int}
    (first : PowerReading) (rs : List PowerReading) {metric : PowerMetric}
    (asked : metric.name ∈ events) {tables : List (PowerMetrics × PowerState)}
    (run : powerRun data events nrCpus first rs = .ok tables)
    (look : PowerMetrics × PowerState → α) (show' : (PowerMetric → FloatValue) → α)
    (shows : ∀ {data : PowerMetrics} {st : PowerState} {power : PowerMetric → FloatValue},
      PowerTable data st.flag power →
        (∀ other : PowerMetric, other.name ∈ events → st.flag other = true) →
          look (data, st) = show' power) :
    tables.map look =
      ((Meter.start first).run rs).map fun sample => show' (sample.1.power sample.2) := by
  obtain ⟨table, st, bits, follows, init⟩ := powerInit_spec data nrCpus first asked
  obtain ⟨started, accepted, run⟩ := Fault.bind_eq_ok.mp run
  rw [init] at accepted
  split at accepted
  · cases accepted
    cases run
    refine follows.samples look show' (fun table same => shows table ?_) rs
    intro other asked
    rw [same]
    exact (bits other).mpr asked
  · cases accepted

/-- A run has tables exactly when the perf counters have room. -/
theorem powerRun_ok_iff (data : PowerMetrics) {events : List CText} {nrCpus : Int}
    (first : PowerReading) (rs : List PowerReading) {metric : PowerMetric}
    (asked : metric.name ∈ events) :
    (∃ tables, powerRun data events nrCpus first rs = .ok tables) ↔ CountersFit nrCpus events := by
  obtain ⟨table, st, bits, -, init⟩ := powerInit_spec data nrCpus first asked
  rw [countersFit_iff nrCpus bits, powerRun, init]
  split
  · rename_i room
    exact iff_of_true ⟨_, rfl⟩ room
  · rename_i full
    refine iff_of_false ?_ full
    rintro ⟨tables, run⟩
    cases run

/-- What a run shows of a requested metric. -/
theorem powerRun_values (data : PowerMetrics) {events : List CText} {nrCpus : Int}
    (first : PowerReading) (rs : List PowerReading) {metric : PowerMetric}
    (asked : metric.name ∈ events) {tables : List (PowerMetrics × PowerState)}
    (run : powerRun data events nrCpus first rs = .ok tables) :
    tables.map (powerValue metric) = ((Meter.start first).powers rs metric).map some := by
  rw [Meter.powers, List.map_map]
  exact powerRun_map data first rs asked run _ (fun power => some (power metric))
    fun table flag => table.powerValue (flag metric asked)

theorem powerRun_shown (data : PowerMetrics) {events : List CText} {nrCpus : Int}
    (first : PowerReading) (rs : List PowerReading) {metric : PowerMetric}
    (asked : metric.name ∈ events) {tables : List (PowerMetrics × PowerState)}
    (run : powerRun data events nrCpus first rs = .ok tables) :
    tables.map (powerShown metric) =
      ((Meter.start first).powers rs metric).map (shownAs metric) := by
  rw [Meter.powers, List.map_map]
  exact powerRun_map data first rs asked run _ (fun power => shownAs metric (power metric))
    fun table flag => table.powerShown (flag metric asked)

/-! ## Two runs on the same readings -/

/-- Both runs go through their samples and show the same of a metric. -/
def SameFigures (metric : PowerMetric)
    (run run' : Except Fault (List (PowerMetrics × PowerState))) : Prop :=
  ∃ tables tables', run = .ok tables ∧ run' = .ok tables' ∧
    (∃ values : List FloatValue,
      tables.map (powerValue metric) = values.map some ∧
        tables'.map (powerValue metric) = values.map some) ∧
    tables.map (powerShown metric) = tables'.map (powerShown metric)

/-- The energies that a sample shares out, and its interval. -/
structure EnergyShares where
  cpu : Rat
  net : Rat
  ram : Rat
  io : Rat
  interval : Rat

/-- The power of a metric. The total is that of all the energy. -/
def EnergyShares.power (shares : EnergyShares) : PowerMetric → FloatValue
  | .cpu => .quotient shares.cpu shares.interval
  | .net => .quotient shares.net shares.interval
  | .ram => .quotient shares.ram shares.interval
  | .io => .quotient shares.io shares.interval
  | .all => .quotient (shares.cpu + shares.net + shares.ram + shares.io) shares.interval

/-- The times between the readings. -/
def intervals (start : Rat) : List PowerReading → List Rat
  | [] => []
  | r :: rs => (r.clock - start) :: intervals r.clock rs

/-- The totals in some tables are made of the parts in others, over the same intervals. Where time
has passed, the four parts are numbers and the total is their sum. -/
structure TotalsOfParts (start : Rat) (rs : List PowerReading)
    (tables tables' : List (PowerMetrics × PowerState)) (shares : List EnergyShares) : Prop where
  times : shares.map EnergyShares.interval = intervals start rs
  totals : tables.map (powerValue .all) = shares.map fun share => some (share.power .all)
  parts : ∀ part ≠ PowerMetric.all,
    tables'.map (powerValue part) = shares.map fun share => some (share.power part)
  sums : ∀ share ∈ shares, share.interval ≠ 0 → ∃ cpu net ram io : Rat,
    share.power .cpu = .num cpu ∧ share.power .net = .num net ∧ share.power .ram = .num ram ∧
      share.power .io = .num io ∧ share.power .all = .num (cpu + net + ram + io)

/-- Both runs go through their samples, and the totals of one are made of the parts of the other. -/
def TotalOfParts (start : Rat) (rs : List PowerReading)
    (run run' : Except Fault (List (PowerMetrics × PowerState))) : Prop :=
  ∃ tables tables' shares, run = .ok tables ∧ run' = .ok tables' ∧
    TotalsOfParts start rs tables tables' shares

theorem EnergyShares.sums (shares : EnergyShares) (moved : shares.interval ≠ 0) :
    ∃ cpu net ram io : Rat,
      shares.power .cpu = .num cpu ∧ shares.power .net = .num net ∧ shares.power .ram = .num ram ∧
        shares.power .io = .num io ∧ shares.power .all = .num (cpu + net + ram + io) := by
  have power := FloatValue.quotient_of_ne moved
  refine ⟨_, _, _, _, power _, power _, power _, power _, ?_⟩
  rw [EnergyShares.power, power]
  simp only [Rat.div_def, Rat.add_mul]

namespace Meter

/-- What the meter shares out up to a reading. -/
def shares (m : Meter) (r : PowerReading) : EnergyShares :=
  ⟨m.cpuEnergy r, m.netEnergy r, m.ramEnergy r, m.ioEnergy r, r.clock - m.time⟩

theorem power_shares (m : Meter) (r : PowerReading) (metric : PowerMetric) :
    m.power r metric = (m.shares r).power metric := by
  cases metric with
  | cpu | net | ram | io => rfl
  | all =>
      have sum : m.energy r .all =
          m.cpuEnergy r + m.netEnergy r + m.ramEnergy r + m.ioEnergy r := by
        rw [energy]
        grind
      rw [power, powerOver, sum]
      rfl

theorem run_intervals (m : Meter) (rs : List PowerReading) :
    ((m.run rs).map fun sample => (sample.1.shares sample.2).interval) = intervals m.time rs := by
  induction rs generalizing m with
  | nil => rfl
  | cons r rs ih => exact congrArg ((r.clock - m.time) :: ·) (ih (m.next r))

theorem powers_shares (m : Meter) (rs : List PowerReading) (metric : PowerMetric) :
    (m.powers rs metric).map some =
      ((m.run rs).map fun sample => sample.1.shares sample.2).map fun share =>
        some (share.power metric) := by
  rw [powers, List.map_map, List.map_map]
  exact List.map_congr_left fun sample _ => congrArg some (sample.1.power_shares sample.2 metric)

end Meter

/-- A part does not depend on what else is requested, and the total is the sum of the parts, exactly
when the perf counters of the requests have room. -/
theorem powerRun_total_parts_iff (data data' : PowerMetrics) (events events' : List CText)
    (nrCpus : Int) (first : PowerReading) (rs : List PowerReading) :
    (∀ metric : PowerMetric, metric.name ∈ events → metric.name ∈ events' →
      (SameFigures metric (powerRun data events nrCpus first rs)
          (powerRun data' events' nrCpus first rs) ↔
        CountersFit nrCpus events ∧ CountersFit nrCpus events')) ∧
      (PowerMetric.all.name ∈ events → (∀ part ≠ PowerMetric.all, part.name ∈ events') →
        (TotalOfParts first.clock rs (powerRun data events nrCpus first rs)
            (powerRun data' events' nrCpus first rs) ↔
          CountersFit nrCpus events ∧ CountersFit nrCpus events')) := by
  constructor
  · intro metric asked asked'
    rw [← powerRun_ok_iff data first rs asked, ← powerRun_ok_iff data' first rs asked']
    constructor
    · rintro ⟨tables, tables', run, run', -⟩
      exact ⟨⟨tables, run⟩, tables', run'⟩
    · rintro ⟨⟨tables, run⟩, tables', run'⟩
      refine ⟨tables, tables', run, run', ⟨(Meter.start first).powers rs metric,
        powerRun_values data first rs asked run, powerRun_values data' first rs asked' run'⟩, ?_⟩
      rw [powerRun_shown data first rs asked run, powerRun_shown data' first rs asked' run']
  · intro asked parts
    rw [← powerRun_ok_iff data first rs asked,
      ← powerRun_ok_iff data' first rs (parts .cpu (by simp))]
    constructor
    · rintro ⟨tables, tables', -, run, run', -⟩
      exact ⟨⟨tables, run⟩, tables', run'⟩
    · rintro ⟨⟨tables, run⟩, tables', run'⟩
      refine ⟨tables, tables', ((Meter.start first).run rs).map fun sample =>
        sample.1.shares sample.2, run, run', ?_, ?_, ?_, fun share _ => share.sums⟩
      · rw [List.map_map]
        exact (Meter.start first).run_intervals rs
      · rw [powerRun_values data first rs asked run, Meter.powers_shares]
      · intro part single
        rw [powerRun_values data' first rs (parts part single) run', Meter.powers_shares]

/-- A reading of two seconds of work. -/
def twoSeconds : PowerReading where
  clock := 2
  cpuEnergy := some 10
  memaccess := 100
  net := some ⟨2048, 1024⟩
  proc := some ⟨["1".toList], fun _ => some ⟨4096, 512⟩⟩

/-- The next reading, after two more seconds in which only the CPU was at work. -/
def fourSecondsCpu : PowerReading := { twoSeconds with clock := 4, cpuEnergy := some 30 }

theorem powerRun_total_parts_iff_quad :
    SameFigures .cpu
        (powerRun blankPower ["other".toList, PowerMetric.cpu.name] 4 twoSeconds [fourSecondsCpu])
        (powerRun blankPower [PowerMetric.cpu.name, PowerMetric.all.name, PowerMetric.cpu.name] 4
          twoSeconds [fourSecondsCpu]) ∧
      TotalOfParts 2 [fourSecondsCpu]
        (powerRun blankPower [PowerMetric.all.name] 4 twoSeconds [fourSecondsCpu])
        (powerRun blankPower (PowerMetric.table.map PowerMetric.name) 4 twoSeconds
          [fourSecondsCpu]) := by
  have room : ∀ events, CountersFit 4 events := fun _ => Or.inl (by decide)
  refine ⟨((powerRun_total_parts_iff _ _ _ _ 4 _ _).1 .cpu (by simp) (by simp)).mpr
      ⟨room _, room _⟩,
    ((powerRun_total_parts_iff _ _ _ _ 4 _ _).2 (by simp) ?_).mpr ⟨room _, room _⟩⟩
  intro part _
  cases part <;> decide

/-- On 21 CPUs a request for the total has a write behind the descriptors, where a request for the
CPU power alone has none. -/
theorem powerRun_total_overruns :
    ¬ ∀ (events events' : List CText) (nrCpus : Int) (first : PowerReading)
        (rs : List PowerReading), PowerMetric.cpu.name ∈ events → PowerMetric.cpu.name ∈ events' →
        SameFigures .cpu (powerRun blankPower events nrCpus first rs)
          (powerRun blankPower events' nrCpus first rs) := by
  intro claim
  obtain ⟨-, tables', -, run', -⟩ := claim [PowerMetric.cpu.name]
    [PowerMetric.cpu.name, PowerMetric.all.name] 21 twoSeconds [fourSecondsCpu] (by simp) (by simp)
  have overrun : powerRun blankPower [PowerMetric.cpu.name, PowerMetric.all.name] 21 twoSeconds
      [fourSecondsCpu] = .error .outOfBounds := rfl
  rw [overrun] at run'
  cases run'

end PhantomMonitor
