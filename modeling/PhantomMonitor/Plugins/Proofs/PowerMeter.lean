import PhantomMonitor.Misc.Table
import PhantomMonitor.Plugins.LinuxSysPower

/-!
# The four parts of the estimated power

Linux_sys_power reads only what the requested metrics need, in one of two branches. A meter that
reads everything at every sample says what each metric is: the energy counted from the last readings
to the new ones, over the time between them. The plugin follows the meter in all that it watches, so
the value of a metric does not depend on what else is requested.
-/

namespace PhantomMonitor

open CText

/-! ## The meter -/

/-- The readings from which the next interval is counted. -/
structure Meter where
  time : Rat
  cpu : Rat
  memaccess : BitVec 64
  net : NetStats
  netAfter : NetStats
  io : IoStats
  ioAfter : IoStats

/-- The energy of the memory accesses between two readings. -/
def memoryEnergy (before after : IoStats) (accessBefore accessAfter : BitVec 64) : Rat :=
  (((after.readBytes + after.writeBytes - before.readBytes - before.writeBytes) / l2cacheLineSize +
      (accessAfter - accessBefore)).toNat : Rat) *
    l2cacheMissLatency * memoryPower * (1 / 10 ^ 6)

namespace Meter

/-- The network statistics and the I/O statistics after a reading. -/
def netNext (m : Meter) (r : PowerReading) : NetStats := (netStatRead r.net m.netAfter).1

def ioNext (m : Meter) (r : PowerReading) : IoStats := (sysIOStatRead r.proc m.ioAfter).1

/-- The meter after a reading. -/
def next (m : Meter) (r : PowerReading) : Meter where
  time := r.clock
  cpu := cpuEnergyValue r.cpuEnergy
  memaccess := r.memaccess
  net := m.netNext r
  netAfter := m.netNext r
  io := m.ioNext r
  ioAfter := m.ioNext r

/-- The energy of each part up to a reading. -/
def cpuEnergy (m : Meter) (r : PowerReading) : Rat := cpuEnergyValue r.cpuEnergy - m.cpu

def netEnergy (m : Meter) (r : PowerReading) : Rat := (sysNetEnergy m.net (m.netNext r)).1

def ramEnergy (m : Meter) (r : PowerReading) : Rat :=
  memoryEnergy m.io (m.ioNext r) m.memaccess r.memaccess

def ioEnergy (m : Meter) (r : PowerReading) : Rat := (sysDiskEnergy m.io (m.ioNext r)).1

/-- The energy of a metric up to a reading. -/
def energy (m : Meter) (r : PowerReading) : PowerMetric → Rat
  | .cpu => m.cpuEnergy r
  | .net => m.netEnergy r
  | .ram => m.ramEnergy r
  | .io => m.ioEnergy r
  | .all => m.cpuEnergy r + m.ramEnergy r + m.netEnergy r + m.ioEnergy r

/-- The energy of a metric up to a reading as its average power over some time. -/
def powerOver (m : Meter) (r : PowerReading) (interval : Rat) (metric : PowerMetric) : FloatValue :=
  .quotient (m.energy r metric) interval

/-- The average power of a metric up to a reading. -/
def power (m : Meter) (r : PowerReading) : PowerMetric → FloatValue :=
  m.powerOver r (r.clock - m.time)

/-- The meter before each of a number of readings. -/
def run (m : Meter) : List PowerReading → List (Meter × PowerReading)
  | [] => []
  | r :: rs => (m, r) :: run (m.next r) rs

end Meter

/-- The saved readings of the plugin. -/
def PowerState.meter (st : PowerState) : Meter :=
  ⟨st.beforeTime, st.cpuEnergyBefore, st.memaccessBefore, st.netStatBefore, st.netStatAfter,
    st.ioStatBefore, st.ioStatAfter⟩

/-! ## The table of a request -/

/-- The metrics of the table, in the order of the table. -/
def powerLayout (flag : PowerMetric → Bool) : List PowerMetric :=
  (if flag .all then [.all] else []) ++ (if flag .cpu then [.cpu] else []) ++
    (if flag .net then [.net] else []) ++ (if flag .ram || flag .io then [.ram, .io] else [])

theorem PowerMetric.name_inj {m m' : PowerMetric} (h : m.name = m'.name) : m = m' := by
  revert h
  cases m <;> cases m' <;> decide

theorem powerLayout_nodup (flag : PowerMetric → Bool) : (powerLayout flag).Nodup := by
  unfold powerLayout
  cases flag .all <;> cases flag .cpu <;> cases flag .net <;> cases flag .ram || flag .io <;> decide

theorem mem_powerLayout {flag : PowerMetric → Bool} {m : PowerMetric} (h : flag m = true) :
    m ∈ powerLayout flag := by
  cases m <;> simp [powerLayout, h]

/-- The metrics are named at the first indices. -/
structure Named (table : PowerMetrics × Nat) (metrics : List PowerMetric) : Prop where
  count : table.2 = metrics.length
  names : Tabulates table.1.events (metrics.map fun metric => some metric.name)

theorem Named.metric {table : PowerMetrics × Nat} {metrics : List PowerMetric}
    (h : Named table metrics) (present : Bool) (metric : PowerMetric) :
    Named (nameMetric present metric.name table) (metrics ++ if present then [metric] else []) := by
  cases present with
  | false => simpa [nameMetric] using h
  | true =>
      have names := h.names.push (some metric.name)
      rw [List.length_map, ← h.count] at names
      exact ⟨by simp [nameMetric, h.count], by simpa [nameMetric] using names⟩

/-- The values stand at the first indices. -/
structure Filled (s : PowerSample) (values : List FloatValue) : Prop where
  count : s.i = values.length
  values : Tabulates s.values values

theorem Filled.put {s : PowerSample} {values : List FloatValue} (h : Filled s values)
    (value : FloatValue) : Filled (s.put value) (values ++ [value]) := by
  have pushed := h.values.push value
  rw [← h.count] at pushed
  exact ⟨by simp [PowerSample.put, h.count], pushed⟩

theorem Filled.setState {s : PowerSample} {values : List FloatValue} (h : Filled s values)
    (st : PowerState) : Filled { s with st } values := ⟨h.count, h.values⟩

theorem Filled.putIf {s : PowerSample} {values : List FloatValue} (h : Filled s values)
    (present : Bool) (value : FloatValue) :
    Filled (if present then s.put value else s) (values ++ if present then [value] else []) := by
  cases present with
  | false => simpa using h
  | true => exact h.put value

/-- The table after the initialization. -/
theorem powerNames_named (flag : PowerMetric → Bool) (data : PowerMetrics) :
    Named (powerNames flag (nameMetric (flag .all) PowerMetric.all.name (data, 0)))
      (powerLayout flag) := by
  have start : Named (data, 0) [] := ⟨rfl, tabulates_nil _⟩
  have named := ((((start.metric (flag .all) .all).metric (flag .cpu) .cpu).metric
    (flag .net) .net).metric (flag .ram || flag .io) .ram).metric (flag .ram || flag .io) .io
  have layout : [] ++ (if flag .all then [.all] else []) ++ (if flag .cpu then [.cpu] else []) ++
      (if flag .net then [.net] else []) ++ (if flag .ram || flag .io then [.ram] else []) ++
      (if flag .ram || flag .io then [.io] else []) = powerLayout flag := by
    unfold powerLayout
    cases flag .ram || flag .io <;> simp
  rwa [layout] at named

/-! ## The parts of the sampler -/

/-- The state after the CPU, the network and the I/O were read. -/
def takeCpu (r : PowerReading) (st : PowerState) : PowerState :=
  { st with
    cpuEnergyBefore := cpuEnergyValue r.cpuEnergy
    cpuEnergyAfter := cpuEnergyValue r.cpuEnergy }

def takeNet (r : PowerReading) (st : PowerState) : PowerState :=
  { st with netStatBefore := st.meter.netNext r, netStatAfter := st.meter.netNext r }

def takeIo (r : PowerReading) (st : PowerState) : PowerState :=
  { st with
    memaccessBefore := r.memaccess
    memaccessAfter := r.memaccess
    ioStatBefore := st.meter.ioNext r
    ioStatAfter := st.meter.ioNext r }

theorem samplePowerCpu_eq (r : PowerReading) (interval : Rat) (s : PowerSample) :
    samplePowerCpu r interval s =
      if s.st.flag .cpu then
        PowerSample.put { s with st := takeCpu r s.st } (s.st.meter.powerOver r interval .cpu)
      else s := rfl

theorem samplePowerNet_eq (r : PowerReading) (interval : Rat) (s : PowerSample) :
    samplePowerNet r interval s =
      if s.st.flag .net then
        PowerSample.put { s with st := takeNet r s.st } (s.st.meter.powerOver r interval .net)
      else s := rfl

theorem samplePowerIo_eq (r : PowerReading) (interval : Rat) (s : PowerSample) :
    samplePowerIo r interval s =
      if s.st.flag .ram || s.st.flag .io then
        (PowerSample.put { s with st := takeIo r s.st } (s.st.meter.powerOver r interval .ram)).put
          (s.st.meter.powerOver r interval .io)
      else s := rfl

theorem samplePowerAll_eq (r : PowerReading) (interval : Rat) (s : PowerSample) :
    samplePowerAll r interval s =
      let power := s.st.meter.powerOver r interval
      let s' := PowerSample.put { s with st := takeIo r (takeNet r (takeCpu r s.st)) } (power .all)
      let s' := if s.st.flag .cpu then s'.put (power .cpu) else s'
      let s' := if s.st.flag .net then s'.put (power .net) else s'
      if s.st.flag .ram || s.st.flag .io then (s'.put (power .ram)).put (power .io) else s' := by
  rfl

theorem samplePowerCpu_spec (r : PowerReading) (interval : Rat) {s : PowerSample}
    {values : List FloatValue} (h : Filled s values) :
    (samplePowerCpu r interval s).st = (if s.st.flag .cpu then takeCpu r s.st else s.st) ∧
      Filled (samplePowerCpu r interval s) (values ++
        (if s.st.flag .cpu then [.cpu] else []).map (s.st.meter.powerOver r interval)) := by
  rw [samplePowerCpu_eq]
  cases s.st.flag .cpu with
  | false => exact ⟨rfl, by simpa using h⟩
  | true => exact ⟨rfl, (h.setState (takeCpu r s.st)).put _⟩

theorem samplePowerNet_spec (r : PowerReading) (interval : Rat) {s : PowerSample}
    {values : List FloatValue} (h : Filled s values) :
    (samplePowerNet r interval s).st = (if s.st.flag .net then takeNet r s.st else s.st) ∧
      Filled (samplePowerNet r interval s) (values ++
        (if s.st.flag .net then [.net] else []).map (s.st.meter.powerOver r interval)) := by
  rw [samplePowerNet_eq]
  cases s.st.flag .net with
  | false => exact ⟨rfl, by simpa using h⟩
  | true => exact ⟨rfl, (h.setState (takeNet r s.st)).put _⟩

theorem samplePowerIo_spec (r : PowerReading) (interval : Rat) {s : PowerSample}
    {values : List FloatValue} (h : Filled s values) :
    (samplePowerIo r interval s).st =
        (if s.st.flag .ram || s.st.flag .io then takeIo r s.st else s.st) ∧
      Filled (samplePowerIo r interval s) (values ++
        (if s.st.flag .ram || s.st.flag .io then [.ram, .io] else []).map
          (s.st.meter.powerOver r interval)) := by
  rw [samplePowerIo_eq]
  cases s.st.flag .ram || s.st.flag .io with
  | false => exact ⟨rfl, by simpa using h⟩
  | true =>
      have both := ((h.setState (takeIo r s.st)).put (s.st.meter.powerOver r interval .ram)).put
        (s.st.meter.powerOver r interval .io)
      exact ⟨rfl, by simpa using both⟩

/-- The values behind the total. -/
theorem Filled.parts {s : PowerSample} {values : List FloatValue} (h : Filled s values)
    (cpu net io : Bool) (power : PowerMetric → FloatValue) :
    let s' := if cpu then s.put (power .cpu) else s
    let s' := if net then s'.put (power .net) else s'
    Filled (if io then (s'.put (power .ram)).put (power .io) else s') (values ++
      ((if cpu then [PowerMetric.cpu] else []) ++ (if net then [PowerMetric.net] else []) ++
        (if io then [PowerMetric.ram, PowerMetric.io] else [])).map power) := by
  have single := (h.putIf cpu (power .cpu)).putIf net (power .net)
  cases cpu <;> cases net <;> cases io
  case false.false.false => simpa using single
  case false.true.false => simpa using single
  case true.false.false => simpa using single
  case true.true.false => simpa using single
  all_goals simpa using (single.put (power .ram)).put (power .io)

/-- The branch of the total reads everything and writes all metrics of the table. -/
theorem samplePowerAll_spec (r : PowerReading) (interval : Rat) {s : PowerSample}
    (h : Filled s []) (hall : s.st.flag .all = true) :
    (samplePowerAll r interval s).st = takeIo r (takeNet r (takeCpu r s.st)) ∧
      Filled (samplePowerAll r interval s)
        ((powerLayout s.st.flag).map (s.st.meter.powerOver r interval)) := by
  have filled := ((h.setState (takeIo r (takeNet r (takeCpu r s.st)))).put
    (s.st.meter.powerOver r interval .all)).parts (s.st.flag .cpu) (s.st.flag .net)
    (s.st.flag .ram || s.st.flag .io) (s.st.meter.powerOver r interval)
  rw [samplePowerAll_eq]
  constructor
  · cases s.st.flag .cpu <;> cases s.st.flag .net <;> cases s.st.flag .ram || s.st.flag .io <;> rfl
  · simpa [powerLayout, hall] using filled

/-! ## The plugin follows the meter -/

/-- What the plugin watches is saved as in the meter. -/
structure Meters (st : PowerState) (m : Meter) : Prop where
  time : st.beforeTime = m.time
  cpu : (st.flag .all || st.flag .cpu) = true → st.cpuEnergyBefore = m.cpu
  net : (st.flag .all || st.flag .net) = true →
    st.netStatBefore = m.net ∧ st.netStatAfter = m.netAfter
  io : (st.flag .all || (st.flag .ram || st.flag .io)) = true →
    st.memaccessBefore = m.memaccess ∧ st.ioStatBefore = m.io ∧ st.ioStatAfter = m.ioAfter

/-- The metrics of the table are counted as the meter counts them. -/
theorem Meters.energy {st : PowerState} {m : Meter} (h : Meters st m) (r : PowerReading)
    {metric : PowerMetric} (listed : metric ∈ powerLayout st.flag) :
    st.meter.energy r metric = m.energy r metric := by
  have cpu : (st.flag .all || st.flag .cpu) = true → st.meter.cpuEnergy r = m.cpuEnergy r := by
    intro watched
    simp [Meter.cpuEnergy, PowerState.meter, h.cpu watched]
  have net : (st.flag .all || st.flag .net) = true → st.meter.netEnergy r = m.netEnergy r := by
    intro watched
    obtain ⟨before, after⟩ := h.net watched
    simp [Meter.netEnergy, Meter.netNext, PowerState.meter, before, after]
  have io : (st.flag .all || (st.flag .ram || st.flag .io)) = true →
      st.meter.ramEnergy r = m.ramEnergy r ∧ st.meter.ioEnergy r = m.ioEnergy r := by
    intro watched
    obtain ⟨access, before, after⟩ := h.io watched
    simp [Meter.ramEnergy, Meter.ioEnergy, Meter.ioNext, PowerState.meter, access, before, after]
  simp only [powerLayout, List.mem_append] at listed
  cases metric with
  | cpu => exact cpu (by by_contra; simp_all)
  | net => exact net (by by_contra; simp_all)
  | ram => exact (io (by by_contra; simp_all)).1
  | io => exact (io (by by_contra; simp_all)).2
  | all =>
      have hall : st.flag .all = true := by by_contra; simp_all
      simp only [Meter.energy, cpu (by simp [hall]), net (by simp [hall]),
        (io (by simp [hall])).1, (io (by simp [hall])).2]

/-- The state after a reading of some parts. -/
def takeParts (r : PowerReading) (cpu net io : Bool) (st : PowerState) : PowerState :=
  let st := if cpu then takeCpu r st else st
  let st := if net then takeNet r st else st
  if io then takeIo r st else st

theorem takeParts_flag (r : PowerReading) (cpu net io : Bool) (st : PowerState) :
    (takeParts r cpu net io st).flag = st.flag := by
  cases cpu <;> cases net <;> cases io <;> rfl

theorem takeParts_afterTime (r : PowerReading) (cpu net io : Bool) (st : PowerState) :
    (takeParts r cpu net io st).afterTime = st.afterTime := by
  cases cpu <;> cases net <;> cases io <;> rfl

/-- What is watched has to be read. -/
theorem Meters.take {st : PowerState} {m : Meter} (h : Meters st m) (r : PowerReading)
    {cpu net io : Bool} (hcpu : (st.flag .all || st.flag .cpu) = true → cpu = true)
    (hnet : (st.flag .all || st.flag .net) = true → net = true)
    (hio : (st.flag .all || (st.flag .ram || st.flag .io)) = true → io = true) :
    Meters { takeParts r cpu net io st with beforeTime := r.clock } (m.next r) where
  time := rfl
  cpu := by
    simp only [takeParts_flag]
    intro watched
    cases hcpu watched
    cases net <;> cases io <;> rfl
  net := by
    simp only [takeParts_flag]
    intro watched
    obtain ⟨-, after⟩ := h.net watched
    have found : st.meter.netNext r = m.netNext r := by
      simp [Meter.netNext, PowerState.meter, after]
    cases hnet watched
    cases cpu <;> cases io <;> exact ⟨found, found⟩
  io := by
    simp only [takeParts_flag]
    intro watched
    obtain ⟨-, -, after⟩ := h.io watched
    have found : st.meter.ioNext r = m.ioNext r := by
      simp [Meter.ioNext, PowerState.meter, after]
    cases hio watched
    cases cpu <;> cases net <;> exact ⟨rfl, found, found⟩

/-- Without the total each part is read for itself. -/
theorem samplePowerParts_spec (r : PowerReading) (interval : Rat) {s : PowerSample}
    (h : Filled s []) (hall : s.st.flag .all = false) :
    let out := samplePowerIo r interval (samplePowerNet r interval (samplePowerCpu r interval s))
    out.st = takeParts r (s.st.flag .cpu) (s.st.flag .net) (s.st.flag .ram || s.st.flag .io) s.st ∧
      Filled out ((powerLayout s.st.flag).map (s.st.meter.powerOver r interval)) := by
  obtain ⟨cpuState, cpuFilled⟩ := samplePowerCpu_spec r interval h
  obtain ⟨netState, netFilled⟩ := samplePowerNet_spec r interval cpuFilled
  obtain ⟨ioState, ioFilled⟩ := samplePowerIo_spec r interval netFilled
  have flag₁ : (samplePowerCpu r interval s).st.flag = s.st.flag := by
    rw [cpuState]; split <;> rfl
  have net₁ : (samplePowerCpu r interval s).st.meter.energy r .net = s.st.meter.energy r .net := by
    rw [cpuState]; split <;> rfl
  have flag₂ : (samplePowerNet r interval (samplePowerCpu r interval s)).st.flag = s.st.flag := by
    rw [netState, flag₁, ← flag₁]; split <;> rfl
  have io₂ : ∀ metric ∈ [PowerMetric.ram, .io],
      (samplePowerNet r interval (samplePowerCpu r interval s)).st.meter.energy r metric =
        s.st.meter.energy r metric := by
    rw [netState, cpuState]
    intro metric hmetric
    simp only [List.mem_cons, List.not_mem_nil, or_false] at hmetric
    rcases hmetric with rfl | rfl <;> split <;> split <;> rfl
  constructor
  · rw [ioState, flag₂, netState, flag₁, cpuState]
    rfl
  · rw [flag₂, flag₁] at ioFilled
    refine cast (congrArg _ ?_) ioFilled
    simp only [powerLayout, hall]
    cases s.st.flag .cpu <;> cases s.st.flag .net <;> cases s.st.flag .ram || s.st.flag .io <;>
      simp [Meter.powerOver, net₁, io₂]

/-- A sample is a reading of the meter. -/
theorem powerSample_spec (data : PowerMetrics) (r : PowerReading) {st : PowerState} {m : Meter}
    (h : Meters st m) :
    let out := mfLinuxSysPowerSample data r st
    out.2.flag = st.flag ∧ Meters out.2 (m.next r) ∧
      (out.1.events = data.events ∧ out.1.numEvents = data.numEvents) ∧
      Tabulates out.1.values ((powerLayout st.flag).map (m.power r)) := by
  have start : Filled ⟨{ st with afterTime := r.clock }, data.values, 0⟩ [] :=
    ⟨rfl, tabulates_nil _⟩
  have parts : ∃ cpu net io : Bool,
      ((st.flag .all || st.flag .cpu) = true → cpu = true) ∧
      ((st.flag .all || st.flag .net) = true → net = true) ∧
      ((st.flag .all || (st.flag .ram || st.flag .io)) = true → io = true) ∧
      (mfLinuxSysPowerSample data r st).2 =
        { takeParts r cpu net io { st with afterTime := r.clock } with beforeTime := r.clock } ∧
      Tabulates (mfLinuxSysPowerSample data r st).1.values
        ((powerLayout st.flag).map (st.meter.powerOver r (r.clock - st.beforeTime))) := by
    unfold mfLinuxSysPowerSample
    cases hall : st.flag .all with
    | true =>
        obtain ⟨state, filled⟩ := samplePowerAll_spec r (r.clock - st.beforeTime) start hall
        exact ⟨true, true, true, by simp, by simp, by simp,
          by simp only [hall, if_true, state]; rfl,
          by simp only [hall, if_true]; exact filled.values⟩
    | false =>
        obtain ⟨state, filled⟩ := samplePowerParts_spec r (r.clock - st.beforeTime) start hall
        exact ⟨st.flag .cpu, st.flag .net, st.flag .ram || st.flag .io, by simp, by simp, by simp,
          by simp only [hall, Bool.false_eq_true, if_false, state, takeParts_afterTime],
          by simp only [hall, Bool.false_eq_true, if_false]; exact filled.values⟩
  obtain ⟨cpu, net, io, hcpu, hnet, hio, state, tabulated⟩ := parts
  refine ⟨?_, ?_, ⟨rfl, rfl⟩, ?_⟩
  · rw [state]
    exact takeParts_flag r cpu net io _
  · have clocked : Meters { st with afterTime := r.clock } m := ⟨h.time, h.cpu, h.net, h.io⟩
    rw [state]
    exact clocked.take r hcpu hnet hio
  · refine cast (congrArg _ (List.map_congr_left fun metric listed => ?_)) tabulated
    rw [Meter.power, Meter.powerOver, Meter.powerOver, h.energy r listed, h.time]

end PhantomMonitor
