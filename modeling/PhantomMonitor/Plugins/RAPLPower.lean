import Mathlib.Data.Nat.Digits.Defs
import PhantomMonitor.Plugins.PluginUtils

/-!
# The RAPL_power plugin

`mf_RAPL_power_connector.c`: energy counters of the CPU packages and their DRAM, read through
PAPI, and the average power between two samples.

PAPI is the environment. Its counters hold, slot by slot, the energy since the later of
`PAPI_start` and the last `PAPI_reset`; slot `2 * j` belongs to package `j` and slot `2 * j + 1` to
its DRAM, in the order in which `rapl_init` adds the events. A reading says what each slot has
used since the last call of PAPI, what the clock shows, and whether `PAPI_read` succeeds.
Floating-point arithmetic is exact.
-/

namespace PhantomMonitor

open CText

/-- The two energies of a socket. -/
inductive RaplDomain where
  | package
  | dram
  deriving DecidableEq, Repr

namespace RaplDomain

/-- The metric that asks for the energy, and the text that its event names contain. -/
def metric : RaplDomain → CText
  | package => "total_power".toList
  | dram => "dram_power".toList

/-- The PAPI slot of the energy of a socket. -/
def slot : RaplDomain → Nat → Nat
  | package, j => 2 * j
  | dram, j => 2 * j + 1

/-- `package%d:total_power` and `package%d:dram_power`. -/
def eventName (d : RaplDomain) (j : Nat) : CText :=
  "package".toList ++ Nat.toDigits 10 j ++ ':' :: d.metric

end RaplDomain

/-- The file's variables, and the counters of PAPI. `before` stands for `epackage_before` and
`edram_before`, `after` for `epackage_after` and `edram_after`. -/
structure RaplState where
  beforeTime : Rat
  afterTime : Rat
  numSockets : Nat
  denominator : Rat
  raplIsAvailable : Bool
  before : RaplDomain → Nat → Rat
  after : RaplDomain → Nat → Rat
  counters : Nat → Nat

/-- What one reading meets. -/
structure RaplReading where
  used : Nat → Nat
  readOk : Bool
  clock : Rat

/-- What `rapl_init` meets: PAPI, hwloc and the processor. -/
structure RaplHost where
  papiLoaded : Bool
  components : List (CText × Bool)
  sockets : Option Nat
  eventSetOk : Bool
  cpuidEax : Nat
  startOk : Bool

/-- The size of the energy arrays (`mf_RAPL_power_connector.c:36`). -/
def maxSockets : Nat := 4

/-- `check_rapl_component` (`mf_RAPL_power_connector.c:227-245`): the first component named after
RAPL decides. -/
def checkRaplComponent : List (CText × Bool) → Bool
  | [] => false
  | (name, disabled) :: components =>
      if hasSubstr name "rapl".toList then !disabled else checkRaplComponent components

/-- `hardware_sockets_count` (`mf_RAPL_power_connector.c:248-262`). -/
def hardwareSocketsCount (host : RaplHost) : Nat := host.sockets.getD 0

/-- `rapl_get_denominator` (`mf_RAPL_power_connector.c:265-279`). -/
def raplGetDenominator (host : RaplHost) : Rat :=
  if (host.cpuidEax >>> 4) &&& 0xF = 15 then 153 / 10 else 1

/-- The scale of an energy: only DRAM is divided by `denominator`. -/
def RaplState.scale (st : RaplState) : RaplDomain → Rat
  | .package => 1
  | .dram => st.denominator

/-- Energy is used until the next call of PAPI. -/
def RaplState.consume (st : RaplState) (used : Nat → Nat) : RaplState :=
  { st with counters := fun k => st.counters k + used k }

/-- `rapl_stat_read` (`mf_RAPL_power_connector.c:294-315`) into the arrays given, in millijoule.
A successful read resets the counters. -/
def raplStatRead (st : RaplState) (r : RaplReading) (energy : RaplDomain → Nat → Rat) :
    Except Fault (Int × (RaplDomain → Nat → Rat) × RaplState) :=
  let st := st.consume r.used
  if r.readOk then
    if st.numSockets ≤ maxSockets then
      .ok (1, fun d j =>
          if j < st.numSockets then (st.counters (d.slot j) : Rat) / 10 ^ 6 / st.scale d
          else energy d j,
        { st with counters := fun _ => 0 })
    else .error .outOfBounds
  else .ok (0, energy, st)

/-- The names of one requested metric, socket by socket (`mf_RAPL_power_connector.c:182-186`). -/
def nameSockets (d : RaplDomain) (n : Nat) (data : PluginMetrics) (ii : Nat) :
    Except Fault (PluginMetrics × Nat) :=
  (List.range n).foldlM (fun (data, ii) j => do
    let data ← data.setEvent ii (d.eventName j)
    return (data, ii + 1)) (data, ii)

/-- One turn of the loop over the requested metrics (`mf_RAPL_power_connector.c:180-195`). -/
def nameRequest (n : Nat) (request : CText) (data : PluginMetrics) (ii : Nat) :
    Except Fault (PluginMetrics × Nat) := do
  let (data, ii) ←
    if request = RaplDomain.package.metric then nameSockets .package n data ii
    else .ok (data, ii)
  if request = RaplDomain.dram.metric then nameSockets .dram n data ii
  else .ok (data, ii)

/-- `rapl_init` (`mf_RAPL_power_connector.c:141-207`). The counters start from zero. -/
def raplInit (host : RaplHost) (data : PluginMetrics) (requests : List CText) (st : RaplState) :
    Except Fault (Bool × PluginMetrics × RaplState) :=
  if host.papiLoaded = false ∨ checkRaplComponent host.components = false then
    .ok (false, data, st)
  else
    let st := { st with numSockets := hardwareSocketsCount host }
    if st.numSockets = 0 ∨ host.eventSetOk = false then .ok (false, data, st)
    else do
      let (data, ii) ← requests.foldlM
        (fun (data, ii) request => nameRequest st.numSockets request data ii) (data, 0)
      let data := { data with numEvents := ii }
      let st := { st with denominator := raplGetDenominator host }
      if host.startOk then return (true, data, { st with counters := fun _ => 0 })
      else return (false, data, st)

/-- `mf_RAPL_power_init` (`mf_RAPL_power_connector.c:56-70`). -/
def mfRAPLPowerInit (host : RaplHost) (data : PluginMetrics) (requests : List CText)
    (r : RaplReading) (st : RaplState) : Except Fault (Int × PluginMetrics × RaplState) := do
  let (available, data, st) ← raplInit host data requests st
  let st := { st with raplIsAvailable := available }
  if available = false ∨ data.numEvents = 0 then return (0, data, st)
  else do
    let (_, before, st) ← raplStatRead st r st.before
    return (1, data, { st with before, beforeTime := r.clock })

/-! ## Sampling -/

/-- The variables of the sampling loop, and the indices of `data->events` that it has read and
of `data->values` that it has written. -/
structure RaplLoop where
  i : Nat
  values : Nat → Rat
  before : RaplDomain → Nat → Rat
  reads : List Nat
  writes : List Nat

/-- `before[j] = energy` in the array of one energy. -/
def setBefore (before : RaplDomain → Nat → Rat) (d : RaplDomain) (j : Nat) (energy : Rat) :
    RaplDomain → Nat → Rat :=
  Function.update before d (Function.update (before d) j energy)

/-- The value of one socket (`mf_RAPL_power_connector.c:93-95`,
`mf_RAPL_power_connector.c:100-102`). -/
def storeSocket (st : RaplState) (interval : Rat) (d : RaplDomain) (l : RaplLoop) (j : Nat) :
    Except Fault RaplLoop :=
  if l.i < maxEventsNumber ∧ j < maxSockets then
    .ok { l with
      i := l.i + 1
      values := Function.update l.values l.i ((st.after d j - l.before d j) / interval)
      before := setBefore l.before d j (st.after d j)
      writes := l.writes ++ [l.i] }
  else .error .outOfBounds

/-- One of the two blocks of the loop (`mf_RAPL_power_connector.c:91-97`,
`mf_RAPL_power_connector.c:98-104`): the values of all sockets when the event at `i` is of its
kind. -/
def sampleBlock (data : PluginMetrics) (st : RaplState) (interval : Rat) (d : RaplDomain)
    (l : RaplLoop) : Except Fault RaplLoop := do
  let event ← data.getEvent l.i
  let l := { l with reads := l.reads ++ [l.i] }
  match event with
  | none => return l
  | some name =>
      if hasSubstr name d.metric then
        (List.range st.numSockets).foldlM (storeSocket st interval d) l
      else return l

/-- The loop (`mf_RAPL_power_connector.c:90-105`); `none` when the fuel runs out. A turn that
stores nothing is repeated forever. -/
def sampleLoop (data : PluginMetrics) (st : RaplState) (interval : Rat) :
    Nat → RaplLoop → Except Fault (Option RaplLoop)
  | 0, _ => .ok none
  | fuel + 1, l =>
      if l.i < data.numEvents then do
        let l ← sampleBlock data st interval .package l
        let l ← sampleBlock data st interval .dram l
        sampleLoop data st interval fuel l
      else .ok (some l)

/-- The read of the counters into `after` (`mf_RAPL_power_connector.c:85-87`). -/
def sampleRead (r : RaplReading) (st : RaplState) : Except Fault RaplState :=
  if st.raplIsAvailable then do
    let (_, after, st) ← raplStatRead st r st.after
    return { st with after }
  else .ok (st.consume r.used)

/-- `mf_RAPL_power_sample` (`mf_RAPL_power_connector.c:76-110`); `none` when it does not return.
A turn of the loop that stores something moves `i` on, so `num_events + 1` turns are enough. -/
def mfRAPLPowerSample (data : PluginMetrics) (r : RaplReading) (st : RaplState) :
    Except Fault (Option (Int × PluginMetrics × RaplState)) := do
  let st ← sampleRead r { st with afterTime := r.clock }
  let interval := st.afterTime - st.beforeTime
  match ← sampleLoop data st interval (data.numEvents + 1) ⟨0, data.values, st.before, [], []⟩ with
  | none => return none
  | some l =>
      return some (1, { data with values := l.values },
        { st with before := l.before, beforeTime := st.afterTime })

/-- Successive calls of the sampler, with the table and the state that each one leaves. -/
def raplRun (data : PluginMetrics) (st : RaplState) :
    List RaplReading → Except Fault (Option (List (PluginMetrics × RaplState)))
  | [] => .ok (some [])
  | r :: rs => do
      match ← mfRAPLPowerSample data r st with
      | none => return none
      | some (_, data, st) =>
          match ← raplRun data st rs with
          | none => return none
          | some outs => return some ((data, st) :: outs)

/-- `mf_RAPL_power_to_json` (`mf_RAPL_power_connector.c:117-138`). -/
def mfRAPLPowerToJson (data : PluginMetrics) (st : RaplState) : Except Fault CText := do
  let entries ← tableEntries (fun value => decide (0 ≤ value)) data
  return metricsText "RAPL_power".toList (st.afterTime * 1000) entries

end PhantomMonitor
