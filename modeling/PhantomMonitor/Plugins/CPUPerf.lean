import Mathlib.Data.Nat.Digits.Defs
import PhantomMonitor.Plugins.PluginUtils

/-!
# The CPU_perf plugin

`mf_CPU_perf_connector.c`: instruction counters of the cores, read through PAPI, one event set
for each core.

PAPI is the environment. `PAPI_read` fills one slot for each event of the set, in the order in
which the events were added, and leaves the other slots alone; a counter holds what its core has
counted since `PAPI_start` or the last `PAPI_reset`. The array of slots is a local variable of the
sampler, so it starts with anything. Floating-point arithmetic is exact.
-/

namespace PhantomMonitor

open CText

/-- `PAPI_EVENTS` (`mf_CPU_perf_connector.c:31`). -/
inductive PapiEvent where
  | fpIns
  | fpOps
  | totIns
  deriving DecidableEq, Repr

/-- The events in the order of `PAPI_EVENTS`. -/
def papiEvents : List PapiEvent := [.fpIns, .fpOps, .totIns]

/-- `CPU_perf_metrics` (`mf_CPU_perf_connector.c:32`). -/
def PapiEvent.metric : PapiEvent → CText
  | fpIns => "MFLIPS".toList
  | fpOps => "MFLOPS".toList
  | totIns => "MIPS".toList

/-- `PAPI_EVENTS_NUM` (`mf_CPU_perf_connector.c:25`). -/
def papiEventsNum : Nat := 3

/-- What `mf_CPU_perf_init` meets. `setupOk i` says whether an event set can be made and attached
to core `i`, `addOk i e` whether `PAPI_add_event` takes the event into it, `startOk i` whether
`PAPI_start` succeeds on it. -/
structure PerfHost where
  papiInitialized : Bool
  libraryOk : Bool
  maxCpus : Int
  available : PapiEvent → Bool
  addOk : Nat → PapiEvent → Bool
  setupOk : Nat → Bool
  startOk : Nat → Bool
  clock : Int

/-- The event sets in core order, the file's `before_time`, and the counters of PAPI. -/
structure PerfState where
  eventSets : List (List PapiEvent)
  beforeTime : Int
  counters : Nat → PapiEvent → Int

/-- What one sample meets: the clock, what the cores have counted since the sample before, the
cores that `PAPI_read` can read, and what the local array holds at first. -/
structure PerfReading where
  clock : Int
  counted : Nat → PapiEvent → Int
  readOk : Nat → Bool
  slots : Nat → Int

/-- `events_are_all_not_valid` (`mf_CPU_perf_connector.c:253-272`). -/
def eventsAreAllNotValid (events : List CText) : Bool :=
  (events.flatMap fun event => papiEvents.filter fun e => event = e.metric).length = 0

/-- `load_papi_library` (`mf_CPU_perf_connector.c:227-250`): the number of cores is cut down to what
the machine has, unless the library was loaded already. -/
def loadPapiLibrary (host : PerfHost) (numCores : Int) : Option Int :=
  if host.papiInitialized then some numCores
  else if host.libraryOk = false ∨ host.maxCpus ≤ 0 then none
  else some (if host.maxCpus < numCores then host.maxCpus else numCores)

/-- `%02d`. -/
def twoDigits (i : Nat) : CText :=
  if i < 10 then '0' :: Nat.toDigits 10 i else Nat.toDigits 10 i

/-- `core%02d:%s`. -/
def coreEventName (i : Nat) (e : PapiEvent) : CText :=
  "core".toList ++ twoDigits i ++ ':' :: e.metric

/-- The body of the inner loop over the events (`mf_CPU_perf_connector.c:109-114`); what
`PAPI_add_event` returns is not looked at. -/
def addEvent (host : PerfHost) (i : Nat) (acc : PluginMetrics × Nat × List PapiEvent)
    (e : PapiEvent) : Except Fault (PluginMetrics × Nat × List PapiEvent) :=
  let (data, jj, set) := acc
  if host.available e then do
    let data ← data.setEvent jj (coreEventName i e)
    return (data, jj + 1, if host.addOk i e then set ++ [e] else set)
  else .ok (data, jj, set)

/-- The body of the outer loop over the cores (`mf_CPU_perf_connector.c:108-115`). -/
def addCore (host : PerfHost) (acc : PluginMetrics × Nat × List (List PapiEvent)) (i : Nat) :
    Except Fault (PluginMetrics × Nat × List (List PapiEvent)) := do
  let (data, jj, sets) := acc
  let (data, jj, set) ← papiEvents.foldlM (addEvent host i) (data, jj, [])
  return (data, jj, sets ++ [set])

/-- `mf_CPU_perf_init` (`mf_CPU_perf_connector.c:52-130`). -/
def mfCPUPerfInit (host : PerfHost) (data : PluginMetrics) (events : List CText) (numCores : Int)
    (st : PerfState) : Except Fault (Int × PluginMetrics × PerfState) :=
  if eventsAreAllNotValid events then .ok (0, data, st)
  else
    match loadPapiLibrary host numCores with
    | none => .ok (0, data, st)
    | some numCores =>
        let cores := List.range numCores.toNat
        if cores.all host.setupOk = false then .ok (0, data, st)
        else do
          let (data, jj, sets) ← cores.foldlM (addCore host) (data, 0, [])
          let data := { data with numEvents := jj }
          let st := { st with eventSets := sets, beforeTime := host.clock }
          if cores.all host.startOk = false then return (0, data, st)
          else return (1, data, { st with counters := fun _ _ => 0 })

/-! ## Sampling -/

/-- `PAPI_read` of one event set. -/
def papiRead (counters : PapiEvent → Int) (set : List PapiEvent) (slots : Nat → Int) : Nat → Int :=
  fun ii => match set[ii]? with
    | none => slots ii
    | some e => counters e

/-- The values of one core (`mf_CPU_perf_connector.c:152-155`). -/
def storeSlots (slots : Nat → Int) (duration : Int) (data : PluginMetrics) (jj : Nat) :
    Except Fault (PluginMetrics × Nat) :=
  (List.range papiEventsNum).foldlM (fun (data, jj) ii => do
    let data ← data.setValue jj ((slots ii : Rat) * 1000 / duration)
    return (data, jj + 1)) (data, jj)

/-- The loop over the cores (`mf_CPU_perf_connector.c:145-157`); `false` when it returns `FAILURE`.
The event sets are read by index, whatever their number. -/
def sampleCores (readOk : Nat → Bool) (duration : Int) :
    List Nat → PluginMetrics → Nat → (Nat → Int) → PerfState →
      Except Fault (Bool × PluginMetrics × PerfState)
  | [], data, _, _, st => .ok (true, data, st)
  | i :: cores, data, jj, slots, st =>
      match st.eventSets[i]? with
      | none => .error .outOfBounds
      | some set =>
          if readOk i then
            let slots := papiRead (st.counters i) set slots
            match storeSlots slots duration data jj with
            | .error fault => .error fault
            | .ok (data, jj) =>
                sampleCores readOk duration cores data jj slots
                  { st with counters := Function.update st.counters i fun _ => 0 }
          else .ok (false, data, st)

/-- The cores count until the next sample. -/
def PerfState.count (st : PerfState) (counted : Nat → PapiEvent → Int) : PerfState :=
  { st with counters := fun i e => st.counters i e + counted i e }

/-- `mf_CPU_perf_sample` (`mf_CPU_perf_connector.c:136-161`). -/
def mfCPUPerfSample (data : PluginMetrics) (numCores : Int) (r : PerfReading) (st : PerfState) :
    Except Fault (Int × PluginMetrics × PerfState) :=
  match sampleCores r.readOk (r.clock - st.beforeTime) (List.range numCores.toNat) data 0 r.slots
      (st.count r.counted) with
  | .error fault => .error fault
  | .ok (false, data, st) => .ok (0, data, st)
  | .ok (true, data, st) => .ok (1, data, { st with beforeTime := r.clock })

/-- `mf_CPU_perf_to_json` (`mf_CPU_perf_connector.c:168-194`) when the clock shows `ts`
milliseconds. An event shows every name that it is a part of. -/
def mfCPUPerfToJson (data : PluginMetrics) (events : List CText) (ts : Rat) :
    Except Fault CText := do
  let entries ← requestedEntries
    (fun event name value => hasSubstr name event && decide (0 < value)) data events
  return metricsText "CPU_perf".toList ts entries

end PhantomMonitor
