import Mathlib.Data.Nat.Digits.Defs
import PhantomMonitor.Misc.Numeral
import PhantomMonitor.Plugins.PluginUtils

/-!
# The NVML plugin

`mf_NVML_connector.c`: seven metrics of each GPU device, read through NVML.

NVML is the environment: what its calls find at the initialization, and for each device at a sample.
A call that fails finds `none`. Floating-point arithmetic is exact.
-/

namespace PhantomMonitor

open CText

/-- `NVML_metrics` (`mf_NVML_connector.c:32-36`), in their order. -/
def nvmlMetrics : List CText :=
  ["gpu_usage_rate".toList, "mem_usage_rate".toList, "mem_allocated".toList,
    "PCIe_snd_throughput".toList, "PCIe_rcv_throughput".toList, "temperature".toList,
    "power".toList]

/-- What `mf_NVML_init` meets: whether `nvmlInit` succeeds, the devices that are counted, and
whether there is a handle for each of them. -/
structure NvmlHost where
  libraryOk : Bool
  deviceCount : Option (BitVec 32)
  handleOk : Nat → Bool

/-- What a sample finds for one device. -/
structure NvmlReading where
  utilization : Option (Nat × Nat)
  memory : Option (Nat × Nat)
  pcieSnd : Option Nat
  pcieRcv : Option Nat
  temperature : Option Nat
  power : Option Nat

/-- `events_are_all_not_valid` (`mf_NVML_connector.c:225-248`). -/
def nvmlEventsAreAllNotValid (events : List CText) : Bool :=
  (events.flatMap fun event => nvmlMetrics.filter fun metric => event = metric).length = 0

/-- `GPU%d:%s`. -/
def gpuEventName (i : Nat) (metric : CText) : CText :=
  "GPU".toList ++ Nat.toDigits 10 i ++ ':' :: metric

/-- The names of one device (`mf_NVML_connector.c:74-78`). -/
def nameDevice (acc : PluginMetrics × Nat) (i : Nat) : Except Fault (PluginMetrics × Nat) :=
  nvmlMetrics.foldlM (fun (data, k) metric => do
    let data ← data.setEvent k (gpuEventName i metric)
    return (data, k + 1)) acc

/-- `mf_NVML_init` (`mf_NVML_connector.c:53-94`), with `devices_count` after it. -/
def mfNVMLInit (host : NvmlHost) (data : PluginMetrics) (events : List CText)
    (devicesCount : BitVec 32) : Except Fault (Int × PluginMetrics × BitVec 32) :=
  if nvmlEventsAreAllNotValid events then .ok (0, data, devicesCount)
  else if host.libraryOk = false then .ok (0, data, devicesCount)
  else
    match host.deviceCount with
    | none => .ok (0, data, devicesCount)
    | some devicesCount => do
        let devices := List.range devicesCount.toNat
        let (data, k) ← devices.foldlM nameDevice (data, 0)
        let data := { data with numEvents := k }
        if devices.all host.handleOk then return (1, data, devicesCount)
        else return (0, data, devicesCount)

/-- The values of a device, in the order of the metrics; `-1` where a call failed
(`mf_NVML_connector.c:105-167`). -/
def deviceValues (r : NvmlReading) : List Rat :=
  let rate := fun (found : Option Nat) => (found.map fun n => (n : Rat)).getD (-1)
  [rate (r.utilization.map Prod.fst), rate (r.utilization.map Prod.snd),
    (r.memory.map fun (used, total) => (used : Rat) * 100 / total).getD (-1),
    (r.pcieSnd.map fun bytes => (bytes : Rat) / (1 / 50)).getD (-1),
    (r.pcieRcv.map fun bytes => (bytes : Rat) / (1 / 50)).getD (-1),
    rate r.temperature, rate r.power]

/-- The values of one device are stored from `j` on (`mf_NVML_connector.c:104-169`). -/
def sampleDevice (readings : Nat → NvmlReading) (acc : PluginMetrics × Nat) (i : Nat) :
    Except Fault (PluginMetrics × Nat) :=
  (deviceValues (readings i)).foldlM (fun (data, j) value => do
    let data ← data.setValue j value
    return (data, j + 1)) acc

/-- `mf_NVML_sample` (`mf_NVML_connector.c:100-172`). -/
def mfNVMLSample (data : PluginMetrics) (readings : Nat → NvmlReading) (devicesCount : BitVec 32) :
    Except Fault (Int × PluginMetrics) := do
  let (data, _) ← (List.range devicesCount.toNat).foldlM (sampleDevice readings) (data, 0)
  return (1, data)

/-- The tables after successive samples. -/
def nvmlRun (devicesCount : BitVec 32) :
    PluginMetrics → List (Nat → NvmlReading) → Except Fault PluginMetrics
  | data, [] => .ok data
  | data, readings :: rest => do
      let (_, data) ← mfNVMLSample data readings devicesCount
      nvmlRun devicesCount data rest

/-! ## The JSON text -/

/-- `strstr (name, ":")` and one further; without a colon there is no such place
(`mf_NVML_connector.c:200-201`). -/
def subPart (name : CText) : Except Fault CText :=
  match name.dropWhile (· ≠ ':') with
  | [] => .error .outOfBounds
  | _ :: rest => .ok rest

/-- The turn of the inner loop for an event of the request and an index of the table
(`mf_NVML_connector.c:198-205`). -/
def nvmlJsonEntry (data : PluginMetrics) (event : CText) (ii : Nat) :
    Except Fault (Option (CText × Rat)) := do
  match ← data.getEvent ii with
  | none => .error .outOfBounds
  | some name => do
      let part ← subPart name
      return if event = part ∧ 0 ≤ data.values ii then some (name, data.values ii) else none

/-- The metrics of the text. -/
def nvmlJsonEntries (data : PluginMetrics) (events : List CText) :
    Except Fault (List (CText × Rat)) := do
  let found ← events.mapM fun event => (List.range data.numEvents).mapM (nvmlJsonEntry data event)
  return found.flatten.filterMap id

/-- `mf_NVML_to_json` (`mf_NVML_connector.c:179-208`) when the clock shows `ts` milliseconds. -/
def mfNVMLToJson (data : PluginMetrics) (events : List CText) (ts : Rat) : Except Fault CText := do
  let entries ← nvmlJsonEntries data events
  return metricsText "NVML".toList ts entries

end PhantomMonitor
