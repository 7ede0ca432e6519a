import PhantomMonitor.Agent.Timings
import PhantomMonitor.Plugins.BoardPower
import PhantomMonitor.Plugins.CPUPerf
import PhantomMonitor.Plugins.CPUTemperature
import PhantomMonitor.Plugins.LinuxResources
import PhantomMonitor.Plugins.LinuxSysPower
import PhantomMonitor.Plugins.NVML
import PhantomMonitor.Plugins.RAPLPower

/-!
# The plugins as the agent calls them

The files `mf_plugin_*.c` wrap a connector each: the init function hands it the metrics that the
configuration has switched on, and the hook takes a sample and returns its JSON text. They differ in
the values that some of them read from the configuration and in the functions that they call.
-/

namespace PhantomMonitor

open CText

/-- A connector. `Value` is the type of the values in its table, `Found` is what its initialization
meets and `Reading` what one call of the hook meets; beside the table it has the variables of its
file. A function that ends the program or never returns gives `none`. -/
structure Connector (H : HashTable CText) where
  pluginName : CText
  Param : Type
  Vars : Type
  Value : Type
  Found : Type
  Reading : Type
  param : ParserState H → Except Fault Param
  init : Param → List CText → Found → PluginTable Value × Vars →
    Except Fault (Option (Int × PluginTable Value × Vars))
  sample : Param → Reading → PluginTable Value × Vars →
    Except Fault (Option (Int × PluginTable Value × Vars))
  toJson : List CText → Reading → PluginTable Value × Vars → Except Fault CText
  type : CText
  ts : Reading → PluginTable Value × Vars → Rat
  entries : List CText → PluginTable Value × Vars → Except Fault (List (CText × FloatValue))
  shown (events : List CText) (r : Reading) (s : PluginTable Value × Vars) :
    toJson events r s =
      (entries events s).map (metricsTextWith (FloatValue.fixed 3) type (ts r s))

/-- The size of `acme_name` (`mf_plugin_Board_power.c`). -/
def acmeNameSize : Nat := 16

/-- The size of `str_num_cores` (`mf_plugin_CPU_perf.c`). -/
def strNumCoresSize : Nat := 10

section

variable {H : HashTable CText}

/-- The variables of `mf_plugin_*.c`. -/
structure PluginVars (c : Connector H) where
  confData : List CText
  param : c.Param
  monitoringData : PluginTable c.Value × c.Vars
  isInitialized : Bool

/-- `init_mf_plugin_*`; `conf` is the memory for `conf_data`. The hook is registered when the value
is not 0. -/
def initMfPlugin (c : Connector H) (st : ParserState H) (conf : MfpData) (found : c.Found)
    (vars : PluginVars c) : Except Fault (Option (Int × PluginVars c)) := do
  let conf ← mfpGetDataFilteredByValue st c.pluginName conf (some "on".toList)
  let events := (List.range conf.size).map conf.keys
  let param ← c.param st
  match ← c.init param events found vars.monitoringData with
  | none => return none
  | some (ret, monitoringData) =>
      let vars := { vars with confData := events, param, monitoringData }
      if ret = 0 then return some (ret, vars)
      else return some (ret, { vars with isInitialized := true })

/-- `mf_plugin_*_hook`. The value of the sampler is not looked at. -/
def mfPluginHook (c : Connector H) (r : c.Reading) (vars : PluginVars c) :
    Except Fault (Option (Option CText × PluginVars c)) :=
  if vars.isInitialized then do
    match ← c.sample vars.param r vars.monitoringData with
    | none => return none
    | some (_, monitoringData) =>
        let json ← c.toJson vars.confData r monitoringData
        let json ← store jsonMaxLen json
        return some (some json, { vars with monitoringData })
  else .ok (some (none, vars))

/-- The variables after some calls of the hook, with what each call returned. -/
def hookRun (c : Connector H) (readings : Nat → c.Reading) (vars : PluginVars c) :
    Nat → Except Fault (Option (List (Option CText) × PluginVars c))
  | 0 => .ok (some ([], vars))
  | k + 1 => do
      match ← hookRun c readings vars k with
      | none => return none
      | some (results, vars) =>
          match ← mfPluginHook c (readings k) vars with
          | none => return none
          | some (result, vars) => return some (results ++ [result], vars)

end

/-! ## The seven plugins -/

/-- The text of numbers. -/
theorem map_metricsText (type : CText) (ts : Rat)
    (entries : Except Fault (List (CText × Rat))) :
    entries.map (metricsText type ts) =
      (entries.map numbers).map (metricsTextWith (FloatValue.fixed 3) type ts) := by
  cases entries with
  | error fault => rfl
  | ok entries => exact congrArg Except.ok (metricsText_numbers type ts entries)

/-- The entries of `mf_RAPL_power_to_json`. -/
def raplJsonEntries (data : PluginMetrics) : Except Fault (List (CText × Rat)) :=
  tableEntries (fun value => decide (0 ≤ value)) data

/-- The entries of `mf_CPU_perf_to_json`. -/
def cpuPerfJsonEntries (data : PluginMetrics) (events : List CText) :
    Except Fault (List (CText × Rat)) :=
  requestedEntries (fun event name value => hasSubstr name event && decide (0 < value)) data events

/-- The entries of `mf_Board_power_to_json`. -/
def boardJsonEntries (data : PluginMetrics) (events : List CText) :
    Except Fault (List (CText × Rat)) :=
  requestedEntries (fun event name _ => decide (event = name)) data events

/-- The entries of `mf_CPU_temperature_to_json`. -/
def temperatureJsonEntries (data : PluginMetrics) : Except Fault (List (CText × Rat)) :=
  tableEntries (fun _ => true) data

section

variable (H : HashTable CText)

/-- `mf_plugin_Board_power.c`: the name of the board is read from the configuration. -/
def boardPowerConnector : Connector H where
  pluginName := "mf_plugin_Board_power".toList
  Param := CText
  Vars := BoardState
  Value := Rat
  Found := CText → IioHost
  Reading := BoardReading × Rat
  param st := readConfig acmeNameSize st "mf_plugin_Board_power".toList "ACME_BOARD_NAME".toList
  init acmeName events found s := mfBoardPowerInit (found acmeName) s.1 events s.2
  sample _ r s := (mfBoardPowerSample s.1 r.1 s.2).map some
  toJson events r s := mfBoardPowerToJson s.1 events r.2
  type := "Board_power".toList
  ts r _ := r.2
  entries events s := (boardJsonEntries s.1 events).map numbers
  shown events r s := map_metricsText _ r.2 (boardJsonEntries s.1 events)

/-- `mf_plugin_CPU_perf.c`: the number of cores is read from the configuration, and both functions
of the connector get it. -/
def cpuPerfConnector : Connector H where
  pluginName := "mf_plugin_CPU_perf".toList
  Param := Int
  Vars := PerfState
  Value := Rat
  Found := PerfHost
  Reading := PerfReading × Rat
  param st :=
    (readConfig strNumCoresSize st "mf_plugin_CPU_perf".toList "MAX_CPU_CORES".toList).map atoi
  init numCores events found s := (mfCPUPerfInit found s.1 events numCores s.2).map some
  sample numCores r s := (mfCPUPerfSample s.1 numCores r.1 s.2).map some
  toJson events r s := mfCPUPerfToJson s.1 events r.2
  type := "CPU_perf".toList
  ts r _ := r.2
  entries events s := (cpuPerfJsonEntries s.1 events).map numbers
  shown events r s := map_metricsText _ r.2 (cpuPerfJsonEntries s.1 events)

/-- `mf_plugin_CPU_temperature.c`. -/
def cpuTemperatureConnector : Connector H where
  pluginName := "mf_plugin_CPU_temperature".toList
  Param := Unit
  Vars := FeaturesList
  Value := Rat
  Found := SensorsHost
  Reading := TemperatureReading
  param _ := .ok ()
  init _ events found s := (mfCPUTemperatureInit found s.1 events s.2).map some
  sample _ r s := (mfCPUTemperatureSample s.1 r s.2).map fun out => some (out.1, out.2, s.2)
  toJson _ r s := mfCPUTemperatureToJson s.1 r.ts
  type := "CPU_temperature".toList
  ts r _ := r.ts
  entries _ s := (temperatureJsonEntries s.1).map numbers
  shown _ r s := map_metricsText _ r.ts (temperatureJsonEntries s.1)

/-- `mf_plugin_Linux_resources.c`. -/
def linuxResourcesConnector : Connector H where
  pluginName := "mf_plugin_Linux_resources".toList
  Param := Unit
  Vars := ResourcesState
  Value := Rat
  Found := ResourcesReading
  Reading := ResourcesReading
  param _ := .ok ()
  init _ events found s :=
    let out := mfLinuxResourcesInit s.1 events found s.2
    .ok (some (out.1, out.2))
  sample _ r s := .ok (some (1, mfLinuxResourcesSample s.1 r s.2))
  toJson _ _ s := .ok (mfLinuxResourcesToJson s.1 s.2)
  type := "Linux_resources".toList
  ts _ s := s.2.afterTime * 1000
  entries _ s := .ok (numbers (resourcesJsonEntries s.1))
  shown _ _ s := map_metricsText _ (s.2.afterTime * 1000) (.ok (resourcesJsonEntries s.1))

/-- `mf_plugin_Linux_sys_power.c`. -/
def linuxSysPowerConnector : Connector H where
  pluginName := "mf_plugin_Linux_sys_power".toList
  Param := Unit
  Vars := PowerState
  Value := FloatValue
  Found := Int × PowerReading
  Reading := PowerReading
  param _ := .ok ()
  init _ events found s :=
    (mfLinuxSysPowerInit s.1 events found.1 found.2 s.2).map fun out => some (out.1, out.2)
  sample _ r s := .ok (some (1, mfLinuxSysPowerSample s.1 r s.2))
  toJson _ _ s := .ok (mfLinuxSysPowerToJson s.1 s.2)
  type := "Linux_sys_power".toList
  ts _ s := s.2.afterTime * 1000
  entries _ s := .ok (powerJsonEntries s.1 s.2.flag)
  shown _ _ _ := rfl

/-- `mf_plugin_NVML.c`. -/
def nvmlConnector : Connector H where
  pluginName := "mf_plugin_NVML".toList
  Param := Unit
  Vars := BitVec 32
  Value := Rat
  Found := NvmlHost
  Reading := (Nat → NvmlReading) × Rat
  param _ := .ok ()
  init _ events found s := (mfNVMLInit found s.1 events s.2).map some
  sample _ r s := (mfNVMLSample s.1 r.1 s.2).map fun out => some (out.1, out.2, s.2)
  toJson events r s := mfNVMLToJson s.1 events r.2
  type := "NVML".toList
  ts r _ := r.2
  entries events s := (nvmlJsonEntries s.1 events).map numbers
  shown events r s := map_metricsText _ r.2 (nvmlJsonEntries s.1 events)

/-- `mf_plugin_RAPL_power.c`. -/
def raplPowerConnector : Connector H where
  pluginName := "mf_plugin_RAPL_power".toList
  Param := Unit
  Vars := RaplState
  Value := Rat
  Found := RaplHost × RaplReading
  Reading := RaplReading
  param _ := .ok ()
  init _ events found s := (mfRAPLPowerInit found.1 s.1 events found.2 s.2).map some
  sample _ r s := mfRAPLPowerSample s.1 r s.2
  toJson _ _ s := mfRAPLPowerToJson s.1 s.2
  type := "RAPL_power".toList
  ts _ s := s.2.afterTime * 1000
  entries _ s := (raplJsonEntries s.1).map numbers
  shown _ _ s := map_metricsText _ (s.2.afterTime * 1000) (raplJsonEntries s.1)

end

/-- The plugins of the repository. -/
inductive AgentPlugin where
  | boardPower
  | cpuPerf
  | cpuTemperature
  | linuxResources
  | linuxSysPower
  | nvml
  | raplPower
  deriving DecidableEq, Repr

/-- The connector behind a plugin. -/
def AgentPlugin.connector (H : HashTable CText) : AgentPlugin → Connector H
  | boardPower => boardPowerConnector H
  | cpuPerf => cpuPerfConnector H
  | cpuTemperature => cpuTemperatureConnector H
  | linuxResources => linuxResourcesConnector H
  | linuxSysPower => linuxSysPowerConnector H
  | nvml => nvmlConnector H
  | raplPower => raplPowerConnector H

end PhantomMonitor
