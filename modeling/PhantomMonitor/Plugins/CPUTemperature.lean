import PhantomMonitor.Plugins.PluginUtils

/-!
# The CPU temperature plugin

`mf_CPU_temperature_connector.c`: the initialization looks for the cores of the `coretemp` chips
among the requested events, and a sample reads one sensor for each event. libsensors is given by the
chips that it detects, with their features and subfeatures in the order of its iterators.
-/

namespace PhantomMonitor

open CText

/-- `sensors_subfeature`: its number, and whether its type is `SENSORS_SUBFEATURE_TEMP_INPUT`. -/
structure SensorsSubfeature where
  number : Nat
  tempInput : Bool
  deriving DecidableEq, Repr

/-- `sensors_feature`: whether its type is `SENSORS_FEATURE_TEMP`, and its label. -/
structure SensorsFeature where
  temp : Bool
  label : CText
  subfeatures : List SensorsSubfeature
  deriving DecidableEq, Repr

/-- `sensors_chip_name`. -/
structure SensorsChip where
  chipPrefix : CText
  features : List SensorsFeature
  deriving DecidableEq, Repr

/-- What the initialization meets: the value of `sensors_init`, and the chips that are detected. -/
structure SensorsHost where
  retval : Int
  chips : List SensorsChip

/-- A sensor: the index of its chip, and the number of its subfeature. -/
abbrev Sensor := Nat × Nat

/-- `features_list`. An entry is `none` where nothing was stored. -/
abbrev FeaturesList := Nat → Option Sensor

/-- The variables of the initialization. -/
structure TemperatureSetup where
  data : PluginMetrics
  featuresList : FeaturesList
  eventI : Nat

/-- The size of `chipnum` (`mf_CPU_temperature_connector.c:76`). -/
def chipnumSize : Nat := 2

/-- The size of `corenum` (`mf_CPU_temperature_connector.c:110`). -/
def corenumSize : Nat := 3

/-- The size of `my_label` (`mf_CPU_temperature_connector.c:114`). -/
def myLabelSize : Nat := 16

/-- `strncpy (dst, label + skip, strlen (label) - skip)` into an array of the given size whose other
bytes are NUL. The copy itself ends without one. -/
def copyBehind (size skip : Nat) (dst label : CText) : Except Fault CText :=
  if label.length < skip then .error .outOfBounds
  else if (label.drop skip).length ≤ size then
    .ok (label.drop skip ++ dst.drop (label.drop skip).length)
  else .error .overflow

/-- An array of the given size, read as a string: a NUL has to be in it. -/
def readArray (size : Nat) (text : CText) : Except Fault CText :=
  if text.length < size then .ok text else .error .outOfBounds

/-- `chipnum` after the features of a chip (`mf_CPU_temperature_connector.c:76-88`). -/
def chipNumber (features : List SensorsFeature) : Except Fault CText :=
  features.foldlM (fun chipnum feature =>
    if feature.temp && "Physical id".toList.isPrefixOf feature.label then
      copyBehind chipnumSize 12 chipnum feature.label
    else .ok chipnum) []

/-- `my_label` (`mf_CPU_temperature_connector.c:110-115`). -/
def coreLabel (chipnum label : CText) : Except Fault CText := do
  let corenum ← copyBehind corenumSize 5 [] label
  let chip ← readArray chipnumSize chipnum
  let core ← readArray corenumSize corenum
  store myLabelSize ("CPU".toList ++ chip ++ ":core".toList ++ core)

/-- The entries of an event (`mf_CPU_temperature_connector.c:129-133`). -/
def addSensor (sensor : Sensor) (name : CText) (s : TemperatureSetup) :
    Except Fault TemperatureSetup := do
  let data ← s.data.setEvent s.eventI name
  return ⟨data, Function.update s.featuresList s.eventI (some sensor), s.eventI + 1⟩

/-- The loop over the subfeatures (`mf_CPU_temperature_connector.c:100-136`), which the first event
ends. -/
def initSubfeatures (events : List CText) (chipnum : CText) (chip : Nat) (label : CText) :
    List SensorsSubfeature → TemperatureSetup → Except Fault TemperatureSetup
  | [], s => .ok s
  | subfeature :: rest, s =>
      if subfeature.tempInput && "Core".toList.isPrefixOf label then do
        let myLabel ← coreLabel chipnum label
        if myLabel ∈ events then addSensor (chip, subfeature.number) myLabel s
        else initSubfeatures events chipnum chip label rest s
      else initSubfeatures events chipnum chip label rest s

/-- The body of the loop over the chips (`mf_CPU_temperature_connector.c:70-138`). -/
def initChip (events : List CText) (s : TemperatureSetup) (chip : SensorsChip × Nat) :
    Except Fault TemperatureSetup :=
  if chip.1.chipPrefix = "coretemp".toList then do
    let chipnum ← chipNumber chip.1.features
    chip.1.features.foldlM (fun s feature =>
      if feature.temp then
        initSubfeatures events chipnum chip.2 feature.label feature.subfeatures s
      else .ok s) s
  else .ok s

/-- `mf_CPU_temperature_init` (`mf_CPU_temperature_connector.c:53-148`). -/
def mfCPUTemperatureInit (host : SensorsHost) (data : PluginMetrics) (events : List CText)
    (featuresList : FeaturesList) : Except Fault (Int × PluginMetrics × FeaturesList) :=
  if host.retval ≠ 0 then .ok (0, data, featuresList)
  else do
    let s ← host.chips.zipIdx.foldlM (initChip events) ⟨data, fun _ => none, 0⟩
    if s.eventI = 0 then return (0, s.data, s.featuresList)
    else return (1, { s.data with numEvents := s.eventI }, s.featuresList)

/-! ## Sampling -/

/-- What a sample meets: the sensors that can be read, what `value` holds at first, and the clock of
the text in milliseconds. -/
structure TemperatureReading where
  sensors : Sensor → Option Rat
  value : Rat
  ts : Rat

/-- The body of the loop (`mf_CPU_temperature_connector.c:159-160`), with `value`: a sensor that
cannot be read leaves it as it is. -/
def sampleSensor (r : TemperatureReading) (featuresList : FeaturesList)
    (acc : PluginMetrics × Rat) (i : Nat) : Except Fault (PluginMetrics × Rat) :=
  match featuresList i with
  | none => .error .outOfBounds
  | some sensor => do
      let value := (r.sensors sensor).getD acc.2
      let data ← acc.1.setValue i value
      return (data, value)

/-- `mf_CPU_temperature_sample` (`mf_CPU_temperature_connector.c:154-164`). -/
def mfCPUTemperatureSample (data : PluginMetrics) (r : TemperatureReading)
    (featuresList : FeaturesList) : Except Fault (Int × PluginMetrics) := do
  let (data, _) ← (List.range data.numEvents).foldlM (sampleSensor r featuresList) (data, r.value)
  return (1, data)

/-- `mf_CPU_temperature_to_json` (`mf_CPU_temperature_connector.c:171-192`). -/
def mfCPUTemperatureToJson (data : PluginMetrics) (ts : Rat) : Except Fault CText := do
  let entries ← tableEntries (fun _ => true) data
  return metricsText "CPU_temperature".toList ts entries

end PhantomMonitor
