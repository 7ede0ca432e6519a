import Mathlib.Data.List.ProdSigma
import Mathlib.Tactic.Positivity
import PhantomMonitor.Misc.Table
import PhantomMonitor.Plugins.Proofs.EventBounds

/-!
# What NVML reports

The table has seven names for each device, and a sample stores seven values for each device, one for
each query, with -1 for a query that failed. So the text of a sample has the results of the queries
that succeeded, under the names of their device and metric.
-/

namespace PhantomMonitor

open CText

/-! ## Queries -/

/-- The seven metrics. -/
inductive NvmlMetric where
  | gpuUsage
  | memUsage
  | memAllocated
  | pcieSnd
  | pcieRcv
  | temperature
  | power
  deriving DecidableEq, Repr

namespace NvmlMetric

def all : List NvmlMetric :=
  [gpuUsage, memUsage, memAllocated, pcieSnd, pcieRcv, temperature, power]

def name : NvmlMetric → CText
  | gpuUsage => "gpu_usage_rate".toList
  | memUsage => "mem_usage_rate".toList
  | memAllocated => "mem_allocated".toList
  | pcieSnd => "PCIe_snd_throughput".toList
  | pcieRcv => "PCIe_rcv_throughput".toList
  | temperature => "temperature".toList
  | power => "power".toList

/-- The result of the query behind a metric: percent, bytes per second, degrees, milliwatts. -/
def query (r : NvmlReading) : NvmlMetric → Option Rat
  | gpuUsage => r.utilization.map fun found => (found.1 : Rat)
  | memUsage => r.utilization.map fun found => (found.2 : Rat)
  | memAllocated => r.memory.map fun found => (found.1 : Rat) * 100 / found.2
  | pcieSnd => r.pcieSnd.map fun (bytes : Nat) => (bytes : Rat) / (1 / 50)
  | pcieRcv => r.pcieRcv.map fun (bytes : Nat) => (bytes : Rat) / (1 / 50)
  | temperature => r.temperature.map fun (degrees : Nat) => (degrees : Rat)
  | power => r.power.map fun (milliwatts : Nat) => (milliwatts : Rat)

theorem mem_all (m : NvmlMetric) : m ∈ all := by cases m <;> decide

theorem all_nodup : all.Nodup := by decide

theorem map_name : all.map name = nvmlMetrics := rfl

theorem name_inj {m m' : NvmlMetric} (h : m.name = m'.name) : m = m' := by
  revert h
  cases m <;> cases m' <;> decide +kernel

theorem colon_notMem (m : NvmlMetric) : ':' ∉ m.name := by cases m <;> decide +kernel

theorem query_nonneg {r : NvmlReading} {m : NvmlMetric} {value : Rat}
    (found : m.query r = some value) : 0 ≤ value := by
  cases m <;> obtain ⟨_, -, rfl⟩ := Option.map_eq_some_iff.mp found <;> positivity

theorem map_query (r : NvmlReading) : deviceValues r = all.map fun m => (m.query r).getD (-1) := by
  have cast : ∀ found : Option Nat, (do let n ← found; return (n : Rat)) = found.map Nat.cast := by
    intro found
    cases found <;> rfl
  simp only [deviceValues, all, List.map_cons, List.map_nil, query, cast, Option.map_map]
  rfl

end NvmlMetric

/-! ## The table -/

/-- A device and a metric. -/
abbrev NvmlKey := Nat × NvmlMetric

/-- The keys of the table, in its order. -/
def nvmlKeys (n : Nat) : List NvmlKey := List.range n ×ˢ NvmlMetric.all

/-- The name under which a key is reported. -/
def nvmlName (key : NvmlKey) : CText := gpuEventName key.1 key.2.name

/-- The value that is stored for a key. -/
def nvmlStored (readings : Nat → NvmlReading) (key : NvmlKey) : Rat :=
  (key.2.query (readings key.1)).getD (-1)

theorem nvmlKeys_nodup (n : Nat) : (nvmlKeys n).Nodup :=
  List.nodup_range.product NvmlMetric.all_nodup

theorem mem_nvmlKeys {n : Nat} {key : NvmlKey} : key ∈ nvmlKeys n ↔ key.1 < n := by
  obtain ⟨d, m⟩ := key
  rw [nvmlKeys, List.mem_product, List.mem_range]
  exact and_iff_left m.mem_all

theorem nvmlKeys_length (n : Nat) : (nvmlKeys n).length = 7 * n := by
  rw [nvmlKeys, List.length_product, List.length_range, Nat.mul_comm]
  rfl

theorem nvmlName_eq (key : NvmlKey) :
    nvmlName key = ("GPU".toList ++ Nat.toDigits 10 key.1) ++ ':' :: key.2.name := rfl

theorem colon_notMem_front (d : Nat) : ':' ∉ "GPU".toList ++ Nat.toDigits 10 d := by
  rw [List.mem_append, not_or]
  exact ⟨by decide, notMem_toDigits d (by decide)⟩

/-- A name tells the device and the metric. -/
theorem nvmlName_inj {key key' : NvmlKey} (h : nvmlName key = nvmlName key') : key = key' := by
  rw [nvmlName_eq, nvmlName_eq] at h
  have halves := (List.append_cons_inj_of_notMem (colon_notMem_front key.1)
    key.2.colon_notMem).mp h
  refine Prod.ext ?_ (NvmlMetric.name_inj halves.2.2)
  exact toDigits_inj (List.append_cancel_left halves.1)

theorem subPart_nvmlName (key : NvmlKey) : subPart (nvmlName key) = .ok key.2.name := by
  have front := colon_notMem_front key.1
  have kept : ∀ c ∈ "GPU".toList ++ Nat.toDigits 10 key.1, decide (c ≠ ':') = true := by
    intro c member
    refine decide_eq_true ?_
    rintro rfl
    exact front member
  rw [nvmlName_eq, subPart, List.dropWhile_append_of_pos kept]
  rfl

/-- Names that are stored one after another extend the list in the table. -/
theorem storeNames_tabulates {names : List CText}
    (short : ∀ name ∈ names, name.length < maxEventsLen)
    {data : PluginMetrics} {front : List (Option CText)} (h : Tabulates data.events front)
    (room : front.length + names.length ≤ maxEventsNumber) :
    ∃ data', names.foldlM storeName (data, front.length) =
        .ok (data', front.length + names.length) ∧
      Tabulates data'.events (front ++ names.map some) := by
  have step : ∀ name ∈ names, ∀ (data : PluginMetrics) (k : Nat), True → k < maxEventsNumber →
      ∃ data', storeName (data, k) name = .ok (data', k + 1) ∧ True ∧
        data'.events = Function.update data.events k (some name) := by
    intro name member data k _ inside
    refine ⟨{ data with events := Function.update data.events k (some name) }, ?_, trivial, rfl⟩
    simp only [storeName]
    rw [PluginTable.setEvent_ok inside (short name member)]
    rfl
  obtain ⟨data', run, -, table⟩ := Tabulates.foldlM step trivial h room
  exact ⟨data', run, table⟩

/-- Values that are stored one after another extend the list in the table. -/
theorem storeValues_tabulates {values : List Rat} {data : PluginMetrics} {front : List Rat}
    (h : Tabulates data.values front) (room : front.length + values.length ≤ maxEventsNumber) :
    ∃ data', values.foldlM storeValue (data, front.length) =
        .ok (data', front.length + values.length) ∧
      data'.events = data.events ∧ data'.numEvents = data.numEvents ∧
      Tabulates data'.values (front ++ values) := by
  have step : ∀ value ∈ values, ∀ (data₁ : PluginMetrics) (k : Nat),
      data₁.events = data.events ∧ data₁.numEvents = data.numEvents → k < maxEventsNumber →
      ∃ data', storeValue (data₁, k) value = .ok (data', k + 1) ∧
        (data'.events = data.events ∧ data'.numEvents = data.numEvents) ∧
        data'.values = Function.update data₁.values k (id value) := by
    intro value _ data₁ k kept inside
    refine ⟨{ data₁ with values := Function.update data₁.values k value }, ?_, kept, rfl⟩
    simp only [storeValue, PluginTable.setValue]
    rw [if_pos inside]
    rfl
  obtain ⟨data', run, ⟨events, count⟩, table⟩ := Tabulates.foldlM step ⟨rfl, rfl⟩ h room
  rw [List.map_id] at table
  exact ⟨data', run, events, count, table⟩

/-- The table between two samples: a name for each key. -/
structure NvmlNamed (n : Nat) (data : PluginMetrics) : Prop where
  count : data.numEvents = 7 * n
  names : Tabulates data.events ((nvmlKeys n).map fun key => some (nvmlName key))

/-- The loops over devices and metrics as one loop over the keys. -/
theorem foldlM_devices {β : Type} (store : PluginMetrics × Nat → β →
      Except Fault (PluginMetrics × Nat)) (f : NvmlKey → β) (devices : List Nat)
    (acc : PluginMetrics × Nat) :
    devices.foldlM (fun acc d => (NvmlMetric.all.map fun m => f (d, m)).foldlM store acc) acc =
      ((devices ×ˢ NvmlMetric.all).map f).foldlM store acc := by
  induction devices generalizing acc with
  | nil => rfl
  | cons d devices ih =>
      rw [List.product_cons, List.map_append, List.foldlM_append, List.foldlM_cons, List.map_map]
      exact bind_congr fun acc => ih acc

theorem nameDevices_named {n : Nat} (hn : 7 * n ≤ maxEventsNumber) (short : n ≤ 4)
    (data : PluginMetrics) :
    ∃ data', (List.range n).foldlM nameDevice (data, 0) = .ok (data', 7 * n) ∧
      NvmlNamed n { data' with numEvents := 7 * n } := by
  have names : ∀ name ∈ (nvmlKeys n).map nvmlName, name.length < maxEventsLen := by
    intro name member
    obtain ⟨⟨d, m⟩, inside, rfl⟩ := List.mem_map.mp member
    have hd : d < n := mem_nvmlKeys.mp inside
    refine gpuEventName_length (by omega) ?_
    rw [← NvmlMetric.map_name]
    exact List.mem_map_of_mem m.mem_all
  obtain ⟨data', run, table⟩ := storeNames_tabulates names (tabulates_nil data.events)
    (by rw [List.length_map, nvmlKeys_length]; simpa using hn)
  rw [List.nil_append, List.map_map] at table
  refine ⟨data', ?_, rfl, table⟩
  have flat := foldlM_devices storeName nvmlName (List.range n) (data, 0)
  rw [List.length_map, nvmlKeys_length, List.length_nil, Nat.zero_add, nvmlKeys, ← flat] at run
  exact run

theorem sampleDevice_eq (readings : Nat → NvmlReading) (acc : PluginMetrics × Nat) (d : Nat) :
    sampleDevice readings acc d =
      (NvmlMetric.all.map fun m => nvmlStored readings (d, m)).foldlM storeValue acc := by
  unfold sampleDevice
  rw [NvmlMetric.map_query]
  rfl

/-- A sample stores the result of each query, or -1, under its key. -/
theorem nvmlSample_named {n : BitVec 32} (hn : 7 * n.toNat ≤ maxEventsNumber) {data : PluginMetrics}
    (h : NvmlNamed n.toNat data) (readings : Nat → NvmlReading) :
    ∃ data', mfNVMLSample data readings n = .ok (1, data') ∧ NvmlNamed n.toNat data' ∧
      Tabulates data'.values ((nvmlKeys n.toNat).map (nvmlStored readings)) := by
  obtain ⟨data', run, events, count, values⟩ :=
    @storeValues_tabulates ((nvmlKeys n.toNat).map (nvmlStored readings)) data []
      (tabulates_nil data.values) (by rw [List.length_map, nvmlKeys_length]; simpa using hn)
  refine ⟨data', ?_, ⟨count.trans h.count, events ▸ h.names⟩, values⟩
  have flat := foldlM_devices storeValue (nvmlStored readings) (List.range n.toNat) (data, 0)
  have devices : (List.range n.toNat).foldlM (sampleDevice readings) (data, 0) =
      .ok (data', 7 * n.toNat) := by
    rw [List.length_map, nvmlKeys_length, List.length_nil, Nat.zero_add, nvmlKeys, ← flat] at run
    rw [← run]
    congr 1
    funext acc d
    exact sampleDevice_eq readings acc d
  rw [mfNVMLSample, devices]
  rfl

theorem nvmlRun_named {n : BitVec 32} (hn : 7 * n.toNat ≤ maxEventsNumber)
    (rs : List (Nat → NvmlReading)) {data : PluginMetrics} (h : NvmlNamed n.toNat data) :
    ∃ data', nvmlRun n data rs = .ok data' ∧ NvmlNamed n.toNat data' := by
  induction rs generalizing data with
  | nil => exact ⟨data, rfl, h⟩
  | cons readings rs ih =>
      obtain ⟨data₁, sample, named, -⟩ := nvmlSample_named hn h readings
      obtain ⟨data', rest, last⟩ := ih named
      exact ⟨data', by simp only [nvmlRun, sample, bind, Except.bind, rest], last⟩

/-! ## The text -/

/-- What a key adds to the text for an event of the request. -/
def nvmlKeyEntry (readings : Nat → NvmlReading) (event : CText) (key : NvmlKey) :
    Option (CText × Rat) :=
  if event = key.2.name ∧ 0 ≤ nvmlStored readings key then
    some (nvmlName key, nvmlStored readings key)
  else none

/-- The inner loop goes over the keys. -/
theorem nvmlJsonEntry_keys {n : Nat} (hn : 7 * n ≤ maxEventsNumber) {data : PluginMetrics}
    {readings : Nat → NvmlReading} (h : NvmlNamed n data)
    (values : Tabulates data.values ((nvmlKeys n).map (nvmlStored readings))) (event : CText) :
    (List.range data.numEvents).mapM (nvmlJsonEntry data event) =
      .ok ((nvmlKeys n).map (nvmlKeyEntry readings event)) := by
  have entries : Tabulates (nvmlJsonEntry data event)
      ((nvmlKeys n).map fun key => .ok (nvmlKeyEntry readings event key)) := by
    intro k entry hk
    rw [List.getElem?_map, Option.map_eq_some_iff] at hk
    obtain ⟨key, hkey, rfl⟩ := hk
    obtain ⟨inside, -⟩ := List.getElem?_eq_some_iff.mp hkey
    rw [nvmlKeys_length] at inside
    have name := h.names k (some (nvmlName key)) (by simp [hkey])
    have value := values k (nvmlStored readings key) (by simp [hkey])
    rw [nvmlJsonEntry, PluginTable.getEvent_ok (by omega), name, value]
    simp only [bind, Except.bind, subPart_nvmlName]
    rfl
  have all := entries.map_range
  rw [List.length_map, nvmlKeys_length, ← h.count] at all
  calc (List.range data.numEvents).mapM (nvmlJsonEntry data event)
      = ((List.range data.numEvents).map (nvmlJsonEntry data event)).mapM id := by
        rw [List.mapM_map]
        rfl
    _ = (nvmlKeys n).mapM fun key => .ok (nvmlKeyEntry readings event key) := by
        rw [all, List.mapM_map]
        rfl
    _ = .ok ((nvmlKeys n).map (nvmlKeyEntry readings event)) := Fault.mapM_ok fun _ _ => rfl

/-- The keys that are looked at with success, in the order of the text. -/
def selectedKeys (n : Nat) (events : List CText) : List NvmlKey :=
  events.flatMap fun event => (nvmlKeys n).filter fun key => event = key.2.name

theorem mem_selectedKeys {n : Nat} {events : List CText} {key : NvmlKey} :
    key ∈ selectedKeys n events ↔ key.1 < n ∧ key.2.name ∈ events := by
  simp only [selectedKeys, List.mem_flatMap, List.mem_filter, mem_nvmlKeys, decide_eq_true_eq]
  constructor
  · rintro ⟨_, asked, inside, rfl⟩
    exact ⟨inside, asked⟩
  · rintro ⟨inside, asked⟩
    exact ⟨_, asked, inside, rfl⟩

theorem selectedKeys_nodup (n : Nat) {events : List CText} (distinct : events.Nodup) :
    (selectedKeys n events).Nodup := by
  refine List.nodup_flatMap.mpr ⟨fun event _ => (nvmlKeys_nodup n).filter _, ?_⟩
  refine distinct.imp ?_
  intro event event' differ key member member'
  have own := (List.mem_filter.mp member).2
  have own' := (List.mem_filter.mp member').2
  simp only [decide_eq_true_eq] at own own'
  exact differ (own.trans own'.symm)

/-- The text is made by one pass over the selected keys. -/
theorem nvmlJsonEntries_selected {n : Nat} (hn : 7 * n ≤ maxEventsNumber) {data : PluginMetrics}
    {readings : Nat → NvmlReading} (h : NvmlNamed n data)
    (values : Tabulates data.values ((nvmlKeys n).map (nvmlStored readings)))
    (events : List CText) :
    nvmlJsonEntries data events =
      .ok ((selectedKeys n events).filterMap fun key =>
        if 0 ≤ nvmlStored readings key then some (nvmlName key, nvmlStored readings key)
        else none) := by
  have found : events.mapM (fun event =>
        (List.range data.numEvents).mapM (nvmlJsonEntry data event)) =
      .ok (events.map fun event => (nvmlKeys n).map (nvmlKeyEntry readings event)) :=
    Fault.mapM_ok fun event _ => nvmlJsonEntry_keys hn h values event
  rw [nvmlJsonEntries, found]
  simp only [bind, Except.bind, pure, Except.pure, Except.ok.injEq]
  rw [← List.flatMap_def, List.filterMap_flatMap, selectedKeys, List.filterMap_flatMap]
  congr 1
  funext event
  rw [List.filterMap_map, List.filterMap_filter]
  congr 1
  funext key
  by_cases same : event = key.2.name
  · simp [nvmlKeyEntry, same]
  · simp [nvmlKeyEntry, same]

theorem nvmlStored_nonneg_iff (readings : Nat → NvmlReading) (key : NvmlKey) (value : Rat) :
    key.2.query (readings key.1) = some value ↔
      0 ≤ nvmlStored readings key ∧ nvmlStored readings key = value := by
  unfold nvmlStored
  cases result : key.2.query (readings key.1) with
  | none => simp
  | some found =>
      have positive := NvmlMetric.query_nonneg result
      simp [positive]

/-- The text of a sample: an entry for each requested metric of each device whose query succeeded,
with the result of that query. -/
def NvmlReport (n : Nat) (events : List CText) (readings : Nat → NvmlReading) (ts : Rat)
    (text : CText) : Prop :=
  ∃ entries,
    text = "\"type\":\"NVML\"".toList ++ ",\"local_timestamp\":\"".toList ++ fixed 1 ts ++ ['"'] ++
      (entries.flatMap fun entry => ",\"".toList ++ entry.1 ++ "\":".toList ++ fixed 3 entry.2) ∧
    Reports nvmlName
      (fun key value => key.1 < n ∧ key.2.name ∈ events ∧
        key.2.query (readings key.1) = some value) entries

theorem nvmlToJson_reports {n : Nat} (hn : 7 * n ≤ maxEventsNumber) {data : PluginMetrics}
    {readings : Nat → NvmlReading} (h : NvmlNamed n data)
    (values : Tabulates data.values ((nvmlKeys n).map (nvmlStored readings)))
    {events : List CText} (distinct : events.Nodup) (ts : Rat) :
    ∃ text, mfNVMLToJson data events ts = .ok text ∧ NvmlReport n events readings ts text := by
  rw [mfNVMLToJson, nvmlJsonEntries_selected hn h values]
  refine ⟨_, rfl, _, rfl, ?_⟩
  refine reports_filterMap nvmlName_inj (selectedKeys_nodup n distinct) ?_ ?_
  · intro key selected entry
    obtain ⟨inside, asked⟩ := mem_selectedKeys.mp selected
    simp only [nvmlStored_nonneg_iff, inside, asked, true_and]
    split
    · simp [*, eq_comm]
    · simp [*]
  · rintro key value ⟨inside, asked, -⟩
    exact mem_selectedKeys.mpr ⟨inside, asked⟩

/-- NVML starts, and after each sample of any run its text has the results of this sample's queries
that succeeded, for the requested metrics of all devices, and nothing else. The results are not
rounded to floats. -/
theorem nvmlRun_reports {host : NvmlHost} {events : List CText} {n : BitVec 32}
    (starts : NvmlStarts host events n) (distinct : events.Nodup)
    (fits : 7 * n.toNat ≤ maxEventsNumber) (data : PluginMetrics) :
    ∃ data₀, mfNVMLInit host data events 0 = .ok (1, data₀, n) ∧
      ∀ (earlier : List (Nat → NvmlReading)) (readings : Nat → NvmlReading) (ts : Rat),
        ∃ data₁ data₂ text, nvmlRun n data₀ earlier = .ok data₁ ∧
          mfNVMLSample data₁ readings n = .ok (1, data₂) ∧
          mfNVMLToJson data₂ events ts = .ok text ∧
          NvmlReport n.toNat events readings ts text := by
  have few : n.toNat ≤ 4 := by
    rw [maxEventsNumber] at fits
    omega
  obtain ⟨data', names, named⟩ := nameDevices_named fits few data
  refine ⟨{ data' with numEvents := 7 * n.toNat }, ?_, ?_⟩
  · unfold mfNVMLInit
    simp only [starts.valid, starts.library, starts.count, names, starts.handles, bind, Except.bind]
    rfl
  · intro earlier readings ts
    obtain ⟨data₁, run, named₁⟩ := nvmlRun_named fits earlier named
    obtain ⟨data₂, sample, named₂, values⟩ := nvmlSample_named fits named₁ readings
    obtain ⟨text, json, report⟩ := nvmlToJson_reports fits named₂ values distinct ts
    exact ⟨data₁, data₂, text, run, sample, json, report⟩

theorem nvmlRun_reports_power :
    ∃ data₀, mfNVMLInit (gpuHost 2) .blank ["power".toList] 0 = .ok (1, data₀, 2) ∧
      ∀ (earlier : List (Nat → NvmlReading)) (readings : Nat → NvmlReading) (ts : Rat),
        ∃ data₁ data₂ text, nvmlRun 2 data₀ earlier = .ok data₁ ∧
          mfNVMLSample data₁ readings 2 = .ok (1, data₂) ∧
          mfNVMLToJson data₂ ["power".toList] ts = .ok text ∧
          NvmlReport 2 ["power".toList] readings ts text :=
  nvmlRun_reports (gpuHost_starts 2) (List.nodup_singleton _) (by decide) .blank

end PhantomMonitor
