import PhantomMonitor.Misc.Json
import PhantomMonitor.Plugins.PluginHooks

/-!
# What a plugin writes can be read

The names in the table of a plugin are made of plain characters, from its initialization on. So the
text of every sample is a list of JSON fields: the type, the time and the metrics that are shown.
-/

namespace PhantomMonitor

open CText Json

/-! ## The text -/

/-- What a value is as JSON, if it is a number: it is shown with three places. -/
def FloatValue.json : FloatValue → Option Json
  | .num q => some (.num (Decimal.rounded 3 q))
  | .inf _ | .nan => none

theorem FloatValue.shows_json (value : FloatValue) : Shows (value.fixed 3) value.json := by
  cases value with
  | num q => exact denotes_fixed (by decide) q
  | inf negative => cases negative <;> exact refused_notNumber (by decide)
  | nan => exact refused_notNumber (by decide)

/-- The field of a metric. -/
def metricField (entry : CText × FloatValue) : Field :=
  ⟨entry.1, entry.2.fixed 3, entry.2.json⟩

/-- The fields of a sample. -/
def metricsFields (type : CText) (ts : Rat) (entries : List (CText × FloatValue)) : List Field :=
  .string "type".toList type :: .string "local_timestamp".toList (fixed 1 ts) ::
    entries.map metricField

theorem plain_type : Plain "type".toList := plain_of_all (by decide)

theorem plain_local_timestamp : Plain "local_timestamp".toList := plain_of_all (by decide)

theorem metricsFields_fit {type : CText} (plainType : Plain type) (ts : Rat)
    {entries : List (CText × FloatValue)} (plain : ∀ entry ∈ entries, Plain entry.1) :
    ∀ f ∈ metricsFields type ts entries, f.Fits := by
  have metrics : ∀ f ∈ entries.map metricField, f.Fits := by
    intro f member
    obtain ⟨entry, inside, rfl⟩ := List.mem_map.mp member
    exact ⟨plain entry inside, entry.2.shows_json⟩
  exact List.forall_mem_cons.mpr ⟨Field.string_fits plain_type plainType, List.forall_mem_cons.mpr
    ⟨Field.string_fits plain_local_timestamp (plain_fixed 1 ts), metrics⟩⟩

/-- The text of a sample is that of its fields. -/
theorem metricsText_fields (type : CText) (ts : Rat) (entries : List (CText × FloatValue)) :
    metricsTextWith (FloatValue.fixed 3) type ts entries =
      fieldsText [] (metricsFields type ts entries) := by
  have front : "\"type\":\"".toList = '"' :: ("type".toList ++ ['"', ':', '"']) := by decide
  have middle : "\",\"local_timestamp\":\"".toList =
      '"' :: ',' :: '"' :: ("local_timestamp".toList ++ ['"', ':', '"']) := by decide
  have comma : ",\"".toList = [',', '"'] := by decide
  have colon : "\":".toList = ['"', ':'] := by decide
  rw [metricsFields, fieldsText_cons_flatMap]
  unfold metricsTextWith
  simp only [front, middle, comma, colon, Field.string, Field.written, metricField,
    List.flatMap_cons, List.flatMap_map, List.append_assoc, List.cons_append, List.nil_append]

/-! ## The names in a table -/

/-- The first names are made of plain characters. -/
def PlainUpTo (events : Nat → Option CText) (n : Nat) : Prop :=
  ∀ k < n, ∀ name, events k = some name → Plain name

/-- The names of a table are made of plain characters. -/
def PlainTable {V : Type} (data : PluginTable V) : Prop := PlainUpTo data.events data.numEvents

theorem plainUpTo_zero (events : Nat → Option CText) : PlainUpTo events 0 :=
  fun _ none => absurd none (Nat.not_lt_zero _)

theorem PlainUpTo.push {events : Nat → Option CText} {n : Nat} (h : PlainUpTo events n)
    {name : CText} (plain : Plain name) :
    PlainUpTo (Function.update events n (some name)) (n + 1) := by
  intro k hk name' held
  by_cases last : k = n
  · rw [last, Function.update_self, Option.some.injEq] at held
    exact held ▸ plain
  · rw [Function.update_of_ne last] at held
    exact h k (by omega) name' held

/-- One more name in the table. -/
theorem PlainUpTo.setEvent {data data' : PluginMetrics} {k : Nat} {name : CText}
    (h : PlainUpTo data.events k) (plain : Plain name) (run : data.setEvent k name = .ok data') :
    PlainUpTo data'.events (k + 1) := by
  obtain ⟨-, -, rfl⟩ := PluginTable.setEvent_eq_ok.mp run
  exact h.push plain

/-- A stored value leaves the names alone. -/
theorem PlainTable.setValue {data data' : PluginMetrics} {k : Nat} {value : Rat}
    (h : PlainTable data) (run : data.setValue k value = .ok data') : PlainTable data' := by
  unfold PluginTable.setValue at run
  split at run
  · cases run
    exact h
  · cases run

/-! ## The entries of a text -/

/-- What a loop over the table shows is in the table. -/
theorem tableEntries_plain {data : PluginMetrics} (h : PlainTable data) {shows : Rat → Bool}
    {entries : List (CText × Rat)} (run : tableEntries shows data = .ok entries) :
    ∀ entry ∈ entries, Plain entry.1 := by
  obtain ⟨found, each, run⟩ := Fault.bind_eq_ok.mp run
  cases run
  intro entry member
  obtain ⟨_, inside, rfl⟩ := List.mem_filterMap.mp member
  obtain ⟨k, low, turn⟩ := Fault.mem_of_mapM each inside
  unfold tableEntry at turn
  split at turn
  · split at turn
    · cases name : data.events k with
      | none =>
          rw [name] at turn
          cases turn
      | some name' =>
          rw [name] at turn
          cases turn
          exact h k (List.mem_range.mp low) name' name
    · cases turn
  · cases turn

/-- What a loop over the request and the table shows is in the table. -/
theorem requestedEntries_plain {data : PluginMetrics} (h : PlainTable data)
    {shows : CText → CText → Rat → Bool} {events : List CText} {entries : List (CText × Rat)}
    (run : requestedEntries shows data events = .ok entries) :
    ∀ entry ∈ entries, Plain entry.1 := by
  obtain ⟨found, each, run⟩ := Fault.bind_eq_ok.mp run
  cases run
  intro entry member
  obtain ⟨_, inside, rfl⟩ := List.mem_filterMap.mp member
  obtain ⟨row, hrow, inside⟩ := List.mem_flatten.mp inside
  obtain ⟨event, -, turns⟩ := Fault.mem_of_mapM each hrow
  obtain ⟨k, low, turn⟩ := Fault.mem_of_mapM turns inside
  obtain ⟨held, read, turn⟩ := Fault.bind_eq_ok.mp turn
  unfold PluginTable.getEvent at read
  split at read
  · injection read with name
    cases held with
    | none => cases turn
    | some name' =>
        dsimp only at turn
        split at turn
        · cases turn
          exact h k (List.mem_range.mp low) name' name
        · cases turn
  · cases read

theorem nvmlJsonEntries_plain {data : PluginMetrics} (h : PlainTable data) {events : List CText}
    {entries : List (CText × Rat)} (run : nvmlJsonEntries data events = .ok entries) :
    ∀ entry ∈ entries, Plain entry.1 := by
  obtain ⟨found, each, run⟩ := Fault.bind_eq_ok.mp run
  cases run
  intro entry member
  obtain ⟨_, inside, rfl⟩ := List.mem_filterMap.mp member
  obtain ⟨row, hrow, inside⟩ := List.mem_flatten.mp inside
  obtain ⟨event, -, turns⟩ := Fault.mem_of_mapM each hrow
  obtain ⟨k, low, turn⟩ := Fault.mem_of_mapM turns inside
  obtain ⟨held, read, turn⟩ := Fault.bind_eq_ok.mp turn
  unfold PluginTable.getEvent at read
  split at read
  · injection read with name
    cases held with
    | none => cases turn
    | some name' =>
        obtain ⟨part, -, turn⟩ := Fault.bind_eq_ok.mp turn
        split at turn
        · cases turn
          exact h k (List.mem_range.mp low) name' name
        · cases turn
  · cases read

theorem filterMap_plain {V : Type} {data : PluginTable V} (h : PlainTable data)
    {shows : Nat → Option (CText × V)}
    (each : ∀ k entry, shows k = some entry → data.events k = some entry.1) :
    ∀ entry ∈ (List.range data.numEvents).filterMap shows, Plain entry.1 := by
  intro entry member
  obtain ⟨k, low, shown⟩ := List.mem_filterMap.mp member
  exact h k (List.mem_range.mp low) entry.1 (each k entry shown)

theorem resourcesJsonEntries_plain {data : PluginMetrics} (h : PlainTable data) :
    ∀ entry ∈ resourcesJsonEntries data, Plain entry.1 := by
  refine filterMap_plain h ?_
  intro k entry shown
  unfold resourcesJsonEntry at shown
  cases name : data.events k with
  | none =>
      rw [name] at shown
      cases shown
  | some name' =>
      rw [name] at shown
      dsimp only at shown
      split at shown
      · cases shown
        rfl
      · cases shown

theorem powerJsonEntries_plain {data : PowerMetrics} (h : PlainTable data)
    (flag : PowerMetric → Bool) : ∀ entry ∈ powerJsonEntries data flag, Plain entry.1 := by
  refine filterMap_plain h ?_
  intro k entry shown
  unfold powerJsonEntry at shown
  cases name : data.events k with
  | none =>
      rw [name] at shown
      cases shown
  | some name' =>
      rw [name] at shown
      dsimp only at shown
      split at shown
      · cases shown
      · split at shown
        · cases shown
          rfl
        · cases shown

/-! ## The names that the plugins make -/

theorem plain_gpuEventName (i : Nat) {metric : CText} (plain : Plain metric) :
    Plain (gpuEventName i metric) := by
  have gpu : Plain "GPU".toList := plain_of_all (by decide)
  have colon : Plain [':'] := plain_of_all rfl
  exact (gpu.append (plain_toDigits i)).append (colon.append plain)

theorem plain_nvmlMetrics : ∀ metric ∈ nvmlMetrics, Plain metric := by
  have all : (nvmlMetrics.all fun metric => metric.all isPlain) = true := by decide
  intro metric member
  exact plain_of_all (List.all_eq_true.mp all metric member)

theorem plain_eventName (d : RaplDomain) (j : Nat) : Plain (d.eventName j) := by
  have package : Plain "package".toList := plain_of_all (by decide)
  have metric : Plain d.metric := by cases d <;> exact plain_of_all (by decide)
  have colon : Plain [':'] := plain_of_all rfl
  exact (package.append (plain_toDigits j)).append (colon.append metric)

theorem plain_coreEventName (i : Nat) (e : PapiEvent) : Plain (coreEventName i e) := by
  have core : Plain "core".toList := plain_of_all (by decide)
  have metric : Plain e.metric := by cases e <;> exact plain_of_all (by decide)
  have colon : Plain [':'] := plain_of_all rfl
  have zero : Plain ['0'] := plain_of_all rfl
  have digits : Plain (twoDigits i) := by
    unfold twoDigits
    split
    · exact zero.append (plain_toDigits i)
    · exact plain_toDigits i
  exact (core.append digits).append (colon.append metric)

theorem plain_channelName (d : Nat) {quantity : CText} (plain : Plain quantity) :
    Plain (channelName d quantity) := by
  have device : Plain "device".toList := plain_of_all (by decide)
  have colon : Plain [':'] := plain_of_all rfl
  exact (device.append (plain_toDigits d)).append (colon.append plain)

theorem plain_channelLabel (d : Nat) (id : CText) {label : CText} (plain : Plain label) :
    Plain (channelLabel d id label) := by
  unfold channelLabel
  split
  · exact plain_channelName d (plain_of_all (by decide))
  · split
    · exact plain_channelName d (plain_of_all (by decide))
    · split
      · exact plain_channelName d (plain_of_all (by decide))
      · split
        · exact plain_channelName d (plain_of_all (by decide))
        · exact plain

end PhantomMonitor
