import Mathlib.Data.Rat.Defs
import PhantomMonitor.Misc.FloatValue

/-!
# Plugin metrics

`Plugin_metrics` of `plugin_utils.h`, the table of event names and values that every plugin
fills. The table comes from `malloc`, so its entries hold anything before they are written; an
index past the arrays is a fault. Most plugins store numbers alone, which are exact rationals;
Linux_sys_power also stores what a division by zero gives.
-/

namespace PhantomMonitor

open CText

/-- `MAX_EVENTS_NUMBER` (`plugin_utils.h:19`). -/
def maxEventsNumber : Nat := 32

/-- `MAX_EVENTS_LEN` (`plugin_utils.h:20`). -/
def maxEventsLen : Nat := 32

/-- `Plugin_metrics` (`plugin_utils.h:28-33`), for values of some type. An event is `none` where the
pointer is NULL. -/
structure PluginTable (V : Type) where
  events : Nat → Option CText
  values : Nat → V
  numEvents : Nat

/-- A table of numbers. -/
abbrev PluginMetrics := PluginTable Rat

/-- A table of NULL names and zeros. -/
def PluginMetrics.blank : PluginMetrics := ⟨fun _ => none, fun _ => 0, 0⟩

namespace PluginTable

variable {V : Type}

/-- `data->events[k] = malloc (MAX_EVENTS_LEN)` and the `sprintf` of a name into it. -/
def setEvent (data : PluginTable V) (k : Nat) (name : CText) : Except Fault (PluginTable V) :=
  if k < maxEventsNumber then do
    let name ← store maxEventsLen name
    return { data with events := Function.update data.events k (some name) }
  else .error .outOfBounds

/-- The read of `data->events[k]`. -/
def getEvent (data : PluginTable V) (k : Nat) : Except Fault (Option CText) :=
  if k < maxEventsNumber then .ok (data.events k) else .error .outOfBounds

/-- `data->values[k] = value`. -/
def setValue (data : PluginTable V) (k : Nat) (value : V) : Except Fault (PluginTable V) :=
  if k < maxEventsNumber then .ok { data with values := Function.update data.values k value }
  else .error .outOfBounds

theorem setEvent_eq_ok {data data' : PluginTable V} {k : Nat} {name : CText} :
    data.setEvent k name = .ok data' ↔ k < maxEventsNumber ∧ name.length < maxEventsLen ∧
      data' = { data with events := Function.update data.events k (some name) } := by
  unfold setEvent
  by_cases hk : k < maxEventsNumber
  · rw [if_pos hk, store_bind]
    by_cases hname : name.length < maxEventsLen
    · rw [if_pos hname]
      simp [hk, hname, pure, Except.pure, eq_comm]
    · rw [if_neg hname]
      simp [hname]
  · rw [if_neg hk]
    simp [hk]

theorem setEvent_ok {data : PluginTable V} {k : Nat} {name : CText} (hk : k < maxEventsNumber)
    (hname : name.length < maxEventsLen) :
    data.setEvent k name =
      .ok { data with events := Function.update data.events k (some name) } :=
  setEvent_eq_ok.mpr ⟨hk, hname, rfl⟩

theorem getEvent_ok {data : PluginTable V} {k : Nat} (hk : k < maxEventsNumber) :
    data.getEvent k = .ok (data.events k) := if_pos hk

end PluginTable

/-! ## Metrics by flags

Linux_resources and Linux_sys_power keep one bit for each metric that is asked for, and name the
metrics of the bits that are set.
-/

section

variable {μ V : Type}

/-- `flag_init` (`mf_Linux_resources_connector.c:238-262`, `mf_Linux_sys_power_connector.c:352-376`)
for a table of metrics: the bits after it and its value. -/
def flagInit (table : List μ) (name : μ → CText) (flag : μ → Bool) (events : List CText) :
    (μ → Bool) × Nat :=
  let flag := events.foldl (fun flag event m => flag m || event == name m) flag
  if table.any flag then (flag, 1) else (flag, 0)

/-- The name of a metric at the next index of the table, when it is to be there. -/
def nameMetric (present : Bool) (name : CText) (table : PluginTable V × Nat) :
    PluginTable V × Nat :=
  if present then
    ({ table.1 with events := Function.update table.1.events table.2 (some name) }, table.2 + 1)
  else table

/-- The bits that a list of names sets. -/
theorem foldl_flag (name : μ → CText) (flag : μ → Bool) (events : List CText) (m : μ) :
    events.foldl (fun flag event m => flag m || event == name m) flag m =
      (flag m || events.any fun event => event == name m) := by
  induction events generalizing flag with
  | nil => exact (Bool.or_false _).symm
  | cons event events ih => rw [List.foldl_cons, ih, List.any_cons, Bool.or_assoc]

/-- A metric that is named gets its bit, and the initialization succeeds. -/
theorem flagInit_of_mem {table : List μ} {name : μ → CText} (flag : μ → Bool)
    {events : List CText} {m : μ} (known : m ∈ table) (asked : name m ∈ events) :
    (flagInit table name flag events).1 m = true ∧ (flagInit table name flag events).2 = 1 := by
  have any : (events.any fun event => event == name m) = true :=
    List.any_eq_true.mpr ⟨name m, asked, beq_self_eq_true _⟩
  have set : events.foldl (fun flag event m => flag m || event == name m) flag m = true := by
    rw [foldl_flag, any, Bool.or_true]
  unfold flagInit
  dsimp only
  rw [if_pos (List.any_eq_true.mpr ⟨m, known, set⟩)]
  exact ⟨set, rfl⟩

/-- A list of names without a known one leaves the bits unset, and the initialization fails. -/
theorem flagInit_of_notMem {table : List μ} {name : μ → CText} {events : List CText}
    (unknown : ∀ m, name m ∉ events) :
    flagInit table name (fun _ => false) events = (fun _ => false, 0) := by
  have unset : events.foldl (fun flag event m => flag m || event == name m) (fun _ => false) =
      fun _ : μ => false := by
    funext m
    rw [foldl_flag, Bool.false_or, List.any_eq_false]
    intro event member same
    exact unknown m (eq_of_beq same ▸ member)
  unfold flagInit
  dsimp only
  rw [unset, if_neg]
  simp

end

/-! ## The JSON text

Every plugin writes its type, a time in milliseconds and the metrics that it shows. Most of them
either go through their table or look for the requested names in it.
-/

/-- `JSON_MAX_LEN` (`plugin_utils.h:21`). -/
def jsonMaxLen : Nat := 1024

/-- The text of a sample whose values are printed in some way. -/
def metricsTextWith {V : Type} (print : V → CText) (type : CText) (ts : Rat)
    (entries : List (CText × V)) : CText :=
  "\"type\":\"".toList ++ type ++ "\",\"local_timestamp\":\"".toList ++ fixed 1 ts ++ ['"'] ++
    entries.flatMap fun entry => ",\"".toList ++ entry.1 ++ "\":".toList ++ print entry.2

/-- The text of a sample of numbers. -/
def metricsText (type : CText) (ts : Rat) (entries : List (CText × Rat)) : CText :=
  metricsTextWith (fixed 3) type ts entries

/-- Numbers as values. -/
def numbers (entries : List (CText × Rat)) : List (CText × FloatValue) :=
  entries.map fun entry => (entry.1, .num entry.2)

theorem metricsText_numbers (type : CText) (ts : Rat) (entries : List (CText × Rat)) :
    metricsText type ts entries =
      metricsTextWith (FloatValue.fixed 3) type ts (numbers entries) := by
  unfold metricsText metricsTextWith numbers
  simp only [List.flatMap_map, FloatValue.fixed]

/-- The turn of a loop over the table: an entry whose value is to be shown. -/
def tableEntry (shows : Rat → Bool) (data : PluginMetrics) (i : Nat) :
    Except Fault (Option (CText × Rat)) :=
  if i < maxEventsNumber then
    if shows (data.values i) then
      match data.events i with
      | none => .error .outOfBounds
      | some name => .ok (some (name, data.values i))
    else .ok none
  else .error .outOfBounds

/-- The metrics that a loop over the table shows. -/
def tableEntries (shows : Rat → Bool) (data : PluginMetrics) :
    Except Fault (List (CText × Rat)) := do
  let found ← (List.range data.numEvents).mapM (tableEntry shows data)
  return found.filterMap id

/-- The turn of the inner loop for an event of the request and an index of the table. -/
def requestedEntry (shows : CText → CText → Rat → Bool) (data : PluginMetrics) (event : CText)
    (ii : Nat) : Except Fault (Option (CText × Rat)) := do
  match ← data.getEvent ii with
  | none => .error .outOfBounds
  | some name =>
      return if shows event name (data.values ii) then some (name, data.values ii) else none

/-- The metrics that a loop over the request and the table shows. -/
def requestedEntries (shows : CText → CText → Rat → Bool) (data : PluginMetrics)
    (events : List CText) : Except Fault (List (CText × Rat)) := do
  let found ← events.mapM fun event =>
    (List.range data.numEvents).mapM (requestedEntry shows data event)
  return found.flatten.filterMap id

/-! ## What a text reports -/

section

variable {κ V : Type} {name : κ → CText} {shown : κ → V → Prop}

/-- The entries of a text are those that are to be shown, each once and under its own name. -/
structure Reports (name : κ → CText) (shown : κ → V → Prop) (entries : List (CText × V)) :
    Prop where
  once : (entries.map Prod.fst).Nodup
  exactly : ∀ entry, entry ∈ entries ↔ ∃ key value, shown key value ∧ entry = (name key, value)

/-- A pass over distinct keys that takes an entry for each key that has one. -/
theorem reports_filterMap (inj : ∀ {key key'}, name key = name key' → key = key') {keys : List κ}
    (distinct : keys.Nodup) {f : κ → Option (CText × V)}
    (each : ∀ key ∈ keys, ∀ entry,
      f key = some entry ↔ ∃ value, shown key value ∧ entry = (name key, value))
    (all : ∀ key value, shown key value → key ∈ keys) : Reports name shown (keys.filterMap f) where
  once := by
    rw [List.Nodup, List.pairwise_map, List.pairwise_filterMap]
    refine distinct.imp_of_mem ?_
    intro key key' member member' differ entry some entry' some' same
    obtain ⟨value, -, rfl⟩ := (each key member entry).mp some
    obtain ⟨value', -, rfl⟩ := (each key' member' entry').mp some'
    exact differ (inj same)
  exactly := by
    intro entry
    rw [List.mem_filterMap]
    constructor
    · rintro ⟨key, member, some⟩
      obtain ⟨value, shows, rfl⟩ := (each key member entry).mp some
      exact ⟨key, value, shows, rfl⟩
    · rintro ⟨key, value, shows, rfl⟩
      have member := all key value shows
      exact ⟨key, member, (each key member _).mpr ⟨value, shows, rfl⟩⟩

end

end PhantomMonitor
