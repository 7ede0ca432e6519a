import Mathlib.Tactic.NormNum
import PhantomMonitor.Plugins.Proofs.CPUPerfTable

/-!
# When the names and values of CPU_perf agree

Init names the available events of each core it set up, and the sampler stores three values for each
core of the configuration. So the two walks agree when no core was cut off, PAPI has taken every
named event into the set of its core and, with more than one core, all three events are there.
-/

namespace PhantomMonitor

open CText

/-! ## What a sample stores -/

/-- The rate of a count over a duration in nanoseconds. -/
def eventRate (count duration : Int) : Rat := (count : Rat) * 1000 / duration

theorem eventRate_inj {x y duration : Int} (some : duration ≠ 0)
    (same : eventRate x duration = eventRate y duration) : x = y := by
  have some' : (duration : Rat) ≠ 0 := Int.cast_ne_zero.mpr some
  rw [eventRate, eventRate, div_left_inj' some'] at same
  have counts := mul_right_cancel₀ (by norm_num) same
  exact_mod_cast counts

/-- The slot `ii` after `PAPI_read` of an event set. -/
theorem papiRead_apply (counters : PapiEvent → Int) (set : List PapiEvent) (slots : Nat → Int)
    (ii : Nat) :
    papiRead counters set slots ii =
      match set[ii]? with
      | none => slots ii
      | some e => counters e := rfl

/-- The table with the values of one core from `jj` on. -/
def coreValues (slots : Nat → Int) (duration : Int) (data : PluginMetrics) (jj : Nat) :
    PluginMetrics :=
  { data with
    values := fun k =>
      if jj ≤ k ∧ k < jj + 3 then eventRate (slots (k - jj)) duration else data.values k }

theorem storeSlots_eq (slots : Nat → Int) (duration : Int) (data : PluginMetrics) (jj : Nat) :
    storeSlots slots duration data jj =
      if jj + 3 ≤ maxEventsNumber then
        .ok (coreValues slots duration data jj, jj + 3)
      else .error .outOfBounds := by
  have three : List.range papiEventsNum = [0, 1, 2] := rfl
  unfold storeSlots
  simp only [three, List.foldlM_cons, List.foldlM_nil, PluginTable.setValue, bind, Except.bind,
    pure, Except.pure]
  by_cases room : jj + 3 ≤ maxEventsNumber
  · rw [if_pos room, if_pos (by omega)]
    simp only
    rw [if_pos (by omega)]
    simp only
    rw [if_pos (by omega)]
    simp only [coreValues, Except.ok.injEq, Prod.mk.injEq, PluginTable.mk.injEq, true_and,
      and_true]
    funext k
    by_cases last : k = jj + 1 + 1
    · subst last
      have two : jj + 1 + 1 - jj = 2 := by omega
      rw [Function.update_self, if_pos (by omega), two]
      rfl
    rw [Function.update_of_ne last]
    by_cases second : k = jj + 1
    · subst second
      simp [eventRate]
    rw [Function.update_of_ne second]
    by_cases first : k = jj
    · subst first
      simp [eventRate]
    rw [Function.update_of_ne first, if_neg (by omega)]
  · rw [if_neg room]
    by_cases first : jj < maxEventsNumber
    · rw [if_pos first]
      simp only
      by_cases second : jj + 1 < maxEventsNumber
      · rw [if_pos second]
        simp only
        rw [if_neg (by omega)]
      · rw [if_neg second]
    · rw [if_neg first]

section

variable {counters counters' : Nat → PapiEvent → Int} {sets : Nat → List PapiEvent} {i n : Nat}

/-- The local array when `n` cores have been read, from core `i` on: a slot that no set fills keeps
what it held. -/
def readSlots (counters : Nat → PapiEvent → Int) (sets : Nat → List PapiEvent) (slots : Nat → Int)
    (i : Nat) : Nat → Nat → Int
  | 0 => slots
  | n + 1 => papiRead (counters (i + n)) (sets (i + n)) (readSlots counters sets slots i n)

theorem readSlots_first (slots : Nat → Int) :
    readSlots counters sets slots i (n + 1) =
      readSlots counters sets (papiRead (counters i) (sets i) slots) (i + 1) n := by
  induction n with
  | zero => rfl
  | succ n ih =>
      have core : i + 1 + n = i + (n + 1) := by omega
      rw [readSlots, ih, readSlots, core]

/-- Only the cores that are read matter. -/
theorem readSlots_congr (same : ∀ j, i ≤ j → counters j = counters' j) (slots : Nat → Int) :
    readSlots counters sets slots i n = readSlots counters' sets slots i n := by
  induction n with
  | zero => rfl
  | succ n ih => rw [readSlots, readSlots, ih, same (i + n) (Nat.le_add_right i n)]

theorem readSlots_zero (zero : ∀ j < n, ∀ e, counters (i + j) e = 0) (ii : Nat) :
    readSlots counters sets (fun _ => 0) i n ii = 0 := by
  induction n with
  | zero => rfl
  | succ n ih =>
      rw [readSlots, papiRead_apply]
      cases (sets (i + n))[ii]? with
      | none => exact ih fun j hj => zero j (Nat.lt_succ_of_lt hj)
      | some e => exact zero n (Nat.lt_succ_self n) e

/-- Only one event of one core has counted. -/
def loneCount (i : Nat) (e : PapiEvent) (count : Int) : Nat → PapiEvent → Int :=
  fun j e' => if j = i ∧ e' = e then count else 0

/-- Where a slot has that count, its core was read last, and the event stands there in its set. -/
theorem readSlots_loneCount {e : PapiEvent} {count : Int} (counted : count ≠ 0) {ii : Nat}
    (early : n ≤ i)
    (found : readSlots (loneCount i e count) sets (fun _ => 0) 0 (n + 1) ii = count) :
    n = i ∧ (sets i)[ii]? = some e := by
  have before : ∀ m ≤ i, readSlots (loneCount i e count) sets (fun _ => 0) 0 m ii = 0 := by
    intro m earlier
    refine readSlots_zero (fun j hj e' => if_neg fun same => ?_) ii
    omega
  have last : n = i := by
    by_contra other
    rw [before (n + 1) (by omega)] at found
    exact counted found.symm
  subst last
  refine ⟨rfl, ?_⟩
  rw [readSlots, papiRead_apply, Nat.zero_add] at found
  cases slot : (sets n)[ii]? with
  | none =>
      rw [slot, before n le_rfl] at found
      exact absurd found.symm counted
  | some e' =>
      rw [slot] at found
      by_contra other
      have differ : ¬ (n = n ∧ e' = e) := fun same => other (congrArg some same.2)
      exact counted (found.symm.trans (if_neg differ))

end

/-- With a set for each core and room for its three values, the loop stores all of them. -/
theorem sampleCores_ok {readOk : Nat → Bool} (hread : ∀ i, readOk i = true) (duration : Int)
    {c m i : Nat} {sets : Nat → List PapiEvent} (data : PluginMetrics) (slots : Nat → Int)
    (st : PerfState) (hsets : st.eventSets = (List.range c).map sets) (cores : i + m ≤ c)
    (room : 3 * (i + m) ≤ maxEventsNumber) :
    ∃ data' st', sampleCores readOk duration (List.range' i m) data (3 * i) slots st =
        .ok (true, data', st') ∧
      data'.events = data.events ∧ data'.numEvents = data.numEvents ∧
      ∀ k, data'.values k =
        if 3 * i ≤ k ∧ k < 3 * (i + m) then
          eventRate (readSlots st.counters sets slots i (k / 3 - i + 1) (k % 3)) duration
        else data.values k := by
  induction m generalizing i data slots st with
  | zero =>
      refine ⟨data, st, rfl, rfl, rfl, fun k => ?_⟩
      rw [if_neg (by omega)]
  | succ m ih =>
      have here : st.eventSets[i]? = some (sets i) := by
        rw [hsets, List.getElem?_map, List.getElem?_range (by omega)]
        rfl
      simp only [List.range'_succ, sampleCores, here, hread, if_true, storeSlots_eq]
      rw [if_pos (by omega)]
      obtain ⟨data', st', hrun, hevents, htotal, hvalues⟩ :=
        @ih (i + 1) (coreValues (papiRead (st.counters i) (sets i) slots) duration data (3 * i))
          (papiRead (st.counters i) (sets i) slots)
          { st with counters := Function.update st.counters i fun _ => 0 } hsets
          (by omega) (by omega)
      refine ⟨data', st', hrun, hevents, htotal, ?_⟩
      intro k
      rw [hvalues k]
      by_cases later : 3 * (i + 1) ≤ k ∧ k < 3 * (i + 1 + m)
      · rw [if_pos later, if_pos (by omega)]
        have behind : k / 3 - i + 1 = k / 3 - (i + 1) + 1 + 1 := by omega
        have untouched : ∀ j, i + 1 ≤ j →
            Function.update st.counters i (fun _ => 0) j = st.counters j :=
          fun j hj => Function.update_of_ne (by omega) _ _
        rw [behind, readSlots_first (n := k / 3 - (i + 1) + 1), readSlots_congr untouched]
      · rw [if_neg later]
        simp only [coreValues]
        by_cases now : 3 * i ≤ k ∧ k < 3 * i + 3
        · rw [if_pos now, if_pos (by omega)]
          have first : k / 3 - i + 1 = 1 := by omega
          have slot : k % 3 = k - 3 * i := by omega
          rw [first, slot]
          rfl
        · rw [if_neg now, if_neg (by omega)]

/-- A core without a set, or without room for its values, is a fault. -/
theorem sampleCores_fault {readOk : Nat → Bool} (hread : ∀ i, readOk i = true) (duration : Int)
    {c m i : Nat} {sets : Nat → List PapiEvent} (data : PluginMetrics) (slots : Nat → Int)
    (st : PerfState) (hsets : st.eventSets = (List.range c).map sets) (hm : 0 < m)
    (missing : c < i + m ∨ maxEventsNumber < 3 * (i + m)) :
    ∃ fault, sampleCores readOk duration (List.range' i m) data (3 * i) slots st =
      .error fault := by
  induction m generalizing i data slots st with
  | zero => omega
  | succ m ih =>
      by_cases here : i < c
      · have found : st.eventSets[i]? = some (sets i) := by
          rw [hsets, List.getElem?_map, List.getElem?_range here]
          rfl
        simp only [List.range'_succ, sampleCores, found, hread, if_true, storeSlots_eq]
        by_cases room : 3 * i + 3 ≤ maxEventsNumber
        · rw [if_pos room]
          exact ih _ _ _ hsets (by omega) (by omega)
        · rw [if_neg room]
          exact ⟨_, rfl⟩
      · have none : st.eventSets[i]? = none := by
          rw [hsets]
          apply List.getElem?_eq_none
          rw [List.length_map, List.length_range]
          omega
        simp only [List.range'_succ, sampleCores, none]
        exact ⟨_, rfl⟩

theorem storeSlots_names {slots : Nat → Int} {duration : Int} {data data' : PluginMetrics}
    {jj jj' : Nat} (h : storeSlots slots duration data jj = .ok (data', jj')) :
    data'.events = data.events ∧ data'.numEvents = data.numEvents := by
  rw [storeSlots_eq] at h
  by_cases room : jj + 3 ≤ maxEventsNumber
  · rw [if_pos room] at h
    cases h
    exact ⟨rfl, rfl⟩
  · rw [if_neg room] at h
    cases h

/-- The names and the event sets stay as init left them, also when a read fails. -/
theorem sampleCores_names {readOk : Nat → Bool} {duration : Int} {cores : List Nat}
    {data data' : PluginMetrics} {jj : Nat} {slots : Nat → Int} {st st' : PerfState} {go : Bool}
    (h : sampleCores readOk duration cores data jj slots st = .ok (go, data', st')) :
    data'.events = data.events ∧ data'.numEvents = data.numEvents ∧
      st'.eventSets = st.eventSets := by
  induction cores generalizing data jj slots st with
  | nil =>
      cases h
      exact ⟨rfl, rfl, rfl⟩
  | cons i cores ih =>
      unfold sampleCores at h
      cases hset : st.eventSets[i]? with
      | none =>
          rw [hset] at h
          cases h
      | some set =>
          simp only [hset] at h
          by_cases read : readOk i = true
          · rw [if_pos read] at h
            rcases hstore : storeSlots (papiRead (st.counters i) set slots) duration data jj with
              fault | ⟨data₁, jj₁⟩
            · rw [hstore] at h
              cases h
            · rw [hstore] at h
              obtain ⟨hevents, htotal⟩ := storeSlots_names hstore
              obtain ⟨hevents', htotal', hsets⟩ := ih h
              exact ⟨hevents'.trans hevents, htotal'.trans htotal, hsets⟩
          · rw [if_neg read] at h
            cases h
            exact ⟨rfl, rfl, rfl⟩

theorem sample_names {data data' : PluginMetrics} {numCores ret : Int} {r : PerfReading}
    {st st' : PerfState} (h : mfCPUPerfSample data numCores r st = .ok (ret, data', st')) :
    data'.events = data.events ∧ data'.numEvents = data.numEvents ∧
      st'.eventSets = st.eventSets := by
  unfold mfCPUPerfSample at h
  rcases hrun : sampleCores r.readOk (r.clock - st.beforeTime) (List.range numCores.toNat) data 0
    r.slots (st.count r.counted) with fault | ⟨_ | _, data₁, st₁⟩
  · rw [hrun] at h
    cases h
  · have kept := sampleCores_names hrun
    rw [hrun] at h
    cases h
    exact kept
  · have kept := sampleCores_names hrun
    rw [hrun] at h
    cases h
    exact kept

/-! ## Runs -/

/-- The tables and states that samples lead to from the ones init left, failed samples
included. -/
inductive PerfReach (numCores : Int) (data₀ : PluginMetrics) (st₀ : PerfState) :
    PluginMetrics → PerfState → Prop where
  | init : PerfReach numCores data₀ st₀ data₀ st₀
  | sample {data data' : PluginMetrics} {st st' : PerfState} {r : PerfReading} {ret : Int} :
      PerfReach numCores data₀ st₀ data st →
      mfCPUPerfSample data numCores r st = .ok (ret, data', st') →
      PerfReach numCores data₀ st₀ data' st'

/-- Each value is the rate of the counter that its name tells. -/
def NamesAgree (counters : Nat → PapiEvent → Int) (duration : Int) (data : PluginMetrics) : Prop :=
  ∀ k < data.numEvents, ∀ i e, data.events k = some (coreEventName i e) →
    data.values k = eventRate (counters i e) duration

/-- With readable cores, a sample reads only the event sets that exist, and its names and values
agree. -/
def SampleAgrees (data : PluginMetrics) (numCores : Int) (st : PerfState) : Prop :=
  ∀ r : PerfReading, (∀ i, r.readOk i = true) →
    ∃ data' st', mfCPUPerfSample data numCores r st = .ok (1, data', st') ∧
      data'.events = data.events ∧ data'.numEvents = data.numEvents ∧
      NamesAgree (st.count r.counted).counters (r.clock - st.beforeTime) data'

/-- What init leaves and samples keep: a set for each core and the names of the sets' events. -/
structure PerfReady (host : PerfHost) (c : Nat) (data : PluginMetrics) (st : PerfState) :
    Prop where
  table : CoreTable host c data data.numEvents st.eventSets

theorem PerfReach.ready {host : PerfHost} {c : Nat} {numCores : Int} {data₀ data : PluginMetrics}
    {st₀ st : PerfState} (h₀ : PerfReady host c data₀ st₀)
    (h : PerfReach numCores data₀ st₀ data st) : PerfReady host c data st := by
  induction h with
  | init => exact h₀
  | sample _ hsample ih =>
      obtain ⟨hevents, htotal, hsets⟩ := sample_names hsample
      have table := ih.table
      refine ⟨⟨hsets.trans table.sets, htotal.trans table.count, by rw [htotal]; exact table.room,
        ?_⟩⟩
      rw [hevents]
      exact table.names

/-- The cores that `load_papi_library` leaves. -/
theorem loadPapiLibrary_le {host : PerfHost} {numCores c : Int}
    (h : loadPapiLibrary host numCores = some c) :
    c ≤ numCores ∧ (numCores.toNat ≤ c.toNat ↔
      host.papiInitialized = true ∨ numCores ≤ host.maxCpus) := by
  unfold loadPapiLibrary at h
  cases loaded : host.papiInitialized with
  | true =>
      rw [loaded, if_pos rfl] at h
      cases h
      simp
  | false =>
      rw [loaded, if_neg Bool.false_ne_true] at h
      by_cases failed : host.libraryOk = false ∨ host.maxCpus ≤ 0
      · rw [if_pos failed] at h
        cases h
      · rw [if_neg failed] at h
        cases h
        have positive : 0 < host.maxCpus := by
          have := fun e => failed (Or.inr e)
          omega
        by_cases cut : host.maxCpus < numCores
        · rw [if_pos cut]
          simp
          omega
        · rw [if_neg cut]
          simp
          omega

theorem loadPapiLibrary_pos {host : PerfHost} {numCores c : Int}
    (h : loadPapiLibrary host numCores = some c) : numCores ≤ c ∨ 0 < c := by
  unfold loadPapiLibrary at h
  split at h
  · cases h
    exact .inl le_rfl
  · split at h
    · cases h
    · rename_i loaded
      cases h
      split
      · exact .inr (Int.not_le.mp fun none => loaded (.inr none))
      · exact .inl le_rfl

theorem init_ready {host : PerfHost} {data₀ data : PluginMetrics} {events : List CText}
    {numCores : Int} {st₀ st : PerfState}
    (hinit : mfCPUPerfInit host data₀ events numCores st₀ = .ok (1, data, st)) :
    ∃ c, loadPapiLibrary host numCores = some c ∧ PerfReady host c.toNat data st := by
  unfold mfCPUPerfInit at hinit
  by_cases invalid : eventsAreAllNotValid events = true
  · rw [if_pos invalid] at hinit
    cases hinit
  rw [if_neg invalid] at hinit
  cases hload : loadPapiLibrary host numCores with
  | none =>
      rw [hload] at hinit
      cases hinit
  | some c =>
      simp only [hload] at hinit
      refine ⟨c, rfl, ?_⟩
      by_cases setup : (List.range c.toNat).all host.setupOk = false
      · rw [if_pos setup] at hinit
        cases hinit
      rw [if_neg setup, Fault.bind_eq_ok] at hinit
      obtain ⟨⟨data₁, jj, sets⟩, hcores, hrest⟩ := hinit
      have table := addCores_spec hcores
      by_cases started : (List.range c.toNat).all host.startOk = false
      · rw [if_pos started] at hrest
        cases hrest
      · rw [if_neg started] at hrest
        cases hrest
        exact ⟨⟨table.sets, table.count, table.room, table.names⟩⟩

/-! ## The condition -/

/-- A sample over as many cores as have a set, with room for three values each. -/
theorem sample_ok {host : PerfHost} {c : Nat} {data : PluginMetrics} {st : PerfState}
    (h : PerfReady host c data st) {numCores : Int} (cores : numCores.toNat ≤ c)
    (room : 3 * numCores.toNat ≤ maxEventsNumber) {r : PerfReading}
    (hread : ∀ i, r.readOk i = true) :
    ∃ data' st', mfCPUPerfSample data numCores r st = .ok (1, data', st') ∧
      data'.events = data.events ∧ data'.numEvents = data.numEvents ∧
      ∀ k, data'.values k =
        if k < 3 * numCores.toNat then
          eventRate (readSlots (st.count r.counted).counters (addedEvents host) r.slots 0
            (k / 3 + 1) (k % 3)) (r.clock - st.beforeTime)
        else data.values k := by
  obtain ⟨data', st', hrun, hevents, htotal, hvalues⟩ :=
    sampleCores_ok (m := numCores.toNat) (i := 0) hread (r.clock - st.beforeTime) data r.slots
      (st.count r.counted) h.table.sets (by omega) (by omega)
  rw [Nat.mul_zero, ← List.range_eq_range'] at hrun
  refine ⟨data', { st' with beforeTime := r.clock }, ?_, hevents, htotal, ?_⟩
  · rw [mfCPUPerfSample, hrun]
  · intro k
    rw [hvalues k]
    simp

theorem sample_fault {host : PerfHost} {c : Nat} {data : PluginMetrics} {st : PerfState}
    (h : PerfReady host c data st) (numCores : Int) (some : 0 < numCores.toNat)
    (missing : c < numCores.toNat ∨ maxEventsNumber < 3 * numCores.toNat) {r : PerfReading}
    (hread : ∀ i, r.readOk i = true) :
    ∃ fault, mfCPUPerfSample data numCores r st = .error fault := by
  obtain ⟨fault, hrun⟩ := sampleCores_fault (i := 0) hread (r.clock - st.beforeTime) data r.slots
    (st.count r.counted) h.table.sets some (by omega)
  rw [Nat.mul_zero, ← List.range_eq_range'] at hrun
  exact ⟨fault, by rw [mfCPUPerfSample, hrun]⟩

theorem availableEvents_eq_all {host : PerfHost} :
    (availableEvents host).length = 3 ↔ ∀ e, host.available e = true := by
  constructor
  · intro three e
    have all : availableEvents host = papiEvents :=
      List.filter_sublist.eq_of_length three
    have member : e ∈ availableEvents host := by
      rw [all]
      cases e <;> decide
    exact (List.mem_filter.mp member).2
  · intro all
    rw [availableEvents, List.filter_eq_self.mpr (fun e _ => all e)]
    rfl

theorem availableEvents_eq_none {host : PerfHost} :
    (availableEvents host).length = 0 ↔ ∀ e, host.available e = false := by
  rw [List.length_eq_zero_iff]
  constructor
  · intro none e
    have missing : e ∉ availableEvents host := by simp [none]
    have known : e ∈ papiEvents := by cases e <;> decide
    by_contra present
    exact missing (List.mem_filter.mpr ⟨known, by simpa using present⟩)
  · intro none
    rw [availableEvents, List.filter_eq_nil_iff]
    intro e _
    simp [none e]

/-- Where names and values agree, the event of a name stands in the set of its core, at the place of
the value. -/
theorem SampleAgrees.placed {host : PerfHost} {c : Nat} {data : PluginMetrics} {st : PerfState}
    {numCores : Int} (agrees : SampleAgrees data numCores st) (h : PerfReady host c data st)
    (hc : numCores.toNat = c) (room : 3 * c ≤ maxEventsNumber) {i p : Nat} {e : PapiEvent}
    (hi : i < c) (named : (availableEvents host)[p]? = some e) :
    ((availableEvents host).length * i + p) / 3 = i ∧
      (addedEvents host i)[((availableEvents host).length * i + p) % 3]? = some e := by
  set k := (availableEvents host).length * i + p with hk
  have hp : p < (availableEvents host).length := (List.getElem?_eq_some_iff.mp named).1
  have short := availableEvents_length_le host
  have early : k < 3 * (i + 1) := by
    have := Nat.mul_le_mul_right i short
    omega
  have inside : k < data.numEvents := by
    have := Nat.mul_le_mul_left (availableEvents host).length hi
    rw [Nat.mul_succ] at this
    rw [h.table.count]
    omega
  -- only core `i` has counted, and only this event; the array holds zeros
  let r : PerfReading := ⟨st.beforeTime + 1000,
    fun j e' => loneCount i e 5 j e' - st.counters j e', fun _ => true, fun _ => 0⟩
  have duration : r.clock - st.beforeTime = 1000 := by
    show st.beforeTime + 1000 - st.beforeTime = 1000
    omega
  have counted : (st.count r.counted).counters = loneCount i e 5 := by
    funext j e'
    show st.counters j e' + (loneCount i e 5 j e' - st.counters j e') = loneCount i e 5 j e'
    omega
  obtain ⟨data', st', hrun, hevents, htotal, names⟩ := agrees r fun _ => rfl
  obtain ⟨data'', st'', hrun', -, -, hvalues⟩ :=
    sample_ok h (r := r) hc.le (by rw [hc]; exact room) fun _ => rfl
  rw [hrun] at hrun'
  cases hrun'
  have value := names k (by rw [htotal]; exact inside) i e
    (by rw [hevents]; exact h.table.names i hi p e named)
  have own : loneCount i e 5 i e = 5 := if_pos ⟨rfl, rfl⟩
  rw [hvalues, if_pos (by omega), counted, duration, own] at value
  have found : readSlots (loneCount i e 5) (addedEvents host) (fun _ => 0) 0 (k / 3 + 1) (k % 3) =
      5 := eventRate_inj (by decide) value
  exact readSlots_loneCount (by decide) (by omega) found

/-- A sample that does not fault has a set and room for each core. -/
theorem SampleAgrees.fits {host : PerfHost} {c : Nat} {data : PluginMetrics} {st : PerfState}
    {numCores : Int} (agrees : SampleAgrees data numCores st) (h : PerfReady host c data st) :
    numCores.toNat = 0 ∨ numCores.toNat ≤ c ∧ 3 * numCores.toNat ≤ maxEventsNumber := by
  by_contra missing
  let r : PerfReading := ⟨0, fun _ _ => 0, fun _ => true, fun _ => 0⟩
  obtain ⟨fault, hfault⟩ := sample_fault h numCores (r := r) (by omega) (by omega) fun _ => rfl
  obtain ⟨data', st', hrun, -⟩ := agrees r fun _ => rfl
  rw [hfault] at hrun
  cases hrun

/-- The core and the event that a name tells. -/
theorem PerfReady.name_at {host : PerfHost} {c : Nat} {data : PluginMetrics} {st : PerfState}
    (h : PerfReady host c data st) {k i : Nat} {e : PapiEvent} (hk : k < data.numEvents)
    (named : data.events k = some (coreEventName i e)) :
    i < c ∧ k / (availableEvents host).length = i ∧
      (availableEvents host)[k % (availableEvents host).length]? = some e := by
  rw [h.table.count] at hk
  have some : 0 < (availableEvents host).length := by
    apply Nat.pos_of_ne_zero
    intro none
    rw [none, Nat.zero_mul] at hk
    omega
  have core : k / (availableEvents host).length < c := Nat.div_lt_of_lt_mul hk
  have slot := List.getElem?_eq_getElem (Nat.mod_lt k some)
  have found := h.table.names _ core _ _ slot
  rw [Nat.div_add_mod, named, Option.some.injEq] at found
  obtain ⟨rfl, rfl⟩ := coreEventName_inj found
  exact ⟨core, rfl, slot⟩

/-- PAPI has taken all available events into the set of each core. -/
def AllAdded (host : PerfHost) (c : Nat) : Prop :=
  ∀ i < c, ∀ e, host.available e = true → host.addOk i e = true

theorem AllAdded.eq {host : PerfHost} {c i : Nat} (h : AllAdded host c) (hi : i < c) :
    addedEvents host i = availableEvents host := by
  refine List.filter_eq_self.mpr fun e member => h i hi e ?_
  exact (List.mem_filter.mp member).2

/-- As many values as names: the value at `k` is the rate that the name at `k` tells. -/
theorem namesAgree_of_values {host : PerfHost} {c : Nat} {data data' : PluginMetrics}
    {st : PerfState} (slots : Nat → Int) (h : PerfReady host c data st)
    (hevents : data'.events = data.events) (htotal : data'.numEvents = data.numEvents)
    {counters : Nat → PapiEvent → Int} {duration : Int}
    (hvalues : ∀ k < 3 * c, data'.values k =
      eventRate (readSlots counters (addedEvents host) slots 0 (k / 3 + 1) (k % 3)) duration)
    (added : AllAdded host c)
    (hall : (availableEvents host).length = 3 ∨ c ≤ 1 ∨ (availableEvents host).length = 0) :
    NamesAgree counters duration data' := by
  intro k hk i e named
  rw [htotal] at hk
  rw [hevents] at named
  obtain ⟨core, hi, slot⟩ := h.name_at hk named
  rw [h.table.count] at hk
  have inside : k < 3 * c :=
    Nat.lt_of_lt_of_le hk (Nat.mul_le_mul_right c (availableEvents_length_le host))
  have place : k / 3 = i ∧ k % 3 = k % (availableEvents host).length := by
    rcases hall with three | one | none
    · rw [three] at hi ⊢
      exact ⟨hi, rfl⟩
    · have early : k < (availableEvents host).length := by
        have := Nat.mul_le_mul_left (availableEvents host).length one
        omega
      have short := availableEvents_length_le host
      rw [← hi, Nat.mod_eq_of_lt early, Nat.div_eq_of_lt early]
      omega
    · rw [none, Nat.zero_mul] at hk
      omega
  rw [hvalues k inside, place.1, place.2, readSlots, papiRead_apply, Nat.zero_add, added.eq core,
    slot]

/-- The names and values of every sample agree exactly when the configured cores were all set up,
PAPI has taken every available event, and all three events are there, or there is one core only, or
there is no event at all and few cores. -/
theorem cpuPerf_agree_iff {host : PerfHost} {data₀ data : PluginMetrics} {events : List CText}
    {numCores : Int} {st₀ st : PerfState}
    (hinit : mfCPUPerfInit host data₀ events numCores st₀ = .ok (1, data, st)) :
    (∀ data' st', PerfReach numCores data st data' st' → SampleAgrees data' numCores st') ↔
      (host.papiInitialized = true ∨ numCores ≤ host.maxCpus) ∧ AllAdded host numCores.toNat ∧
        ((∀ e, host.available e = true) ∨ numCores ≤ 1 ∨
          (∀ e, host.available e = false) ∧ numCores ≤ 10) := by
  obtain ⟨c, hload, ready⟩ := init_ready hinit
  obtain ⟨fewer, uncut⟩ := loadPapiLibrary_le hload
  rw [← uncut, ← availableEvents_eq_all, ← availableEvents_eq_none]
  have short := availableEvents_length_le host
  have total := ready.table.count
  have bound := ready.table.room
  have size : maxEventsNumber = 32 := rfl
  constructor
  · intro agrees
    have now := agrees data st .init
    have fits := now.fits ready
    have cores : numCores.toNat = c.toNat := by omega
    have room : 3 * c.toNat ≤ maxEventsNumber := by omega
    refine ⟨by omega, ?_, ?_⟩
    · intro i hi e present
      have member : e ∈ availableEvents host :=
        List.mem_filter.mpr ⟨by cases e <;> decide, present⟩
      obtain ⟨p, named⟩ := List.mem_iff_getElem?.mp member
      have found := (now.placed ready cores room (by omega : i < c.toNat) named).2
      exact (List.mem_filter.mp (List.mem_of_getElem? found)).2
    · by_contra other
      simp only [not_or, not_and] at other
      obtain ⟨notAll, notOne, notNone⟩ := other
      have some : 0 < (availableEvents host).length := by
        apply Nat.pos_of_ne_zero
        intro none
        exact notNone none (by omega)
      -- the first name of core 1 stands behind those of core 0, of which there are fewer than three
      have second := (now.placed ready cores room (by omega : 1 < c.toNat)
        (List.getElem?_eq_getElem some)).1
      omega
  · rintro ⟨cores, added, hall⟩ data' st' reach r hread
    have ready' := reach.ready ready
    have equal : numCores.toNat = c.toNat := by omega
    have room : 3 * numCores.toNat ≤ maxEventsNumber := by
      rcases hall with three | one | ⟨-, few⟩
      · rw [three] at total
        omega
      · omega
      · omega
    obtain ⟨data'', st'', hrun, hevents, htotal, hvalues⟩ := sample_ok ready' cores room hread
    refine ⟨data'', st'', hrun, hevents, htotal, ?_⟩
    refine namesAgree_of_values r.slots ready' hevents htotal ?_ (equal ▸ added) ?_
    · intro k hk
      rw [hvalues k, if_pos (by omega)]
    · rcases hall with three | one | ⟨none, -⟩
      · exact Or.inl three
      · exact Or.inr (Or.inl (by omega))
      · exact Or.inr (Or.inr none)

/-- A machine with two cores on which PAPI has the given events. -/
def twoCoreHost (available : PapiEvent → Bool) : PerfHost :=
  ⟨false, true, 2, available, fun _ _ => true, fun _ => true, fun _ => true, 0⟩

theorem exists_of_ret_one {x : Except Fault (Int × PluginMetrics × PerfState)}
    (h : x.map Prod.fst = .ok 1) : ∃ data st, x = .ok (1, data, st) := by
  obtain ⟨⟨ret, data, st⟩, run, same⟩ := Fault.map_eq_ok.mp h
  obtain rfl : ret = 1 := same
  exact ⟨data, st, run⟩

theorem cpuPerf_agree_iff_two :
    ∃ data st, mfCPUPerfInit (twoCoreHost fun _ => true) .blank ["MIPS".toList] 2
        ⟨[], 0, fun _ _ => 0⟩ = .ok (1, data, st) ∧
      ∀ data' st', PerfReach 2 data st data' st' → SampleAgrees data' 2 st' := by
  obtain ⟨data, st, hinit⟩ := exists_of_ret_one (x := mfCPUPerfInit
      (twoCoreHost fun _ => true) .blank
    ["MIPS".toList] 2 ⟨[], 0, fun _ _ => 0⟩) (by decide +kernel)
  exact ⟨data, st, hinit, (cpuPerf_agree_iff hinit).mpr
    ⟨Or.inr (by decide), fun _ _ _ _ => rfl, Or.inl fun _ => rfl⟩⟩

/-- Where PAPI lacks the two floating-point events, the value named after core 1 is not its own. -/
theorem cpuPerf_misnamed :
    ¬ ∀ (host : PerfHost) (data₀ data : PluginMetrics) (events : List CText) (numCores : Int)
      (st₀ st : PerfState), mfCPUPerfInit host data₀ events numCores st₀ = .ok (1, data, st) →
      ∀ data' st', PerfReach numCores data st data' st' → SampleAgrees data' numCores st' := by
  intro claim
  obtain ⟨data, st, hinit⟩ := exists_of_ret_one (x := mfCPUPerfInit
    (twoCoreHost fun e => decide (e = .totIns)) .blank ["MIPS".toList] 2 ⟨[], 0, fun _ _ => 0⟩)
    (by decide +kernel)
  obtain ⟨c, hload, ready⟩ := init_ready hinit
  cases hload
  have agrees := claim _ _ _ _ _ _ _ hinit data st .init
  have placed := agrees.placed ready rfl (by decide) (i := 1) (p := 0) (e := .totIns)
      (by decide) rfl
  exact absurd placed.1 (by decide)

end PhantomMonitor
