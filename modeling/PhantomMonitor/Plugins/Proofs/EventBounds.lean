import PhantomMonitor.Parser.Proofs.ConfigStore
import PhantomMonitor.Plugins.NVML
import PhantomMonitor.Plugins.Proofs.CPUPerfAgree
import PhantomMonitor.Plugins.Proofs.RAPLEnergy

/-!
# The bounds of the event tables

The number of events of a plugin is a product: cores and PAPI events, devices and NVML metrics,
sockets and requested metrics. The table has 32 entries. An index behind the table is a fault of the
model, so a plugin stays inside when its initialization and all later samples run without one.
-/

namespace PhantomMonitor

open CText

/-! ## Loops that fill the table -/

/-- A loop over a table and its next index stores `w` entries when there is room for them. -/
def Fills (loop : PluginMetrics × Nat → Except Fault (PluginMetrics × Nat)) (w : Nat) : Prop :=
  ∀ data k, k + w ≤ maxEventsNumber → ∃ data', loop (data, k) = .ok (data', k + w)

/-- A loop that ends has stored `w` entries inside the table. -/
def Bounded (loop : PluginMetrics × Nat → Except Fault (PluginMetrics × Nat)) (w : Nat) : Prop :=
  ∀ data k out, k ≤ maxEventsNumber → loop (data, k) = .ok out →
    k + w ≤ maxEventsNumber ∧ out.2 = k + w

variable {α : Type} {step : PluginMetrics × Nat → α → Except Fault (PluginMetrics × Nat)} {w : Nat}

theorem Fills.foldlM {items : List α} (each : ∀ a ∈ items, Fills (fun acc => step acc a) w) :
    Fills (fun acc => items.foldlM step acc) (w * items.length) := by
  induction items with
  | nil => exact fun data k _ => ⟨data, rfl⟩
  | cons a items ih =>
      obtain ⟨first, rest⟩ := List.forall_mem_cons.mp each
      intro data k room
      rw [List.length_cons, Nat.mul_succ] at room
      obtain ⟨data₁, hfirst⟩ := first data k (by omega)
      obtain ⟨data₂, hrest⟩ := ih rest data₁ (k + w) (by omega)
      have index : k + w + w * items.length = k + (w * items.length + w) := by omega
      rw [index] at hrest
      refine ⟨data₂, ?_⟩
      simp only [List.foldlM_cons, hfirst, List.length_cons, Nat.mul_succ, bind, Except.bind]
      exact hrest

theorem Bounded.foldlM {items : List α} (each : ∀ a, Bounded (fun acc => step acc a) w) :
    Bounded (fun acc => items.foldlM step acc) (w * items.length) := by
  induction items with
  | nil =>
      intro data k out room run
      cases run
      exact ⟨room, rfl⟩
  | cons a items ih =>
      intro data k out room run
      simp only [List.foldlM_cons, Fault.bind_eq_ok] at run
      obtain ⟨⟨data₁, k₁⟩, hfirst, hrest⟩ := run
      obtain ⟨room₁, rfl⟩ := each a data k (data₁, k₁) room hfirst
      obtain ⟨bound, index⟩ := ih data₁ (k + w) out room₁ hrest
      rw [List.length_cons, Nat.mul_succ]
      exact ⟨by omega, by omega⟩

/-- The store of a value at the next index. -/
def storeValue (acc : PluginMetrics × Nat) (value : Rat) : Except Fault (PluginMetrics × Nat) := do
  let data ← acc.1.setValue acc.2 value
  return (data, acc.2 + 1)

theorem storeValue_fills (value : Rat) : Fills (fun acc => storeValue acc value) 1 := by
  intro data k room
  refine ⟨{ data with values := Function.update data.values k value }, ?_⟩
  simp only [storeValue, PluginTable.setValue]
  rw [if_pos (show k < maxEventsNumber from room)]
  rfl

theorem storeValue_bounded (value : Rat) : Bounded (fun acc => storeValue acc value) 1 := by
  intro data k out _ run
  simp only [storeValue, PluginTable.setValue, Fault.bind_eq_ok] at run
  obtain ⟨data', hset, hdone⟩ := run
  by_cases inside : k < maxEventsNumber
  · cases hdone
    exact ⟨inside, rfl⟩
  · rw [if_neg inside] at hset
    cases hset

/-- The store of a name at the next index. -/
def storeName (acc : PluginMetrics × Nat) (name : CText) : Except Fault (PluginMetrics × Nat) := do
  let data ← acc.1.setEvent acc.2 name
  return (data, acc.2 + 1)

theorem storeName_fills {name : CText} (short : name.length < maxEventsLen) :
    Fills (fun acc => storeName acc name) 1 := by
  intro data k room
  refine ⟨{ data with events := Function.update data.events k (some name) }, ?_⟩
  simp only [storeName]
  rw [PluginTable.setEvent_ok room short]
  rfl

/-! ## NVML -/

/-- The initialization of NVML gets through all its checks, with `n` devices. -/
structure NvmlStarts (host : NvmlHost) (events : List CText) (n : BitVec 32) : Prop where
  valid : nvmlEventsAreAllNotValid events = false
  library : host.libraryOk = true
  count : host.deviceCount = some n
  handles : (List.range n.toNat).all host.handleOk = true

/-- NVML stays inside its table. -/
def NvmlInside (host : NvmlHost) (events : List CText) (data : PluginMetrics) : Prop :=
  ∃ data' n, mfNVMLInit host data events 0 = .ok (1, data', n) ∧
    data'.numEvents ≤ maxEventsNumber ∧ ∀ rs, ∃ out, nvmlRun n data' rs = .ok out

theorem gpuEventName_length {i : Nat} (hi : i < 10) {metric : CText}
    (known : metric ∈ nvmlMetrics) :
    (gpuEventName i metric).length < maxEventsLen := by
  have short : ∀ metric ∈ nvmlMetrics, metric.length < 20 := by decide
  have digit : ∀ i < 10, ("GPU".toList ++ Nat.toDigits 10 i).length = 4 := by decide
  have name := short metric known
  have front := digit i hi
  have whole : (gpuEventName i metric).length =
      ("GPU".toList ++ Nat.toDigits 10 i).length + (metric.length + 1) := List.length_append
  show _ < 32
  omega

theorem nameDevice_eq (i : Nat) :
    (fun acc => nameDevice acc i) =
      fun acc => (nvmlMetrics.map (gpuEventName i)).foldlM storeName acc := by
  funext acc
  rw [nameDevice, List.foldlM_map]
  rfl

theorem nameDevices_fills {n : Nat} (hn : n ≤ 4) :
    Fills (fun acc => (List.range n).foldlM nameDevice acc) (7 * n) := by
  have fills : Fills (fun acc => (List.range n).foldlM nameDevice acc)
      (7 * (List.range n).length) := by
    apply Fills.foldlM
    intro i member
    have hi := List.mem_range.mp member
    have each : ∀ name ∈ nvmlMetrics.map (gpuEventName i),
        Fills (fun acc => storeName acc name) 1 := by
      intro name named
      obtain ⟨metric, known, rfl⟩ := List.mem_map.mp named
      exact storeName_fills (gpuEventName_length (by omega) known)
    rw [nameDevice_eq]
    exact Fills.foldlM each
  rwa [List.length_range] at fills

theorem sampleDevices_fills (readings : Nat → NvmlReading) (n : Nat) :
    Fills (fun acc => (List.range n).foldlM (sampleDevice readings) acc) (7 * n) := by
  have fills : Fills (fun acc => (List.range n).foldlM (sampleDevice readings) acc)
      (7 * (List.range n).length) :=
    Fills.foldlM fun i _ => Fills.foldlM fun value _ => storeValue_fills value
  rwa [List.length_range] at fills

theorem sampleDevices_bounded (readings : Nat → NvmlReading) (n : Nat) :
    Bounded (fun acc => (List.range n).foldlM (sampleDevice readings) acc) (7 * n) := by
  have bounded : Bounded (fun acc => (List.range n).foldlM (sampleDevice readings) acc)
      (7 * (List.range n).length) :=
    Bounded.foldlM fun i => Bounded.foldlM fun value => storeValue_bounded value
  rwa [List.length_range] at bounded

theorem nvmlSample_ok {n : BitVec 32} (hn : n.toNat ≤ 4) (data : PluginMetrics)
    (readings : Nat → NvmlReading) : ∃ data', mfNVMLSample data readings n = .ok (1, data') := by
  have room : 0 + 7 * n.toNat ≤ maxEventsNumber := by
    show 0 + 7 * n.toNat ≤ 32
    omega
  obtain ⟨data', run⟩ := sampleDevices_fills readings n.toNat data 0 room
  refine ⟨data', ?_⟩
  simp only [mfNVMLSample, run, bind, Except.bind]
  rfl

theorem nvmlRun_ok {n : BitVec 32} (hn : n.toNat ≤ 4) (rs : List (Nat → NvmlReading))
    (data : PluginMetrics) : ∃ out, nvmlRun n data rs = .ok out := by
  induction rs generalizing data with
  | nil => exact ⟨data, rfl⟩
  | cons readings rs ih =>
      obtain ⟨data₁, sample⟩ := nvmlSample_ok hn data readings
      obtain ⟨out, rest⟩ := ih data₁
      exact ⟨out, by simp only [nvmlRun, sample, bind, Except.bind, rest]⟩

/-- NVML has room for four devices. -/
theorem nvmlInside_iff {host : NvmlHost} {events : List CText} {n : BitVec 32}
    (starts : NvmlStarts host events n) (data : PluginMetrics) :
    NvmlInside host events data ↔ n.toNat ≤ 4 := by
  constructor
  · rintro ⟨data', n', init, -, samples⟩
    have same : n' = n := by
      unfold mfNVMLInit at init
      simp only [starts.valid, starts.library, starts.count, starts.handles, Bool.false_eq_true,
        Bool.true_eq_false, if_false, if_true, Fault.bind_eq_ok] at init
      obtain ⟨names, -, done⟩ := init
      cases done
      rfl
    subst same
    obtain ⟨out, run⟩ := samples [fun _ => ⟨none, none, none, none, none, none⟩]
    simp only [nvmlRun, mfNVMLSample, Fault.bind_eq_ok] at run
    obtain ⟨-, ⟨last, loop, -⟩, -⟩ := run
    have bound := (sampleDevices_bounded _ n'.toNat data' 0 last (Nat.zero_le _) loop).1
    change 0 + 7 * n'.toNat ≤ 32 at bound
    omega
  · intro hn
    have room : 0 + 7 * n.toNat ≤ maxEventsNumber := by
      show 0 + 7 * n.toNat ≤ 32
      omega
    obtain ⟨data', names⟩ := nameDevices_fills hn data 0 room
    refine ⟨{ data' with numEvents := 0 + 7 * n.toNat }, n, ?_, room, fun rs => nvmlRun_ok hn rs _⟩
    unfold mfNVMLInit
    simp only [starts.valid, starts.library, starts.count, names, starts.handles, bind, Except.bind]
    rfl

/-! ## CPU_perf -/

/-- The initialization of CPU_perf gets through all its checks, with `c` cores. -/
structure PerfStarts (host : PerfHost) (events : List CText) (numCores c : Int) : Prop where
  valid : eventsAreAllNotValid events = false
  loaded : loadPapiLibrary host numCores = some c
  setup : (List.range c.toNat).all host.setupOk = true
  start : (List.range c.toNat).all host.startOk = true

/-- CPU_perf stays inside its table, with the number of cores that the plugin passes to both
functions. -/
def PerfInside (host : PerfHost) (events : List CText) (numCores : Int) (data : PluginMetrics)
    (st : PerfState) : Prop :=
  ∃ data₀ st₀, mfCPUPerfInit host data events numCores st = .ok (1, data₀, st₀) ∧
    data₀.numEvents ≤ maxEventsNumber ∧
    ∀ data₁ st₁, PerfReach numCores data₀ st₀ data₁ st₁ →
      ∀ r, ∃ out, mfCPUPerfSample data₁ numCores r st₁ = .ok out

theorem coreEventName_length {i : Nat} (hi : i < 10) (e : PapiEvent) :
    (coreEventName i e).length < maxEventsLen := by
  have short : e.metric.length < 7 := by cases e <;> decide
  have digits : ∀ i < 10, ("core".toList ++ twoDigits i).length = 6 := by decide
  have front := digits i hi
  have whole : (coreEventName i e).length =
      ("core".toList ++ twoDigits i).length + (e.metric.length + 1) := List.length_append
  show _ < 32
  omega

theorem addEvents_ok (host : PerfHost) {i : Nat} (hi : i < 10) (es : List PapiEvent)
    (data : PluginMetrics) (jj : Nat) (set : List PapiEvent)
    (room : jj + es.length ≤ maxEventsNumber) :
    ∃ data' jj' set', es.foldlM (addEvent host i) (data, jj, set) = .ok (data', jj', set') ∧
      jj' ≤ jj + es.length := by
  induction es generalizing data jj set with
  | nil => exact ⟨data, jj, set, rfl, Nat.le_refl _⟩
  | cons e es ih =>
      rw [List.length_cons] at room ⊢
      by_cases available : host.available e = true
      · have first : addEvent host i (data, jj, set) e =
            .ok ({ data with events := Function.update data.events jj (some (coreEventName i e)) },
              jj + 1, if host.addOk i e then set ++ [e] else set) := by
          simp only [addEvent, available, if_true,
            PluginTable.setEvent_ok (by omega : jj < maxEventsNumber) (coreEventName_length hi e)]
          rfl
        obtain ⟨data', jj', set', rest, bound⟩ := ih
          { data with events := Function.update data.events jj (some (coreEventName i e)) }
          (jj + 1) (if host.addOk i e then set ++ [e] else set) (by omega)
        refine ⟨data', jj', set', ?_, by omega⟩
        simp only [List.foldlM_cons, first, bind, Except.bind]
        exact rest
      · have first : addEvent host i (data, jj, set) e = .ok (data, jj, set) := by
          simp only [addEvent, if_neg available]
        obtain ⟨data', jj', set', rest, bound⟩ := ih data jj set (by omega)
        refine ⟨data', jj', set', ?_, by omega⟩
        simp only [List.foldlM_cons, first, bind, Except.bind]
        exact rest

theorem addCores_ok (host : PerfHost) {c : Nat} (hc : c ≤ 10) (data : PluginMetrics) :
    ∃ data' jj sets, (List.range c).foldlM (addCore host) (data, 0, []) = .ok (data', jj, sets) ∧
      jj ≤ 3 * c := by
  induction c with
  | zero => exact ⟨data, 0, [], rfl, Nat.le_refl _⟩
  | succ c ih =>
      obtain ⟨data₁, jj₁, sets₁, first, bound₁⟩ := ih (by omega)
      have room : jj₁ + papiEvents.length ≤ maxEventsNumber := by
        show jj₁ + 3 ≤ 32
        omega
      obtain ⟨data₂, jj₂, set, last, bound₂⟩ :=
        addEvents_ok host (by omega : c < 10) papiEvents data₁ jj₁ [] room
      change jj₂ ≤ jj₁ + 3 at bound₂
      refine ⟨data₂, jj₂, sets₁ ++ [set], ?_, by omega⟩
      rw [List.range_succ, List.foldlM_append, first]
      simp only [bind, Except.bind, List.foldlM_cons, List.foldlM_nil, addCore, last]
      rfl

/-- The loop over cores that have an event set, whichever of them can be read. -/
theorem sampleCores_inside (readOk : Nat → Bool) (duration : Int) (cores : List Nat)
    (data : PluginMetrics) (jj : Nat) (slots : Nat → Int) (st : PerfState)
    (sets : ∀ i ∈ cores, i < st.eventSets.length)
    (room : jj + 3 * cores.length ≤ maxEventsNumber) :
    ∃ out, sampleCores readOk duration cores data jj slots st = .ok out := by
  induction cores generalizing data jj slots st with
  | nil => exact ⟨_, rfl⟩
  | cons i cores ih =>
      obtain ⟨inside, rest⟩ := List.forall_mem_cons.mp sets
      rw [List.length_cons] at room
      rw [sampleCores, List.getElem?_eq_getElem inside]
      simp only
      split
      · rw [storeSlots_eq, if_pos (by omega)]
        exact ih _ _ _ _ rest (by omega)
      · exact ⟨_, rfl⟩

/-- With at most ten cores the init stays in the table. -/
theorem PerfStarts.init_inside {host : PerfHost} {events : List CText} {numCores c : Int}
    (starts : PerfStarts host events numCores c) (few : c ≤ 10) (data : PluginMetrics)
    (st : PerfState) :
    ∃ data₀ st₀, mfCPUPerfInit host data events numCores st = .ok (1, data₀, st₀) ∧
      data₀.numEvents ≤ maxEventsNumber := by
  obtain ⟨data', jj, sets, names, bound⟩ := addCores_ok host (by omega : c.toNat ≤ 10) data
  have init : mfCPUPerfInit host data events numCores st =
      .ok (1, { data' with numEvents := jj },
        { st with eventSets := sets, beforeTime := host.clock, counters := fun _ _ => 0 }) := by
    unfold mfCPUPerfInit
    simp only [starts.valid, starts.loaded, starts.setup, starts.start, names, bind, Except.bind]
    rfl
  refine ⟨_, _, init, ?_⟩
  show jj ≤ 32
  omega

/-- With a set for each core and room for its values a sample stays in the table, also when a read
fails. -/
theorem PerfReady.sample_inside {host : PerfHost} {c : Nat} {data : PluginMetrics} {st : PerfState}
    (ready : PerfReady host c data st) {numCores : Int} (uncut : numCores.toNat ≤ c)
    (few : 3 * numCores.toNat ≤ maxEventsNumber) (r : PerfReading) :
    ∃ out, mfCPUPerfSample data numCores r st = .ok out := by
  have inside : ∀ i ∈ List.range numCores.toNat, i < (st.count r.counted).eventSets.length := by
    intro i member
    show i < st.eventSets.length
    rw [ready.table.sets, List.length_map, List.length_range]
    exact Nat.lt_of_lt_of_le (List.mem_range.mp member) uncut
  have room : 0 + 3 * (List.range numCores.toNat).length ≤ maxEventsNumber := by
    rw [List.length_range, Nat.zero_add]
    exact few
  obtain ⟨out, run⟩ := sampleCores_inside r.readOk (r.clock - st.beforeTime)
    (List.range numCores.toNat) data 0 r.slots (st.count r.counted) inside room
  rw [mfCPUPerfSample, run]
  obtain ⟨_ | _, data', st'⟩ := out
  · exact ⟨_, rfl⟩
  · exact ⟨_, rfl⟩

/-- CPU_perf has room for ten cores, all of which have an event set. -/
theorem perfInside_iff {host : PerfHost} {events : List CText} {numCores c : Int}
    (starts : PerfStarts host events numCores c) (data : PluginMetrics) (st : PerfState) :
    PerfInside host events numCores data st ↔ c ≤ 10 ∧ numCores ≤ c := by
  have cut := (loadPapiLibrary_le starts.loaded).1
  have size : maxEventsNumber = 32 := rfl
  constructor
  · rintro ⟨data₀, st₀, init, -, samples⟩
    obtain ⟨c', loaded, ready⟩ := init_ready init
    obtain rfl : c' = c := Option.some.inj (loaded.symm.trans starts.loaded)
    by_contra outside
    have positive := loadPapiLibrary_pos loaded
    obtain ⟨fault, failed⟩ := sample_fault ready numCores (by omega) (by omega)
      (r := ⟨0, fun _ _ => 0, fun _ => true, fun _ => 0⟩) (fun _ => rfl)
    obtain ⟨out, run⟩ := samples data₀ st₀ .init ⟨0, fun _ _ => 0, fun _ => true, fun _ => 0⟩
    rw [failed] at run
    cases run
  · rintro ⟨few, uncut⟩
    obtain ⟨data₀, st₀, init, bound⟩ := starts.init_inside few data st
    obtain ⟨c', loaded, ready⟩ := init_ready init
    obtain rfl : c' = c := Option.some.inj (loaded.symm.trans starts.loaded)
    refine ⟨data₀, st₀, init, bound, ?_⟩
    intro data₁ st₁ reached r
    exact (reached.ready ready).sample_inside (by omega) (by omega) r

/-! ## RAPL_power -/

/-- The energies that a list of metrics asks for. -/
def raplDomains (requests : List CText) : List RaplDomain :=
  requests.filterMap fun request =>
    if request = RaplDomain.package.metric then some .package
    else if request = RaplDomain.dram.metric then some .dram else none

theorem mem_raplDomain {request : CText} {d : RaplDomain}
    (h : d ∈ if request = RaplDomain.package.metric then some RaplDomain.package
      else if request = RaplDomain.dram.metric then some .dram else none) : request = d.metric := by
  split at h
  · cases h
    assumption
  · split at h
    · cases h
      assumption
    · cases h

theorem raplDomains_nodup {requests : List CText} (distinct : requests.Nodup) :
    (raplDomains requests).Nodup :=
  distinct.filterMap fun _ _ _ h h' => (mem_raplDomain h).trans (mem_raplDomain h').symm

/-- Other names than those of the two metrics add nothing. -/
theorem nameRequests_known (n : Nat) (requests : List CText) (acc : PluginMetrics × Nat) :
    requests.foldlM (fun (data, ii) request => nameRequest n request data ii) acc =
      ((raplDomains requests).map RaplDomain.metric).foldlM
        (fun (data, ii) request => nameRequest n request data ii) acc := by
  induction requests generalizing acc with
  | nil => rfl
  | cons request requests ih =>
      by_cases package : request = RaplDomain.package.metric
      · have domains : raplDomains (request :: requests) = .package :: raplDomains requests := by
          simp [raplDomains, package]
        rw [domains, List.map_cons, List.foldlM_cons, List.foldlM_cons, package]
        exact bind_congr fun acc => ih acc
      · by_cases dram : request = RaplDomain.dram.metric
        · have domains : raplDomains (request :: requests) = .dram :: raplDomains requests := by
            have differ : RaplDomain.dram.metric ≠ RaplDomain.package.metric :=
              fun same => nomatch metric_inj.mp same
            simp [raplDomains, dram, differ]
          rw [domains, List.map_cons, List.foldlM_cons, List.foldlM_cons, dram]
          exact bind_congr fun acc => ih acc
        · have domains : raplDomains (request :: requests) = raplDomains requests := by
            simp [raplDomains, package, dram]
          have ignored : nameRequest n request acc.1 acc.2 = .ok acc := by
            rw [nameRequest, if_neg package]
            exact if_neg dram
          rw [domains, List.foldlM_cons]
          show (nameRequest n request acc.1 acc.2 >>= _) = _
          rw [ignored]
          exact ih acc

/-- The initialization of RAPL_power gets through all its checks, with `n` sockets. -/
structure RaplStarts (host : RaplHost) (requests : List CText) (n : Nat) : Prop where
  library : host.papiLoaded = true
  component : checkRaplComponent host.components = true
  sockets : hardwareSocketsCount host = n
  positive : 0 < n
  eventSet : host.eventSetOk = true
  start : host.startOk = true
  asked : raplDomains requests ≠ []

/-- RAPL_power stays inside its table, and its samples return. -/
def RaplInside (host : RaplHost) (requests : List CText) (data : PluginMetrics) (st : RaplState) :
    Prop :=
  ∀ r₀, ∃ data₀ st₀, mfRAPLPowerInit host data requests r₀ st = .ok (1, data₀, st₀) ∧
    data₀.numEvents ≤ maxEventsNumber ∧ ∀ rs, ∃ outs, raplRun data₀ st₀ rs = .ok (some outs)

/-- Between two samples the table has its blocks. -/
structure RaplReady (ds : List RaplDomain) (data : PluginMetrics) (st : RaplState) : Prop where
  available : st.raplIsAvailable = true
  positive : 0 < st.numSockets
  few : st.numSockets ≤ maxSockets
  layout : Layout data.events st.numSockets ds 0
  total : data.numEvents = st.numSockets * ds.length

theorem raplStatRead_keeps {st : RaplState} (few : st.numSockets ≤ maxSockets) (r : RaplReading)
    (energy : RaplDomain → Nat → Rat) :
    ∃ ret energy' counters, raplStatRead st r energy =
      .ok (ret, energy', { st with counters := counters }) := by
  unfold raplStatRead
  dsimp only
  by_cases hread : r.readOk = true
  · rw [if_pos hread, if_pos (show (st.consume r.used).numSockets ≤ maxSockets from few)]
    exact ⟨_, _, _, rfl⟩
  · rw [if_neg hread]
    exact ⟨_, _, _, rfl⟩

theorem RaplReady.sample {ds : List RaplDomain} (short : ds.length ≤ 2) {data : PluginMetrics}
    {st : RaplState} (h : RaplReady ds data st) (r : RaplReading) :
    ∃ ret data' st', mfRAPLPowerSample data r st = .ok (some (ret, data', st')) ∧
      RaplReady ds data' st' := by
  have few : ({ st with afterTime := r.clock } : RaplState).numSockets ≤ maxSockets := h.few
  obtain ⟨ret, after, counters, read⟩ := raplStatRead_keeps few r st.after
  let st₁ : RaplState := { st with afterTime := r.clock, counters := counters, after := after }
  have refreshed : sampleRead r { st with afterTime := r.clock } = .ok st₁ := by
    unfold sampleRead
    rw [if_pos (show ({ st with afterTime := r.clock } : RaplState).raplIsAvailable = true from
      h.available), read]
    rfl
  have positive : 0 < st₁.numSockets := h.positive
  have blocks : st.numSockets * ds.length ≤ 4 * 2 := Nat.mul_le_mul few short
  have room : data.numEvents + st₁.numSockets < maxEventsNumber := by
    have four : st.numSockets ≤ 4 := few
    rw [h.total]
    show st.numSockets * ds.length + st.numSockets < 32
    omega
  have fuel : ds.length < data.numEvents + 1 := by
    have := Nat.le_mul_of_pos_left ds.length h.positive
    rw [h.total]
    omega
  obtain ⟨extra, l, loop, -, -⟩ := sampleLoop_blocks (st₁.afterTime - st₁.beforeTime)
    positive few room (data.numEvents + 1) ds ⟨0, data.values, st₁.before, [], []⟩ fuel
    h.layout (h.total.trans (Nat.zero_add _).symm)
  refine ⟨1, { data with values := l.values },
    { st₁ with before := l.before, beforeTime := st₁.afterTime }, ?_,
    ⟨h.available, h.positive, h.few, h.layout, h.total⟩⟩
  simp only [mfRAPLPowerSample, refreshed, bind, Except.bind]
  rw [loop]
  rfl

theorem RaplReady.run {ds : List RaplDomain} (short : ds.length ≤ 2) {data : PluginMetrics}
    {st : RaplState} (h : RaplReady ds data st) (rs : List RaplReading) :
    ∃ outs, raplRun data st rs = .ok (some outs) := by
  induction rs generalizing data st with
  | nil => exact ⟨[], rfl⟩
  | cons r rs ih =>
      obtain ⟨ret, data', st', sample, next⟩ := h.sample short r
      obtain ⟨outs, rest⟩ := ih next
      refine ⟨(data', st') :: outs, ?_⟩
      simp only [raplRun, sample, rest, bind, Except.bind]
      rfl

/-- RAPL_power has room for two metrics of four sockets. -/
theorem raplInside {host : RaplHost} {requests : List CText} {n : Nat}
    (starts : RaplStarts host requests n) (few : n ≤ maxSockets) (distinct : requests.Nodup)
    (data : PluginMetrics) (st : RaplState) : RaplInside host requests data st := by
  have short := nodup_domains_length (raplDomains_nodup distinct)
  have blocks : n * (raplDomains requests).length ≤ 4 * 2 := Nat.mul_le_mul few short
  have room : 0 + n * (raplDomains requests).length ≤ maxEventsNumber := by
    show _ ≤ 32
    omega
  have some : 0 < n * (raplDomains requests).length :=
    Nat.mul_pos starts.positive (List.length_pos_iff.mpr starts.asked)
  let data₀ : PluginMetrics := { nameBlocks n (raplDomains requests) 0 data with
    numEvents := 0 + n * (raplDomains requests).length }
  let st₁ : RaplState := { st with
    numSockets := n, denominator := raplGetDenominator host, counters := fun _ => 0,
    raplIsAvailable := true }
  have init : raplInit host data requests st = .ok (true, data₀, { st with
      numSockets := n, denominator := raplGetDenominator host, counters := fun _ => 0 }) := by
    have names := nameRequests_eq (raplDomains requests) data few room
    rw [← nameRequests_known] at names
    have counted : n ≠ 0 := Nat.pos_iff_ne_zero.mp starts.positive
    unfold raplInit
    simp only [starts.library, starts.component, starts.sockets, starts.eventSet, starts.start,
      counted, names, bind, Except.bind]
    rfl
  intro r₀
  have few₁ : st₁.numSockets ≤ maxSockets := few
  obtain ⟨ret, before, counters, read⟩ := raplStatRead_keeps few₁ r₀ st.before
  refine ⟨data₀, { st₁ with counters := counters, before := before, beforeTime := r₀.clock }, ?_,
    room, ?_⟩
  · have named : ¬ (true = false ∨ data₀.numEvents = 0) := by
      rintro (impossible | empty)
      · cases impossible
      · change 0 + n * (raplDomains requests).length = 0 at empty
        omega
    unfold mfRAPLPowerInit
    rw [init]
    dsimp only [bind, Except.bind]
    rw [if_neg named, read]
    rfl
  · intro rs
    have ready : RaplReady (raplDomains requests) data₀
        { st₁ with counters := counters, before := before, beforeTime := r₀.clock } :=
      ⟨rfl, starts.positive, few, nameBlocks_layout _ _ _ _, Nat.zero_add _⟩
    exact ready.run short rs

/-! ## The three plugins -/

/-- CPU_perf stays inside its table exactly when at most ten cores are counted and they are all that
are configured, NVML exactly when there are at most four devices, and RAPL_power always, with the
metrics of any configuration and at most four sockets. -/
theorem eventTables_inside_iff (H : HashTable CText) :
    (∀ (host : PerfHost) (events : List CText) (numCores c : Int) (data : PluginMetrics)
      (st : PerfState), PerfStarts host events numCores c →
        (PerfInside host events numCores data st ↔ c ≤ 10 ∧ numCores ≤ c)) ∧
    (∀ (host : NvmlHost) (events : List CText) (n : BitVec 32) (data : PluginMetrics),
      NvmlStarts host events n → (NvmlInside host events data ↔ n.toNat ≤ 4)) ∧
    ∀ (store : ParserState H) (conf₀ conf : MfpData) (host : RaplHost) (n : Nat)
      (data : PluginMetrics) (st : RaplState), store.htInitialized = true →
        mfpGetDataFilteredByValue store "mf_plugin_RAPL_power".toList conf₀
          (some "on".toList) = .ok conf →
        RaplStarts host (conf.pairs.map Prod.fst) n → n ≤ maxSockets →
          RaplInside host (conf.pairs.map Prod.fst) data st := by
  refine ⟨?_, ?_, ?_⟩
  · intro host events numCores c data st starts
    exact perfInside_iff starts data st
  · intro host events n data starts
    exact nvmlInside_iff starts data
  · intro store conf₀ conf host n data st hinit listed starts few
    exact raplInside starts few (getData_keys_nodup hinit listed) data st

/-- A machine with a number of GPUs. -/
def gpuHost (n : BitVec 32) : NvmlHost := ⟨true, some n, fun _ => true⟩

/-- A machine with a number of cores that count all events. -/
def coreHost (n : Int) : PerfHost :=
  ⟨false, true, n, fun _ => true, fun _ _ => true, fun _ => true, fun _ => true, 0⟩

theorem gpuHost_starts (n : BitVec 32) : NvmlStarts (gpuHost n) ["power".toList] n where
  valid := by decide
  library := rfl
  count := rfl
  handles := List.all_eq_true.mpr fun _ _ => rfl

theorem coreHost_starts {n : Int} (hn : 0 < n) : PerfStarts (coreHost n) ["MIPS".toList] n n where
  valid := by decide
  loaded := by
    have some : ¬ n ≤ 0 := by omega
    simp [loadPapiLibrary, coreHost, some]
  setup := List.all_eq_true.mpr fun _ _ => rfl
  start := List.all_eq_true.mpr fun _ _ => rfl

/-- The configuration of one requested metric. -/
def totalPowerOn : ParserState (HashTable.alist CText) :=
  (mfpParse .init
    (.opened [⟨"mf_plugin_RAPL_power".toList, "total_power".toList, "on".toList⟩] 0)).1

theorem eventTables_inside_iff_fitting :
    PerfInside (coreHost 10) ["MIPS".toList] 10 .blank ⟨[], 0, fun _ _ => 0⟩ ∧
      NvmlInside (gpuHost 4) ["power".toList] .blank ∧
      RaplInside oneSocketHost ["total_power".toList] .blank blankRapl := by
  obtain ⟨perf, nvml, rapl⟩ := eventTables_inside_iff (HashTable.alist CText)
  refine ⟨?_, ?_, ?_⟩
  · exact (perf _ _ _ _ _ _ (coreHost_starts (by omega))).mpr ⟨by omega, Int.le_refl 10⟩
  · exact (nvml _ _ _ _ (gpuHost_starts 4)).mpr (by decide)
  · have keys : (mfpGetDataFilteredByValue totalPowerOn "mf_plugin_RAPL_power".toList
        ⟨fun _ => [], fun _ => [], 0⟩ (some "on".toList)).map
          (fun conf => conf.pairs.map Prod.fst) = .ok ["total_power".toList] := by decide +kernel
    obtain ⟨conf, listed, keys⟩ := Fault.map_eq_ok.mp keys
    have starts : RaplStarts oneSocketHost (conf.pairs.map Prod.fst) 1 := by
      rw [keys]
      exact ⟨rfl, by decide +kernel, rfl, Nat.one_pos, rfl, rfl, by decide +kernel⟩
    have inside := rapl totalPowerOn _ conf oneSocketHost 1 .blank blankRapl rfl listed starts
      (by decide)
    rwa [keys] at inside

/-- Eleven cores, and five GPUs. -/
theorem eventTables_overrun :
    ¬ PerfInside (coreHost 11) ["MIPS".toList] 11 .blank ⟨[], 0, fun _ _ => 0⟩ ∧
      ¬ NvmlInside (gpuHost 5) ["power".toList] .blank := by
  constructor
  · rw [perfInside_iff (coreHost_starts (by omega))]
    omega
  · rw [nvmlInside_iff (gpuHost_starts 5)]
    decide

end PhantomMonitor
