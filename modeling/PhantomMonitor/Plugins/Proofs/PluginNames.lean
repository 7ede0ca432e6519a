import PhantomMonitor.Plugins.Proofs.BoardMean
import PhantomMonitor.Plugins.Proofs.PluginTexts

/-!
# The names in the tables of the plugins

Each initialization that succeeds leaves a table with plain names, and no sample changes a name.
-/

namespace PhantomMonitor

open CText Json

/-! ## Initialization -/

/-- The names that a loop has put in the table so far. -/
abbrev PlainFill {V : Type} (acc : PluginTable V × Nat) : Prop := PlainUpTo acc.1.events acc.2

theorem nameMetric_plain {V : Type} {present : Bool} {name : CText} (plain : Plain name)
    {table : PluginTable V × Nat} (h : PlainFill table) :
    PlainFill (nameMetric present name table) := by
  unfold nameMetric
  split
  · exact h.push plain
  · exact h

theorem plain_resourcesName (m : ResourcesMetric) : Plain m.name := by
  cases m <;> exact plain_of_all (by decide)

theorem plain_powerName (m : PowerMetric) : Plain m.name := by
  cases m <;> exact plain_of_all (by decide)

theorem resourcesInit_plain {data : PluginMetrics} {events : List CText} {r : ResourcesReading}
    {st : ResourcesState} (ok : (mfLinuxResourcesInit data events r st).1 ≠ 0) :
    PlainTable (mfLinuxResourcesInit data events r st).2.1 := by
  have fill : ∀ (flag : ResourcesMetric → Bool) (ms : List ResourcesMetric)
      (table : PluginMetrics × Nat), PlainFill table →
        PlainFill (ms.foldl (fun table m => nameMetric (flag m) m.name table) table) := by
    intro flag ms
    induction ms with
    | nil => exact fun _ h => h
    | cons m ms ih => exact fun table h => ih _ (nameMetric_plain (plain_resourcesName m) h)
  unfold mfLinuxResourcesInit at ok ⊢
  dsimp only at ok ⊢
  split at ok
  · exact absurd rfl ok
  · rename_i accepted
    rw [if_neg accepted]
    exact fill _ _ _ (plainUpTo_zero _)

theorem powerInit_plain {data : PowerMetrics} {events : List CText} {nrCpus : Int}
    {r : PowerReading} {st : PowerState} {out : Nat × PowerMetrics × PowerState}
    (run : mfLinuxSysPowerInit data events nrCpus r st = .ok out) (ok : out.1 ≠ 0) :
    PlainTable out.2.1 := by
  unfold mfLinuxSysPowerInit at run
  dsimp only at run
  split at run
  · cases run
    exact absurd rfl ok
  · have total : PlainFill (nameMetric ((powerFlagInit st.flag events).1 .all)
        PowerMetric.all.name (data, 0)) :=
      nameMetric_plain (plain_powerName .all) (plainUpTo_zero _)
    have named : PlainFill (powerNames (powerFlagInit st.flag events).1 (nameMetric
        ((powerFlagInit st.flag events).1 .all) PowerMetric.all.name (data, 0))) :=
      nameMetric_plain (plain_powerName .io) (nameMetric_plain (plain_powerName .ram)
        (nameMetric_plain (plain_powerName .net) (nameMetric_plain (plain_powerName .cpu) total)))
    split at run
    · obtain ⟨_, -, run⟩ := Fault.bind_eq_ok.mp run
      cases run
      exact named
    · cases run
      exact named

theorem nvmlInit_plain {host : NvmlHost} {data : PluginMetrics} {events : List CText}
    {devicesCount : BitVec 32} {out : Int × PluginMetrics × BitVec 32}
    (run : mfNVMLInit host data events devicesCount = .ok out) (ok : out.1 ≠ 0) :
    PlainTable out.2.1 := by
  have device : ∀ acc, PlainFill acc → ∀ i acc', nameDevice acc i = .ok acc' → PlainFill acc' := by
    intro acc h i acc' run
    refine Fault.foldlM_keeps _ ?_ h run
    intro acc h metric member acc' run
    obtain ⟨data', stored, run⟩ := Fault.bind_eq_ok.mp run
    cases run
    exact h.setEvent (plain_gpuEventName i (plain_nvmlMetrics metric member)) stored
  unfold mfNVMLInit at run
  split at run
  · cases run
    exact absurd rfl ok
  · split at run
    · cases run
      exact absurd rfl ok
    · cases count : host.deviceCount with
      | none =>
          rw [count] at run
          cases run
          exact absurd rfl ok
      | some devicesCount =>
          rw [count] at run
          obtain ⟨acc, filled, run⟩ := Fault.bind_eq_ok.mp run
          have h : PlainFill acc :=
            Fault.foldlM_keeps _ (fun acc h i _ => device acc h i) (plainUpTo_zero _) filled
          dsimp only at run
          split at run
          · cases run
            exact h
          · cases run
            exact absurd rfl ok

theorem nameSockets_plain {d : RaplDomain} {n : Nat} {acc acc' : PluginMetrics × Nat}
    (h : PlainFill acc) (run : nameSockets d n acc.1 acc.2 = .ok acc') : PlainFill acc' := by
  refine Fault.foldlM_keeps _ ?_ h run
  intro acc h j _ acc' run
  obtain ⟨data', stored, run⟩ := Fault.bind_eq_ok.mp run
  cases run
  exact h.setEvent (plain_eventName d j) stored

theorem nameRequest_plain {n : Nat} {request : CText} {acc acc' : PluginMetrics × Nat}
    (h : PlainFill acc) (run : nameRequest n request acc.1 acc.2 = .ok acc') : PlainFill acc' := by
  have second : ∀ middle : PluginMetrics × Nat, PlainFill middle →
      (if request = RaplDomain.dram.metric then nameSockets .dram n middle.1 middle.2
        else .ok middle) = .ok acc' → PlainFill acc' := by
    intro middle half run
    split at run
    · exact nameSockets_plain half run
    · cases run
      exact half
  unfold nameRequest at run
  dsimp only at run
  split at run
  · obtain ⟨middle, first, run⟩ := Fault.bind_eq_ok.mp run
    exact second middle (nameSockets_plain h first) run
  · exact second acc h run

theorem raplInit_plain {host : RaplHost} {data : PluginMetrics} {requests : List CText}
    {r : RaplReading} {st : RaplState} {out : Int × PluginMetrics × RaplState}
    (run : mfRAPLPowerInit host data requests r st = .ok out) (ok : out.1 ≠ 0) :
    PlainTable out.2.1 := by
  obtain ⟨⟨available, data', st'⟩, first, run⟩ := Fault.bind_eq_ok.mp run
  dsimp only at run
  split at run
  · cases run
    exact absurd rfl ok
  · rename_i going
    obtain ⟨_, -, run⟩ := Fault.bind_eq_ok.mp run
    cases run
    unfold raplInit at first
    dsimp only at first
    split at first
    · cases first
      exact absurd (Or.inl rfl) going
    · split at first
      · cases first
        exact absurd (Or.inl rfl) going
      · obtain ⟨acc, filled, first⟩ := Fault.bind_eq_ok.mp first
        have h : PlainFill acc :=
          Fault.foldlM_keeps _ (fun acc h _ _ _ run => nameRequest_plain h run)
          (plainUpTo_zero _) filled
        split at first
        · cases first
          exact h
        · cases first
          exact absurd (Or.inl rfl) going

theorem cpuPerfInit_plain {host : PerfHost} {data : PluginMetrics} {events : List CText}
    {numCores : Int} {st : PerfState} {out : Int × PluginMetrics × PerfState}
    (run : mfCPUPerfInit host data events numCores st = .ok out) (ok : out.1 ≠ 0) :
    PlainTable out.2.1 := by
  have event : ∀ i (acc : PluginMetrics × Nat × List PapiEvent), PlainUpTo acc.1.events acc.2.1 →
      ∀ e acc', addEvent host i acc e = .ok acc' → PlainUpTo acc'.1.events acc'.2.1 := by
    intro i acc h e acc' run
    unfold addEvent at run
    dsimp only at run
    split at run
    · obtain ⟨data', stored, run⟩ := Fault.bind_eq_ok.mp run
      cases run
      exact h.setEvent (plain_coreEventName i e) stored
    · cases run
      exact h
  have core : ∀ acc : PluginMetrics × Nat × List (List PapiEvent), PlainUpTo acc.1.events acc.2.1 →
      ∀ i acc', addCore host acc i = .ok acc' → PlainUpTo acc'.1.events acc'.2.1 := by
    intro acc h i acc' run
    obtain ⟨found, filled, run⟩ := Fault.bind_eq_ok.mp run
    cases run
    exact Fault.foldlM_keeps (fun acc => PlainUpTo acc.1.events acc.2.1)
      (fun acc h e _ => event i acc h e) h filled
  unfold mfCPUPerfInit at run
  split at run
  · cases run
    exact absurd rfl ok
  · cases loaded : loadPapiLibrary host numCores with
    | none =>
        rw [loaded] at run
        cases run
        exact absurd rfl ok
    | some numCores =>
        rw [loaded] at run
        dsimp only at run
        split at run
        · cases run
          exact absurd rfl ok
        · obtain ⟨acc, filled, run⟩ := Fault.bind_eq_ok.mp run
          have h := Fault.foldlM_keeps (fun acc => PlainUpTo acc.1.events acc.2.1)
            (fun acc h i _ => core acc h i) (plainUpTo_zero data.events) filled
          split at run
          · cases run
            exact absurd rfl ok
          · cases run
            exact h

/-! ### Labels of the machine -/

/-- The labels of the channels are plain. A label that no channel sets is the empty one of static
memory. -/
def PlainLabels (st : BoardState) : Prop := ∀ d c, Plain (st.myChn d c).label

theorem initIna2xxChannels_plain {dev : IioDevice} {d : Nat} {st st' : BoardState}
    (h : PlainLabels st) (run : initIna2xxChannels dev d st = some st') : PlainLabels st' := by
  unfold initIna2xxChannels at run
  split at run
  · cases run
  · split at run
    · cases run
    · cases run
      intro d' c
      by_cases same : d' = d
      · subst same
        dsimp only
        rw [Function.update_self]
        cases dev.channels[c]? with
        | none => exact h d' c
        | some found => exact plain_channelLabel d' found.id (h d' c)
      · dsimp only
        rw [Function.update_of_ne same]
        exact h d' c

theorem initDevices_plain {devices : List (Option IioDevice × Nat)} {st : BoardState}
    (h : PlainLabels st) {out : Int × BoardState} (run : initDevices devices st = some out) :
    PlainLabels out.2 := by
  induction devices generalizing st with
  | nil =>
      cases run
      exact h
  | cons device devices ih =>
      obtain ⟨found, d⟩ := device
      cases found with
      | none =>
          cases run
          exact h
      | some dev =>
          rw [initDevices] at run
          split at run
          · cases run
            exact h
          · split at run
            · cases run
              exact h
            · cases channels : initIna2xxChannels dev d st with
              | none =>
                  rw [channels] at run
                  cases run
              | some st' =>
                  rw [channels] at run
                  have kept := initIna2xxChannels_plain h channels
                  dsimp only at run
                  split at run
                  · exact ih kept run
                  · cases run
                    exact kept

theorem createEvents_plain {st : BoardState} (labels : PlainLabels st) {events : List CText}
    {acc : PluginMetrics × Nat} (h : PlainFill acc) {out : Bool × PluginMetrics × Nat}
    (run : createEvents st events acc = .ok out) : PlainFill out.2 := by
  induction events generalizing acc with
  | nil =>
      cases run
      exact h
  | cons event events ih =>
      obtain ⟨data, idx⟩ := acc
      cases place : findChannel st event with
      | none =>
          rw [createEvents, place] at run
          cases run
          exact h
      | some channel =>
          rw [createEvents, place] at run
          obtain ⟨data', stored, run⟩ := Fault.bind_eq_ok.mp run
          obtain ⟨-, -, label⟩ := findChannel_eq_some place
          exact ih (h.setEvent (label ▸ labels channel.1 channel.2) stored) run

theorem boardInit_plain {host : IioHost} {data : PluginMetrics} {events : List CText}
    {st : BoardState} (labels : PlainLabels st) {out : Int × PluginMetrics × BoardState}
    (run : mfBoardPowerInit host data events st = .ok (some out)) (ok : out.1 ≠ 0) :
    PlainTable out.2.1 := by
  unfold mfBoardPowerInit at run
  cases enabled : mfAcmeIsEnabled host st with
  | none =>
      rw [enabled] at run
      cases run
  | some found =>
      obtain ⟨ret, st'⟩ := found
      rw [enabled] at run
      dsimp only at run
      split at run
      · cases run
        exact absurd rfl ok
      · have labels' : PlainLabels st' := by
          unfold mfAcmeIsEnabled at enabled
          cases host with
          | none =>
              cases enabled
              exact labels
          | some devices =>
              dsimp only at enabled
              split at enabled
              · cases enabled
                exact labels
              · have start : PlainLabels { st with nbDevices := devices.length } := labels
                exact initDevices_plain start enabled
        obtain ⟨⟨ret', data'⟩, created, run⟩ := Fault.bind_eq_ok.mp run
        cases run
        obtain ⟨⟨found, data'', idx⟩, filled, created⟩ := Fault.bind_eq_ok.mp created
        have h : PlainFill (data'', idx) := createEvents_plain labels' (plainUpTo_zero _) filled
        dsimp only at created
        split at created
        · cases created
          exact h
        · cases created
          exact absurd rfl ok

theorem copyBehind_plain {size skip : Nat} {dst label text : CText} (h : Plain dst)
    (plain : Plain label) (run : copyBehind size skip dst label = .ok text) : Plain text := by
  unfold copyBehind at run
  split at run
  · cases run
  · split at run
    · cases run
      refine Plain.append ?_ ?_
      · exact fun c member => plain c (List.mem_of_mem_drop member)
      · exact fun c member => h c (List.mem_of_mem_drop member)
    · cases run

theorem plain_nil : Plain [] := fun _ none => absurd none List.not_mem_nil

theorem chipNumber_plain {features : List SensorsFeature}
    (labels : ∀ feature ∈ features, Plain feature.label) {chipnum : CText}
    (run : chipNumber features = .ok chipnum) : Plain chipnum := by
  refine Fault.foldlM_keeps _ ?_ plain_nil run
  intro chipnum h feature member chipnum' run
  split at run
  · exact copyBehind_plain h (labels feature member) run
  · cases run
    exact h

theorem coreLabel_plain {chipnum label myLabel : CText} (h : Plain chipnum) (plain : Plain label)
    (run : coreLabel chipnum label = .ok myLabel) : Plain myLabel := by
  obtain ⟨corenum, copied, run⟩ := Fault.bind_eq_ok.mp run
  obtain ⟨chip, hchip, run⟩ := Fault.bind_eq_ok.mp run
  obtain ⟨core, hcore, run⟩ := Fault.bind_eq_ok.mp run
  have same : ∀ {size : Nat} {text read : CText}, readArray size text = .ok read → read = text := by
    intro size text read run
    unfold readArray at run
    split at run
    · cases run
      rfl
    · cases run
  rw [store_eq_ok run, same hchip, same hcore]
  have cpu : Plain "CPU".toList := plain_of_all (by decide)
  have colon : Plain ":core".toList := plain_of_all (by decide)
  exact ((cpu.append h).append colon).append (copyBehind_plain plain_nil plain copied)

theorem initSubfeatures_plain {events : List CText} {chipnum label : CText} {chip : Nat}
    (number : Plain chipnum) (plain : Plain label) {subfeatures : List SensorsSubfeature}
    {s s' : TemperatureSetup} (h : PlainUpTo s.data.events s.eventI)
    (run : initSubfeatures events chipnum chip label subfeatures s = .ok s') :
    PlainUpTo s'.data.events s'.eventI := by
  induction subfeatures with
  | nil =>
      cases run
      exact h
  | cons subfeature subfeatures ih =>
      rw [initSubfeatures] at run
      split at run
      · obtain ⟨myLabel, named, run⟩ := Fault.bind_eq_ok.mp run
        split at run
        · obtain ⟨data', stored, run⟩ := Fault.bind_eq_ok.mp run
          cases run
          exact h.setEvent (coreLabel_plain number plain named) stored
        · exact ih run
      · exact ih run

theorem temperatureInit_plain {host : SensorsHost} {data : PluginMetrics} {events : List CText}
    {featuresList : FeaturesList} {out : Int × PluginMetrics × FeaturesList}
    (labels : ∀ chip ∈ host.chips, ∀ feature ∈ chip.features, Plain feature.label)
    (run : mfCPUTemperatureInit host data events featuresList = .ok out) (ok : out.1 ≠ 0) :
    PlainTable out.2.1 := by
  have chip : ∀ s : TemperatureSetup, PlainUpTo s.data.events s.eventI →
      ∀ chip ∈ host.chips.zipIdx, ∀ s', initChip events s chip = .ok s' →
        PlainUpTo s'.data.events s'.eventI := by
    intro s h chip member s' run
    unfold initChip at run
    split at run
    · obtain ⟨chipnum, number, run⟩ := Fault.bind_eq_ok.mp run
      have known := labels chip.1 (List.fst_mem_of_mem_zipIdx member)
      have plain := chipNumber_plain known number
      refine Fault.foldlM_keeps (fun s => PlainUpTo s.data.events s.eventI) ?_ h run
      intro s h feature inside s' run
      split at run
      · exact initSubfeatures_plain plain (known feature inside) h run
      · cases run
        exact h
    · cases run
      exact h
  unfold mfCPUTemperatureInit at run
  split at run
  · cases run
    exact absurd rfl ok
  · obtain ⟨s, filled, run⟩ := Fault.bind_eq_ok.mp run
    have h := Fault.foldlM_keeps (fun s => PlainUpTo s.data.events s.eventI) chip
      (plainUpTo_zero data.events) filled
    split at run
    · cases run
      exact absurd rfl ok
    · cases run
      exact h

/-! ## Samples

A sample stores values, and the names stay.
-/

theorem raplSample_plain {data : PluginMetrics} (h : PlainTable data) {r : RaplReading}
    {st : RaplState} {out : Int × PluginMetrics × RaplState}
    (run : mfRAPLPowerSample data r st = .ok (some out)) : PlainTable out.2.1 := by
  obtain ⟨st', -, run⟩ := Fault.bind_eq_ok.mp run
  obtain ⟨loop, -, run⟩ := Fault.bind_eq_ok.mp run
  cases loop with
  | none => cases run
  | some l =>
      cases run
      exact h

theorem nvmlSample_plain {data : PluginMetrics} (h : PlainTable data) {readings : Nat → NvmlReading}
    {devicesCount : BitVec 32} {out : Int × PluginMetrics}
    (run : mfNVMLSample data readings devicesCount = .ok out) : PlainTable out.2 := by
  have device : ∀ acc : PluginMetrics × Nat, PlainTable acc.1 → ∀ i acc',
      sampleDevice readings acc i = .ok acc' → PlainTable acc'.1 := by
    intro acc h i acc' run
    refine Fault.foldlM_keeps (fun acc => PlainTable acc.1) ?_ h run
    intro acc h value _ acc' run
    obtain ⟨data', stored, run⟩ := Fault.bind_eq_ok.mp run
    cases run
    exact h.setValue stored
  obtain ⟨acc, stored, run⟩ := Fault.bind_eq_ok.mp run
  have kept : PlainTable acc.1 :=
    Fault.foldlM_keeps (fun acc => PlainTable acc.1) (fun acc h i _ => device acc h i) h stored
  cases run
  exact kept

theorem storeSlots_plain {slots : Nat → Int} {duration : Int} {data : PluginMetrics}
    (h : PlainTable data) {jj : Nat} {out : PluginMetrics × Nat}
    (run : storeSlots slots duration data jj = .ok out) : PlainTable out.1 := by
  refine Fault.foldlM_keeps (fun acc => PlainTable acc.1) ?_ h run
  intro acc h ii _ acc' run
  obtain ⟨data', stored, run⟩ := Fault.bind_eq_ok.mp run
  cases run
  exact h.setValue stored

theorem sampleCores_plain {readOk : Nat → Bool} {duration : Int} {cores : List Nat}
    {data : PluginMetrics} (h : PlainTable data) {jj : Nat} {slots : Nat → Int} {st : PerfState}
    {out : Bool × PluginMetrics × PerfState}
    (run : sampleCores readOk duration cores data jj slots st = .ok out) : PlainTable out.2.1 := by
  induction cores generalizing data jj slots st with
  | nil =>
      cases run
      exact h
  | cons i cores ih =>
      rw [sampleCores] at run
      cases found : st.eventSets[i]? with
      | none =>
          rw [found] at run
          cases run
      | some set =>
          rw [found] at run
          dsimp only at run
          split at run
          · split at run
            · cases run
            · rename_i stored
              exact ih (storeSlots_plain h stored) run
          · cases run
            exact h

theorem cpuPerfSample_plain {data : PluginMetrics} (h : PlainTable data) {numCores : Int}
    {r : PerfReading} {st : PerfState} {out : Int × PluginMetrics × PerfState}
    (run : mfCPUPerfSample data numCores r st = .ok out) : PlainTable out.2.1 := by
  unfold mfCPUPerfSample at run
  split at run
  · cases run
  · rename_i sampled
    cases run
    exact sampleCores_plain h sampled
  · rename_i sampled
    cases run
    exact sampleCores_plain h sampled

theorem filterData_plain {data data' : PluginMetrics} (h : PlainTable data) {st : BoardState}
    (run : filterData data st = .ok data') : PlainTable data' := by
  refine Fault.foldlM_keeps PlainTable ?_ h run
  intro data h idx _ data' run
  obtain ⟨event, -, run⟩ := Fault.bind_eq_ok.mp run
  cases event with
  | none => cases run
  | some event =>
      dsimp only at run
      split at run
      · cases run
        exact h
      · exact h.setValue run

theorem boardSample_plain {data : PluginMetrics} (h : PlainTable data) {r : BoardReading}
    {st : BoardState} {out : Int × PluginMetrics × BoardState}
    (run : mfBoardPowerSample data r st = .ok out) : PlainTable out.2.1 := by
  obtain ⟨⟨refilled, st'⟩, -, run⟩ := Fault.bind_eq_ok.mp run
  dsimp only at run
  split at run
  · obtain ⟨data', filtered, run⟩ := Fault.bind_eq_ok.mp run
    cases run
    exact filterData_plain h filtered
  · cases run
    exact h

theorem temperatureSample_plain {data : PluginMetrics} (h : PlainTable data)
    {r : TemperatureReading} {featuresList : FeaturesList} {out : Int × PluginMetrics}
    (run : mfCPUTemperatureSample data r featuresList = .ok out) : PlainTable out.2 := by
  obtain ⟨acc, stored, run⟩ := Fault.bind_eq_ok.mp run
  have kept : PlainTable acc.1 := by
    refine Fault.foldlM_keeps (fun acc => PlainTable acc.1) ?_ h stored
    intro acc h i _ acc' run
    unfold sampleSensor at run
    split at run
    · cases run
    · obtain ⟨data', stored, run⟩ := Fault.bind_eq_ok.mp run
      cases run
      exact h.setValue stored
  cases run
  exact kept

/-! ## The seven plugins -/

/-- The names of a connector stay plain: an initialization that succeeds makes them so, a sample
keeps them, and they are what the text shows. `found` is what the initialization needs. -/
structure PlainNames {H : HashTable CText} (c : Connector H)
    (found : c.Found → PluginTable c.Value × c.Vars → Prop) : Prop where
  type : Plain c.type
  init : ∀ {param events host s ret s'}, found host s →
    c.init param events host s = .ok (some (ret, s')) → ret ≠ 0 → PlainTable s'.1
  sample : ∀ {param r s ret s'}, PlainTable s.1 → c.sample param r s = .ok (some (ret, s')) →
    PlainTable s'.1
  entries : ∀ {events s shown}, PlainTable s.1 → c.entries events s = .ok shown →
    ∀ entry ∈ shown, Plain entry.1

/-- The names of numbers. -/
theorem numbers_plain {run : Except Fault (List (CText × Rat))}
    (plain : ∀ {entries}, run = .ok entries → ∀ entry ∈ entries, Plain entry.1)
    {shown : List (CText × FloatValue)} (h : run.map numbers = .ok shown) :
    ∀ entry ∈ shown, Plain entry.1 := by
  obtain ⟨entries, run, rfl⟩ := Fault.map_eq_ok.mp h
  intro entry member
  obtain ⟨number, inside, rfl⟩ := List.mem_map.mp member
  exact plain run number inside

/-- What a connector returns comes from a run of its function. -/
theorem map_some_eq_ok {α β : Type} {x : Except Fault α} {f : α → β} {out : β}
    (h : x.map (fun a => some (f a)) = .ok (some out)) : ∃ a, x = .ok a ∧ f a = out := by
  cases x with
  | error fault => cases h
  | ok a => exact ⟨a, rfl, Option.some.inj (Except.ok.inj h)⟩

section

variable (H : HashTable CText)

theorem boardPower_plainNames :
    PlainNames (boardPowerConnector H) fun _ s => PlainLabels s.2 where
  type := plain_of_all (by decide : "Board_power".toList.all isPlain = true)
  init labels run ok := boardInit_plain labels run ok
  sample h run := by
    obtain ⟨out, run, rfl⟩ := map_some_eq_ok run
    exact boardSample_plain h run
  entries h run := numbers_plain (requestedEntries_plain h) run

theorem cpuPerf_plainNames : PlainNames (cpuPerfConnector H) fun _ _ => True where
  type := plain_of_all (by decide : "CPU_perf".toList.all isPlain = true)
  init _ run ok := by
    obtain ⟨out, run, rfl⟩ := map_some_eq_ok run
    exact cpuPerfInit_plain run ok
  sample h run := by
    obtain ⟨out, run, rfl⟩ := map_some_eq_ok run
    exact cpuPerfSample_plain h run
  entries h run := numbers_plain (requestedEntries_plain h) run

theorem cpuTemperature_plainNames :
    PlainNames (cpuTemperatureConnector H) fun host _ =>
      ∀ chip ∈ host.chips, ∀ feature ∈ chip.features, Plain feature.label where
  type := plain_of_all (by decide : "CPU_temperature".toList.all isPlain = true)
  init labels run ok := by
    obtain ⟨out, run, rfl⟩ := map_some_eq_ok run
    exact temperatureInit_plain labels run ok
  sample h run := by
    obtain ⟨out, sampled, same⟩ := map_some_eq_ok run
    obtain ⟨-, rfl⟩ := Prod.mk.inj same
    exact temperatureSample_plain h sampled
  entries h run := numbers_plain (tableEntries_plain h) run

theorem linuxResources_plainNames : PlainNames (linuxResourcesConnector H) fun _ _ => True where
  type := plain_of_all (by decide : "Linux_resources".toList.all isPlain = true)
  init := by
    intro _ events found s ret s' _ run ok
    obtain ⟨rfl, rfl⟩ := Prod.mk.inj (Option.some.inj (Except.ok.inj run))
    exact resourcesInit_plain (Int.natCast_ne_zero.mp ok)
  sample := by
    intro _ _ _ _ _ h run
    cases run
    exact h
  entries := by
    intro _ s _ h run
    refine @numbers_plain (.ok (resourcesJsonEntries s.1)) ?_ _ run
    intro entries run
    cases run
    exact resourcesJsonEntries_plain h

theorem linuxSysPower_plainNames : PlainNames (linuxSysPowerConnector H) fun _ _ => True where
  type := plain_of_all (by decide : "Linux_sys_power".toList.all isPlain = true)
  init := by
    intro _ events found s ret s' _ run ok
    obtain ⟨out, accepted, same⟩ := map_some_eq_ok run
    obtain ⟨rfl, rfl⟩ := Prod.mk.inj same
    exact powerInit_plain accepted (Int.natCast_ne_zero.mp ok)
  sample := by
    intro _ _ _ _ _ h run
    cases run
    exact h
  entries := by
    intro _ _ _ h run
    cases run
    exact powerJsonEntries_plain h _

theorem nvml_plainNames : PlainNames (nvmlConnector H) fun _ _ => True where
  type := plain_of_all (by decide : "NVML".toList.all isPlain = true)
  init _ run ok := by
    obtain ⟨out, run, rfl⟩ := map_some_eq_ok run
    exact nvmlInit_plain run ok
  sample h run := by
    obtain ⟨out, sampled, same⟩ := map_some_eq_ok run
    obtain ⟨-, rfl⟩ := Prod.mk.inj same
    exact nvmlSample_plain h sampled
  entries h run := numbers_plain (nvmlJsonEntries_plain h) run

theorem raplPower_plainNames : PlainNames (raplPowerConnector H) fun _ _ => True where
  type := plain_of_all (by decide : "RAPL_power".toList.all isPlain = true)
  init _ run ok := by
    obtain ⟨out, run, rfl⟩ := map_some_eq_ok run
    exact raplInit_plain run ok
  sample h run := raplSample_plain h run
  entries h run := numbers_plain (tableEntries_plain h) run

/-- The labels that the machine gives are plain: libsensors has those of CPU_temperature, and a
channel of Board_power starts with one. -/
def AgentPlugin.PlainMachine : (p : AgentPlugin) → (p.connector H).Found →
    PluginTable (p.connector H).Value × (p.connector H).Vars → Prop
  | boardPower => fun _ (s : PluginMetrics × BoardState) => PlainLabels s.2
  | cpuTemperature => fun (host : SensorsHost) _ =>
      ∀ chip ∈ host.chips, ∀ feature ∈ chip.features, Plain feature.label
  | cpuPerf | linuxResources | linuxSysPower | nvml | raplPower => fun _ _ => True

theorem AgentPlugin.plainNames (p : AgentPlugin) :
    PlainNames (p.connector H) (p.PlainMachine H) := by
  cases p with
  | boardPower => exact boardPower_plainNames H
  | cpuPerf => exact cpuPerf_plainNames H
  | cpuTemperature => exact cpuTemperature_plainNames H
  | linuxResources => exact linuxResources_plainNames H
  | linuxSysPower => exact linuxSysPower_plainNames H
  | nvml => exact nvml_plainNames H
  | raplPower => exact raplPower_plainNames H

end

end PhantomMonitor
