import PhantomMonitor.Misc.Average
import PhantomMonitor.Misc.Table
import PhantomMonitor.Plugins.BoardPower

/-!
# The averages of Board_power

The callback sees the samples of a buffer scan by scan and channel by channel, and counts the scans
of a device at its first channel. So after each scan the value of every channel is the mean of what
it has delivered since the last reset.
-/

namespace PhantomMonitor

open CText

/-! ## The environment -/

/-- What the callback relies on: libiio names the devices in their order, and the channels of a
device have pointers of their own. -/
structure BoardReady (st : BoardState) : Prop where
  devices : st.nbDevices ≤ maxDevices
  channels : ∀ d < st.nbDevices, 1 ≤ st.nbChannels ∧ st.nbChannels ≤ maxChannels
  ids : ∀ d < st.nbDevices, ∀ c < st.nbChannels, (st.myChn d c).iio.deviceId = iioDeviceId d
  pointers : ∀ d < st.nbDevices, ∀ c < st.nbChannels, ∀ c' < st.nbChannels,
    (st.myChn d c).iio = (st.myChn d c').iio → c = c'

/-- One scan of a device: the 16-bit sample of each of its channels. -/
abbrev Scan := Nat → BitVec 16

/-- The callbacks for the scans of a device: scan by scan, the channels in their order. -/
def BoardState.delivered (st : BoardState) (d : Nat) (scans : List Scan) :
    List (IioChannel × BitVec 16) :=
  scans.flatMap fun scan => (List.range st.nbChannels).map fun c => ((st.myChn d c).iio, scan c)

/-- The counters and the values stand at zero. -/
structure BoardReset (st : BoardState) : Prop where
  samples : ∀ d < st.nbDevices, st.nbSamples d = 0
  values : ∀ d < st.nbDevices, ∀ c < st.nbChannels, (st.myChn d c).value = 0

/-! ## What the initialization leaves -/

/-- What libiio finds: every device has `k` channels, with the id of the device and pointers of
their own. -/
def HostReady (k : Nat) (devices : List (Option IioDevice × Nat)) : Prop :=
  ∀ dev d, (some dev, d) ∈ devices → dev.channels.length = k ∧
    (∀ found ∈ dev.channels, found.chn.deviceId = iioDeviceId d) ∧
    (dev.channels.map IioChannelInfo.chn).Nodup

/-- The part of the state that belongs to a device. -/
structure DeviceReady (k : Nat) (st : BoardState) (d : Nat) : Prop where
  samples : st.nbSamples d = 0
  values : ∀ c < k, (st.myChn d c).value = 0
  ids : ∀ c < k, (st.myChn d c).iio.deviceId = iioDeviceId d
  pointers : ∀ c < k, ∀ c' < k, (st.myChn d c).iio = (st.myChn d c').iio → c = c'

theorem initIna2xxChannels_ready {k d : Nat} {dev : IioDevice} {st st' : BoardState}
    (count : dev.channels.length = k)
    (ids : ∀ found ∈ dev.channels, found.chn.deviceId = iioDeviceId d)
    (pointers : (dev.channels.map IioChannelInfo.chn).Nodup)
    (h : initIna2xxChannels dev d st = some st') :
    st'.nbDevices = st.nbDevices ∧ st'.nbChannels = k ∧ k ≤ maxChannels ∧ DeviceReady k st' d ∧
      ∀ e, e ≠ d → DeviceReady k st e → DeviceReady k st' e := by
  unfold initIna2xxChannels at h
  split at h
  · cases h
  · split at h
    · cases h
    · rename_i few
      cases h
      have channel : ∀ c < k, ∃ inside : c < dev.channels.length,
          dev.channels[c]? = some dev.channels[c] := fun c hc =>
        ⟨count ▸ hc, List.getElem?_eq_getElem (count ▸ hc)⟩
      refine ⟨rfl, count, by omega, ⟨by simp, ?_, ?_, ?_⟩, ?_⟩
      · intro c hc
        obtain ⟨inside, found⟩ := channel c hc
        simp [found, initChannel]
      · intro c hc
        obtain ⟨inside, found⟩ := channel c hc
        simpa [found, initChannel] using ids _ (List.getElem_mem inside)
      · intro c hc c' hc' same
        obtain ⟨inside, found⟩ := channel c hc
        obtain ⟨inside', found'⟩ := channel c' hc'
        simp only [Function.update_self, found, found', initChannel] at same
        have bound : c < (dev.channels.map IioChannelInfo.chn).length := by simpa using inside
        have bound' : c' < (dev.channels.map IioChannelInfo.chn).length := by simpa using inside'
        have equal : (dev.channels.map IioChannelInfo.chn)[c] =
            (dev.channels.map IioChannelInfo.chn)[c'] := by simpa using same
        exact pointers.getElem_inj_iff.mp equal
      · intro e other ready
        refine ⟨?_, ?_, ?_, ?_⟩ <;> simp only [Function.update_of_ne other]
        · exact ready.samples
        · exact ready.values
        · exact ready.ids
        · exact ready.pointers

theorem initDevices_ready {k : Nat} {devices : List (Option IioDevice)} {start : Nat}
    {st st' : BoardState} (host : HostReady k (devices.zipIdx start))
    (before : ∀ d < start, DeviceReady k st d)
    (h : initDevices (devices.zipIdx start) st = some (1, st')) :
    st'.nbDevices = st.nbDevices ∧ (∀ d < start + devices.length, DeviceReady k st' d) ∧
      (devices ≠ [] → st'.nbChannels = k ∧ k ≤ maxChannels) := by
  induction devices generalizing start st with
  | nil =>
      cases h
      exact ⟨rfl, before, fun none => absurd rfl none⟩
  | cons found devices ih =>
      rw [List.zipIdx_cons] at host h
      cases found with
      | none => cases h
      | some dev =>
          obtain ⟨count, ids, pointers⟩ := host dev start List.mem_cons_self
          have others : HostReady k (devices.zipIdx (start + 1)) :=
            fun dev d member => host dev d (List.mem_cons_of_mem _ member)
          rw [initDevices] at h
          split at h
          · cases h
          · split at h
            · cases h
            · cases channels : initIna2xxChannels dev start st with
              | none =>
                  rw [channels] at h
                  cases h
              | some st₁ =>
                  rw [channels] at h
                  obtain ⟨number, set, few, ready, keep⟩ :=
                    initIna2xxChannels_ready count ids pointers channels
                  have next : ∀ d < start + 1, DeviceReady k st₁ d := by
                    intro d hd
                    rcases Nat.lt_succ_iff_lt_or_eq.mp hd with earlier | rfl
                    · exact keep d (Nat.ne_of_lt earlier) (before d earlier)
                    · exact ready
                  simp only at h
                  split at h
                  · obtain ⟨same, all, last⟩ := ih others next h
                    refine ⟨same.trans number, fun d hd => all d (by simp at hd; omega),
                      fun _ => ?_⟩
                    by_cases done : devices = []
                    · subst done
                      cases h
                      exact ⟨set, few⟩
                    · exact last done
                  · cases h

/-- When the initialization succeeds on what libiio finds, the callback can rely on its state, and
the statistics stand at zero. -/
theorem mfAcmeIsEnabled_ready {k : Nat} (some' : 1 ≤ k) {devices : List (Option IioDevice)}
    {st st' : BoardState} (host : HostReady k devices.zipIdx)
    (h : mfAcmeIsEnabled (some devices) st = some (1, st')) : BoardReady st' ∧ BoardReset st' := by
  unfold mfAcmeIsEnabled at h
  dsimp only at h
  split at h
  · cases h
  · rename_i few
    obtain ⟨number, all, channels⟩ := initDevices_ready host (fun d hd => nomatch hd) h
    have number : st'.nbDevices = devices.length := number
    have ready : ∀ d < st'.nbDevices, DeviceReady st'.nbChannels st' d ∧ 1 ≤ st'.nbChannels ∧
        st'.nbChannels ≤ maxChannels := by
      intro d hd
      obtain ⟨rfl, five⟩ := channels fun none => by simp [number, none] at hd
      exact ⟨all d (by omega), some', five⟩
    exact ⟨⟨by omega, fun d hd => (ready d hd).2, fun d hd => (ready d hd).1.ids,
        fun d hd => (ready d hd).1.pointers⟩,
      ⟨fun d hd => (ready d hd).1.samples, fun d hd => (ready d hd).1.values⟩⟩

/-! ## States that differ in the statistics -/

/-- The state with other counters and values. -/
def BoardState.put (st : BoardState) (samples : Nat → Nat) (values : Nat → Nat → Rat) :
    BoardState :=
  { st with nbSamples := samples, myChn := fun d c => { st.myChn d c with value := values d c } }

/-- The counters and the values of a state. -/
def BoardState.values (st : BoardState) (d c : Nat) : Rat := (st.myChn d c).value

theorem BoardState.put_self (st : BoardState) : st.put st.nbSamples st.values = st := rfl

theorem iioDeviceId_inj {d d' : Nat} (h : iioDeviceId d = iioDeviceId d') : d = d' :=
  toDigits_inj (List.append_cancel_left h)

theorem chanDevice_put {st : BoardState} (ready : BoardReady st) (samples : Nat → Nat)
    (values : Nat → Nat → Rat) {d c : Nat} (hd : d < st.nbDevices) (hc : c < st.nbChannels) :
    chanDevice (st.put samples values) (st.myChn d c).iio = some d := by
  rw [chanDevice, List.find?_range_eq_some]
  refine ⟨?_, List.mem_range.mpr hd, ?_⟩
  · simpa using ready.ids d hd c hc
  · intro i hi
    rw [ready.ids d hd c hc]
    simpa using fun same => Nat.ne_of_gt hi (iioDeviceId_inj same)

theorem chanIndex_put {st : BoardState} (ready : BoardReady st) (samples : Nat → Nat)
    (values : Nat → Nat → Rat) {d c : Nat} (hd : d < st.nbDevices) (hc : c < st.nbChannels) :
    chanIndex (st.put samples values) (st.myChn d c).iio d = some c := by
  rw [chanIndex, List.find?_range_eq_some]
  refine ⟨by simp [BoardState.put], List.mem_range.mpr hc, ?_⟩
  intro i hi
  have other : (st.myChn d i).iio ≠ (st.myChn d c).iio := fun same =>
    Nat.ne_of_lt hi (ready.pointers d hd i (Nat.lt_trans hi hc) c hc same)
  rw [Bool.not_eq_true', decide_eq_false_iff_not]
  exact other

/-- One callback changes the statistics of its device and channel. -/
theorem printSample_put {st : BoardState} (ready : BoardReady st) (samples : Nat → Nat)
    (values : Nat → Nat → Rat) {d c : Nat} (hd : d < st.nbDevices) (hc : c < st.nbChannels)
    (val : BitVec 16) :
    let count := if c = 0 then samples d + 1 else samples d
    printSample (st.put samples values) ((st.myChn d c).iio, val) =
      .ok (st.put (Function.update samples d count)
        (Function.update values d (Function.update (values d) c
          (values d c + ((val.toInt.natAbs : Rat) - values d c) / count)))) := by
  have count : (if c = 0 then Function.update samples d (samples d + 1) else samples) =
      Function.update samples d (if c = 0 then samples d + 1 else samples d) := by
    split <;> simp
  have added : addSample (st.put samples values) d c val.toInt =
      st.put (Function.update samples d (if c = 0 then samples d + 1 else samples d))
        (Function.update values d (Function.update (values d) c (values d c +
          ((val.toInt.natAbs : Rat) - values d c) /
            (if c = 0 then samples d + 1 else samples d : Nat)))) := by
    simp only [addSample, BoardState.put, count, Function.update_self,
      BoardState.mk.injEq, true_and]
    funext d' c'
    by_cases device : d' = d
    · subst device
      by_cases channel : c' = c
      · subst channel
        simp
      · simp [channel]
    · simp [device]
  simp only [printSample, chanDevice_put ready samples values hd hc,
    chanIndex_put ready samples values hd hc, added]

/-! ## The scans of a device -/

/-- The values of the channels after a scan that is the `n + 1`-st. -/
def scanRow (channels n : Nat) (row : Nat → Rat) (scan : Scan) (c : Nat) : Rat :=
  if c < channels then row c + (((scan c).toInt.natAbs : Rat) - row c) / (n + 1 : Nat) else row c

/-- The values of the channels after a number of scans. -/
def scansRow (channels : Nat) : Nat → (Nat → Rat) → List Scan → Nat → Rat
  | _, row, [] => row
  | n, row, scan :: scans => scansRow channels (n + 1) (scanRow channels n row scan) scans

theorem scansRow_of_le {channels c : Nat} (outside : channels ≤ c) (n : Nat) (row : Nat → Rat)
    (scans : List Scan) : scansRow channels n row scans c = row c := by
  induction scans generalizing n row with
  | nil => rfl
  | cons scan scans ih => rw [scansRow, ih, scanRow, if_neg (Nat.not_lt.mpr outside)]

/-- The absolute values of a channel's samples. -/
def channelSamples (c : Nat) (scans : List Scan) : List Rat :=
  scans.map fun scan => ((scan c).toInt.natAbs : Rat)

/-- The values follow the means. -/
theorem scansRow_mean {channels c : Nat} (inside : c < channels) (row : Nat → Rat)
    (done scans : List Scan) (start : row c = Average.mean (channelSamples c done)) :
    scansRow channels done.length row scans c =
      Average.mean (channelSamples c (done ++ scans)) := by
  induction scans generalizing done row with
  | nil => rw [scansRow, List.append_nil, start]
  | cons scan scans ih =>
      have next : scanRow channels done.length row scan c =
          Average.mean (channelSamples c (done ++ [scan])) := by
        rw [scanRow, if_pos inside, start, channelSamples, channelSamples, List.map_append,
          List.map_singleton, Average.mean_concat, List.length_map, Nat.cast_succ]
      have rest := ih (scanRow channels done.length row scan) (done ++ [scan]) next
      rw [List.length_append, List.length_singleton, List.append_assoc] at rest
      exact rest

/-- The callbacks for the first channels of a scan. -/
theorem printChannels_put {st : BoardState} (ready : BoardReady st) (samples : Nat → Nat)
    (values : Nat → Nat → Rat) {d : Nat} (hd : d < st.nbDevices) (scan : Scan) {m : Nat}
    (hm : m ≤ st.nbChannels) :
    ((List.range m).map fun c => ((st.myChn d c).iio, scan c)).foldlM printSample
        (st.put samples values) =
      .ok (st.put (Function.update samples d (if m = 0 then samples d else samples d + 1))
        (Function.update values d (scanRow m (samples d) (values d) scan))) := by
  induction m with
  | zero =>
      have row : scanRow 0 (samples d) (values d) scan = values d := by
        funext c
        exact if_neg (Nat.not_lt_zero c)
      simp [row, pure, Except.pure]
  | succ m ih =>
      rw [List.range_succ, List.map_append, List.foldlM_append, ih (Nat.le_of_succ_le hm)]
      have last := printSample_put ready
        (Function.update samples d (if m = 0 then samples d else samples d + 1))
        (Function.update values d (scanRow m (samples d) (values d) scan)) hd hm (scan m)
      have count : (if m = 0 then (if m = 0 then samples d else samples d + 1) + 1
          else if m = 0 then samples d else samples d + 1) = samples d + 1 := by
        split <;> rfl
      have row : Function.update (scanRow m (samples d) (values d) scan) m
          (scanRow m (samples d) (values d) scan m + (((scan m).toInt.natAbs : Rat) -
            scanRow m (samples d) (values d) scan m) / (samples d + 1 : Nat)) =
          scanRow (m + 1) (samples d) (values d) scan := by
        funext c
        by_cases here : c = m
        · subst here
          simp [scanRow]
        · have same : c < m ↔ c < m + 1 := by omega
          simp [scanRow, here, same]
      simp only [Function.update_self, Function.update_idem, count, row] at last
      simp only [List.map_cons, List.map_nil, List.foldlM_cons, List.foldlM_nil, bind, Except.bind,
        last, Nat.succ_ne_zero, if_false]
      rfl

/-- The callbacks for a device count its scans and move its values. -/
theorem delivered_put {st : BoardState} (ready : BoardReady st) {d : Nat} (hd : d < st.nbDevices)
    (scans : List Scan) (samples : Nat → Nat) (values : Nat → Nat → Rat) :
    (st.delivered d scans).foldlM printSample (st.put samples values) =
      .ok (st.put (Function.update samples d (samples d + scans.length))
        (Function.update values d (scansRow st.nbChannels (samples d) (values d) scans))) := by
  induction scans generalizing samples values with
  | nil => simp [BoardState.delivered, scansRow, pure, Except.pure]
  | cons scan scans ih =>
      have first := printChannels_put ready samples values hd scan (Nat.le_refl _)
      rw [if_neg (Nat.ne_of_gt (ready.channels d hd).1)] at first
      have rest := ih (Function.update samples d (samples d + 1))
        (Function.update values d (scanRow st.nbChannels (samples d) (values d) scan))
      simp only [Function.update_self, Function.update_idem] at rest
      rw [BoardState.delivered, List.flatMap_cons, List.foldlM_append, first]
      simp only [bind, Except.bind]
      rw [List.length_cons, Nat.add_comm scans.length, ← Nat.add_assoc]
      exact rest

/-! ## The devices of a sample -/

/-- The refill of a device brings the given scans. -/
def Brings (st : BoardState) (r : BoardReading) (d : Nat) (scans : List Scan) : Prop :=
  r d = some (st.delivered d scans)

/-- The counters and values after the refills of some devices. -/
def refilledSamples (ds : List Nat) (scans : Nat → List Scan) (samples : Nat → Nat)
    (d : Nat) : Nat :=
  if d ∈ ds then samples d + (scans d).length else samples d

def refilledValues (channels : Nat) (ds : List Nat) (scans : Nat → List Scan) (samples : Nat → Nat)
    (values : Nat → Nat → Rat) (d : Nat) : Nat → Rat :=
  if d ∈ ds then scansRow channels (samples d) (values d) (scans d) else values d

/-- The devices whose refills succeed are passed. -/
theorem refillDevices_put {st : BoardState} (ready : BoardReady st) {r : BoardReading}
    {scans : Nat → List Scan} {ds : List Nat} (distinct : ds.Nodup)
    (brings : ∀ d ∈ ds, d < st.nbDevices ∧ Brings st r d (scans d)) (rest : List Nat)
    (samples : Nat → Nat) (values : Nat → Nat → Rat) :
    refillDevices r (ds ++ rest) (st.put samples values) =
      refillDevices r rest (st.put (refilledSamples ds scans samples)
        (refilledValues st.nbChannels ds scans samples values)) := by
  induction ds generalizing samples values with
  | nil =>
      have counters : refilledSamples [] scans samples = samples :=
        funext fun _ => if_neg List.not_mem_nil
      have rows : refilledValues st.nbChannels [] scans samples values = values :=
        funext fun _ => if_neg List.not_mem_nil
      rw [counters, rows, List.nil_append]
  | cons d ds ih =>
      obtain ⟨⟨hd, refill⟩, others⟩ := List.forall_mem_cons.mp brings
      obtain ⟨notLater, distinct⟩ := List.nodup_cons.mp distinct
      have counters : refilledSamples ds scans
            (Function.update samples d (samples d + (scans d).length)) =
          refilledSamples (d :: ds) scans samples := by
        funext e
        by_cases here : e = d
        · subst here
          simp [refilledSamples, notLater]
        · simp [refilledSamples, here]
      have rows : refilledValues st.nbChannels ds scans
            (Function.update samples d (samples d + (scans d).length))
            (Function.update values d (scansRow st.nbChannels (samples d) (values d) (scans d))) =
          refilledValues st.nbChannels (d :: ds) scans samples values := by
        funext e
        by_cases here : e = d
        · subst here
          simp [refilledValues, notLater]
        · simp [refilledValues, here]
      have step : refillDevices r (d :: ds ++ rest) (st.put samples values) =
          refillDevices r (ds ++ rest)
            (st.put (Function.update samples d (samples d + (scans d).length))
              (Function.update values d
                (scansRow st.nbChannels (samples d) (values d) (scans d)))) := by
        rw [List.cons_append, refillDevices, refill]
        simp only [delivered_put ready hd, bind, Except.bind]
      rw [step, ih distinct others, counters, rows]

/-! ## The events -/

/-- The channel that is found under a label. -/
theorem findChannel_eq_some {st : BoardState} {label : CText} {d c : Nat}
    (h : findChannel st label = some (d, c)) :
    d < st.nbDevices ∧ c < st.nbChannels ∧ (st.myChn d c).label = label := by
  have member := List.mem_of_find?_eq_some h
  have named := List.find?_some h
  obtain ⟨e, he, inside⟩ := List.mem_flatMap.mp member
  obtain ⟨f, hf, same⟩ := List.mem_map.mp inside
  cases same
  exact ⟨List.mem_range.mp he, List.mem_range.mp hf, by simpa using named⟩

theorem findChannel_put (st : BoardState) (samples : Nat → Nat) (values : Nat → Nat → Rat)
    (label : CText) : findChannel (st.put samples values) label = findChannel st label := rfl

/-- The events that `create_EventSets` accepts are in the table, and have a channel each. -/
theorem createEvents_spec {st : BoardState} {events : List CText} {data data' : PluginMetrics}
    {front : List (Option CText)} {idx : Nat} (h : Tabulates data.events front)
    (hrun : createEvents st events (data, front.length) = .ok (true, data', idx)) :
    idx = front.length + events.length ∧ idx ≤ max front.length maxEventsNumber ∧
      Tabulates data'.events (front ++ events.map some) ∧
      ∀ event ∈ events, ∃ place, findChannel st event = some place := by
  induction events generalizing data front with
  | nil =>
      cases hrun
      exact ⟨rfl, Nat.le_max_left _ _, by simpa using h, by simp⟩
  | cons event events ih =>
      rw [createEvents] at hrun
      cases found : findChannel st event with
      | none =>
          rw [found] at hrun
          cases hrun
      | some place =>
          rw [found] at hrun
          obtain ⟨data₁, set, rest⟩ := Fault.bind_eq_ok.mp hrun
          obtain ⟨room, -, rfl⟩ := PluginTable.setEvent_eq_ok.mp set
          have length : (front ++ [some event]).length = front.length + 1 := by simp
          rw [← length] at rest
          obtain ⟨count, bound, table, channels⟩ := ih (h.push (some event)) rest
          rw [length] at count bound
          refine ⟨by rw [count, List.length_cons]; omega, by omega, by simpa using table, ?_⟩
          exact List.forall_mem_cons.mpr ⟨⟨place, found⟩, channels⟩

/-- An accepted request. -/
structure BoardEvents (st : BoardState) (events : List CText) (data : PluginMetrics) : Prop where
  count : data.numEvents = events.length
  room : events.length ≤ maxEventsNumber
  table : Tabulates data.events (events.map some)
  channels : ∀ event ∈ events, ∃ place, findChannel st event = some place

theorem createEventSets_spec {st : BoardState} {events : List CText} {data data' : PluginMetrics}
    (h : createEventSets data events st = .ok (1, data')) : BoardEvents st events data' := by
  obtain ⟨⟨found, data₁, idx⟩, run, done⟩ := Fault.bind_eq_ok.mp h
  cases found with
  | false => cases done
  | true =>
      cases done
      obtain ⟨count, bound, table, channels⟩ := createEvents_spec (tabulates_nil _) run
      simp only [List.length_nil, Nat.zero_add, List.nil_append] at count bound table
      exact ⟨count, by omega, table, channels⟩

/-- The events that are found are accepted exactly when the table has room for them: the loop does
not look at the number of its entries. -/
theorem createEvents_ok_iff {st : BoardState} {events : List CText}
    (known : ∀ event ∈ events, ∃ place, findChannel st event = some place) (data : PluginMetrics)
    (idx : Nat) : (∃ out, createEvents st events (data, idx) = .ok (true, out)) ↔
      idx + events.length ≤ max idx maxEventsNumber ∧
        ∀ event ∈ events, event.length < maxEventsLen := by
  induction events generalizing data idx with
  | nil => exact ⟨fun _ => ⟨Nat.le_max_left _ _, List.forall_mem_nil _⟩, fun _ => ⟨_, rfl⟩⟩
  | cons event events ih =>
      obtain ⟨⟨place, found⟩, others⟩ := List.forall_mem_cons.mp known
      have rest := fun data => ih others data (idx + 1)
      rw [createEvents, found, List.forall_mem_cons, List.length_cons]
      dsimp only
      constructor
      · rintro ⟨out, run⟩
        obtain ⟨data₁, set, run⟩ := Fault.bind_eq_ok.mp run
        obtain ⟨room, short, -⟩ := PluginTable.setEvent_eq_ok.mp set
        obtain ⟨count, all⟩ := (rest data₁).mp ⟨out, run⟩
        exact ⟨by omega, short, all⟩
      · rintro ⟨count, short, all⟩
        obtain ⟨out, run⟩ := (rest _).mpr ⟨by omega, all⟩
        rw [PluginTable.setEvent_ok (by omega) short]
        exact ⟨out, run⟩

theorem createEventSets_ok_iff {st : BoardState} {events : List CText}
    (known : ∀ event ∈ events, ∃ place, findChannel st event = some place) (data : PluginMetrics) :
    (∃ data', createEventSets data events st = .ok (1, data')) ↔
      events.length ≤ maxEventsNumber ∧ ∀ event ∈ events, event.length < maxEventsLen := by
  have room := createEvents_ok_iff known data 0
  rw [Nat.zero_add, Nat.max_eq_right (Nat.zero_le _)] at room
  rw [← room]
  constructor
  · rintro ⟨data', run⟩
    obtain ⟨⟨found, out⟩, run, done⟩ := Fault.bind_eq_ok.mp run
    cases found with
    | false => cases done
    | true => exact ⟨out, run⟩
  · rintro ⟨out, run⟩
    rw [createEventSets, run]
    exact ⟨_, rfl⟩

/-- What is stored for an event: the value of its channel times the scale. -/
def eventValue (st : BoardState) (values : Nat → Nat → Rat) (event : CText) : Rat :=
  match findChannel st event with
  | none => 0
  | some (d, c) => values d c * (st.myChn d c).scale

/-- The first `m` events get their values. -/
theorem filterEvents_put {st : BoardState} {events : List CText} {data : PluginMetrics}
    (h : BoardEvents st events data) (samples : Nat → Nat) (values : Nat → Nat → Rat) {m : Nat}
    (hm : m ≤ events.length) :
    ∃ data', (List.range m).foldlM (filterEvent (st.put samples values)) data = .ok data' ∧
      data'.events = data.events ∧ data'.numEvents = data.numEvents ∧
      Tabulates data'.values ((events.take m).map (eventValue st values)) := by
  induction m with
  | zero => exact ⟨data, rfl, rfl, rfl, tabulates_nil _⟩
  | succ m ih =>
      obtain ⟨data', run, names, count, table⟩ := ih (Nat.le_of_succ_le hm)
      have inside : m < maxEventsNumber := Nat.lt_of_lt_of_le hm h.room
      have event : data'.events m = some events[m] := by
        rw [names]
        exact h.table m _ (by simp)
      obtain ⟨⟨d, c⟩, found⟩ := h.channels events[m] (List.getElem_mem hm)
      have value : eventValue st values events[m] = values d c * (st.myChn d c).scale := by
        rw [eventValue, found]
      have length : ((events.take m).map (eventValue st values)).length = m := by
        rw [List.length_map, List.length_take]
        omega
      have pushed := table.push (eventValue st values events[m])
      rw [length, ← List.map_singleton, ← List.map_append, List.take_append_getElem] at pushed
      refine ⟨⟨data'.events, Function.update data'.values m (eventValue st values events[m]),
        data'.numEvents⟩, ?_, names, count, pushed⟩
      rw [List.range_succ, List.foldlM_append, run]
      simp only [bind, Except.bind, List.foldlM_cons, List.foldlM_nil, filterEvent,
        PluginTable.getEvent_ok inside, event, findChannel_put, found]
      rw [value, PluginTable.setValue, if_pos inside]
      rfl

theorem filterData_put {st : BoardState} {events : List CText} {data : PluginMetrics}
    (h : BoardEvents st events data) (samples : Nat → Nat) (values : Nat → Nat → Rat) :
    ∃ data', filterData data (st.put samples values) = .ok data' ∧ BoardEvents st events data' ∧
      Tabulates data'.values (events.map (eventValue st values)) := by
  obtain ⟨data', run, names, count, table⟩ :=
    filterEvents_put h samples values (Nat.le_refl events.length)
  rw [List.take_length] at table
  rw [← h.count] at run
  exact ⟨data', run, ⟨count.trans h.count, h.room, names ▸ h.table, h.channels⟩, table⟩

/-! ## Samples -/

/-- Refills that all succeed. -/
def refills (st : BoardState) (scans : Nat → List Scan) : BoardReading :=
  fun d => some (st.delivered d (scans d))

theorem resetMyChannelsValue_put (st : BoardState) (samples : Nat → Nat)
    (values : Nat → Nat → Rat) :
    resetMyChannelsValue (st.put samples values) =
      st.put (fun d => if d < st.nbDevices then 0 else samples d)
        (fun d c => if d < st.nbDevices ∧ c < st.nbChannels then 0 else values d c) := by
  simp only [resetMyChannelsValue, BoardState.put, BoardState.mk.injEq, true_and]
  refine ⟨rfl, ?_⟩
  funext d c
  by_cases inside : d < st.nbDevices ∧ c < st.nbChannels <;> simp [inside]

/-- The reset undoes what the refills of a reset state have changed. -/
theorem resetMyChannelsValue_refilled {st : BoardState} (reset : BoardReset st)
    (scans : Nat → List Scan) :
    resetMyChannelsValue (st.put
      (refilledSamples (List.range st.nbDevices) scans st.nbSamples)
      (refilledValues st.nbChannels (List.range st.nbDevices) scans st.nbSamples st.values)) =
        st := by
  have samples : (fun d => if d < st.nbDevices then 0 else
      refilledSamples (List.range st.nbDevices) scans st.nbSamples d) = st.nbSamples := by
    funext d
    by_cases hd : d < st.nbDevices
    · rw [if_pos hd, reset.samples d hd]
    · rw [if_neg hd, refilledSamples, if_neg (by simpa using hd)]
  have values : (fun d c => if d < st.nbDevices ∧ c < st.nbChannels then 0 else
      refilledValues st.nbChannels (List.range st.nbDevices) scans st.nbSamples st.values d c) =
        st.values := by
    funext d c
    by_cases hd : d < st.nbDevices
    · by_cases hc : c < st.nbChannels
      · rw [if_pos ⟨hd, hc⟩]
        exact (reset.values d hd c hc).symm
      · rw [if_neg (fun h => hc h.2), refilledValues, if_pos (List.mem_range.mpr hd),
          scansRow_of_le (Nat.le_of_not_lt hc)]
    · rw [if_neg (fun h => hd h.1), refilledValues, if_neg (by simpa using hd)]
  rw [resetMyChannelsValue_put, samples, values, BoardState.put_self]

/-- The labels tell the channels apart. -/
def LabelsDistinct (st : BoardState) : Prop :=
  ∀ d < st.nbDevices, ∀ c < st.nbChannels, ∀ d' < st.nbDevices, ∀ c' < st.nbChannels,
    (st.myChn d c).label = (st.myChn d' c').label → d = d' ∧ c = c'

/-- Every event has its channel's scale times the mean of what the channel has delivered. -/
def ShowsMeans (st : BoardState) (events : List CText) (scans : Nat → List Scan)
    (data : PluginMetrics) : Prop :=
  ∀ k event, events[k]? = some event → ∀ d < st.nbDevices, ∀ c < st.nbChannels,
    (st.myChn d c).label = event →
      data.values k = (st.myChn d c).scale * Average.mean (channelSamples c (scans d))

/-- A sample from the reset state shows the means and ends in the same state. -/
theorem boardSample_means {st : BoardState} (ready : BoardReady st) (reset : BoardReset st)
    (labels : LabelsDistinct st) {events : List CText} {data : PluginMetrics}
    (h : BoardEvents st events data) (scans : Nat → List Scan) :
    ∃ data', mfBoardPowerSample data (refills st scans) st = .ok (1, data', st) ∧
      BoardEvents st events data' ∧ ShowsMeans st events scans data' := by
  have brings : ∀ d ∈ List.range st.nbDevices,
      d < st.nbDevices ∧ Brings st (refills st scans) d (scans d) :=
    fun d member => ⟨List.mem_range.mp member, rfl⟩
  have refilled := refillDevices_put ready List.nodup_range brings [] st.nbSamples st.values
  rw [List.append_nil, BoardState.put_self] at refilled
  obtain ⟨data', filtered, accepted, table⟩ := filterData_put h
    (refilledSamples (List.range st.nbDevices) scans st.nbSamples)
    (refilledValues st.nbChannels (List.range st.nbDevices) scans st.nbSamples st.values)
  refine ⟨data', ?_, accepted, ?_⟩
  · simp only [mfBoardPowerSample, refilled, refillDevices, bind, Except.bind, if_true, filtered]
    rw [resetMyChannelsValue_refilled reset]
    rfl
  · intro k event hk d hd c hc label
    have mean : scansRow st.nbChannels (st.nbSamples d) (st.values d) (scans d) c =
        Average.mean (channelSamples c (scans d)) := by
      rw [reset.samples d hd]
      refine scansRow_mean hc (st.values d) [] (scans d) ?_
      exact (reset.values d hd c hc).trans (by simp [channelSamples, Average.mean])
    obtain ⟨⟨d', c'⟩, found⟩ := h.channels event (List.mem_of_getElem? hk)
    obtain ⟨hd', hc', label'⟩ := findChannel_eq_some found
    obtain ⟨rfl, rfl⟩ := labels d hd c hc d' hd' c' hc' (label.trans label'.symm)
    rw [table k _ (by rw [List.getElem?_map, hk]; rfl), eventValue, found]
    simp only [refilledValues, List.mem_range, hd, if_true]
    rw [mean, mul_comm]

/-! ## Runs -/

/-- Successive samples, with what each one returns and leaves. -/
def boardRun (data : PluginMetrics) (st : BoardState) :
    List BoardReading → Except Fault (List (Int × PluginMetrics × BoardState))
  | [] => .ok []
  | r :: rs => do
      let (ret, data, st) ← mfBoardPowerSample data r st
      let outs ← boardRun data st rs
      return (ret, data, st) :: outs

theorem boardRun_shows {st : BoardState} (ready : BoardReady st) (reset : BoardReset st)
    (labels : LabelsDistinct st) {events : List CText} {data : PluginMetrics}
    (h : BoardEvents st events data) (buffers : List (Nat → List Scan)) :
    ∃ outs, boardRun data st (buffers.map (refills st)) = .ok outs ∧
      List.Forall₂ (fun scans out => out.1 = 1 ∧ out.2.2 = st ∧ ShowsMeans st events scans out.2.1)
        buffers outs := by
  induction buffers generalizing data with
  | nil => exact ⟨[], rfl, .nil⟩
  | cons scans buffers ih =>
      obtain ⟨data', sample, accepted, means⟩ := boardSample_means ready reset labels h scans
      obtain ⟨outs, run, shows⟩ := ih accepted
      refine ⟨(1, data', st) :: outs, ?_, .cons ⟨rfl, rfl, means⟩ shows⟩
      simp only [List.map_cons, boardRun, sample, run, bind, Except.bind]
      rfl

/-- For events that are all found: the initialization accepts them, and then each sample whose
refills succeed stores for every event its channel's scale times the mean over the scans of its own
buffers and ends in the reset state, exactly when the table has room for the events. -/
theorem boardRun_means_iff {k : Nat} (some' : 1 ≤ k) {devices : List (Option IioDevice)}
    (host : HostReady k devices.zipIdx) {st₀ st : BoardState}
    (enabled : mfAcmeIsEnabled (some devices) st₀ = some (1, st)) (labels : LabelsDistinct st)
    {events : List CText} (known : ∀ event ∈ events, ∃ place, findChannel st event = some place)
    (data₀ : PluginMetrics) (buffers : List (Nat → List Scan)) :
    (∃ data outs, mfBoardPowerInit (some devices) data₀ events st₀ = .ok (some (1, data, st)) ∧
      boardRun data st (buffers.map (refills st)) = .ok outs ∧
      List.Forall₂ (fun scans out => out.1 = 1 ∧ out.2.2 = st ∧ ShowsMeans st events scans out.2.1)
        buffers outs) ↔
      events.length ≤ maxEventsNumber ∧ ∀ event ∈ events, event.length < maxEventsLen := by
  have init : ∀ data, mfBoardPowerInit (some devices) data₀ events st₀ = .ok (some (1, data, st)) ↔
      createEventSets data₀ events st = .ok (1, data) := by
    intro data
    simp only [mfBoardPowerInit, enabled, Fault.bind_eq_ok, one_ne_zero, if_false]
    constructor
    · rintro ⟨⟨ret, data'⟩, run, done⟩
      cases done
      exact run
    · intro run
      exact ⟨_, run, rfl⟩
  rw [← createEventSets_ok_iff known data₀]
  constructor
  · rintro ⟨data, -, accepted, -⟩
    exact ⟨data, (init data).mp accepted⟩
  · rintro ⟨data, accepted⟩
    obtain ⟨ready, reset⟩ := mfAcmeIsEnabled_ready some' host enabled
    obtain ⟨outs, run, shows⟩ :=
      boardRun_shows ready reset labels (createEventSets_spec accepted) buffers
    exact ⟨data, outs, (init data).mpr accepted, run, shows⟩

/-- A device of which power and current are read, as libiio finds it. -/
def acmeDevice : IioDevice :=
  ⟨"ina226".toList, 1, 1, [⟨⟨iioDeviceId 0, 0⟩, "power2".toList, some "25".toList⟩,
    ⟨⟨iioDeviceId 0, 1⟩, "current3".toList, some "25".toList⟩], true⟩

theorem acmeDevice_host : HostReady 2 [some acmeDevice].zipIdx := by
  intro dev d member
  cases List.mem_singleton.mp member
  refine ⟨rfl, ?_, ?_⟩
  · exact List.forall_mem_cons.mpr ⟨rfl, List.forall_mem_singleton.mpr rfl⟩
  · decide

/-- The file's variables before the first call. -/
def boardStart : BoardState := ⟨0, 0, fun _ => 0, fun _ _ => ⟨[], 0, 0, ⟨[], 0⟩⟩⟩

theorem acmeDevice_enabled : ∃ st, mfAcmeIsEnabled (some [some acmeDevice]) boardStart =
    some (1, st) ∧ LabelsDistinct st ∧ findChannel st "device0:current".toList = some (0, 1) := by
  refine ⟨_, rfl, ?_, by decide +kernel⟩
  intro d hd c hc d' hd' c' hc' same
  obtain rfl : d = 0 := Nat.lt_one_iff.mp hd
  obtain rfl : d' = 0 := Nat.lt_one_iff.mp hd'
  refine ⟨rfl, ?_⟩
  revert c c'
  decide +kernel

theorem boardRun_means_iff_current :
    let scans : Nat → List Scan := fun _ => [fun _ => 4, fun _ => -6]
    ∃ data st outs, mfBoardPowerInit (some [some acmeDevice]) .blank ["device0:current".toList]
        boardStart = .ok (some (1, data, st)) ∧
      boardRun data st [refills st scans, refills st scans] = .ok outs ∧
      List.Forall₂ (fun scans out => out.1 = 1 ∧ out.2.2 = st ∧
        ShowsMeans st ["device0:current".toList] scans out.2.1) [scans, scans] outs := by
  intro scans
  obtain ⟨st, enabled, labels, found⟩ := acmeDevice_enabled
  have known : ∀ event ∈ ["device0:current".toList], ∃ place, findChannel st event = some place :=
    List.forall_mem_singleton.mpr ⟨_, found⟩
  obtain ⟨data, outs, accepted, run⟩ := (boardRun_means_iff (by decide) acmeDevice_host
      enabled labels
    known .blank [scans, scans]).mpr ⟨by decide, List.forall_mem_singleton.mpr (by decide)⟩
  exact ⟨data, st, outs, accepted, run⟩

/-- One more event than the table has room for, by naming a channel repeatedly. -/
theorem boardEvents_overrun : ∃ st,
    mfAcmeIsEnabled (some [some acmeDevice]) boardStart = some (1, st) ∧ LabelsDistinct st ∧
      (∀ event ∈ List.replicate 33 "device0:current".toList,
        ∃ place, findChannel st event = some place) ∧
      mfBoardPowerInit (some [some acmeDevice]) .blank (List.replicate 33 "device0:current".toList)
        boardStart = .error .outOfBounds := by
  obtain ⟨st, enabled, labels, found⟩ := acmeDevice_enabled
  refine ⟨st, enabled, labels, ?_, ?_⟩
  · intro event member
    rw [(List.mem_replicate.mp member).2]
    exact ⟨_, found⟩
  · have stops : (mfBoardPowerInit (some [some acmeDevice]) .blank
        (List.replicate 33 "device0:current".toList) boardStart).map (fun _ => ()) =
          .error .outOfBounds := by
      decide +kernel
    cases run : mfBoardPowerInit (some [some acmeDevice]) .blank
        (List.replicate 33 "device0:current".toList) boardStart with
    | ok out =>
        rw [run] at stops
        cases stops
    | error fault =>
        rw [run] at stops
        cases stops
        rfl

end PhantomMonitor
