import PhantomMonitor.Plugins.Proofs.BoardMean

/-!
# Failed samples of Board_power

A sample that cannot refill the buffer of some device returns at once, and what the devices before
it have delivered stays in the counters and values. The next sample goes on from there.
-/

namespace PhantomMonitor

open CText

/-- The devices up to one whose refill fails. -/
theorem refillDevices_failed {st : BoardState} (ready : BoardReady st) {r : BoardReading}
    {scans : Nat → List Scan} {d : Nat} (hd : d < st.nbDevices)
    (before : ∀ i < d, Brings st r i (scans i)) (failed : r d = none) :
    refillDevices r (List.range st.nbDevices) st =
      .ok (false, st.put (refilledSamples (List.range d) scans st.nbSamples)
        (refilledValues st.nbChannels (List.range d) scans st.nbSamples st.values)) := by
  have split : List.range st.nbDevices =
      List.range d ++ d :: List.range' (d + 1) (st.nbDevices - (d + 1)) := by
    rw [← List.range'_succ, List.range_eq_range', List.range_eq_range']
    have joined := List.range'_append_1 (s := 0) (m := d) (n := st.nbDevices - (d + 1) + 1)
    rw [Nat.zero_add] at joined
    rw [joined]
    congr 1
    omega
  have brings : ∀ i ∈ List.range d, i < st.nbDevices ∧ Brings st r i (scans i) := by
    intro i member
    have hi := List.mem_range.mp member
    exact ⟨Nat.lt_trans hi hd, before i hi⟩
  have passed := refillDevices_put ready List.nodup_range brings
    (d :: List.range' (d + 1) (st.nbDevices - (d + 1))) st.nbSamples st.values
  rw [BoardState.put_self] at passed
  rw [split, passed, refillDevices, failed]

/-- The counters and values stay as they are exactly when nothing was delivered. -/
theorem refilled_eq_iff (channels : Nat) (ds : List Nat) (scans : Nat → List Scan)
    (samples : Nat → Nat) (values : Nat → Nat → Rat) :
    (refilledSamples ds scans samples = samples ∧
        refilledValues channels ds scans samples values = values) ↔
      ∀ d ∈ ds, scans d = [] := by
  constructor
  · rintro ⟨same, -⟩ d member
    have count := congrFun same d
    rw [refilledSamples, if_pos member] at count
    exact List.length_eq_zero_iff.mp (by omega)
  · intro nothing
    constructor
    · funext d
      unfold refilledSamples
      split
      · rw [nothing d ‹_›]
        rfl
      · rfl
    · funext d
      unfold refilledValues
      split
      · rw [nothing d ‹_›]
        rfl
      · rfl

/-- A sample that fails at some device keeps the counters and values exactly when the devices before
it have delivered no scan. Then the next sample from the reset state shows its own means. -/
theorem boardSample_residue_iff {st : BoardState} (ready : BoardReady st) (data : PluginMetrics)
    {r : BoardReading} {scans : Nat → List Scan} {d : Nat} (hd : d < st.nbDevices)
    (before : ∀ i < d, Brings st r i (scans i)) (failed : r d = none) :
    ∃ st', mfBoardPowerSample data r st = .ok (0, data, st') ∧
      ((st'.nbSamples = st.nbSamples ∧ st'.values = st.values) ↔ ∀ i < d, scans i = []) ∧
      ((∀ i < d, scans i = []) → BoardReset st → LabelsDistinct st →
        ∀ events, BoardEvents st events data → ∀ next,
          ∃ data', mfBoardPowerSample data (refills st' next) st' = .ok (1, data', st') ∧
            ShowsMeans st' events next data') := by
  refine ⟨st.put (refilledSamples (List.range d) scans st.nbSamples)
    (refilledValues st.nbChannels (List.range d) scans st.nbSamples st.values), ?_, ?_, ?_⟩
  · simp only [mfBoardPowerSample, refillDevices_failed ready hd before failed, bind, Except.bind]
    rfl
  · have kept := refilled_eq_iff st.nbChannels (List.range d) scans st.nbSamples st.values
    simp only [List.mem_range] at kept
    exact kept
  · intro nothing reset labels events accepted next
    have kept := (refilled_eq_iff st.nbChannels (List.range d) scans st.nbSamples st.values).mpr
      fun i member => nothing i (List.mem_range.mp member)
    rw [kept.1, kept.2, BoardState.put_self]
    obtain ⟨data', sample, -, means⟩ := boardSample_means ready reset labels accepted next
    exact ⟨data', sample, means⟩

/-- A board with devices of which power and current are read. -/
def acmeBoard (devices : Nat) : BoardState where
  nbDevices := devices
  nbChannels := 2
  nbSamples _ := 0
  myChn d c := ⟨channelName d (if c = 0 then "power".toList else "current".toList), 25, 0,
    ⟨iioDeviceId d, c⟩⟩

theorem acmeBoard_ready {devices : Nat} (few : devices ≤ maxDevices) :
    BoardReady (acmeBoard devices) where
  devices := few
  channels _ _ := (show 1 ≤ 2 ∧ 2 ≤ 5 by decide)
  ids _ _ _ _ := rfl
  pointers _ _ _ _ _ _ same := congrArg IioChannel.pointer same

theorem acmeBoard_reset (devices : Nat) : BoardReset (acmeBoard devices) where
  samples _ _ := rfl
  values _ _ _ _ := rfl

theorem acmeBoard_labels : LabelsDistinct (acmeBoard 2) := by
  have four : ∀ d c d' c' : Fin 2, ((acmeBoard 2).myChn d c).label =
      ((acmeBoard 2).myChn d' c').label → d = d' ∧ c = c' := by
    decide +kernel
  intro d hd c hc d' hd' c' hc' same
  obtain ⟨device, channel⟩ := four ⟨d, hd⟩ ⟨c, hc⟩ ⟨d', hd'⟩ ⟨c', hc'⟩ same
  exact ⟨Fin.mk.inj device, Fin.mk.inj channel⟩

/-- The first device delivers no scan and the second one fails; then both deliver two scans. -/
theorem boardSample_residue_iff_second :
    let scans : Nat → List Scan := fun _ => [fun _ => 4, fun _ => -6]
    ∃ data st' data',
      createEventSets .blank ["device1:power".toList] (acmeBoard 2) = .ok (1, data) ∧
      mfBoardPowerSample data (fun i => if i = 0 then some [] else none) (acmeBoard 2) =
        .ok (0, data, st') ∧
      st'.nbSamples = (acmeBoard 2).nbSamples ∧ st'.values = (acmeBoard 2).values ∧
      mfBoardPowerSample data (refills st' scans) st' = .ok (1, data', st') ∧
      ShowsMeans st' ["device1:power".toList] scans data' := by
  intro scans
  have accepted : ∃ data,
      createEventSets .blank ["device1:power".toList] (acmeBoard 2) = .ok (1, data) := ⟨_, rfl⟩
  obtain ⟨data, accepted⟩ := accepted
  have brings : ∀ i < 1, Brings (acmeBoard 2) (fun i => if i = 0 then some [] else none) i [] := by
    intro i hi
    obtain rfl : i = 0 := Nat.lt_one_iff.mp hi
    rfl
  obtain ⟨st', sample, kept, shows⟩ := @boardSample_residue_iff (acmeBoard 2)
    (acmeBoard_ready (by decide)) data (fun i => if i = 0 then some [] else none) (fun _ => []) 1
    (by decide) brings rfl
  obtain ⟨counters, values⟩ := kept.mpr fun _ _ => rfl
  obtain ⟨data', next, means⟩ := shows (fun _ _ => rfl) (acmeBoard_reset 2) acmeBoard_labels _
    (createEventSets_spec accepted) scans
  exact ⟨data, st', data', accepted, sample, counters, values, next, means⟩

/-- The first device delivers a scan, the second one fails. -/
def secondFails : BoardReading :=
  fun i => if i = 0 then some ((acmeBoard 2).delivered 0 [fun _ => 7]) else none

/-- The second device fails after the first one has delivered a scan. -/
theorem boardSample_residue :
    ¬ ∀ (st st' : BoardState) (data data' : PluginMetrics) (r : BoardReading), BoardReady st →
      (∀ i < st.nbDevices, r i = none ∨ ∃ scans, Brings st r i scans) →
      mfBoardPowerSample data r st = .ok (0, data', st') →
      st'.nbSamples = st.nbSamples ∧ st'.values = st.values := by
  intro claim
  have ready : BoardReady (acmeBoard 2) := acmeBoard_ready (by decide)
  have brings : ∀ i < 1, Brings (acmeBoard 2) secondFails i [fun _ => 7] := by
    intro i hi
    obtain rfl : i = 0 := Nat.lt_one_iff.mp hi
    rfl
  obtain ⟨st', sample, kept, -⟩ := @boardSample_residue_iff (acmeBoard 2) ready .blank secondFails
    (fun _ => [fun _ => 7]) 1 (by decide) brings rfl
  have outcome : ∀ i < 2, secondFails i = none ∨ ∃ scans,
      Brings (acmeBoard 2) secondFails i scans := by
    intro i _
    by_cases first : i < 1
    · exact Or.inr ⟨_, brings i first⟩
    · exact Or.inl (if_neg (by omega))
  have nothing := kept.mp (claim _ st' _ _ secondFails ready outcome sample) 0 (by decide)
  cases nothing

end PhantomMonitor
