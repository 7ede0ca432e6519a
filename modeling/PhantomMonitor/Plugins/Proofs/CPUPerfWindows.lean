import PhantomMonitor.Misc.Runs
import PhantomMonitor.Plugins.Proofs.CPUPerfAgree

/-!
# Failed samples of CPU_perf

A sample resets the counters core by core, and a failed read at some core leaves the ones after it
as they are. `before_time` moves on only when all cores have been read, so after a failure the
counters of different cores belong to different windows of time.
-/

namespace PhantomMonitor

/-! ## The windows of the cores -/

/-- What has happened to the counters so far: the clock at the last sample and at the last one that
succeeded, and for each core when its counters were reset and what it has counted since. -/
structure PerfWindows where
  now : Int
  since : Int
  resetAt : Nat → Int
  counted : Nat → PapiEvent → Int

/-- The windows when init has started the counters. -/
def PerfWindows.start (clock : Int) : PerfWindows where
  now := clock
  since := clock
  resetAt _ := clock
  counted _ _ := 0

/-- `PAPI_reset` is called for the cores before the first one that cannot be read. -/
def PerfReading.Resets (r : PerfReading) (n i : Nat) : Prop := i < n ∧ ∀ j ≤ i, r.readOk j = true

instance (r : PerfReading) (n i : Nat) : Decidable (r.Resets n i) :=
  inferInstanceAs (Decidable (i < n ∧ ∀ j ≤ i, r.readOk j = true))

/-- The windows after a sample of `n` cores. -/
def PerfWindows.next (w : PerfWindows) (n : Nat) (r : PerfReading) : PerfWindows where
  now := r.clock
  since := if ∀ i < n, r.readOk i = true then r.clock else w.since
  resetAt i := if r.Resets n i then r.clock else w.resetAt i
  counted i e := if r.Resets n i then 0 else w.counted i e + r.counted i e

/-! ## Samples with failures -/

theorem forall_succ_le_iff {P Q : Nat → Prop} {i : Nat} (here : P i) :
    (∀ k, i + 1 ≤ k → Q k → P k) ↔ ∀ k, i ≤ k → Q k → P k := by
  refine ⟨fun later k hk bound => ?_, fun all k hk => all k (by omega)⟩
  rcases Nat.eq_or_lt_of_le hk with rfl | hk
  · exact here
  · exact later k hk bound

/-- A walk over the cores resets those before the first one that cannot be read. -/
theorem sampleCores_resets {readOk : Nat → Bool} {duration : Int} {i m : Nat}
    {data data' : PluginMetrics} {jj : Nat} {slots : Nat → Int} {st st' : PerfState} {go : Bool}
    (h : sampleCores readOk duration (List.range' i m) data jj slots st = .ok (go, data', st')) :
    (go = true ↔ ∀ j, i ≤ j → j < i + m → readOk j = true) ∧ st'.beforeTime = st.beforeTime ∧
      ∀ j, st'.counters j =
        if i ≤ j ∧ j < i + m ∧ ∀ k, i ≤ k → k ≤ j → readOk k = true then fun _ => 0
        else st.counters j := by
  induction m generalizing i data jj slots st with
  | zero =>
      cases h
      refine ⟨iff_of_true rfl fun j _ _ => by omega, rfl, fun j => ?_⟩
      rw [if_neg (by omega)]
  | succ m ih =>
      rw [List.range'_succ] at h
      unfold sampleCores at h
      cases hset : st.eventSets[i]? with
      | none =>
          rw [hset] at h
          cases h
      | some set =>
          simp only [hset] at h
          by_cases read : readOk i = true
          · rw [if_pos read] at h
            rcases hstore : storeSlots (papiRead (st.counters i) set slots) duration data jj with
              fault | ⟨data₁, jj₁⟩
            · rw [hstore] at h
              cases h
            rw [hstore] at h
            obtain ⟨all, same, counters⟩ := ih h
            have cores : i + 1 + m = i + (m + 1) := by omega
            rw [cores] at all counters
            refine ⟨all.trans (forall_succ_le_iff read), same, fun j => ?_⟩
            have reads := @forall_succ_le_iff (readOk · = true) (· ≤ j) i read
            simp only [counters j, reads]
            by_cases here : j = i
            · subst here
              have one : ∀ k, j ≤ k → k ≤ j → readOk k = true := by
                intro k hk hkj
                rwa [Nat.le_antisymm hkj hk]
              rw [if_neg (by omega), if_pos ⟨le_rfl, by omega, one⟩]
              exact Function.update_self _ _ _
            · have range : i + 1 ≤ j ↔ i ≤ j := by omega
              simp only [range, Function.update_of_ne here]
          · rw [if_neg read] at h
            cases h
            refine ⟨iff_of_false (Bool.false_ne_true) fun all =>
              read (all i le_rfl (by omega)), rfl, fun j => ?_⟩
            rw [if_neg]
            rintro ⟨hj, -, all⟩
            exact read (all i le_rfl hj)

/-- The walk reads only the cores that it is asked for. -/
theorem sampleCores_congr {readOk readOk' : Nat → Bool} {cores : List Nat}
    (same : ∀ i ∈ cores, readOk i = readOk' i) (duration : Int) (data : PluginMetrics) (jj : Nat)
    (slots : Nat → Int) (st : PerfState) :
    sampleCores readOk duration cores data jj slots st =
      sampleCores readOk' duration cores data jj slots st := by
  induction cores generalizing data jj slots st with
  | nil => rfl
  | cons i cores ih =>
      unfold sampleCores
      rw [same i List.mem_cons_self]
      simp only [ih fun j member => same j (List.mem_cons_of_mem i member)]

/-- A sample returns 1 when it has read all cores, and keeps track of the counters either way. -/
theorem perfSample_next {data data' : PluginMetrics} {numCores ret : Int} {r : PerfReading}
    {st st' : PerfState} (h : mfCPUPerfSample data numCores r st = .ok (ret, data', st')) :
    (ret = 1 ↔ ∀ i < numCores.toNat, r.readOk i = true) ∧
      (st'.beforeTime = if ∀ i < numCores.toNat, r.readOk i = true then r.clock
        else st.beforeTime) ∧
      ∀ i e, st'.counters i e =
        if r.Resets numCores.toNat i then 0 else st.counters i e + r.counted i e := by
  unfold mfCPUPerfSample at h
  rcases hrun : sampleCores r.readOk (r.clock - st.beforeTime) (List.range numCores.toNat) data 0
    r.slots (st.count r.counted) with fault | ⟨go, data₁, st₁⟩
  · rw [hrun] at h
    cases h
  have walk := hrun
  rw [List.range_eq_range'] at walk
  obtain ⟨all, same, counters⟩ := sampleCores_resets walk
  simp only [Nat.zero_le, Nat.zero_add, true_implies, true_and] at all counters
  rw [hrun] at h
  have reset : ∀ i e, st₁.counters i e =
      if r.Resets numCores.toNat i then 0 else st.counters i e + r.counted i e := by
    intro i e
    rw [counters i]
    by_cases before : r.Resets numCores.toNat i
    · rw [if_pos before]
      exact congrFun (if_pos before) e
    · rw [if_neg before]
      exact congrFun (if_neg before) e
  cases go with
  | false =>
      cases h
      have failed : ¬ ∀ i < numCores.toNat, r.readOk i = true :=
          fun ok => Bool.false_ne_true (all.mpr ok)
      refine ⟨iff_of_false (by decide) failed, ?_, reset⟩
      rw [if_neg failed]
      exact same
  | true =>
      cases h
      refine ⟨iff_of_true rfl (all.mp rfl), ?_, reset⟩
      rw [if_pos (all.mp rfl)]

/-! ## Runs -/

/-- A run of the plugin, with the windows of the cores beside it. -/
structure PerfRun where
  data : PluginMetrics
  st : PerfState
  windows : PerfWindows

/-- The next sample, at a later time. -/
def perfStep (numCores : Int) (s : PerfRun) (r : PerfReading) : Option PerfRun :=
  if s.windows.now < r.clock then
    match mfCPUPerfSample s.data numCores r s.st with
    | .error _ => none
    | .ok (_, data, st) => some ⟨data, st, s.windows.next numCores.toNat r⟩
  else none

theorem perfStep_eq_some {numCores : Int} {s s' : PerfRun} {r : PerfReading} :
    perfStep numCores s r = some s' ↔ s.windows.now < r.clock ∧
      ∃ ret data st, mfCPUPerfSample s.data numCores r s.st = .ok (ret, data, st) ∧
        s' = ⟨data, st, s.windows.next numCores.toNat r⟩ := by
  unfold perfStep
  by_cases later : s.windows.now < r.clock
  · rw [if_pos later]
    rcases mfCPUPerfSample s.data numCores r s.st with fault | ⟨ret, data, st⟩
    · simp
    · simp [later, eq_comm]
  · simp [later]

/-- If the sample succeeds, the value of each core and event is the rate of what the core has
counted since its counters were reset over the time since then. -/
def RatesCorrect (numCores : Int) (s : PerfRun) (r : PerfReading) : Prop :=
  ∀ data' st', s.windows.now < r.clock →
    mfCPUPerfSample s.data numCores r s.st = .ok (1, data', st') →
    ∀ k < data'.numEvents, ∀ i e, data'.events k = some (coreEventName i e) →
      data'.values k =
        eventRate (s.windows.counted i e + r.counted i e) (r.clock - s.windows.resetAt i)

/-- If the sample has an event set for each core and reads all of them, then each core either was
not reset after the last successful sample or has counted nothing since. -/
def WindowsAgree (numCores : Int) (s : PerfRun) (r : PerfReading) : Prop :=
  s.windows.now < r.clock → numCores.toNat ≤ s.st.eventSets.length →
    (∀ i < numCores.toNat, r.readOk i = true) →
    ∀ i < numCores.toNat, s.windows.resetAt i = s.windows.since ∨
      ∀ e, s.windows.counted i e + r.counted i e = 0

/-- The state of the plugin and the windows belong together. -/
structure PerfTracked (host : PerfHost) (c : Nat) (s : PerfRun) : Prop where
  ready : PerfReady host c s.data s.st
  since : s.st.beforeTime = s.windows.since
  counters : s.st.counters = s.windows.counted
  sinceNow : s.windows.since ≤ s.windows.now
  resetNow : ∀ i, s.windows.resetAt i ≤ s.windows.now

theorem PerfReady.sample {host : PerfHost} {c : Nat} {data data' : PluginMetrics}
    {st st' : PerfState} (h : PerfReady host c data st) {numCores ret : Int} {r : PerfReading}
    (hsample : mfCPUPerfSample data numCores r st = .ok (ret, data', st')) :
    PerfReady host c data' st' := by
  have start : PerfReach numCores data st data st := .init
  exact (start.sample hsample).ready h

theorem PerfTracked.step {host : PerfHost} {c : Nat} {s s' : PerfRun} (h : PerfTracked host c s)
    {numCores : Int} {r : PerfReading} (hstep : perfStep numCores s r = some s') :
    PerfTracked host c s' := by
  obtain ⟨later, ret, data, st, hsample, rfl⟩ := perfStep_eq_some.mp hstep
  obtain ⟨-, before, counters⟩ := perfSample_next hsample
  refine ⟨h.ready.sample hsample, ?_, ?_, ?_, fun i => ?_⟩
  · rw [before, h.since]
    rfl
  · funext i e
    rw [counters i e, h.counters]
    rfl
  · simp only [PerfWindows.next]
    split
    · exact le_rfl
    · exact h.sinceNow.trans later.le
  · simp only [PerfWindows.next]
    split
    · exact le_rfl
    · exact (h.resetNow i).trans later.le

/-! ## The condition -/

theorem eventRate_eq_iff {count d d' : Int} (hd : 0 < d) (hd' : 0 < d') :
    eventRate count d = eventRate count d' ↔ d' = d ∨ count = 0 := by
  have nonzero : (d : Rat) ≠ 0 := by exact_mod_cast hd.ne'
  have nonzero' : (d' : Rat) ≠ 0 := by exact_mod_cast hd'.ne'
  rw [eventRate, eventRate, div_eq_div_iff nonzero nonzero', mul_eq_mul_left_iff, Int.cast_inj,
    mul_eq_zero_iff_right (by norm_num), Int.cast_eq_zero]

/-- A sample that reads all cores is one that could read any core. -/
theorem perfSample_reads {r : PerfReading} {numCores : Int}
    (reads : ∀ i < numCores.toNat, r.readOk i = true) (data : PluginMetrics) (st : PerfState) :
    mfCPUPerfSample data numCores r st =
      mfCPUPerfSample data numCores { r with readOk := fun _ => true } st := by
  unfold mfCPUPerfSample
  rw [@sampleCores_congr r.readOk (fun _ => true) _ fun i member =>
    reads i (List.mem_range.mp member)]

/-- A sample of all cores, each with its event set, stores the rates of what the counters hold over
the time since the last success. -/
theorem PerfTracked.sample_ok {host : PerfHost} {s : PerfRun} {numCores : Int}
    (h : PerfTracked host numCores.toNat s) (available : ∀ e, host.available e = true)
    (added : AllAdded host numCores.toNat) {r : PerfReading}
    (reads : ∀ i < numCores.toNat, r.readOk i = true) :
    ∃ data' st', mfCPUPerfSample s.data numCores r s.st = .ok (1, data', st') ∧
      data'.events = s.data.events ∧ data'.numEvents = s.data.numEvents ∧
      NamesAgree (fun i e => s.windows.counted i e + r.counted i e)
        (r.clock - s.windows.since) data' := by
  have three := availableEvents_eq_all.mpr available
  have room := h.ready.table.room
  rw [h.ready.table.count, three] at room
  obtain ⟨data', st', hrun, hevents, htotal, hvalues⟩ :=
    @PhantomMonitor.sample_ok host numCores.toNat s.data s.st h.ready numCores le_rfl room
      { r with readOk := fun _ => true } fun _ => rfl
  refine ⟨data', st', (perfSample_reads reads s.data s.st).trans hrun, hevents, htotal, ?_⟩
  rw [← h.since, ← h.counters]
  refine namesAgree_of_values r.slots h.ready hevents htotal ?_ added (Or.inl three)
  intro k hk
  rw [hvalues k, if_pos hk]
  rfl

/-- The name of an event of a core that was set up. -/
theorem PerfReady.named {host : PerfHost} {c : Nat} {data : PluginMetrics} {st : PerfState}
    (h : PerfReady host c data st) (available : ∀ e, host.available e = true) {i : Nat} (hi : i < c)
    (e : PapiEvent) : ∃ k < data.numEvents, data.events k = some (coreEventName i e) := by
  have all : availableEvents host = papiEvents := List.filter_eq_self.mpr fun e _ => available e
  have member : e ∈ availableEvents host := by
    rw [all]
    cases e <;> decide
  obtain ⟨p, found⟩ := List.mem_iff_getElem?.mp member
  refine ⟨_, ?_, h.table.names i hi p e found⟩
  obtain ⟨hp, -⟩ := List.getElem?_eq_some_iff.mp found
  rw [h.table.count]
  calc (availableEvents host).length * i + p
      < (availableEvents host).length * (i + 1) := by rw [Nat.mul_succ]; omega
    _ ≤ (availableEvents host).length * c := Nat.mul_le_mul_left _ hi

/-- What init leaves of the counters and the time. -/
theorem init_started {host : PerfHost} {data₀ data : PluginMetrics} {events : List CText}
    {numCores : Int} {st₀ st : PerfState}
    (hinit : mfCPUPerfInit host data₀ events numCores st₀ = .ok (1, data, st)) :
    st.beforeTime = host.clock ∧ st.counters = fun _ _ => 0 := by
  unfold mfCPUPerfInit at hinit
  split at hinit
  · cases hinit
  split at hinit
  · cases hinit
  simp only at hinit
  split at hinit
  · cases hinit
  obtain ⟨⟨data₁, jj, sets⟩, -, hrest⟩ := Fault.bind_eq_ok.mp hinit
  simp only at hrest
  split at hrest
  · cases hrest
  · cases hrest
    exact ⟨rfl, rfl⟩

theorem perfTracked_start {host : PerfHost} {data₀ data : PluginMetrics} {events : List CText}
    {numCores c : Int} {st₀ st : PerfState} (hload : loadPapiLibrary host numCores = some c)
    (hinit : mfCPUPerfInit host data₀ events numCores st₀ = .ok (1, data, st)) :
    PerfTracked host c.toNat ⟨data, st, .start host.clock⟩ := by
  obtain ⟨c', hload', ready⟩ := init_ready hinit
  obtain rfl : c = c' := Option.some.inj (hload.symm.trans hload')
  obtain ⟨before, counters⟩ := init_started hinit
  exact ⟨ready, before, counters, le_rfl, fun _ => le_rfl⟩

/-- The rates of one sample are correct exactly when the windows agree. -/
theorem ratesCorrect_iff {host : PerfHost} {c : Nat} {s : PerfRun} (h : PerfTracked host c s)
    (available : ∀ e, host.available e = true) (added : AllAdded host c) {numCores : Int}
    (cores : c ≤ numCores.toNat) (r : PerfReading) :
    RatesCorrect numCores s r ↔ WindowsAgree numCores s r := by
  have sets : s.st.eventSets.length = c := by
    rw [h.ready.table.sets, List.length_map, List.length_range]
  constructor
  · intro correct later enough reads i hi
    obtain rfl : c = numCores.toNat := by omega
    obtain ⟨data', st', hrun, hevents, htotal, agree⟩ := h.sample_ok available added reads
    rw [← forall_or_left]
    intro e
    obtain ⟨k, hk, named⟩ := h.ready.named available hi e
    rw [← htotal] at hk
    rw [← hevents] at named
    have same := (agree k hk i e named).symm.trans (correct data' st' later hrun k hk i e named)
    have := h.sinceNow
    have := h.resetNow i
    rw [eventRate_eq_iff (by omega) (by omega)] at same
    exact same.imp_left fun same => by omega
  · intro agree data' st' later hrun k hk i e named
    have reads := (perfSample_next hrun).1.mp rfl
    have enough : numCores.toNat ≤ c := by
      by_contra missing
      obtain ⟨fault, hfault⟩ := @sample_fault host c s.data s.st h.ready numCores (by omega)
        (Or.inl (by omega)) { r with readOk := fun _ => true } fun _ => rfl
      rw [perfSample_reads reads, hfault] at hrun
      cases hrun
    obtain rfl : c = numCores.toNat := by omega
    obtain ⟨data'', st'', hrun', hevents, htotal, rates⟩ := h.sample_ok available added reads
    rw [hrun] at hrun'
    cases hrun'
    rw [rates k hk i e named]
    rw [htotal] at hk
    rw [hevents] at named
    have := h.sinceNow
    have := h.resetNow i
    rw [eventRate_eq_iff (by omega) (by omega)]
    rcases agree later sets.ge reads i (h.ready.name_at hk named).1 with same | nothing
    · exact Or.inl (by omega)
    · exact Or.inr (nothing e)

/-- In every run of samples at increasing times, all rates are correct exactly when at each
successful sample every core that a failed one has reset since the last success has counted nothing
since. -/
theorem perfRun_rates_iff {host : PerfHost} {data₀ data : PluginMetrics} {events : List CText}
    {numCores : Int} {st₀ st : PerfState} (available : ∀ e, host.available e = true)
    (added : AllAdded host numCores.toNat)
    (hinit : mfCPUPerfInit host data₀ events numCores st₀ = .ok (1, data, st))
    (rs : List PerfReading) :
    Runs.Each (perfStep numCores) (RatesCorrect numCores) ⟨data, st, .start host.clock⟩ rs ↔
      Runs.Each (perfStep numCores) (WindowsAgree numCores) ⟨data, st, .start host.clock⟩ rs := by
  obtain ⟨c, hload, -⟩ := init_ready hinit
  have cores : c.toNat ≤ numCores.toNat := Int.toNat_le_toNat (loadPapiLibrary_le hload).1
  refine Runs.each_iff ?_ ?_ (perfTracked_start hload hinit)
  · intro s r s' tracked _ next
    exact tracked.step next
  · intro s r tracked
    have added : AllAdded host c.toNat := fun i hi => added i (Nat.lt_of_lt_of_le hi cores)
    exact ratesCorrect_iff tracked available added cores r

/-- Failures at the first core only leave the windows together. -/
theorem windowsAgree_of_first {numCores : Int} {rs : List PerfReading}
    (first : ∀ r ∈ rs, (∀ i < numCores.toNat, r.readOk i = true) ∨ r.readOk 0 = false) {s : PerfRun}
    (together : ∀ i < numCores.toNat, s.windows.resetAt i = s.windows.since) :
    Runs.Each (perfStep numCores) (WindowsAgree numCores) s rs := by
  induction rs generalizing s with
  | nil => trivial
  | cons r rs ih =>
      refine ⟨fun _ _ _ i hi => Or.inl (together i hi), ?_⟩
      intro s' next
      apply ih fun r' member => first r' (List.mem_cons_of_mem r member)
      intro i hi
      obtain ⟨-, -, -, -, -, rfl⟩ := perfStep_eq_some.mp next
      simp only [PerfWindows.next]
      rcases first r List.mem_cons_self with reads | failed
      · rw [if_pos reads, if_pos ⟨hi, fun j hj => reads j (by omega)⟩]
      · have unread : r.readOk 0 ≠ true := by rw [failed]; exact Bool.false_ne_true
        rw [if_neg fun resets => unread (resets.2 0 (Nat.zero_le i)),
          if_neg fun reads => unread (reads 0 (by omega))]
        exact together i hi

/-- A sample at `clock` of cores that have counted five of each event. -/
def countedFive (clock : Int) (readOk : Nat → Bool) : PerfReading :=
  ⟨clock, fun _ _ => 5, readOk, fun _ => 0⟩

theorem perfRun_rates_iff_first :
    ∃ data st, mfCPUPerfInit (twoCoreHost fun _ => true) .blank ["MIPS".toList] 2
        ⟨[], 0, fun _ _ => 0⟩ = .ok (1, data, st) ∧
      Runs.Each (perfStep 2) (RatesCorrect 2) ⟨data, st, .start 0⟩
        [countedFive 1000 fun _ => false, countedFive 2000 fun _ => true] := by
  obtain ⟨data, st, hinit⟩ := exists_of_ret_one (x := mfCPUPerfInit
      (twoCoreHost fun _ => true) .blank
    ["MIPS".toList] 2 ⟨[], 0, fun _ _ => 0⟩) (by decide +kernel)
  refine ⟨data, st, hinit, (perfRun_rates_iff (fun _ => rfl) (fun _ _ _ _ => rfl) hinit _).mpr ?_⟩
  apply windowsAgree_of_first
  · intro r member
    rcases List.mem_pair.mp member with rfl | rfl
    · exact Or.inr rfl
    · exact Or.inl fun _ _ => rfl
  · intro i _
    rfl

/-- After a sample that could not read core 1, the next one divides what core 0 has counted in one
microsecond by two. -/
theorem perfRun_rates_late :
    ¬ ∀ (host : PerfHost) (data₀ data : PluginMetrics) (events : List CText) (numCores : Int)
      (st₀ st : PerfState), (∀ e, host.available e = true) → AllAdded host numCores.toNat →
      mfCPUPerfInit host data₀ events numCores st₀ = .ok (1, data, st) → ∀ rs : List PerfReading,
        Runs.Each (perfStep numCores) (RatesCorrect numCores) ⟨data, st, .start host.clock⟩ rs := by
  intro claim
  let failing := countedFive 1000 fun i => i = 0
  have computed : (do
      let out ← mfCPUPerfInit (twoCoreHost fun _ => true) .blank ["MIPS".toList] 2
        ⟨[], 0, fun _ _ => 0⟩
      let next ← mfCPUPerfSample out.2.1 2 failing out.2.2
      return (out.1, next.1)) = .ok (1, 0) := by decide +kernel
  obtain ⟨⟨ret, data, st⟩, hinit, computed⟩ := Fault.bind_eq_ok.mp computed
  obtain ⟨⟨ret', data', st'⟩, hsample, computed⟩ := Fault.bind_eq_ok.mp computed
  cases computed
  have started := perfTracked_start (c := 2) rfl hinit
  -- the failed sample has reset core 0, but not the time of the last success
  have apart : ((PerfWindows.start 0).next 2 failing).resetAt 0 ≠
      ((PerfWindows.start 0).next 2 failing).since := by decide
  have counts : ((PerfWindows.start 0).next 2 failing).counted 0 .totIns + 5 ≠ 0 := by decide
  have next : perfStep 2 ⟨data, st, .start 0⟩ failing =
      some ⟨data', st', (PerfWindows.start 0).next 2 failing⟩ :=
    perfStep_eq_some.mpr ⟨show (0 : Int) < 1000 by decide, 0, data', st', hsample, rfl⟩
  have tracked := started.step next
  have correct := claim _ _ _ _ _ _ _ (fun _ => rfl) (fun _ _ _ _ => rfl) hinit
    [failing, countedFive 2000 fun _ => true]
  have agree := (ratesCorrect_iff tracked (fun _ => rfl) (fun _ _ _ _ => rfl) (by decide) _).mp
    (correct.2 _ next).1
  have sets : st'.eventSets.length = 2 := by
    rw [tracked.ready.table.sets, List.length_map, List.length_range]
    rfl
  rcases agree (show (1000 : Int) < 2000 by decide) sets.ge (fun _ _ => rfl) 0 (by decide) with
    same | nothing
  · exact apart same
  · exact counts (nothing .totIns)

end PhantomMonitor
