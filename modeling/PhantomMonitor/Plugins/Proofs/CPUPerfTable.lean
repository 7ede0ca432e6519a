import PhantomMonitor.Misc.Numeral
import PhantomMonitor.Plugins.CPUPerf

/-!
# The event table of CPU_perf

`mf_CPU_perf_init` names the available events of each core it has set up, and the sampler stores
three values for each core it is asked for. Both walks are put into closed form here.
-/

namespace PhantomMonitor

open CText

/-! ## Names -/

theorem notMem_twoDigits (i : Nat) {c : Char} (hc : c.isDigit = false) : c ∉ twoDigits i := by
  have digits := notMem_toDigits i hc
  unfold twoDigits
  by_cases small : i < 10
  · rw [if_pos small, List.mem_cons, not_or]
    refine ⟨?_, digits⟩
    rintro rfl
    exact absurd hc (by decide)
  · rwa [if_neg small]

theorem ofDigitChars_twoDigits (i : Nat) : Nat.ofDigitChars 10 (twoDigits i) 0 = i := by
  unfold twoDigits
  by_cases small : i < 10
  · rw [if_pos small, Nat.ofDigitChars_cons]
    exact Nat.ofDigitChars_ten_toDigits
  · rw [if_neg small, Nat.ofDigitChars_ten_toDigits]

theorem coreEventName_eq (i : Nat) (e : PapiEvent) :
    coreEventName i e = "core".toList ++ twoDigits i ++ ':' :: e.metric := rfl

/-- A name tells the core and the event. -/
theorem coreEventName_inj {i i' : Nat} {e e' : PapiEvent}
    (h : coreEventName i e = coreEventName i' e') : i = i' ∧ e = e' := by
  rw [coreEventName_eq, coreEventName_eq, List.append_assoc, List.append_assoc] at h
  have colon : ':' ∉ e.metric := by cases e <;> decide +kernel
  have digits : ':' ∉ twoDigits i := notMem_twoDigits i (by decide)
  have halves := (List.append_cons_inj_of_notMem digits colon).mp (List.append_cancel_left h)
  constructor
  · rw [← ofDigitChars_twoDigits i, halves.1, ofDigitChars_twoDigits]
  · have metrics := halves.2.2
    cases e <;> cases e' <;> first | rfl | exact absurd metrics (by decide +kernel)

/-! ## The table that init leaves -/

/-- The events that PAPI reports as available, in the order of `PAPI_EVENTS`. -/
def availableEvents (host : PerfHost) : List PapiEvent := papiEvents.filter host.available

theorem availableEvents_length_le (host : PerfHost) : (availableEvents host).length ≤ 3 :=
  List.length_filter_le _ _

/-- The events of the set of core `i`: the available ones that PAPI has taken into it. -/
def addedEvents (host : PerfHost) (i : Nat) : List PapiEvent :=
  (availableEvents host).filter (host.addOk i)

/-- The inner loop names the available ones among the events given, from `jj` on. -/
theorem addEvents_spec {host : PerfHost} {i : Nat} {es : List PapiEvent}
    {data data' : PluginMetrics} {jj jj' : Nat} {set set' : List PapiEvent}
    (hrun : es.foldlM (addEvent host i) (data, jj, set) = .ok (data', jj', set'))
    (room : jj ≤ maxEventsNumber) :
    set' = set ++ (es.filter host.available).filter (host.addOk i) ∧
    jj' = jj + (es.filter host.available).length ∧
      jj' ≤ maxEventsNumber ∧ (∀ k < jj, data'.events k = data.events k) ∧
      ∀ p e, (es.filter host.available)[p]? = some e →
        data'.events (jj + p) = some (coreEventName i e) := by
  induction es generalizing data jj set with
  | nil =>
      cases hrun
      exact ⟨by simp, rfl, room, fun _ _ => rfl, by simp⟩
  | cons e es ih =>
      rw [List.foldlM_cons, Fault.bind_eq_ok] at hrun
      obtain ⟨⟨data₁, jj₁, set₁⟩, hfirst, hrest⟩ := hrun
      unfold addEvent at hfirst
      simp only at hfirst
      by_cases present : host.available e = true
      · rw [if_pos present, Fault.bind_eq_ok] at hfirst
        obtain ⟨data₂, hset, hdone⟩ := hfirst
        cases hdone
        obtain ⟨hjj, -, rfl⟩ := PluginTable.setEvent_eq_ok.mp hset
        obtain ⟨sets, count, bound, frame, names⟩ := ih hrest hjj
        rw [List.filter_cons_of_pos present]
        refine ⟨?_, by rw [count, List.length_cons]; omega, bound, ?_, ?_⟩
        · rw [sets, List.filter_cons]
          by_cases added : host.addOk i e = true
          · rw [if_pos added, if_pos added, List.append_assoc, List.singleton_append]
          · rw [if_neg added, if_neg added]
        · intro k hk
          rw [frame k (by omega)]
          exact Function.update_of_ne (by omega) _ _
        · intro p e' at_p
          cases p with
          | zero =>
              cases at_p
              rw [Nat.add_zero, frame jj (by omega)]
              exact Function.update_self _ _ _
          | succ p =>
              rw [← Nat.succ_add_eq_add_succ]
              exact names p e' at_p
      · rw [if_neg present] at hfirst
        cases hfirst
        rw [List.filter_cons_of_neg present]
        exact ih hrest room

/-- The table with the names of the first `c` cores. -/
structure CoreTable (host : PerfHost) (c : Nat) (data : PluginMetrics) (jj : Nat)
    (sets : List (List PapiEvent)) : Prop where
  sets : sets = (List.range c).map (addedEvents host)
  count : jj = (availableEvents host).length * c
  room : jj ≤ maxEventsNumber
  names : ∀ i < c, ∀ p e, (availableEvents host)[p]? = some e →
    data.events ((availableEvents host).length * i + p) = some (coreEventName i e)

theorem addCores_spec {host : PerfHost} {c : Nat} {data data' : PluginMetrics} {jj : Nat}
    {sets : List (List PapiEvent)}
    (hrun : (List.range c).foldlM (addCore host) (data, 0, []) = .ok (data', jj, sets)) :
    CoreTable host c data' jj sets := by
  induction c generalizing data' jj sets with
  | zero =>
      cases hrun
      exact ⟨rfl, rfl, Nat.zero_le _, fun i hi => absurd hi (Nat.not_lt_zero i)⟩
  | succ c ih =>
      rw [List.range_succ, List.foldlM_append, Fault.bind_eq_ok] at hrun
      obtain ⟨⟨data₁, jj₁, sets₁⟩, hfirst, hlast⟩ := hrun
      have table := ih hfirst
      rw [List.foldlM_cons, Fault.bind_eq_ok] at hlast
      obtain ⟨⟨data₂, jj₂, sets₂⟩, hcore, hdone⟩ := hlast
      cases hdone
      unfold addCore at hcore
      simp only [Fault.bind_eq_ok] at hcore
      obtain ⟨⟨data₃, jj₃, set⟩, hevents, hdone⟩ := hcore
      cases hdone
      obtain ⟨hset, count, bound, frame, names⟩ := addEvents_spec hevents table.room
      have start := table.count
      replace count : jj₃ = jj₁ + (availableEvents host).length := count
      refine ⟨?_, ?_, bound, ?_⟩
      · rw [table.sets, hset, List.nil_append, List.range_succ, List.map_append]
        rfl
      · rw [count, start, Nat.mul_succ]
      · intro i hi p e at_p
        have hp : p < (availableEvents host).length := (List.getElem?_eq_some_iff.mp at_p).1
        rcases Nat.lt_succ_iff_lt_or_eq.mp hi with before | rfl
        · have inside : (availableEvents host).length * i + p < jj₁ := by
            have := Nat.mul_le_mul_left (availableEvents host).length before
            rw [start]
            rw [Nat.mul_succ] at this
            omega
          rw [frame _ inside]
          exact table.names i before p e at_p
        · rw [← start]
          exact names p e at_p

end PhantomMonitor
