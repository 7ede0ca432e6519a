import PhantomMonitor.Misc.Numeral
import PhantomMonitor.Plugins.RAPLPower

/-!
# The event table of RAPL_power

`rapl_init` fills the table with one block of names for each requested metric, socket by socket,
and the sampling loop walks over the table block by block. A turn of the loop takes one or two
blocks, so the proof goes by the blocks that are left.
-/

namespace PhantomMonitor

open CText

namespace RaplDomain

theorem eventName_eq (d : RaplDomain) (j : Nat) :
    d.eventName j = "package".toList ++ Nat.toDigits 10 j ++ ':' :: d.metric := rfl

/-- An event name contains the metric of its own kind and no other. -/
theorem hasSubstr_eventName (d d' : RaplDomain) (j : Nat) :
    hasSubstr (d.eventName j) d'.metric = decide (d = d') := by
  have own : hasSubstr (d.eventName j) d.metric = true := by
    rw [eventName_eq, List.append_cons, ← List.append_nil (_ ++ d.metric)]
    exact hasSubstr_append _ _ _
  by_cases same : d = d'
  · subst same
    simpa using own
  · have absent : ∃ c ∈ d'.metric, c ∉ d.eventName j := by
      cases d with
      | package =>
          cases d' with
          | package => exact absurd rfl same
          | dram =>
              refine ⟨'m', by decide +kernel, ?_⟩
              simp only [eventName_eq, List.mem_append, not_or]
              exact ⟨⟨by decide +kernel, notMem_toDigits j (by decide)⟩, by decide +kernel⟩
      | dram =>
          cases d' with
          | package =>
              refine ⟨'l', by decide +kernel, ?_⟩
              simp only [eventName_eq, List.mem_append, not_or]
              exact ⟨⟨by decide +kernel, notMem_toDigits j (by decide)⟩, by decide +kernel⟩
          | dram => exact absurd rfl same
    obtain ⟨c, needed, missing⟩ := absent
    rw [hasSubstr_eq_false_of_notMem needed missing, decide_eq_false same]

theorem eventName_inj {d d' : RaplDomain} {j j' : Nat} (h : d.eventName j = d'.eventName j') :
    d = d' ∧ j = j' := by
  have kind : d = d' := by
    have found := hasSubstr_eventName d d' j
    rw [h, hasSubstr_eventName, decide_eq_true rfl] at found
    exact of_decide_eq_true found.symm
  subst kind
  refine ⟨rfl, ?_⟩
  rw [eventName_eq, eventName_eq] at h
  exact toDigits_inj (List.append_cancel_left (List.append_cancel_right h))

theorem eventName_length (d : RaplDomain) {j : Nat} (hj : j < maxSockets) :
    (d.eventName j).length < maxEventsLen := by
  have all : ∀ j < maxSockets, (d.eventName j).length < maxEventsLen := by
    cases d <;> decide
  exact all j hj

end RaplDomain

/-! ## The names -/

/-- From `start` on, the table holds one block of `n` names for each kind. -/
def Layout (events : Nat → Option CText) (n : Nat) : List RaplDomain → Nat → Prop
  | [], _ => True
  | d :: ds, start =>
      (∀ j < n, events (start + j) = some (d.eventName j)) ∧ Layout events n ds (start + n)

/-- Every entry of the blocks is the name of a requested kind and a socket. -/
theorem layout_name {events : Nat → Option CText} {n start : Nat} {ds : List RaplDomain}
    (h : Layout events n ds start) {k : Nat} (low : start ≤ k) (high : k < start + n * ds.length) :
    ∃ d ∈ ds, ∃ j < n, events k = some (d.eventName j) := by
  induction ds generalizing start with
  | nil =>
      rw [List.length_nil, Nat.mul_zero] at high
      omega
  | cons d ds ih =>
      obtain ⟨head, rest⟩ := h
      rw [List.length_cons, Nat.mul_succ] at high
      by_cases inside : k < start + n
      · refine ⟨d, List.mem_cons_self, k - start, by omega, ?_⟩
        rw [← head (k - start) (by omega), Nat.add_sub_cancel' low]
      · obtain ⟨d', member, found⟩ := ih rest (by omega) (by omega)
        exact ⟨d', List.mem_cons_of_mem _ member, found⟩

/-- Every requested kind has an entry for every socket. -/
theorem layout_index {events : Nat → Option CText} {n start : Nat} {ds : List RaplDomain}
    (h : Layout events n ds start) {d : RaplDomain} (member : d ∈ ds) {j : Nat} (hj : j < n) :
    ∃ k, start ≤ k ∧ k < start + n * ds.length ∧ events k = some (d.eventName j) := by
  induction ds generalizing start with
  | nil => cases member
  | cons d' ds ih =>
      obtain ⟨head, rest⟩ := h
      rw [List.length_cons, Nat.mul_succ]
      rcases List.mem_cons.mp member with rfl | member
      · exact ⟨start + j, by omega, by omega, head j hj⟩
      · obtain ⟨k, low, high, found⟩ := ih rest member
        exact ⟨k, by omega, by omega, found⟩

/-- The table after the names of one metric. -/
def nameBlock (d : RaplDomain) (n ii : Nat) (data : PluginMetrics) : PluginMetrics :=
  { data with
    events := fun k => if ii ≤ k ∧ k < ii + n then some (d.eventName (k - ii)) else data.events k }

theorem nameSockets_eq (d : RaplDomain) {n ii : Nat} (data : PluginMetrics) (hn : n ≤ maxSockets)
    (room : ii + n ≤ maxEventsNumber) :
    nameSockets d n data ii = .ok (nameBlock d n ii data, ii + n) := by
  unfold nameSockets
  induction n with
  | zero =>
      have none : ∀ k, ¬ (ii ≤ k ∧ k < ii) := fun k => by omega
      simp [nameBlock, none, pure, Except.pure]
  | succ n ih =>
      rw [List.range_succ, List.foldlM_append, ih (by omega) (by omega)]
      simp only [bind, Except.bind, List.foldlM_cons, List.foldlM_nil]
      rw [PluginTable.setEvent_ok (by omega) (d.eventName_length (by omega))]
      simp only [pure, Except.pure, nameBlock, Except.ok.injEq, Prod.mk.injEq,
        PluginTable.mk.injEq, and_true]
      refine ⟨?_, by omega⟩
      funext k
      by_cases last : k = ii + n
      · subst last
        simp
      · rw [Function.update_of_ne last]
        have same : (ii ≤ k ∧ k < ii + n) ↔ (ii ≤ k ∧ k < ii + (n + 1)) := by omega
        simp only [same]

theorem metric_inj {d d' : RaplDomain} : d.metric = d'.metric ↔ d = d' := by
  cases d <;> cases d' <;> decide +kernel

/-- A request that names a metric adds the block of that metric. -/
theorem nameRequest_eq (d : RaplDomain) {n ii : Nat} (data : PluginMetrics) (hn : n ≤ maxSockets)
    (room : ii + n ≤ maxEventsNumber) :
    nameRequest n d.metric data ii = .ok (nameBlock d n ii data, ii + n) := by
  have block := nameSockets_eq d data hn room
  unfold nameRequest
  simp only [metric_inj]
  cases d with
  | package =>
      rw [if_pos rfl, block]
      rfl
  | dram =>
      rw [if_neg (by decide)]
      exact block

/-- The table after the names of several metrics. -/
def nameBlocks (n : Nat) : List RaplDomain → Nat → PluginMetrics → PluginMetrics
  | [], _, data => data
  | d :: ds, ii, data => nameBlocks n ds (ii + n) (nameBlock d n ii data)

theorem nameRequests_eq {n ii : Nat} (ds : List RaplDomain) (data : PluginMetrics)
    (hn : n ≤ maxSockets) (room : ii + n * ds.length ≤ maxEventsNumber) :
    (ds.map RaplDomain.metric).foldlM
        (fun (data, ii) request => nameRequest n request data ii) (data, ii) =
      .ok (nameBlocks n ds ii data, ii + n * ds.length) := by
  induction ds generalizing ii data with
  | nil => rfl
  | cons d ds ih =>
      rw [List.length_cons, Nat.mul_succ] at room ⊢
      have first := nameRequest_eq d data hn (by omega : ii + n ≤ maxEventsNumber)
      simp only [List.map_cons, List.foldlM_cons, first]
      have rest := ih (nameBlock d n ii data) (by omega : ii + n + n * ds.length ≤ maxEventsNumber)
      rw [Nat.add_assoc, Nat.add_comm n] at rest
      exact rest

/-- The names before `ii` stay as they are. -/
theorem nameBlocks_frame {n ii : Nat} (ds : List RaplDomain) (data : PluginMetrics) {k : Nat}
    (hk : k < ii) : (nameBlocks n ds ii data).events k = data.events k := by
  induction ds generalizing ii data with
  | nil => rfl
  | cons d ds ih =>
      have before : ¬ (ii ≤ k ∧ k < ii + n) := by omega
      rw [nameBlocks, ih (nameBlock d n ii data) (by omega)]
      simp only [nameBlock, if_neg before]

theorem nameBlocks_layout (n : Nat) (ds : List RaplDomain) (ii : Nat) (data : PluginMetrics) :
    Layout (nameBlocks n ds ii data).events n ds ii := by
  induction ds generalizing ii data with
  | nil => trivial
  | cons d ds ih =>
      refine ⟨?_, ih (ii + n) (nameBlock d n ii data)⟩
      intro j hj
      rw [nameBlocks, nameBlocks_frame ds _ (by omega : ii + j < ii + n)]
      simp only [nameBlock]
      rw [if_pos (by omega), Nat.add_sub_cancel_left]

/-! ## The values -/

/-- The loop variables after one block of values. -/
def storeBlock (st : RaplState) (interval : Rat) (l : RaplLoop) (d : RaplDomain) : RaplLoop :=
  { l with
    i := l.i + st.numSockets
    values := fun k =>
      if l.i ≤ k ∧ k < l.i + st.numSockets then
        (st.after d (k - l.i) - l.before d (k - l.i)) / interval
      else l.values k
    before := fun d' j => if d' = d ∧ j < st.numSockets then st.after d j else l.before d' j
    writes := l.writes ++ (List.range st.numSockets).map (l.i + ·) }

theorem setBefore_apply (before : RaplDomain → Nat → Rat) (d : RaplDomain) (j : Nat)
    (energy : Rat) (d' : RaplDomain) (j' : Nat) :
    setBefore before d j energy d' j' = if d' = d ∧ j' = j then energy else before d' j' := by
  unfold setBefore
  by_cases kind : d' = d
  · subst kind
    rw [Function.update_self]
    by_cases socket : j' = j
    · subst socket
      simp
    · simp [socket]
  · rw [Function.update_of_ne kind]
    simp [kind]

/-- The loop over the sockets stores one block. -/
theorem storeSockets_eq {st : RaplState} {interval : Rat} {d : RaplDomain} {l : RaplLoop}
    (hn : st.numSockets ≤ maxSockets) (room : l.i + st.numSockets ≤ maxEventsNumber) :
    (List.range st.numSockets).foldlM (storeSocket st interval d) l =
      .ok (storeBlock st interval l d) := by
  have upto : ∀ n ≤ st.numSockets, (List.range n).foldlM (storeSocket st interval d) l =
      .ok { l with
        i := l.i + n
        values := fun k => if l.i ≤ k ∧ k < l.i + n then
          (st.after d (k - l.i) - l.before d (k - l.i)) / interval else l.values k
        before := fun d' j => if d' = d ∧ j < n then st.after d j else l.before d' j
        writes := l.writes ++ (List.range n).map (l.i + ·) } := by
    intro n
    induction n with
    | zero =>
        intro _
        have none : ∀ k, ¬ (l.i ≤ k ∧ k < l.i) := fun k => by omega
        simp [none, pure, Except.pure]
    | succ n ih =>
        intro reached
        rw [List.range_succ, List.foldlM_append, ih (by omega)]
        simp only [bind, Except.bind, List.foldlM_cons, List.foldlM_nil, storeSocket]
        rw [if_pos ⟨by omega, by omega⟩]
        simp only [pure, Except.pure, Except.ok.injEq, RaplLoop.mk.injEq, List.map_append,
          List.map_cons, List.map_nil, List.append_assoc, and_true, true_and]
        refine ⟨by omega, ?_, ?_⟩
        · funext k
          by_cases last : k = l.i + n
          · subst last
            simp
          · rw [Function.update_of_ne last]
            have same : (l.i ≤ k ∧ k < l.i + n) ↔ (l.i ≤ k ∧ k < l.i + (n + 1)) := by omega
            simp only [same]
        · funext d' j
          rw [setBefore_apply]
          by_cases last : d' = d ∧ j = n
          · obtain ⟨rfl, rfl⟩ := last
            simp
          · rw [if_neg last]
            have same : (d' = d ∧ j < n) ↔ (d' = d ∧ j < n + 1) := by
              constructor
              · rintro ⟨kind, socket⟩
                exact ⟨kind, by omega⟩
              · rintro ⟨kind, socket⟩
                have : j ≠ n := fun e => last ⟨kind, e⟩
                exact ⟨kind, by omega⟩
            simp only [same]
  exact upto st.numSockets (Nat.le_refl _)

end PhantomMonitor
