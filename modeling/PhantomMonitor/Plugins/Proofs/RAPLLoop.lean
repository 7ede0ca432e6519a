import PhantomMonitor.Plugins.Proofs.EventBounds

/-!
# The sampling loop of RAPL_power

A turn of the loop tests the entry at `i` for the package, and then the entry at `i` for DRAM, which
may be a later one by then. So the loop stays inside the table as long as a package is followed by
another block, and reads one entry too far when the package comes last.
-/

namespace PhantomMonitor

open CText

/-! ## The table of a successful initialization -/

theorem storeName_bounded (name : CText) : Bounded (fun acc => storeName acc name) 1 := by
  intro data k out _ run
  simp only [storeName, Fault.bind_eq_ok] at run
  obtain ⟨data', hset, hdone⟩ := run
  obtain ⟨inside, -, -⟩ := PluginTable.setEvent_eq_ok.mp hset
  cases hdone
  exact ⟨inside, rfl⟩

theorem nameSockets_bounded (d : RaplDomain) (n : Nat) :
    Bounded (fun acc => nameSockets d n acc.1 acc.2) n := by
  have bounded : Bounded (fun acc => (List.range n).foldlM
      (fun acc j => storeName acc (d.eventName j)) acc) (1 * (List.range n).length) :=
    Bounded.foldlM fun j => storeName_bounded (d.eventName j)
  rwa [List.length_range, Nat.one_mul] at bounded

theorem nameRequest_bounded (d : RaplDomain) (n : Nat) :
    Bounded (fun acc => nameRequest n d.metric acc.1 acc.2) n := by
  have same : (fun acc : PluginMetrics × Nat => nameRequest n d.metric acc.1 acc.2) =
      fun acc => nameSockets d n acc.1 acc.2 := by
    funext acc
    unfold nameRequest
    simp only [metric_inj]
    cases d with
    | package =>
        rw [if_pos rfl]
        cases nameSockets .package n acc.1 acc.2 <;> rfl
    | dram =>
        rw [if_neg (by decide)]
        rfl
  rw [same]
  exact nameSockets_bounded d n

/-- Names that are all stored fit into the table. -/
theorem nameRequests_room {n : Nat} {requests : List CText} {data : PluginMetrics}
    {out : PluginMetrics × Nat}
    (h : requests.foldlM (fun (data, ii) request => nameRequest n request data ii) (data, 0) =
      .ok out) : n * (raplDomains requests).length ≤ maxEventsNumber := by
  rw [nameRequests_known, List.foldlM_map] at h
  have bounded : Bounded (fun acc => (raplDomains requests).foldlM
      (fun acc d => nameRequest n (RaplDomain.metric d) acc.1 acc.2) acc)
        (n * (raplDomains requests).length) :=
    Bounded.foldlM fun d => nameRequest_bounded d n
  have bound := (bounded data 0 out (Nat.zero_le _) h).1
  rwa [Nat.zero_add] at bound

/-- What a successful initialization leaves: a block of names for each energy that is asked for. -/
structure RaplTable (ds : List RaplDomain) (data : PluginMetrics) (st : RaplState) : Prop where
  positive : 0 < st.numSockets
  few : st.numSockets ≤ maxSockets
  asked : ds ≠ []
  layout : Layout data.events st.numSockets ds 0
  total : data.numEvents = st.numSockets * ds.length
  room : data.numEvents ≤ maxEventsNumber

theorem raplInit_table {host : RaplHost} {data₀ data : PluginMetrics} {requests : List CText}
    {st₀ st : RaplState} (few : hardwareSocketsCount host ≤ maxSockets)
    (hinit : raplInit host data₀ requests st₀ = .ok (true, data, st)) (some : data.numEvents ≠ 0) :
    RaplTable (raplDomains requests) data st := by
  unfold raplInit at hinit
  by_cases missing : host.papiLoaded = false ∨ checkRaplComponent host.components = false
  · rw [if_pos missing] at hinit
    cases hinit
  rw [if_neg missing] at hinit
  by_cases unset : hardwareSocketsCount host = 0 ∨ host.eventSetOk = false
  · simp [unset] at hinit
  simp only [unset, if_false] at hinit
  obtain ⟨⟨data₁, ii⟩, hnames, hdone⟩ := Fault.bind_eq_ok.mp hinit
  have room := nameRequests_room hnames
  rw [nameRequests_known, nameRequests_eq _ _ few (by omega)] at hnames
  cases hnames
  by_cases started : host.startOk = true
  · simp only [started, if_true] at hdone
    cases hdone
    refine ⟨Nat.pos_of_ne_zero fun e => unset (Or.inl e), few, ?_, nameBlocks_layout _ _ _ _,
      Nat.zero_add _, by simpa using room⟩
    intro none
    simp [none] at some
  · simp only [started] at hdone
    cases hdone

theorem raplPowerInit_table {host : RaplHost} {data₀ data : PluginMetrics} {requests : List CText}
    {r : RaplReading} {st₀ st : RaplState} (few : hardwareSocketsCount host ≤ maxSockets)
    (hinit : mfRAPLPowerInit host data₀ requests r st₀ = .ok (1, data, st)) :
    RaplTable (raplDomains requests) data st := by
  unfold mfRAPLPowerInit at hinit
  obtain ⟨⟨available, data₁, st₁⟩, hrapl, hrest⟩ := Fault.bind_eq_ok.mp hinit
  by_cases failed : available = false ∨ data₁.numEvents = 0
  · simp only [if_pos failed] at hrest
    cases hrest
  simp only [if_neg failed] at hrest
  rw [not_or, Bool.not_eq_false] at failed
  obtain ⟨rfl, some⟩ := failed
  have table := raplInit_table few hrapl some
  obtain ⟨ret, before, counters, read⟩ := @raplStatRead_keeps
    { st₁ with raplIsAvailable := true } table.few r st₁.before
  rw [read] at hrest
  cases hrest
  exact ⟨table.positive, table.few, table.asked, table.layout, table.total, table.room⟩

/-! ## Inside the table -/

/-- The loop returns. It stores the next `m` values, one after the other, and reads names of the
table only. -/
def LoopStays (data : PluginMetrics) (st : RaplState) (interval : Rat) (fuel : Nat) (l : RaplLoop)
    (m : Nat) : Prop :=
  ∃ l' reads, sampleLoop data st interval fuel l = .ok (some l') ∧
    l'.writes = l.writes ++ List.range' l.i m ∧ l'.reads = l.reads ++ reads ∧
    ∀ k ∈ reads, k < data.numEvents

section

variable {data : PluginMetrics} {st : RaplState} {interval : Rat} {fuel : Nat} {l l' : RaplLoop}

/-- A turn before a loop that stores the values of the blocks that are left. -/
theorem LoopStays.turn {ds stored left : List RaplDomain}
    (rest : LoopStays data st interval fuel l' (st.numSockets * left.length))
    (turn : LoopTurn data st interval ds l stored left l') :
    LoopStays data st interval (fuel + 1) l (st.numSockets * ds.length) := by
  obtain ⟨last, later, hrun, written, read, bound⟩ := rest
  obtain ⟨reads, hreads, inside⟩ := turn.reads
  refine ⟨last, reads ++ later, (turn.run fuel).trans hrun, ?_, ?_, ?_⟩
  · rw [written, turn.writes, turn.position, List.append_assoc, List.range'_append_1, turn.length,
      Nat.mul_add]
  · rw [read, hreads, List.append_assoc]
  · exact List.forall_mem_append.mpr ⟨inside, bound⟩

/-- With DRAM in the last block the loop stays inside the table. -/
theorem sampleLoop_stays (hpos : 0 < st.numSockets) (hn : st.numSockets ≤ maxSockets)
    (room : data.numEvents ≤ maxEventsNumber) (ds : List RaplDomain)
    (last : ds.getLastD .dram = .dram) (hfuel : ds.length < fuel)
    (layout : Layout data.events st.numSockets ds l.i)
    (total : data.numEvents = l.i + st.numSockets * ds.length) :
    LoopStays data st interval fuel l (st.numSockets * ds.length) := by
  induction fuel generalizing ds l with
  | zero => omega
  | succ fuel ih =>
      by_cases done : ds = []
      · subst done
        exact ⟨l, [], sampleLoop_done fuel total.le, (List.append_nil _).symm,
          (List.append_nil _).symm, by simp⟩
      · have several : ds ≠ [.package] := by
          rintro rfl
          cases last
        obtain ⟨stored, left, l', turn⟩ :=
          exists_turn interval hpos hn room done several layout total
        have := turn.shorter
        exact (ih left (turn.last.trans last) (by omega) turn.layout (turn.total total)).turn turn

/-! ## Behind the table -/

theorem storeSockets_reads {d : RaplDomain} {sockets : List Nat}
    (h : sockets.foldlM (storeSocket st interval d) l = .ok l') : l'.reads = l.reads := by
  induction sockets generalizing l with
  | nil =>
      cases h
      rfl
  | cons j sockets ih =>
      rw [List.foldlM_cons, Fault.bind_eq_ok] at h
      obtain ⟨next, hstore, hrest⟩ := h
      unfold storeSocket at hstore
      split at hstore
      · cases hstore
        have kept := ih hrest
        exact kept
      · cases hstore

theorem sampleBlock_reads {d : RaplDomain} (h : sampleBlock data st interval d l = .ok l') :
    l'.reads = l.reads ++ [l.i] := by
  unfold sampleBlock at h
  obtain ⟨event, -, h⟩ := Fault.bind_eq_ok.mp h
  cases event with
  | none =>
      cases h
      rfl
  | some name =>
      simp only at h
      split at h
      · exact storeSockets_reads h
      · cases h
        rfl

/-- What has been read stays on record. -/
theorem sampleLoop_reads (h : sampleLoop data st interval fuel l = .ok (some l')) {k : Nat}
    (member : k ∈ l.reads) : k ∈ l'.reads := by
  induction fuel generalizing l with
  | zero => cases h
  | succ fuel ih =>
      unfold sampleLoop at h
      split at h
      · obtain ⟨l₁, first, h⟩ := Fault.bind_eq_ok.mp h
        obtain ⟨l₂, second, h⟩ := Fault.bind_eq_ok.mp h
        apply ih h
        rw [sampleBlock_reads second, sampleBlock_reads first]
        simp [member]
      · cases h
        exact member

/-- With a package in the last block, the loop does not return without a read behind the table. -/
theorem sampleLoop_overruns (hpos : 0 < st.numSockets) (hn : st.numSockets ≤ maxSockets)
    (room : data.numEvents ≤ maxEventsNumber) (ds : List RaplDomain)
    (last : ds.getLastD .dram = .package)
    (layout : Layout data.events st.numSockets ds l.i)
    (total : data.numEvents = l.i + st.numSockets * ds.length)
    (h : sampleLoop data st interval fuel l = .ok (some l')) : data.numEvents ∈ l'.reads := by
  induction fuel generalizing ds l with
  | zero => cases h
  | succ fuel ih =>
      have some : ds ≠ [] := by
        rintro rfl
        cases last
      by_cases behind : ds = [.package]
      · subst behind
        have named := layout.1 0 hpos
        rw [List.length_singleton, Nat.mul_one] at total
        have more : l.i < data.numEvents := by omega
        unfold sampleLoop at h
        rw [if_pos more, sampleBlock_package interval hn (by omega) (by omega) named] at h
        obtain ⟨l₁, first, h⟩ := Fault.bind_eq_ok.mp h
        cases first
        obtain ⟨l₂, second, h⟩ := Fault.bind_eq_ok.mp h
        apply sampleLoop_reads h
        rw [sampleBlock_reads second, storeBlock_i, RaplLoop.read_i, total]
        simp
      · obtain ⟨stored, left, next, turn⟩ :=
          exists_turn interval hpos hn room some behind layout total
        rw [turn.run] at h
        exact ih left (turn.last.trans last) turn.layout (turn.total total) h

end

/-! ## The condition -/

/-- The loop returns, reads only names of the table, and writes each value of the table exactly once
and no other one. -/
def LoopWellDefined (data : PluginMetrics) (st : RaplState) (interval : Rat) : Prop :=
  ∃ l, sampleLoop data st interval (data.numEvents + 1) ⟨0, data.values, st.before, [], []⟩ =
      .ok (some l) ∧
    (∀ k ∈ l.reads, k < data.numEvents) ∧ (∀ k < data.numEvents, l.writes.count k = 1) ∧
    ∀ k ∈ l.writes, k < data.numEvents

theorem layout_congr {events events' : Nat → Option CText} {n start : Nat} {ds : List RaplDomain}
    (h : Layout events n ds start)
    (same : ∀ k < start + n * ds.length, events' k = events k) : Layout events' n ds start := by
  induction ds generalizing start with
  | nil => trivial
  | cons d ds ih =>
      obtain ⟨head, rest⟩ := h
      rw [List.length_cons, Nat.mul_succ] at same
      refine ⟨fun j hj => (same (start + j) (by omega)).trans (head j hj), ih rest fun k hk => ?_⟩
      exact same k (by omega)

/-- What stands behind the table is not part of it. -/
theorem RaplTable.frame {ds : List RaplDomain} {data data' : PluginMetrics} {st st' : RaplState}
    (h : RaplTable ds data st) (count : data'.numEvents = data.numEvents)
    (names : ∀ k < data.numEvents, data'.events k = data.events k)
    (sockets : st'.numSockets = st.numSockets) : RaplTable ds data' st' := by
  refine ⟨sockets ▸ h.positive, sockets ▸ h.few, h.asked, ?_, ?_, count ▸ h.room⟩
  · rw [sockets]
    apply layout_congr h.layout
    rw [Nat.zero_add, ← h.total]
    exact names
  · rw [count, sockets]
    exact h.total

theorem RaplTable.wellDefined_iff {ds : List RaplDomain} {data : PluginMetrics} {st : RaplState}
    (h : RaplTable ds data st) (interval : Rat) :
    LoopWellDefined data st interval ↔ ds.getLast? = some .dram := by
  have total : data.numEvents = 0 + st.numSockets * ds.length := by rw [h.total, Nat.zero_add]
  have shorter : ds.length ≤ data.numEvents := by
    rw [h.total]
    exact Nat.le_mul_of_pos_left _ h.positive
  obtain ⟨d, last⟩ := Option.ne_none_iff_exists'.mp fun none =>
      h.asked (List.getLast?_eq_none_iff.mp none)
  have lastD : ds.getLastD .dram = d := by rw [List.getLastD_eq_getLast?, last, Option.getD_some]
  rw [last, Option.some.injEq]
  constructor
  · rintro ⟨l, hrun, inside, -, -⟩
    cases d with
    | dram => rfl
    | package =>
        have behind := sampleLoop_overruns h.positive h.few h.room ds lastD h.layout total hrun
        exact absurd (inside _ behind) (lt_irrefl _)
  · rintro rfl
    obtain ⟨l, reads, hrun, writes, hreads, inside⟩ :=
      @sampleLoop_stays data st interval (data.numEvents + 1) ⟨0, data.values, st.before, [], []⟩
        h.positive h.few h.room ds lastD (by omega) h.layout total
    rw [← h.total] at writes
    change l.writes = List.range' 0 data.numEvents at writes
    rw [List.nil_append] at hreads
    refine ⟨l, hrun, hreads ▸ inside, ?_, ?_⟩
    · intro k hk
      rw [writes]
      exact List.count_eq_one_of_mem List.nodup_range'
        (List.mem_range'_1.mpr ⟨Nat.zero_le k, by omega⟩)
    · intro k member
      rw [writes] at member
      have := List.mem_range'_1.mp member
      omega

/-- Whatever stands behind the table, the loop is well defined exactly when the last one among the
requested names that stand for an energy is `dram_power`. -/
theorem raplLoop_wellDefined_iff {host : RaplHost} {data₀ data : PluginMetrics}
    {requests : List CText} {r : RaplReading} {st₀ st : RaplState}
    (few : hardwareSocketsCount host ≤ maxSockets)
    (hinit : mfRAPLPowerInit host data₀ requests r st₀ = .ok (1, data, st)) {data' : PluginMetrics}
    (count : data'.numEvents = data.numEvents)
    (names : ∀ k < data.numEvents, data'.events k = data.events k) {st' : RaplState}
    (sockets : st'.numSockets = st.numSockets) (interval : Rat) :
    LoopWellDefined data' st' interval ↔ (raplDomains requests).getLast? = some .dram :=
  ((raplPowerInit_table few hinit).frame count names sockets).wellDefined_iff interval

theorem oneSocketHost_starts {requests : List CText} (asked : raplDomains requests ≠ []) :
    RaplStarts oneSocketHost requests 1 where
  library := rfl
  component := by decide +kernel
  sockets := rfl
  positive := Nat.one_pos
  eventSet := rfl
  start := rfl
  asked := asked

/-- A table whose last names are those of DRAM. -/
theorem raplLoop_wellDefined_iff_dram :
    ∃ data st, mfRAPLPowerInit oneSocketHost .blank ["total_power".toList, "dram_power".toList]
        (evenReading 0 1) blankRapl = .ok (1, data, st) ∧ LoopWellDefined data st 1 := by
  have domains : raplDomains ["total_power".toList, "dram_power".toList] = [.package, .dram] := by
    decide +kernel
  have starts : RaplStarts oneSocketHost ["total_power".toList, "dram_power".toList] 1 :=
    oneSocketHost_starts (by rw [domains]; decide)
  obtain ⟨data, st, hinit, -⟩ :=
    raplInside starts (by decide) (by decide +kernel) .blank blankRapl (evenReading 0 1)
  refine ⟨data, st, hinit, ?_⟩
  rw [raplLoop_wellDefined_iff (by decide) hinit rfl (fun _ _ => rfl) rfl, domains]
  rfl

/-- With the package alone, the loop reads a name that nobody has written. -/
theorem raplLoop_behind :
    ¬ ∀ (host : RaplHost) (data₀ data : PluginMetrics) (requests : List CText) (r : RaplReading)
      (st₀ st : RaplState) (interval : Rat), hardwareSocketsCount host ≤ maxSockets →
      mfRAPLPowerInit host data₀ requests r st₀ = .ok (1, data, st) →
      LoopWellDefined data st interval := by
  intro claim
  have domains : raplDomains ["total_power".toList] = [.package] := by decide +kernel
  have starts : RaplStarts oneSocketHost ["total_power".toList] 1 :=
    oneSocketHost_starts (by rw [domains]; decide)
  have few : hardwareSocketsCount oneSocketHost ≤ maxSockets := by decide
  obtain ⟨data, st, hinit, -⟩ :=
    raplInside starts few (by decide +kernel) .blank blankRapl (evenReading 0 1)
  have last := ((raplPowerInit_table few hinit).wellDefined_iff 1).mp
    (claim _ _ _ _ _ _ _ 1 few hinit)
  rw [domains] at last
  cases last

end PhantomMonitor
