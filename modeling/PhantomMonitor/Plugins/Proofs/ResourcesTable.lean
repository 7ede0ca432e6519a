import PhantomMonitor.Misc.Table
import PhantomMonitor.Plugins.LinuxResources

/-!
# The table of Linux_resources

The requested metrics stand at the first indices of the table in the order of the flags, and a
sample goes through them once. A rate of the CPU or a throughput is only written when its counters
have moved; what was in the table before stays otherwise.
-/

namespace PhantomMonitor

open CText

theorem ResourcesMetric.name_inj {m m' : ResourcesMetric} (h : m.name = m'.name) : m = m' := by
  revert h
  cases m <;> cases m' <;> decide

/-- The metrics of the table, in the order of the table. -/
def resourcesLayout (flag : ResourcesMetric → Bool) : List ResourcesMetric :=
  ResourcesMetric.all.filter flag

theorem resourcesLayout_nodup (flag : ResourcesMetric → Bool) : (resourcesLayout flag).Nodup := by
  have distinct : ResourcesMetric.all.Nodup := by decide
  exact distinct.filter flag

theorem mem_resourcesLayout {flag : ResourcesMetric → Bool} {m : ResourcesMetric} :
    m ∈ resourcesLayout flag ↔ flag m = true := by
  have known : m ∈ ResourcesMetric.all := by cases m <;> decide
  simp [resourcesLayout, known]

/-! ## The names -/

/-- The metrics are named at the first indices. -/
structure ResourcesNamed (table : PluginMetrics × Nat) (metrics : List ResourcesMetric) : Prop where
  count : table.2 = metrics.length
  names : Tabulates table.1.events (metrics.map fun metric => some metric.name)

theorem ResourcesNamed.fold (flag : ResourcesMetric → Bool) (ms : List ResourcesMetric)
    {table : PluginMetrics × Nat} {metrics : List ResourcesMetric}
    (h : ResourcesNamed table metrics) :
    ResourcesNamed (ms.foldl (fun table m => nameMetric (flag m) m.name table) table)
        (metrics ++ ms.filter flag) ∧
      (ms.foldl (fun table m => nameMetric (flag m) m.name table) table).1.values =
        table.1.values := by
  induction ms generalizing table metrics with
  | nil =>
      rw [List.filter_nil, List.append_nil]
      exact ⟨h, rfl⟩
  | cons m ms ih =>
      rw [List.foldl_cons]
      cases hm : flag m with
      | false =>
          rw [List.filter_cons_of_neg (by simp [hm])]
          exact ih h
      | true =>
          have pushed := h.names.push (some m.name)
          rw [List.length_map, ← h.count] at pushed
          have named : ResourcesNamed (nameMetric true m.name table) (metrics ++ [m]) :=
            ⟨by simp [nameMetric, h.count], by simpa [nameMetric] using pushed⟩
          obtain ⟨rest, values⟩ := ih named
          rw [List.filter_cons_of_pos hm, List.append_cons]
          exact ⟨rest, values⟩

/-- The table after an initialization that succeeds. -/
theorem resourcesInit_named (data : PluginMetrics) {events : List CText} (r : ResourcesReading)
    (st : ResourcesState) {m : ResourcesMetric} (asked : m.name ∈ events) :
    let out := mfLinuxResourcesInit data events r st
    out.2.2.flag m = true ∧
      ResourcesNamed (out.2.1, out.2.1.numEvents) (resourcesLayout out.2.2.flag) ∧
      out.2.1.values = data.values := by
  have known : m ∈ ResourcesMetric.all := by cases m <;> decide
  obtain ⟨hflag, hok⟩ : (resourcesFlagInit st.flag events).1 m = true ∧
      (resourcesFlagInit st.flag events).2 = 1 := flagInit_of_mem st.flag known asked
  have start : ResourcesNamed (data, 0) [] := ⟨rfl, tabulates_nil _⟩
  obtain ⟨named, values⟩ :=
    start.fold (resourcesFlagInit st.flag events).1 ResourcesMetric.all
  unfold mfLinuxResourcesInit
  dsimp only
  rw [if_neg (by rw [hok]; exact Nat.one_ne_zero)]
  exact ⟨hflag, ⟨named.count, named.names⟩, values⟩

/-! ## The values -/

/-- A sample has gone through some metrics and comes to others. -/
structure Passed (s : ResourcesSample) (done todo : List ResourcesMetric)
    (new held : ResourcesMetric → Rat) : Prop where
  count : s.i = (done.filter s.st.flag).length
  values : Tabulates s.values ((done.filter s.st.flag).map new ++ (todo.filter s.st.flag).map held)

/-- What becomes of a metric in a sample: a value is written for it, or it keeps the one it has. -/
def visited (flag : Bool) (write : Option Rat) (s : ResourcesSample) : (Nat → Rat) × Nat :=
  if flag then
    match write with
    | none => (s.values, s.i + 1)
    | some value => (Function.update s.values s.i value, s.i + 1)
  else (s.values, s.i)

theorem Passed.visit {s s' : ResourcesSample} {done todo : List ResourcesMetric}
    {m : ResourcesMetric} {new held : ResourcesMetric → Rat} {write : Option Rat}
    (h : Passed s done (m :: todo) new held) (same : s'.st.flag = s.st.flag)
    (visit : (s'.values, s'.i) = visited (s.st.flag m) write s)
    (value : new m = write.getD (held m)) : Passed s' (done ++ [m]) todo new held := by
  obtain ⟨count, tabulated⟩ := h
  cases hm : s.st.flag m with
  | false =>
      simp only [visited, hm, Bool.false_eq_true, if_false, Prod.mk.injEq] at visit
      obtain ⟨values, index⟩ := visit
      constructor
      · simpa [same, index, hm] using count
      · simpa [same, values, hm] using tabulated
  | true =>
      rw [List.filter_cons_of_pos hm, List.map_cons] at tabulated
      cases write with
      | none =>
          simp only [visited, hm, if_true, Prod.mk.injEq] at visit
          obtain ⟨values, index⟩ := visit
          rw [Option.getD_none] at value
          constructor
          · simp [same, index, hm, count]
          · simpa [same, values, hm, value] using tabulated
      | some written =>
          simp only [visited, hm, if_true, Prod.mk.injEq] at visit
          obtain ⟨values, index⟩ := visit
          rw [Option.getD_some] at value
          have updated := tabulated.set written
          rw [List.length_map, ← count] at updated
          constructor
          · simp [same, index, hm, count]
          · simpa [same, values, hm, value] using updated

/-- What a sample writes for a metric. -/
def resourcesWrite (r : ResourcesReading) (st : ResourcesState) : ResourcesMetric → Option Rat
  | .cpu =>
      let after := (cpuStatRead r.cpu st.cpuStatAfter).1
      if st.cpuStatBefore.totalCpuTime < after.totalCpuTime
      then some (cpuUsageRate st.cpuStatBefore after) else none
  | .ram => some r.ramUsage
  | .swap => some r.swapUsage
  | .net =>
      let bytes := netBytes st.netStatBefore (netStatRead r.net st.netStatAfter).1
      if 0 < bytes.toNat then some (bytes.toNat / (r.clock - st.beforeTime)) else none
  | .io =>
      let bytes := ioBytes st.ioStatBefore (sysIOStatRead r.proc st.ioStatAfter).1
      if 0 < bytes.toNat then some (bytes.toNat / (r.clock - st.beforeTime)) else none

/-- The saved counters of a throughput figure after a sample. -/
def netSaved (r : ResourcesReading) (st : ResourcesState) : NetStats :=
  let after := (netStatRead r.net st.netStatAfter).1
  if 0 < (netBytes st.netStatBefore after).toNat then after else st.netStatBefore

def ioSaved (r : ResourcesReading) (st : ResourcesState) : IoStats :=
  let after := (sysIOStatRead r.proc st.ioStatAfter).1
  if 0 < (ioBytes st.ioStatBefore after).toNat then after else st.ioStatBefore

/-- A part of the sampler leaves the variables of the other metrics alone. -/
structure OwnPart (m : ResourcesMetric) (r : ResourcesReading) (s s' : ResourcesSample) : Prop where
  visit : (s'.values, s'.i) = visited (s.st.flag m) (resourcesWrite r s.st m) s
  flag : s'.st.flag = s.st.flag
  time : s'.st.beforeTime = s.st.beforeTime ∧ s'.st.afterTime = s.st.afterTime
  write : ∀ m' ≠ m, resourcesWrite r s'.st m' = resourcesWrite r s.st m'
  netSaved : m ≠ .net → PhantomMonitor.netSaved r s'.st = PhantomMonitor.netSaved r s.st ∧
    s'.st.netStatBefore = s.st.netStatBefore
  ioSaved : m ≠ .io → PhantomMonitor.ioSaved r s'.st = PhantomMonitor.ioSaved r s.st ∧
    s'.st.ioStatBefore = s.st.ioStatBefore

/-- What a sample writes for a metric, and what it saves, depends on the variables of the metric and
on the time. -/
theorem OwnPart.of_others {m : ResourcesMetric} {r : ResourcesReading} {s s' : ResourcesSample}
    (visit : (s'.values, s'.i) = visited (s.st.flag m) (resourcesWrite r s.st m) s)
    (flag : s'.st.flag = s.st.flag)
    (time : s'.st.beforeTime = s.st.beforeTime ∧ s'.st.afterTime = s.st.afterTime)
    (cpu : m ≠ .cpu → s'.st.cpuStatBefore = s.st.cpuStatBefore ∧
      s'.st.cpuStatAfter = s.st.cpuStatAfter)
    (net : m ≠ .net → s'.st.netStatBefore = s.st.netStatBefore ∧
      s'.st.netStatAfter = s.st.netStatAfter)
    (io : m ≠ .io → s'.st.ioStatBefore = s.st.ioStatBefore ∧
      s'.st.ioStatAfter = s.st.ioStatAfter) : OwnPart m r s s' := by
  refine ⟨visit, flag, time, ?_, ?_, ?_⟩
  · intro m' other
    cases m' with
    | cpu => simp only [resourcesWrite, cpu other.symm]
    | ram => rfl
    | swap => rfl
    | net => simp only [resourcesWrite, net other.symm, time]
    | io => simp only [resourcesWrite, io other.symm, time]
  · intro other
    obtain ⟨before, after⟩ := net other
    exact ⟨by simp only [PhantomMonitor.netSaved, before, after], before⟩
  · intro other
    obtain ⟨before, after⟩ := io other
    exact ⟨by simp only [PhantomMonitor.ioSaved, before, after], before⟩

/-- A metric that is not asked for. -/
theorem OwnPart.skip {m : ResourcesMetric} {r : ResourcesReading} {s : ResourcesSample}
    (h : ¬ s.st.flag m = true) : OwnPart m r s s := by
  refine ⟨?_, rfl, ⟨rfl, rfl⟩, fun _ _ => rfl, fun _ => ⟨rfl, rfl⟩, fun _ => ⟨rfl, rfl⟩⟩
  simp [visited, h]

theorem sampleCpu_own (r : ResourcesReading) (s : ResourcesSample) :
    OwnPart .cpu r s (sampleCpu r s) := by
  unfold sampleCpu
  split
  · dsimp only
    split
    · rename_i hflag moved
      refine .of_others ?_ rfl ⟨rfl, rfl⟩ (absurd rfl) (fun _ => ⟨rfl, rfl⟩) fun _ => ⟨rfl, rfl⟩
      simp [visited, resourcesWrite, hflag, moved]
    · rename_i hflag moved
      refine .of_others ?_ rfl ⟨rfl, rfl⟩ (absurd rfl) (fun _ => ⟨rfl, rfl⟩) fun _ => ⟨rfl, rfl⟩
      simp [visited, resourcesWrite, hflag, moved]
  · rename_i hflag
    exact .skip hflag

theorem sampleRate_own {m : ResourcesMetric} {rate : Rat} {r : ResourcesReading}
    (hrate : ∀ st, resourcesWrite r st m = some rate) (s : ResourcesSample) :
    OwnPart m r s (sampleRate m rate s) := by
  unfold sampleRate
  split
  · rename_i hflag
    refine ⟨?_, rfl, ⟨rfl, rfl⟩, fun _ _ => rfl, fun _ => ⟨rfl, rfl⟩, fun _ => ⟨rfl, rfl⟩⟩
    simp [visited, hrate, hflag]
  · rename_i hflag
    exact .skip hflag

theorem sampleNet_own (r : ResourcesReading) (s : ResourcesSample) :
    OwnPart .net r s (sampleNet r (r.clock - s.st.beforeTime) s) := by
  unfold sampleNet
  split
  · dsimp only
    split
    · rename_i hflag moved
      refine .of_others ?_ rfl ⟨rfl, rfl⟩ (fun _ => ⟨rfl, rfl⟩) (absurd rfl) fun _ => ⟨rfl, rfl⟩
      simp [visited, resourcesWrite, hflag, moved]
    · rename_i hflag moved
      refine .of_others ?_ rfl ⟨rfl, rfl⟩ (fun _ => ⟨rfl, rfl⟩) (absurd rfl) fun _ => ⟨rfl, rfl⟩
      simp [visited, resourcesWrite, hflag, moved]
  · rename_i hflag
    exact .skip hflag

theorem sampleNet_saved (r : ResourcesReading) (interval : Rat) {s : ResourcesSample}
    (hflag : s.st.flag .net = true) :
    (sampleNet r interval s).st.netStatBefore = netSaved r s.st := by
  unfold sampleNet netSaved
  rw [if_pos hflag]
  dsimp only
  split <;> rfl

theorem sampleIo_own (r : ResourcesReading) (s : ResourcesSample) :
    OwnPart .io r s (sampleIo r (r.clock - s.st.beforeTime) s) := by
  unfold sampleIo
  split
  · dsimp only
    split
    · rename_i hflag moved
      refine .of_others ?_ rfl ⟨rfl, rfl⟩ (fun _ => ⟨rfl, rfl⟩) (fun _ => ⟨rfl, rfl⟩) (absurd rfl)
      simp [visited, resourcesWrite, hflag, moved]
    · rename_i hflag moved
      refine .of_others ?_ rfl ⟨rfl, rfl⟩ (fun _ => ⟨rfl, rfl⟩) (fun _ => ⟨rfl, rfl⟩) (absurd rfl)
      simp [visited, resourcesWrite, hflag, moved]
  · rename_i hflag
    exact .skip hflag

theorem sampleIo_saved (r : ResourcesReading) (interval : Rat) {s : ResourcesSample}
    (hflag : s.st.flag .io = true) :
    (sampleIo r interval s).st.ioStatBefore = ioSaved r s.st := by
  unfold sampleIo ioSaved
  rw [if_pos hflag]
  dsimp only
  split <;> rfl

/-- A sample as a whole. -/
structure Sampled (data : PluginMetrics) (r : ResourcesReading) (st : ResourcesState)
    (held : ResourcesMetric → Rat) (out : PluginMetrics × ResourcesState) : Prop where
  names : out.1.events = data.events ∧ out.1.numEvents = data.numEvents
  values : Tabulates out.1.values
    ((resourcesLayout st.flag).map fun m => (resourcesWrite r st m).getD (held m))
  flag : out.2.flag = st.flag
  time : out.2.beforeTime = r.clock
  net : st.flag .net = true → out.2.netStatBefore = netSaved r st
  io : st.flag .io = true → out.2.ioStatBefore = ioSaved r st

theorem resourcesSample_sampled {data : PluginMetrics} (r : ResourcesReading) {st : ResourcesState}
    {held : ResourcesMetric → Rat}
    (h : Tabulates data.values ((resourcesLayout st.flag).map held)) :
    Sampled data r st held (mfLinuxResourcesSample data r st) := by
  let new := fun m => (resourcesWrite r st m).getD (held m)
  let s₀ : ResourcesSample := ⟨{ st with afterTime := r.clock }, data.values, 0⟩
  let s₁ := sampleCpu r s₀
  let s₂ := sampleRate .ram r.ramUsage s₁
  let s₃ := sampleRate .swap r.swapUsage s₂
  let s₄ := sampleNet r (r.clock - st.beforeTime) s₃
  let s₅ := sampleIo r (r.clock - st.beforeTime) s₄
  have write₀ : ∀ m, resourcesWrite r s₀.st m = resourcesWrite r st m := by
    intro m
    cases m <;> rfl
  have cpu : OwnPart .cpu r s₀ s₁ := sampleCpu_own r s₀
  have ram : OwnPart .ram r s₁ s₂ := sampleRate_own (fun _ => rfl) s₁
  have swap : OwnPart .swap r s₂ s₃ := sampleRate_own (fun _ => rfl) s₂
  have time₃ : s₃.st.beforeTime = st.beforeTime :=
    swap.time.1.trans (ram.time.1.trans cpu.time.1)
  have flag₃ : s₃.st.flag = st.flag := swap.flag.trans (ram.flag.trans cpu.flag)
  have net : OwnPart .net r s₃ s₄ := by
    have own := sampleNet_own r s₃
    rwa [time₃] at own
  have time₄ : s₄.st.beforeTime = st.beforeTime := net.time.1.trans time₃
  have flag₄ : s₄.st.flag = st.flag := net.flag.trans flag₃
  have io : OwnPart .io r s₄ s₅ := by
    have own := sampleIo_own r s₄
    rwa [time₄] at own
  -- each metric finds the variables that were there before the sample
  have passed₀ : Passed s₀ [] [.cpu, .ram, .swap, .net, .io] new held := ⟨rfl, h⟩
  have passed₁ := passed₀.visit cpu.flag cpu.visit (by rw [write₀])
  have passed₂ := passed₁.visit ram.flag ram.visit rfl
  have passed₃ := passed₂.visit swap.flag swap.visit rfl
  have passed₄ := passed₃.visit net.flag net.visit
    (by rw [swap.write _ (by decide), ram.write _ (by decide), cpu.write _ (by decide), write₀])
  have passed₅ := passed₄.visit io.flag io.visit
    (by rw [net.write _ (by decide), swap.write _ (by decide), ram.write _ (by decide),
      cpu.write _ (by decide), write₀])
  have flag₅ : s₅.st.flag = st.flag := io.flag.trans flag₄
  refine ⟨⟨rfl, rfl⟩, ?_, flag₅, ?_, ?_, ?_⟩
  · have tabulated := passed₅.values
    rw [flag₅] at tabulated
    show Tabulates s₅.values ((resourcesLayout st.flag).map new)
    simpa [resourcesLayout, ResourcesMetric.all] using tabulated
  · exact io.time.2.trans (net.time.2.trans (swap.time.2.trans (ram.time.2.trans cpu.time.2)))
  · intro hnet
    show s₅.st.netStatBefore = _
    rw [(io.netSaved (by decide)).2, sampleNet_saved r _ (flag₃ ▸ hnet),
      (swap.netSaved (by decide)).1, (ram.netSaved (by decide)).1, (cpu.netSaved (by decide)).1]
    rfl
  · intro hio
    show s₅.st.ioStatBefore = _
    rw [sampleIo_saved r _ (flag₄ ▸ hio), (net.ioSaved (by decide)).1, (swap.ioSaved (by decide)).1,
      (ram.ioSaved (by decide)).1, (cpu.ioSaved (by decide)).1]
    rfl

end PhantomMonitor
