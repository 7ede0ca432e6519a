import Mathlib.Algebra.Order.Field.Rat
import Mathlib.Tactic.Linarith
import PhantomMonitor.Misc.Runs
import PhantomMonitor.Plugins.Proofs.ResourcesTable
import PhantomMonitor.Plugins.Proofs.VanishedProcess

/-!
# The throughput figures

A throughput is written to the table only when bytes were moved since the sample before. After an
interval without traffic the text shows what the table held: the figure of an earlier interval, or
what was in the memory before the plugin was initialized.
-/

namespace PhantomMonitor

open CText

/-- All bytes of the network statistics. -/
def NetStats.sum (net : NetStats) : BitVec 64 := net.rcvBytes + net.sendBytes

theorem netBytes_eq (before after : NetStats) : netBytes before after = after.sum - before.sum :=
  Counter.add_sub_add _ _ _ _

/-- The total bytes that a reading finds for a figure. -/
def totalBytes (m : ResourcesMetric) (r : ResourcesReading) : Option (BitVec 64) :=
  match m with
  | .net => r.net.map NetStats.sum
  | .io => r.proc.map fun proc => proc.totals.sum
  | _ => none

/-- A reading is later than another one, and its total is not smaller. -/
structure Later (m : ResourcesMetric) (p r : ResourcesReading) : Prop where
  clock : p.clock < r.clock
  total : ∃ before after, totalBytes m p = some before ∧ totalBytes m r = some after ∧
    before.toNat ≤ after.toNat

/-- The total bytes as a number. -/
def bytesAt (m : ResourcesMetric) (r : ResourcesReading) : Nat := ((totalBytes m r).getD 0).toNat

/-- The bytes between two readings over the time between them. -/
def throughput (m : ResourcesMetric) (p r : ResourcesReading) : Rat :=
  ((bytesAt m r : Rat) - bytesAt m p) / (r.clock - p.clock)

/-- The values that the text shows under the name of a metric. -/
def emitted (m : ResourcesMetric) (data : PluginMetrics) : List Rat :=
  ((resourcesJsonEntries data).filter fun entry => entry.1 = m.name).map Prod.snd

/-- The plugin after a sample, with the reading that it took. -/
def resourcesStep (s : ResourcesReading × PluginMetrics × ResourcesState) (r : ResourcesReading) :
    Option (ResourcesReading × PluginMetrics × ResourcesState) :=
  some (r, mfLinuxResourcesSample s.2.1 r s.2.2)

/-- After the sample the text shows the throughput since the reading before. -/
def FreshFigure (m : ResourcesMetric) (s : ResourcesReading × PluginMetrics × ResourcesState)
    (r : ResourcesReading) : Prop :=
  emitted m (mfLinuxResourcesSample s.2.1 r s.2.2).1 = [throughput m s.1 r]

/-- What the table holds for a metric. -/
def heldFor (m : ResourcesMetric) (data : PluginMetrics) (flag : ResourcesMetric → Bool) : Rat :=
  data.values ((resourcesLayout flag).idxOf m)

/-! ## The text -/

/-- The text shows a requested metric unless its value is negative. -/
theorem emitted_eq {data : PluginMetrics} {flag : ResourcesMetric → Bool}
    {value : ResourcesMetric → Rat}
    (named : ResourcesNamed (data, data.numEvents) (resourcesLayout flag))
    (values : Tabulates data.values ((resourcesLayout flag).map value)) {m : ResourcesMetric}
    (asked : flag m = true) : emitted m data = if 0 ≤ value m then [value m] else [] := by
  have both := (named.names.pair values).map_range
  rw [List.length_map, ← named.count] at both
  have entries : resourcesJsonEntries data = (resourcesLayout flag).filterMap fun m =>
      if 0 ≤ value m then some (m.name, value m) else none := by
    calc resourcesJsonEntries data
        = ((List.range data.numEvents).map fun i => (data.events i, data.values i)).filterMap
            fun entry => entry.1.bind fun name =>
              if 0 ≤ entry.2 then some (name, entry.2) else none := by
          rw [List.filterMap_map]
          refine List.filterMap_congr fun i _ => ?_
          rw [resourcesJsonEntry, Function.comp_apply]
          cases data.events i <;> rfl
      _ = _ := by
          rw [both, List.filterMap_map]
          rfl
  rw [emitted, entries, filter_filterMap_name ResourcesMetric.name_inj ?_
    (resourcesLayout_nodup flag) (mem_resourcesLayout.mpr asked)]
  · split <;> rfl
  · intro other entry
    split
    · intro some
      cases some
      rfl
    · intro none
      cases none

/-! ## One sample -/

/-- The saved total of a figure. -/
def savedTotal (m : ResourcesMetric) (st : ResourcesState) : BitVec 64 :=
  match m with
  | .net => st.netStatBefore.sum
  | .io => st.ioStatBefore.sum
  | _ => 0

/-- What a sample does with a throughput. -/
theorem resourcesWrite_throughput {m : ResourcesMetric} (hm : m = .net ∨ m = .io)
    {r : ResourcesReading} {total : BitVec 64} (found : totalBytes m r = some total)
    (st : ResourcesState) :
    resourcesWrite r st m = if 0 < (total - savedTotal m st).toNat
      then some ((total - savedTotal m st).toNat / (r.clock - st.beforeTime)) else none := by
  rcases hm with rfl | rfl
  · obtain ⟨net, hnet, rfl⟩ := Option.map_eq_some_iff.mp found
    simp only [resourcesWrite, hnet, netStatRead, netBytes_eq, savedTotal]
    rfl
  · obtain ⟨proc, hproc, rfl⟩ := Option.map_eq_some_iff.mp found
    simp only [resourcesWrite, sysIOStatRead_some hproc, ioBytes_eq, savedTotal]
    rfl

/-- The saved total is that of the last reading, also when the counters were not saved. -/
theorem Sampled.savedTotal {m : ResourcesMetric} (hm : m = .net ∨ m = .io)
    {data : PluginMetrics} {r : ResourcesReading} {st : ResourcesState}
    {held : ResourcesMetric → Rat} {out : PluginMetrics × ResourcesState}
    (h : Sampled data r st held out) (asked : st.flag m = true) {total : BitVec 64}
    (found : totalBytes m r = some total) : PhantomMonitor.savedTotal m out.2 = total := by
  have unmoved : ∀ {before after : BitVec 64}, ¬ 0 < (after - before).toNat → before = after := by
    intro before after idle
    have zero : after - before = 0#64 := BitVec.eq_of_toNat_eq (Nat.eq_zero_of_not_pos idle)
    rw [BitVec.sub_eq_iff_eq_add, BitVec.zero_add] at zero
    exact zero.symm
  rcases hm with rfl | rfl
  · obtain ⟨net, hnet, rfl⟩ := Option.map_eq_some_iff.mp found
    rw [PhantomMonitor.savedTotal, h.net asked, netSaved, hnet]
    simp only [netStatRead, netBytes_eq]
    split
    · rfl
    · rename_i idle
      exact unmoved idle
  · obtain ⟨proc, hproc, rfl⟩ := Option.map_eq_some_iff.mp found
    rw [PhantomMonitor.savedTotal, h.io asked, ioSaved, sysIOStatRead_some hproc]
    simp only [ioBytes_eq]
    split
    · rfl
    · rename_i idle
      exact unmoved idle

/-- The initialization saves the first reading. -/
theorem resourcesInit_saved {m : ResourcesMetric} (hm : m = .net ∨ m = .io) (data : PluginMetrics)
    {events : List CText} (asked : m.name ∈ events) (st : ResourcesState) {r₀ : ResourcesReading}
    {total : BitVec 64} (found : totalBytes m r₀ = some total) :
    (mfLinuxResourcesInit data events r₀ st).2.2.beforeTime = r₀.clock ∧
      savedTotal m (mfLinuxResourcesInit data events r₀ st).2.2 = total := by
  have known : m ∈ ResourcesMetric.all := by cases m <;> decide
  obtain ⟨hflag, hok⟩ : (resourcesFlagInit st.flag events).1 m = true ∧
      (resourcesFlagInit st.flag events).2 = 1 := flagInit_of_mem st.flag known asked
  unfold mfLinuxResourcesInit
  dsimp only
  rw [if_neg (by rw [hok]; exact Nat.one_ne_zero)]
  refine ⟨rfl, ?_⟩
  rcases hm with rfl | rfl
  · obtain ⟨net, hnet, rfl⟩ := Option.map_eq_some_iff.mp found
    simp only [savedTotal, hflag, if_true, hnet, netStatRead]
  · obtain ⟨proc, hproc, rfl⟩ := Option.map_eq_some_iff.mp found
    simp only [savedTotal, hflag, if_true, sysIOStatRead_some hproc]

/-! ## Any number of samples -/

/-- The plugin after a reading `p`. The table holds 0 for the figure exactly when it did before the
first reading and no byte was moved since then. -/
structure FigureInv (m : ResourcesMetric) (initial : Rat) (r₀ : ResourcesReading)
    (s : ResourcesReading × PluginMetrics × ResourcesState) : Prop where
  asked : s.2.2.flag m = true
  named : ResourcesNamed (s.2.1, s.2.1.numEvents) (resourcesLayout s.2.2.flag)
  time : s.2.2.beforeTime = s.1.clock
  saved : totalBytes m s.1 = some (savedTotal m s.2.2)
  grown : bytesAt m r₀ ≤ bytesAt m s.1
  held : ∃ held, Tabulates s.2.1.values ((resourcesLayout s.2.2.flag).map held) ∧
    (held m = 0 ↔ initial = 0 ∧ bytesAt m s.1 = bytesAt m r₀)

theorem bytesAt_eq {m : ResourcesMetric} {r : ResourcesReading} {total : BitVec 64}
    (found : totalBytes m r = some total) : bytesAt m r = total.toNat := by
  rw [bytesAt, found, Option.getD_some]

section

variable {m : ResourcesMetric} {r : ResourcesReading}

theorem Later.bytesAt_le {p : ResourcesReading} (later : Later m p r) :
    bytesAt m p ≤ bytesAt m r := by
  obtain ⟨before, after, hbefore, hafter, grows⟩ := later.total
  rw [bytesAt_eq hafter, bytesAt_eq hbefore]
  exact grows

theorem Later.throughput_pos {p : ResourcesReading} (later : Later m p r)
    (busy : bytesAt m p < bytesAt m r) : 0 < throughput m p r := by
  have bytes : (0 : Rat) < bytesAt m r - bytesAt m p := by
    rw [sub_pos]
    exact_mod_cast busy
  exact div_pos bytes (sub_pos.mpr later.clock)

variable {initial : Rat} {r₀ : ResourcesReading}
  {s : ResourcesReading × PluginMetrics × ResourcesState}

/-- A sample writes the throughput unless the interval was idle. -/
theorem FigureInv.write (h : FigureInv m initial r₀ s) (hm : m = .net ∨ m = .io)
    (later : Later m s.1 r) :
    resourcesWrite r s.2.2 m =
      if bytesAt m s.1 < bytesAt m r then some (throughput m s.1 r) else none := by
  obtain ⟨before, after, hbefore, hafter, grows⟩ := later.total
  have saved : savedTotal m s.2.2 = before := by
    rw [h.saved] at hbefore
    exact Option.some.inj hbefore
  have moved : (after - before).toNat = bytesAt m r - bytesAt m s.1 := by
    rw [Counter.sub_eq_of_le grows, bytesAt_eq hafter, bytesAt_eq hbefore]
  rw [resourcesWrite_throughput hm hafter, saved, moved, h.time, Nat.cast_sub later.bytesAt_le]
  simp only [Nat.sub_pos_iff_lt]
  rfl

theorem FigureInv.named_sample (h : FigureInv m initial r₀ s) {held : ResourcesMetric → Rat}
    {out : PluginMetrics × ResourcesState} (sampled : Sampled s.2.1 r s.2.2 held out) :
    ResourcesNamed (out.1, out.1.numEvents) (resourcesLayout s.2.2.flag) := by
  constructor
  · rw [sampled.names.2]
    exact h.named.count
  · rw [sampled.names.1]
    exact h.named.names

/-- One sample keeps the invariant. -/
theorem FigureInv.sample (h : FigureInv m initial r₀ s) (hm : m = .net ∨ m = .io)
    (later : Later m s.1 r) :
    FigureInv m initial r₀ (r, mfLinuxResourcesSample s.2.1 r s.2.2) := by
  obtain ⟨held, tabulated, zero⟩ := h.held
  obtain ⟨-, after, -, hafter, -⟩ := later.total
  have sampled := resourcesSample_sampled r tabulated
  have bound := later.bytesAt_le
  refine ⟨?_, sampled.flag ▸ h.named_sample sampled, sampled.time, ?_, h.grown.trans bound,
    _, sampled.flag ▸ sampled.values, ?_⟩
  · rw [sampled.flag]
    exact h.asked
  · rw [sampled.savedTotal hm h.asked hafter]
    exact hafter
  · rw [h.write hm later]
    by_cases busy : bytesAt m s.1 < bytesAt m r
    · have grown := h.grown
      have since : bytesAt m r ≠ bytesAt m r₀ := by omega
      rw [if_pos busy, Option.getD_some]
      exact iff_of_false (later.throughput_pos busy).ne' fun same => since same.2
    · have idle : bytesAt m r = bytesAt m s.1 := by omega
      rw [if_neg busy, Option.getD_none, idle]
      exact zero

/-- The figure is fresh unless the interval was idle and the table held something else than 0. -/
theorem FigureInv.fresh_iff (h : FigureInv m initial r₀ s) (hm : m = .net ∨ m = .io)
    (later : Later m s.1 r) :
    FreshFigure m s r ↔ (bytesAt m r = bytesAt m s.1 → initial = 0 ∧
      bytesAt m r = bytesAt m r₀) := by
  obtain ⟨held, tabulated, zero⟩ := h.held
  have sampled := resourcesSample_sampled r tabulated
  have shown := emitted_eq (h.named_sample sampled) sampled.values h.asked
  rw [h.write hm later] at shown
  by_cases busy : bytesAt m s.1 < bytesAt m r
  · rw [if_pos busy, Option.getD_some, if_pos (later.throughput_pos busy).le] at shown
    exact iff_of_true shown fun idle => absurd idle busy.ne'
  · have bound := later.bytesAt_le
    have idle : bytesAt m r = bytesAt m s.1 := by omega
    rw [if_neg busy, Option.getD_none] at shown
    rw [forall_prop_of_true idle, idle, ← zero, FreshFigure, shown, throughput, idle, sub_self,
      zero_div]
    split
    · simp
    · rename_i negative
      simp only [List.nil_eq, List.cons_ne_nil, false_iff]
      exact fun held => negative held.ge

end

/-- The plugin after the initialization. -/
theorem figureInv_init {m : ResourcesMetric} (hm : m = .net ∨ m = .io) (data : PluginMetrics)
    {events : List CText} (asked : m.name ∈ events) (st : ResourcesState) {r₀ : ResourcesReading}
    {total : BitVec 64} (found : totalBytes m r₀ = some total) :
    FigureInv m (heldFor m data (mfLinuxResourcesInit data events r₀ st).2.2.flag) r₀
      (r₀, (mfLinuxResourcesInit data events r₀ st).2) := by
  obtain ⟨flag, named, values⟩ := resourcesInit_named data r₀ st asked
  obtain ⟨time, saved⟩ := resourcesInit_saved hm data asked st found
  refine ⟨flag, named, time, ?_, Nat.le_refl _, ?_⟩
  · rw [saved]
    exact found
  · refine ⟨_, tabulates_held _ (resourcesLayout_nodup _), ?_⟩
    show (mfLinuxResourcesInit data events r₀ st).2.1.values _ = 0 ↔ _
    rw [values]
    exact ⟨fun zero => ⟨zero, rfl⟩, fun zero => zero.1⟩

theorem FigureInv.run {m : ResourcesMetric} (hm : m = .net ∨ m = .io) {initial : Rat}
    {r₀ : ResourcesReading} {rs : List ResourcesReading}
    {s : ResourcesReading × PluginMetrics × ResourcesState} (h : FigureInv m initial r₀ s)
    (chain : List.IsChain (Later m) (s.1 :: rs)) :
    Runs.Each resourcesStep (FreshFigure m) s rs ↔
      List.IsChain (fun p r => bytesAt m r = bytesAt m p →
        initial = 0 ∧ bytesAt m r = bytesAt m r₀) (s.1 :: rs) := by
  induction rs generalizing s with
  | nil => exact ⟨fun _ => .singleton _, fun _ => trivial⟩
  | cons r rs ih =>
      obtain ⟨later, rest⟩ := List.isChain_cons_cons.mp chain
      rw [Runs.Each, h.fresh_iff hm later, List.isChain_cons_cons]
      apply and_congr_right
      intro _
      rw [← ih (h.sample hm later) rest]
      exact ⟨fun each => each _ rfl, fun each s' made => Option.some.inj made ▸ each⟩

/-- The throughput is fresh after every sample exactly when each interval without traffic comes
before the first byte is moved, and the memory of the table held 0 there. -/
theorem throughput_fresh_iff {m : ResourcesMetric} (hm : m = .net ∨ m = .io) (data : PluginMetrics)
    {events : List CText} (asked : m.name ∈ events) (st : ResourcesState) (r₀ : ResourcesReading)
    {rs : List ResourcesReading} (chain : List.IsChain (Later m) (r₀ :: rs)) :
    let started := (mfLinuxResourcesInit data events r₀ st).2
    Runs.Each resourcesStep (FreshFigure m) (r₀, started) rs ↔
      List.IsChain (fun p r => bytesAt m r = bytesAt m p →
        heldFor m data started.2.flag = 0 ∧ bytesAt m r = bytesAt m r₀) (r₀ :: rs) := by
  intro started
  cases rs with
  | nil => exact ⟨fun _ => .singleton _, fun _ => trivial⟩
  | cons r rs =>
      obtain ⟨total, -, found, -⟩ := (List.isChain_cons_cons.mp chain).1.total
      exact (figureInv_init hm data asked st found).run hm chain

/-- A reading of the network alone. -/
def networkAt (clock : Rat) (received : BitVec 64) : ResourcesReading :=
  ⟨clock, none, 0, 0, some ⟨received, 0⟩, none⟩

theorem networkAt_later {clock clock' : Rat} {received received' : BitVec 64}
    (after : clock < clock') (grows : received ≤ received') :
    Later .net (networkAt clock received) (networkAt clock' received') where
  clock := after
  total := by
    refine ⟨received + 0#64, received' + 0#64, rfl, rfl, ?_⟩
    rwa [BitVec.add_zero, BitVec.add_zero]

theorem throughput_fresh_iff_busy :
    let started := (mfLinuxResourcesInit .blank [ResourcesMetric.net.name] (networkAt 0 0)
      loadedResources).2
    List.IsChain (Later .net) [networkAt 0 0, networkAt 1 100, networkAt 3 150] ∧
      (Runs.Each resourcesStep (FreshFigure .net) (networkAt 0 0, started)
          [networkAt 1 100, networkAt 3 150] ↔
        List.IsChain (fun p r => bytesAt .net r = bytesAt .net p →
            heldFor .net .blank started.2.flag = 0 ∧ bytesAt .net r = bytesAt .net (networkAt 0 0))
          [networkAt 0 0, networkAt 1 100, networkAt 3 150]) := by
  have chain : List.IsChain (Later .net) [networkAt 0 0, networkAt 1 100, networkAt 3 150] :=
    .cons_cons (networkAt_later (by norm_num) (by decide))
      (.cons_cons (networkAt_later (by norm_num) (by decide)) (.singleton _))
  exact ⟨chain, throughput_fresh_iff (.inl rfl) .blank (List.mem_singleton_self _) loadedResources
    (networkAt 0 0) chain⟩

/-- A hundred bytes in the first second and none in the next one. -/
theorem idle_interval_repeats_throughput :
    ¬ Runs.Each resourcesStep (FreshFigure .net)
        (networkAt 0 0, (mfLinuxResourcesInit .blank [ResourcesMetric.net.name] (networkAt 0 0)
          loadedResources).2)
        [networkAt 1 100, networkAt 2 100] := by
  have chain : List.IsChain (Later .net) [networkAt 0 0, networkAt 1 100, networkAt 2 100] :=
    .cons_cons (networkAt_later (by norm_num) (by decide))
      (.cons_cons (networkAt_later (by norm_num) (by decide)) (.singleton _))
  have found : totalBytes .net (networkAt 0 0) = some (0#64 + 0#64) := rfl
  have started := figureInv_init (.inl rfl) .blank
    (List.mem_singleton_self ResourcesMetric.net.name) loadedResources found
  rw [started.run (.inl rfl) chain]
  intro fresh
  have idle := (List.isChain_cons_cons.mp (List.isChain_cons_cons.mp fresh).2).1 rfl
  exact absurd idle.2 (by decide)

end PhantomMonitor
