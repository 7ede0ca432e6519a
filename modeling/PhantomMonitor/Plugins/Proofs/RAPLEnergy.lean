import Mathlib.Tactic.FieldSimp
import PhantomMonitor.Plugins.Proofs.RAPLTable

/-!
# The energy that RAPL_power reports

`rapl_stat_read` resets the counters after each read, so what it reads is already the energy of
one interval; the sampler then subtracts the reading before. The value of a sample times its
interval is therefore the difference of two intervals' energies.
-/

namespace PhantomMonitor

open CText

/-! ## The loop -/

/-- The loop variables after the blocks of several kinds. -/
def storeBlocks (st : RaplState) (interval : Rat) (l : RaplLoop) (ds : List RaplDomain) :
    RaplLoop :=
  ds.foldl (storeBlock st interval) l

/-- The loop variables after a read of the event at `i`. -/
def RaplLoop.read (l : RaplLoop) : RaplLoop := { l with reads := l.reads ++ [l.i] }

@[simp] theorem RaplLoop.read_i (l : RaplLoop) : l.read.i = l.i := rfl

@[simp] theorem storeBlock_i (st : RaplState) (interval : Rat) (l : RaplLoop) (d : RaplDomain) :
    (storeBlock st interval l d).i = l.i + st.numSockets := rfl

theorem storeBlock_writes (st : RaplState) (interval : Rat) (l : RaplLoop) (d : RaplDomain) :
    (storeBlock st interval l d).writes = l.writes ++ List.range' l.i st.numSockets := by
  rw [List.range'_eq_map_range]
  rfl

theorem storeBlocks_i (st : RaplState) (interval : Rat) (l : RaplLoop) (ds : List RaplDomain) :
    (storeBlocks st interval l ds).i = l.i + st.numSockets * ds.length := by
  induction ds generalizing l with
  | nil => rfl
  | cons d ds ih =>
      refine (ih (storeBlock st interval l d)).trans ?_
      rw [storeBlock_i, List.length_cons, Nat.mul_succ, Nat.add_assoc, Nat.add_comm st.numSockets]

/-- What the blocks store does not depend on the record of reads and writes. -/
theorem storeBlocks_congr (st : RaplState) (interval : Rat) (l l' : RaplLoop)
    (ds : List RaplDomain) (hi : l.i = l'.i) (hvalues : l.values = l'.values)
    (hbefore : l.before = l'.before) :
    (storeBlocks st interval l ds).values = (storeBlocks st interval l' ds).values ∧
      (storeBlocks st interval l ds).before = (storeBlocks st interval l' ds).before := by
  induction ds generalizing l l' with
  | nil => exact ⟨hvalues, hbefore⟩
  | cons d ds ih =>
      apply ih (storeBlock st interval l d) (storeBlock st interval l' d)
      · simp only [storeBlock_i, hi]
      · simp only [storeBlock, hi, hvalues, hbefore]
      · simp only [storeBlock, hbefore]

theorem sampleBlock_eq {data : PluginMetrics} {st : RaplState} (interval : Rat)
    (d : RaplDomain) {l : RaplLoop} (hn : st.numSockets ≤ maxSockets)
    (inside : l.i < maxEventsNumber) (room : l.i + st.numSockets ≤ maxEventsNumber) :
    sampleBlock data st interval d l =
      match data.events l.i with
      | none => .ok l.read
      | some name =>
          if hasSubstr name d.metric then .ok (storeBlock st interval l.read d)
          else .ok l.read := by
  unfold sampleBlock
  rw [PluginTable.getEvent_ok inside]
  simp only [bind, Except.bind]
  cases data.events l.i with
  | none => rfl
  | some name =>
      simp only
      rw [storeSockets_eq hn (by simp only; exact room)]
      rfl

theorem sampleBlock_named {data : PluginMetrics} {st : RaplState} (interval : Rat)
    (d : RaplDomain) {d' : RaplDomain} {j : Nat} {l : RaplLoop} (hn : st.numSockets ≤ maxSockets)
    (inside : l.i < maxEventsNumber) (room : l.i + st.numSockets ≤ maxEventsNumber)
    (named : data.events l.i = some (d'.eventName j)) :
    sampleBlock data st interval d l =
      if d' = d then .ok (storeBlock st interval l.read d) else .ok l.read := by
  rw [sampleBlock_eq interval d hn inside room, named]
  simp only [RaplDomain.hasSubstr_eventName, decide_eq_true_eq]

theorem sampleLoop_done {data : PluginMetrics} {st : RaplState} {interval : Rat} {l : RaplLoop}
    (fuel : Nat) (done : data.numEvents ≤ l.i) :
    sampleLoop data st interval (fuel + 1) l = .ok (some l) := by
  rw [sampleLoop, if_neg (by omega)]

theorem sampleLoop_turn {data : PluginMetrics} {st : RaplState} {interval : Rat}
    {l l' l'' : RaplLoop} (fuel : Nat) (more : l.i < data.numEvents)
    (first : sampleBlock data st interval .package l = .ok l')
    (second : sampleBlock data st interval .dram l' = .ok l'') :
    sampleLoop data st interval (fuel + 1) l = sampleLoop data st interval fuel l'' := by
  rw [sampleLoop, if_pos more, first]
  simp only [bind, Except.bind, second]

section

variable {data : PluginMetrics} {st : RaplState} {l : RaplLoop} {j j' : Nat}

/-- A turn that starts with DRAM stores one block. -/
theorem sampleLoop_dram (interval : Rat) (fuel : Nat) (hn : st.numSockets ≤ maxSockets)
    (more : l.i < data.numEvents) (inside : l.i < maxEventsNumber)
    (room : l.i + st.numSockets ≤ maxEventsNumber)
    (named : data.events l.i = some (RaplDomain.dram.eventName j)) :
    sampleLoop data st interval (fuel + 1) l =
      sampleLoop data st interval fuel (storeBlock st interval l.read.read .dram) := by
  have first := sampleBlock_named interval .package hn inside room named
  have second := @sampleBlock_named data st interval .dram .dram j l.read hn inside room named
  rw [if_neg (by decide)] at first
  rw [if_pos rfl] at second
  exact sampleLoop_turn fuel more first second

/-- The first block of a turn that starts with a package. -/
theorem sampleBlock_package (interval : Rat) (hn : st.numSockets ≤ maxSockets)
    (inside : l.i < maxEventsNumber) (room : l.i + st.numSockets ≤ maxEventsNumber)
    (named : data.events l.i = some (RaplDomain.package.eventName j)) :
    sampleBlock data st interval .package l = .ok (storeBlock st interval l.read .package) := by
  rw [sampleBlock_named interval .package hn inside room named, if_pos rfl]

/-- A turn that starts with a package takes along the DRAM that comes next. -/
theorem sampleLoop_package_dram (interval : Rat) (fuel : Nat) (hn : st.numSockets ≤ maxSockets)
    (more : l.i < data.numEvents) (inside : l.i + st.numSockets < maxEventsNumber)
    (room : l.i + st.numSockets + st.numSockets ≤ maxEventsNumber)
    (named : data.events l.i = some (RaplDomain.package.eventName j))
    (named' : data.events (l.i + st.numSockets) = some (RaplDomain.dram.eventName j')) :
    sampleLoop data st interval (fuel + 1) l = sampleLoop data st interval fuel
      (storeBlock st interval (storeBlock st interval l.read .package).read .dram) := by
  have first := sampleBlock_package interval hn (by omega) (by omega) named
  have second := @sampleBlock_named data st interval .dram .dram j'
    (storeBlock st interval l.read .package) hn inside room named'
  rw [if_pos rfl] at second
  exact sampleLoop_turn fuel more first second

/-- A package that comes next is left for the next turn. -/
theorem sampleLoop_package_package (interval : Rat) (fuel : Nat) (hn : st.numSockets ≤ maxSockets)
    (more : l.i < data.numEvents) (inside : l.i + st.numSockets < maxEventsNumber)
    (room : l.i + st.numSockets + st.numSockets ≤ maxEventsNumber)
    (named : data.events l.i = some (RaplDomain.package.eventName j))
    (named' : data.events (l.i + st.numSockets) = some (RaplDomain.package.eventName j')) :
    sampleLoop data st interval (fuel + 1) l = sampleLoop data st interval fuel
      (storeBlock st interval l.read .package).read := by
  have first := sampleBlock_package interval hn (by omega) (by omega) named
  have second := @sampleBlock_named data st interval .dram .package j'
    (storeBlock st interval l.read .package) hn inside room named'
  rw [if_neg (by decide)] at second
  exact sampleLoop_turn fuel more first second

end

/-- A turn of the loop on a table of blocks `ds`: it stores those of `stored`, one after the other,
reads names of the table only, and goes on with the blocks `left`. -/
structure LoopTurn (data : PluginMetrics) (st : RaplState) (interval : Rat) (ds : List RaplDomain)
    (l : RaplLoop) (stored left : List RaplDomain) (l' : RaplLoop) : Prop where
  run : ∀ fuel, sampleLoop data st interval (fuel + 1) l = sampleLoop data st interval fuel l'
  blocks : ds = stored ++ left
  some : stored ≠ []
  position : l'.i = l.i + st.numSockets * stored.length
  values : l'.values = (storeBlocks st interval l stored).values
  before : l'.before = (storeBlocks st interval l stored).before
  writes : l'.writes = l.writes ++ List.range' l.i (st.numSockets * stored.length)
  reads : ∃ reads, l'.reads = l.reads ++ reads ∧ ∀ k ∈ reads, k < data.numEvents
  layout : Layout data.events st.numSockets left l'.i
  last : left.getLastD .dram = ds.getLastD .dram

namespace LoopTurn

variable {data : PluginMetrics} {st : RaplState} {interval : Rat} {ds stored left : List RaplDomain}
  {l l' : RaplLoop}

theorem length (h : LoopTurn data st interval ds l stored left l') :
    ds.length = stored.length + left.length := by rw [h.blocks, List.length_append]

theorem shorter (h : LoopTurn data st interval ds l stored left l') : left.length < ds.length := by
  have := List.length_pos_iff.mpr h.some
  have := h.length
  omega

/-- The table ends with the blocks that are left. -/
theorem total (h : LoopTurn data st interval ds l stored left l')
    (total : data.numEvents = l.i + st.numSockets * ds.length) :
    data.numEvents = l'.i + st.numSockets * left.length := by
  rw [total, h.position, h.length, Nat.mul_add, Nat.add_assoc]

end LoopTurn

/-- Every turn is of this kind, except on a package that comes last. -/
theorem exists_turn {data : PluginMetrics} {st : RaplState} (interval : Rat)
    (hpos : 0 < st.numSockets) (hn : st.numSockets ≤ maxSockets)
    (room : data.numEvents ≤ maxEventsNumber) {ds : List RaplDomain} (some : ds ≠ [])
    (several : ds ≠ [.package]) {l : RaplLoop} (layout : Layout data.events st.numSockets ds l.i)
    (total : data.numEvents = l.i + st.numSockets * ds.length) :
    ∃ stored left l', LoopTurn data st interval ds l stored left l' := by
  obtain ⟨d, ds, rfl⟩ := List.exists_cons_of_ne_nil some
  obtain ⟨head, rest⟩ := layout
  rw [List.length_cons, Nat.mul_succ] at total
  have named := head 0 hpos
  rw [Nat.add_zero] at named
  have more : l.i < data.numEvents := by omega
  -- the package block comes first in the body, so a package may take a second kind along
  cases d with
  | dram =>
      refine ⟨[.dram], ds, storeBlock st interval l.read.read .dram, ?_⟩
      exact {
        run := fun fuel => sampleLoop_dram interval fuel hn more (by omega) (by omega) named
        blocks := rfl
        some := List.cons_ne_nil _ _
        position := congrArg (l.i + ·) (Nat.mul_one _).symm
        values := rfl
        before := rfl
        writes := by rw [storeBlock_writes, List.length_singleton, Nat.mul_one]; rfl
        reads := ⟨[l.i, l.i], List.append_assoc _ _ _, by simp [more]⟩
        layout := rest
        last := List.getLastD_cons.symm }
  | package =>
      obtain ⟨d', ds, rfl⟩ := List.exists_cons_of_ne_nil fun none => several (none ▸ rfl)
      obtain ⟨head', rest'⟩ := rest
      have named' := head' 0 hpos
      rw [Nat.add_zero] at named'
      rw [List.length_cons, Nat.mul_succ] at total
      have next : l.i + st.numSockets < data.numEvents := by omega
      have seen : ∀ k ∈ [l.i, l.i + st.numSockets], k < data.numEvents := by simp [more, next]
      have first := storeBlock_writes st interval l.read .package
      cases d' with
      | dram =>
          refine ⟨[.package, .dram], ds, storeBlock st interval
            (storeBlock st interval l.read .package).read .dram, ?_⟩
          have twice : st.numSockets * [RaplDomain.package, .dram].length =
              st.numSockets + st.numSockets := Nat.mul_two _
          exact {
            run := fun fuel => sampleLoop_package_dram interval fuel hn more (by omega) (by omega)
              named named'
            blocks := rfl
            some := List.cons_ne_nil _ _
            position := by rw [twice, ← Nat.add_assoc]; rfl
            values := rfl
            before := rfl
            writes := by
              rw [twice, storeBlock_writes, ← List.range'_append_1, ← List.append_assoc]
              exact congrArg (· ++ _) first
            reads := ⟨_, List.append_assoc _ _ _, seen⟩
            layout := rest'
            last := by rw [List.getLastD_cons, List.getLastD_cons] }
      | package =>
          refine ⟨[.package], .package :: ds, (storeBlock st interval l.read .package).read, ?_⟩
          exact {
            run := fun fuel =>
              sampleLoop_package_package interval fuel hn more (by omega) (by omega) named named'
            blocks := rfl
            some := List.cons_ne_nil _ _
            position := congrArg (l.i + ·) (Nat.mul_one _).symm
            values := rfl
            before := rfl
            writes := by
              rw [List.length_singleton, Nat.mul_one]
              exact first
            reads := ⟨_, List.append_assoc _ _ _, seen⟩
            layout := ⟨head', rest'⟩
            last := by rw [List.getLastD_cons, List.getLastD_cons, List.getLastD_cons] }

/-- The loop stores a block for each kind, and perhaps more that the table does not have. -/
def LoopStores (data : PluginMetrics) (st : RaplState) (interval : Rat) (fuel : Nat) (l : RaplLoop)
    (ds : List RaplDomain) : Prop :=
  ∃ extra l', sampleLoop data st interval fuel l = .ok (some l') ∧
    l'.values = (storeBlocks st interval l (ds ++ extra)).values ∧
    l'.before = (storeBlocks st interval l (ds ++ extra)).before

/-- A turn that stores some kinds, before a loop that stores the others. -/
theorem LoopStores.turn {data : PluginMetrics} {st : RaplState} {interval : Rat} {fuel : Nat}
    {l l' : RaplLoop} {ds stored left : List RaplDomain}
    (rest : LoopStores data st interval fuel l' left)
    (turn : LoopTurn data st interval ds l stored left l') :
    LoopStores data st interval (fuel + 1) l ds := by
  obtain ⟨extra, last, hrun, values, before⟩ := rest
  have position : l'.i = (storeBlocks st interval l stored).i := by
    rw [turn.position, storeBlocks_i]
  have same := storeBlocks_congr st interval l' (storeBlocks st interval l stored) (left ++ extra)
    position turn.values turn.before
  have split : storeBlocks st interval l (ds ++ extra) =
      storeBlocks st interval (storeBlocks st interval l stored) (left ++ extra) := by
    rw [turn.blocks, List.append_assoc]
    exact List.foldl_append
  refine ⟨extra, last, ?_, ?_, ?_⟩
  · rw [turn.run, hrun]
  · rw [split, values, same.1]
  · rw [split, before, same.2]

/-- The last kind is the package: the second block of its turn reads one entry too far, and stores
what happens to be there. -/
theorem loopStores_last_package {data : PluginMetrics} {st : RaplState} {interval : Rat}
    {l : RaplLoop} (fuel : Nat) (hn : st.numSockets ≤ maxSockets)
    (room : data.numEvents + st.numSockets < maxEventsNumber) (more : l.i < data.numEvents)
    (total : data.numEvents = l.i + st.numSockets)
    (first : sampleBlock data st interval .package l =
      .ok (storeBlock st interval l.read .package)) :
    LoopStores data st interval (fuel + 2) l [.package] := by
  have index : (storeBlock st interval l.read .package).i = l.i + st.numSockets := rfl
  have read : sampleBlock data st interval .dram (storeBlock st interval l.read .package) =
        .ok (storeBlock st interval l.read .package).read ∨
      sampleBlock data st interval .dram (storeBlock st interval l.read .package) =
        .ok (storeBlock st interval (storeBlock st interval l.read .package).read .dram) := by
    rw [sampleBlock_eq interval .dram hn (by omega) (by omega)]
    cases data.events (storeBlock st interval l.read .package).i with
    | none => exact Or.inl rfl
    | some name =>
        by_cases garbage : hasSubstr name RaplDomain.dram.metric = true
        · exact Or.inr (if_pos garbage)
        · exact Or.inl (if_neg garbage)
  rcases read with second | second
  · refine ⟨[], (storeBlock st interval l.read .package).read, ?_, rfl, rfl⟩
    rw [sampleLoop_turn _ more first second]
    apply sampleLoop_done
    simp only [storeBlock_i, RaplLoop.read_i]
    omega
  · refine ⟨[.dram], storeBlock st interval (storeBlock st interval l.read .package).read .dram, ?_,
      rfl, rfl⟩
    rw [sampleLoop_turn _ more first second]
    apply sampleLoop_done
    simp only [storeBlock_i, RaplLoop.read_i]
    omega

/-- The loop stores the blocks that are left, and at the end of a table whose last kind is the
package it may store one more: the table is read one entry too far. -/
theorem sampleLoop_blocks {data : PluginMetrics} {st : RaplState} (interval : Rat)
    (hpos : 0 < st.numSockets) (hn : st.numSockets ≤ maxSockets)
    (room : data.numEvents + st.numSockets < maxEventsNumber) (fuel : Nat)
    (ds : List RaplDomain) (l : RaplLoop) (hfuel : ds.length < fuel)
    (layout : Layout data.events st.numSockets ds l.i)
    (total : data.numEvents = l.i + st.numSockets * ds.length) :
    LoopStores data st interval fuel l ds := by
  induction fuel generalizing ds l with
  | zero => omega
  | succ fuel ih =>
      by_cases done : ds = []
      · subst done
        exact ⟨[], l, sampleLoop_done fuel total.le, rfl, rfl⟩
      by_cases behind : ds = [.package]
      · subst behind
        rw [List.length_singleton] at hfuel
        obtain ⟨fuel, rfl⟩ := Nat.exists_eq_succ_of_ne_zero (by omega : fuel ≠ 0)
        have named := layout.1 0 hpos
        rw [List.length_singleton, Nat.mul_one] at total
        have first := sampleBlock_package interval hn (by omega) (by omega) named
        exact loopStores_last_package fuel hn room (by omega) total first
      · obtain ⟨stored, left, l', turn⟩ :=
          exists_turn interval hpos hn (by omega) done behind layout total
        have := turn.shorter
        exact (ih left l' (by omega) turn.layout (turn.total total)).turn turn

/-! ## The values of one sample -/

theorem storeBlocks_values_frame (st : RaplState) (interval : Rat) (ds : List RaplDomain)
    (l : RaplLoop) {k : Nat} (hk : k < l.i) :
    (storeBlocks st interval l ds).values k = l.values k := by
  induction ds generalizing l with
  | nil => rfl
  | cons d ds ih =>
      have outside : ¬ (l.i ≤ k ∧ k < l.i + st.numSockets) := by omega
      have rest := ih (storeBlock st interval l d) (by rw [storeBlock_i]; omega)
      rw [show storeBlocks st interval l (d :: ds) =
        storeBlocks st interval (storeBlock st interval l d) ds from rfl, rest]
      simp only [storeBlock, if_neg outside]

theorem storeBlocks_before (st : RaplState) (interval : Rat) (ds : List RaplDomain)
    (l : RaplLoop) (d : RaplDomain) {j : Nat} (hj : j < st.numSockets) :
    (storeBlocks st interval l ds).before d j =
      if d ∈ ds then st.after d j else l.before d j := by
  induction ds generalizing l with
  | nil => simp [storeBlocks]
  | cons d' ds ih =>
      rw [show storeBlocks st interval l (d' :: ds) =
        storeBlocks st interval (storeBlock st interval l d') ds from rfl, ih]
      by_cases later : d ∈ ds
      · rw [if_pos later, if_pos (List.mem_cons_of_mem _ later)]
      · rw [if_neg later]
        by_cases now : d = d' <;> simp [storeBlock, now, later, hj]

/-- With each kind in one block only, an entry holds the difference of its own energies. -/
theorem storeBlocks_values {events : Nat → Option CText} (st : RaplState) (interval : Rat)
    {ds : List RaplDomain} (extra : List RaplDomain) {l : RaplLoop} (hnodup : ds.Nodup)
    (layout : Layout events st.numSockets ds l.i) {k : Nat} (low : l.i ≤ k)
    (high : k < l.i + st.numSockets * ds.length) {d : RaplDomain} {j : Nat}
    (named : events k = some (d.eventName j)) :
    (storeBlocks st interval l (ds ++ extra)).values k =
      (st.after d j - l.before d j) / interval := by
  induction ds generalizing l with
  | nil =>
      rw [List.length_nil, Nat.mul_zero] at high
      omega
  | cons d' ds ih =>
      obtain ⟨head, rest⟩ := layout
      obtain ⟨notLater, hnodup⟩ := List.nodup_cons.mp hnodup
      rw [List.length_cons, Nat.mul_succ] at high
      rw [show storeBlocks st interval l (d' :: ds ++ extra) =
        storeBlocks st interval (storeBlock st interval l d') (ds ++ extra) from rfl]
      by_cases inside : k < l.i + st.numSockets
      · have here := head (k - l.i) (by omega)
        rw [Nat.add_sub_cancel' low, named, Option.some.injEq] at here
        obtain ⟨rfl, rfl⟩ := RaplDomain.eventName_inj here
        rw [storeBlocks_values_frame _ _ _ _ (by rw [storeBlock_i]; exact inside)]
        simp only [storeBlock]
        rw [if_pos ⟨low, inside⟩]
      · obtain ⟨d₁, member, j₁, hj₁, found⟩ := layout_name rest (by omega) (by omega : k < _)
        rw [named, Option.some.injEq] at found
        obtain ⟨rfl, rfl⟩ := RaplDomain.eventName_inj found
        have other : d ≠ d' := fun e => notLater (e ▸ member)
        rw [ih hnodup rest (by rw [storeBlock_i]; omega) (by rw [storeBlock_i]; omega)]
        simp [storeBlock, other]

/-! ## Runs -/

/-- The energy that a reading finds used by a socket, in millijoule. -/
def intervalEnergy (denominator : Rat) (r : RaplReading) (d : RaplDomain) (j : Nat) : Rat :=
  (r.used (d.slot j) : Rat) / 10 ^ 6 / match d with
    | .package => 1
    | .dram => denominator

/-- What holds between two samples: the counters stand at zero, the table has its blocks, and
`before` holds the energy of the last reading. -/
structure Metering (ds : List RaplDomain) (n : Nat) (denominator : Rat) (r : RaplReading)
    (data : PluginMetrics) (st : RaplState) : Prop where
  available : st.raplIsAvailable = true
  sockets : st.numSockets = n
  scale : st.denominator = denominator
  cleared : st.counters = fun _ => 0
  time : st.beforeTime = r.clock
  layout : Layout data.events n ds 0
  total : data.numEvents = n * ds.length
  before : ∀ d ∈ ds, ∀ j < n, st.before d j = intervalEnergy denominator r d j

theorem nodup_domains_length {ds : List RaplDomain} (h : ds.Nodup) : ds.length ≤ 2 := by
  match ds, h with
  | [], _ => exact Nat.zero_le 2
  | [_], _ => exact Nat.le_succ 1
  | [_, _], _ => exact Nat.le_refl 2
  | a :: b :: c :: ds, h => cases a <;> cases b <;> cases c <;> simp at h

/-- The state between the read of the counters and the sampling loop. -/
structure Refreshed (st : RaplState) (r : RaplReading) (st₁ : RaplState) : Prop where
  available : st₁.raplIsAvailable = st.raplIsAvailable
  sockets : st₁.numSockets = st.numSockets
  scale : st₁.denominator = st.denominator
  cleared : st₁.counters = fun _ => 0
  beforeTime : st₁.beforeTime = st.beforeTime
  afterTime : st₁.afterTime = r.clock
  before : st₁.before = st.before
  after : ∀ d, ∀ j < st.numSockets, st₁.after d j = intervalEnergy st.denominator r d j

theorem sampleRead_refreshed {st : RaplState} {r : RaplReading}
    (havailable : st.raplIsAvailable = true) (hsockets : st.numSockets ≤ maxSockets)
    (hcleared : st.counters = fun _ => 0) (hread : r.readOk = true) :
    ∃ st₁, sampleRead r { st with afterTime := r.clock } = .ok st₁ ∧ Refreshed st r st₁ := by
  unfold sampleRead raplStatRead
  simp only [havailable, hread, RaplState.consume, hsockets, if_true]
  refine ⟨_, rfl, havailable.symm, rfl, rfl, rfl, rfl, rfl, rfl, ?_⟩
  intro d j hj
  simp only [if_pos hj, hcleared, Nat.zero_add]
  cases d <;> rfl

/-- One sample: each entry holds the difference of the last two intervals' energies over the
length of the interval. -/
theorem sample_metering {ds : List RaplDomain} (hnodup : ds.Nodup) {n : Nat} (hpos : 0 < n)
    (hn : n ≤ maxSockets) {denominator : Rat} {r₀ r : RaplReading} {data : PluginMetrics}
    {st : RaplState} (h : Metering ds n denominator r₀ data st) (hread : r.readOk = true) :
    ∃ data' st', mfRAPLPowerSample data r st = .ok (some (1, data', st')) ∧
      data'.events = data.events ∧ Metering ds n denominator r data' st' ∧
      ∀ k < data.numEvents, ∀ d j, data.events k = some (d.eventName j) →
        data'.values k = (intervalEnergy denominator r d j - intervalEnergy denominator r₀ d j) /
          (r.clock - r₀.clock) := by
  obtain ⟨havailable, rfl, rfl, hcleared, htime, layout, total, hbefore⟩ := h
  obtain ⟨st₁, hrefresh, fresh⟩ := sampleRead_refreshed havailable hn hcleared hread
  have short := nodup_domains_length hnodup
  have room : data.numEvents + st₁.numSockets < maxEventsNumber := by
    have := Nat.mul_le_mul hn short
    rw [total, fresh.sockets]
    unfold maxSockets at this hn
    unfold maxEventsNumber
    omega
  have fuel : ds.length < data.numEvents + 1 := by
    have := Nat.le_mul_of_pos_left ds.length hpos
    omega
  rw [← fresh.sockets] at hpos hn layout total
  have start : data.numEvents = 0 + st₁.numSockets * ds.length := by rw [Nat.zero_add, total]
  obtain ⟨extra, l, hrun, hvalues, hstored⟩ :=
    sampleLoop_blocks (st₁.afterTime - st₁.beforeTime) hpos hn room (data.numEvents + 1) ds
      ⟨0, data.values, st₁.before, [], []⟩ fuel layout start
  refine ⟨{ data with values := l.values },
    { st₁ with before := l.before, beforeTime := st₁.afterTime }, ?_, rfl, ?_, ?_⟩
  · unfold mfRAPLPowerSample
    rw [hrefresh]
    simp only [bind, Except.bind, hrun]
    rfl
  · refine ⟨fresh.available.trans havailable, fresh.sockets, fresh.scale, fresh.cleared,
      fresh.afterTime, ?_, ?_, ?_⟩
    · rw [← fresh.sockets]
      exact layout
    · rw [← fresh.sockets]
      exact total
    · intro d member j hj
      rw [← fresh.after d j hj]
      simp only [hstored]
      rw [← fresh.sockets] at hj
      rw [storeBlocks_before _ _ _ _ _ hj, if_pos (List.mem_append_left _ member)]
  · intro k hk d j named
    have inside : k < 0 + st₁.numSockets * ds.length := by omega
    obtain ⟨d', member, j', hj, found⟩ := layout_name layout (Nat.zero_le k) inside
    rw [named, Option.some.injEq] at found
    obtain ⟨rfl, rfl⟩ := RaplDomain.eventName_inj found
    simp only [hvalues]
    rw [storeBlocks_values st₁ _ extra (l := ⟨0, data.values, st₁.before, [], []⟩) hnodup
      layout (Nat.zero_le k) inside named]
    rw [fresh.sockets] at hj
    simp only [fresh.before, fresh.after d j hj, hbefore d member j hj, fresh.afterTime,
      fresh.beforeTime, htime]

/-- The sample accounts for the energy used since the reading before it: value times interval. -/
def SampleAccounts (denominator : Rat) (prev r : RaplReading) (data : PluginMetrics) : Prop :=
  ∀ k < data.numEvents, ∀ d j, data.events k = some (RaplDomain.eventName d j) →
    data.values k * (r.clock - prev.clock) = intervalEnergy denominator r d j

/-- Every sample of a run accounts for its interval. -/
def RunAccounts (denominator : Rat) :
    RaplReading → List RaplReading → List (PluginMetrics × RaplState) → Prop
  | _, [], [] => True
  | prev, r :: rs, out :: outs =>
      SampleAccounts denominator prev r out.1 ∧ RunAccounts denominator r rs outs
  | _, _, _ => False

theorem raplGetDenominator_ne (host : RaplHost) : raplGetDenominator host ≠ 0 := by
  unfold raplGetDenominator
  split <;> norm_num

theorem intervalEnergy_eq_zero {denominator : Rat} (hden : denominator ≠ 0) {r : RaplReading}
    {d : RaplDomain} {j : Nat} :
    intervalEnergy denominator r d j = 0 ↔ r.used (d.slot j) = 0 := by
  cases d <;> simp [intervalEnergy, hden]

/-- A sample accounts for its interval exactly when the interval before it used nothing. -/
theorem sampleAccounts_iff {ds : List RaplDomain} {n : Nat} {denominator : Rat}
    (hden : denominator ≠ 0) {r₀ r : RaplReading} {data data' : PluginMetrics}
    (layout : Layout data.events n ds 0) (total : data.numEvents = n * ds.length)
    (hevents : data'.events = data.events) (htotal : data'.numEvents = n * ds.length)
    (htime : r₀.clock < r.clock)
    (hvalues : ∀ k < data.numEvents, ∀ d j, data.events k = some (RaplDomain.eventName d j) →
      data'.values k = (intervalEnergy denominator r d j - intervalEnergy denominator r₀ d j) /
        (r.clock - r₀.clock)) :
    SampleAccounts denominator r₀ r data' ↔
      ∀ d ∈ ds, ∀ j < n, r₀.used (d.slot j) = 0 := by
  have elapsed : r.clock - r₀.clock ≠ 0 := by
    have := sub_pos.mpr htime
    exact ne_of_gt this
  have scaled : ∀ k < data.numEvents, ∀ d j, data.events k = some (RaplDomain.eventName d j) →
      data'.values k * (r.clock - r₀.clock) =
        intervalEnergy denominator r d j - intervalEnergy denominator r₀ d j := by
    intro k hk d j named
    rw [hvalues k hk d j named, div_mul_cancel₀ _ elapsed]
  constructor
  · intro accounts d member j hj
    obtain ⟨k, -, high, named⟩ := layout_index layout member hj
    rw [Nat.zero_add] at high
    have reported := accounts k (by rw [htotal]; exact high) d j (by rw [hevents]; exact named)
    rw [scaled k (by rw [total]; exact high) d j named, sub_eq_self] at reported
    exact (intervalEnergy_eq_zero hden).mp reported
  · intro unused k hk d j named
    rw [htotal] at hk
    rw [hevents] at named
    obtain ⟨d', member, j', hj, found⟩ := layout_name layout (Nat.zero_le k) (by omega)
    rw [named, Option.some.injEq] at found
    obtain ⟨rfl, rfl⟩ := RaplDomain.eventName_inj found
    rw [scaled k (by rw [total]; exact hk) d j named,
      (intervalEnergy_eq_zero hden).mpr (unused d member j hj), sub_zero]

theorem raplRun_metering {ds : List RaplDomain} (hnodup : ds.Nodup) {n : Nat} (hpos : 0 < n)
    (hn : n ≤ maxSockets) {denominator : Rat} (hden : denominator ≠ 0) {r₀ : RaplReading}
    {rs : List RaplReading} {data : PluginMetrics} {st : RaplState}
    (h : Metering ds n denominator r₀ data st) (hread : ∀ r ∈ rs, r.readOk = true)
    (htime : (r₀ :: rs).IsChain (fun a b => a.clock < b.clock)) :
    ∃ outs, raplRun data st rs = .ok (some outs) ∧
      (RunAccounts denominator r₀ rs outs ↔
        ∀ r ∈ (r₀ :: rs).dropLast, ∀ d ∈ ds, ∀ j < n, r.used (d.slot j) = 0) := by
  induction rs generalizing r₀ data st with
  | nil => exact ⟨[], rfl, by simp [RunAccounts]⟩
  | cons r rs ih =>
      obtain ⟨later, htime⟩ := List.isChain_cons_cons.mp htime
      obtain ⟨data', st', hsample, hevents, metering, hvalues⟩ :=
        sample_metering hnodup hpos hn h (hread r List.mem_cons_self)
      obtain ⟨outs, hrun, rest⟩ :=
        ih metering (fun r' member => hread r' (List.mem_cons_of_mem _ member)) htime
      refine ⟨(data', st') :: outs, ?_, ?_⟩
      · unfold raplRun
        rw [hsample]
        simp only [bind, Except.bind, hrun]
        rfl
      · have first := sampleAccounts_iff hden h.layout h.total hevents metering.total later hvalues
        rw [RunAccounts, first, rest, List.dropLast_cons_cons, List.forall_mem_cons]

/-- A successful `rapl_init` has filled the table and started the counters. -/
theorem raplInit_started {host : RaplHost} {data₀ data : PluginMetrics} {ds : List RaplDomain}
    {st₀ st : RaplState} (hnodup : ds.Nodup) (hn : hardwareSocketsCount host ≤ maxSockets)
    (hinit : raplInit host data₀ (ds.map RaplDomain.metric) st₀ = .ok (true, data, st)) :
    0 < hardwareSocketsCount host ∧
      data = { nameBlocks (hardwareSocketsCount host) ds 0 data₀ with
        numEvents := 0 + hardwareSocketsCount host * ds.length } ∧
      st = { st₀ with
        numSockets := hardwareSocketsCount host
        denominator := raplGetDenominator host
        counters := fun _ => 0 } := by
  have room : 0 + hardwareSocketsCount host * ds.length ≤ maxEventsNumber := by
    have := Nat.mul_le_mul hn (nodup_domains_length hnodup)
    unfold maxSockets at this
    unfold maxEventsNumber
    omega
  unfold raplInit at hinit
  by_cases missing : host.papiLoaded = false ∨ checkRaplComponent host.components = false
  · rw [if_pos missing] at hinit
    cases hinit
  rw [if_neg missing] at hinit
  by_cases unset : hardwareSocketsCount host = 0 ∨ host.eventSetOk = false
  · simp [unset] at hinit
  simp only [unset, if_false, nameRequests_eq ds data₀ hn room, bind, Except.bind] at hinit
  by_cases started : host.startOk = true
  · rw [if_pos started] at hinit
    cases hinit
    exact ⟨Nat.pos_of_ne_zero (fun e => unset (Or.inl e)), rfl, rfl⟩
  · rw [if_neg started] at hinit
    cases hinit

theorem raplInit_metering {host : RaplHost} {data₀ data : PluginMetrics} {ds : List RaplDomain}
    {r₀ : RaplReading} {st₀ st : RaplState} (hnodup : ds.Nodup)
    (hn : hardwareSocketsCount host ≤ maxSockets) (hread : r₀.readOk = true)
    (hinit : mfRAPLPowerInit host data₀ (ds.map RaplDomain.metric) r₀ st₀ = .ok (1, data, st)) :
    0 < hardwareSocketsCount host ∧
      Metering ds (hardwareSocketsCount host) (raplGetDenominator host) r₀ data st := by
  unfold mfRAPLPowerInit at hinit
  obtain ⟨⟨available, data₁, st₁⟩, hrapl, hrest⟩ := Fault.bind_eq_ok.mp hinit
  by_cases failed : available = false ∨ data₁.numEvents = 0
  · simp only [if_pos failed] at hrest
    cases hrest
  simp only [if_neg failed] at hrest
  obtain rfl : available = true := by simpa using fun e => failed (Or.inl e)
  obtain ⟨hpos, rfl, rfl⟩ := raplInit_started hnodup hn hrapl
  refine ⟨hpos, ?_⟩
  simp only [raplStatRead, RaplState.consume, hread, hn, if_true, bind, Except.bind] at hrest
  cases hrest
  refine ⟨rfl, rfl, rfl, rfl, rfl, nameBlocks_layout _ _ _ _, Nat.zero_add _, ?_⟩
  intro d member j hj
  simp only [if_pos hj, Nat.zero_add]
  cases d <;> rfl

/-- Every sample of a run accounts for the energy of its own interval exactly when no interval
before the last one used any of the requested energies. -/
theorem raplRun_accounts_iff {host : RaplHost} {data₀ data : PluginMetrics}
    {ds : List RaplDomain} {r₀ : RaplReading} {rs : List RaplReading} {st₀ st : RaplState}
    (hnodup : ds.Nodup) (hn : hardwareSocketsCount host ≤ maxSockets)
    (hinit : mfRAPLPowerInit host data₀ (ds.map RaplDomain.metric) r₀ st₀ = .ok (1, data, st))
    (hread : ∀ r ∈ r₀ :: rs, r.readOk = true)
    (htime : (r₀ :: rs).IsChain (fun a b => a.clock < b.clock)) :
    ∃ outs, raplRun data st rs = .ok (some outs) ∧
      (RunAccounts (raplGetDenominator host) r₀ rs outs ↔
        ∀ r ∈ (r₀ :: rs).dropLast, ∀ d ∈ ds, ∀ j < hardwareSocketsCount host,
          r.used (d.slot j) = 0) := by
  obtain ⟨hpos, metering⟩ := raplInit_metering hnodup hn (hread r₀ List.mem_cons_self) hinit
  exact raplRun_metering hnodup hpos hn (raplGetDenominator_ne host) metering
    (fun r member => hread r (List.mem_cons_of_mem _ member)) htime

/-- One package on a machine with a working PAPI. -/
def oneSocketHost : RaplHost where
  papiLoaded := true
  components := [("perf_event".toList, false), ("rapl".toList, false)]
  sockets := some 1
  eventSetOk := true
  cpuidEax := 0x306F2
  startOk := true

/-- A reading at the given second with the same energy in every slot. -/
def evenReading (energy second : Nat) : RaplReading := ⟨fun _ => energy, true, second⟩

theorem oneSocketHost_init (r : RaplReading) (hread : r.readOk = true) (data₀ : PluginMetrics)
    (st₀ : RaplState) :
    ∃ data st, mfRAPLPowerInit oneSocketHost data₀ ([RaplDomain.package].map RaplDomain.metric)
      r st₀ = .ok (1, data, st) := by
  have checks : ¬ (oneSocketHost.papiLoaded = false ∨
      checkRaplComponent oneSocketHost.components = false) := by decide +kernel
  have sockets : hardwareSocketsCount oneSocketHost = 1 := rfl
  have named := nameRequests_eq (n := 1) [.package] data₀ (by decide)
    (by decide : 0 + 1 * [RaplDomain.package].length ≤ maxEventsNumber)
  unfold mfRAPLPowerInit raplInit
  rw [if_neg checks]
  simp only [sockets, named, raplStatRead, RaplState.consume, hread]
  exact ⟨_, _, rfl⟩

/-- The file's variables before `mf_RAPL_power_init`. -/
def blankRapl : RaplState := ⟨0, 0, 0, 1, false, fun _ _ => 0, fun _ _ => 0, fun _ => 0⟩

/-- Energy used in the last interval only is accounted for. -/
theorem raplRun_accounts_iff_late :
    ∃ data st outs, mfRAPLPowerInit oneSocketHost .blank
        ([RaplDomain.package].map RaplDomain.metric) (evenReading 0 1) blankRapl =
          .ok (1, data, st) ∧
      raplRun data st [evenReading 0 2, evenReading 7000000 3] = .ok (some outs) ∧
      RunAccounts (raplGetDenominator oneSocketHost) (evenReading 0 1)
        [evenReading 0 2, evenReading 7000000 3] outs := by
  obtain ⟨data, st, hinit⟩ := oneSocketHost_init (evenReading 0 1) rfl .blank blankRapl
  have ordered : [evenReading 0 1, evenReading 0 2, evenReading 7000000 3].IsChain
      (fun a b => a.clock < b.clock) := by
    norm_num [evenReading]
  obtain ⟨outs, hrun, accounts⟩ := raplRun_accounts_iff (by decide) (by decide) hinit
    (by simp [evenReading]) ordered
  exact ⟨data, st, outs, hinit, hrun, accounts.mpr (by simp [evenReading])⟩

/-- Under a steady load of one millijoule a second the samples report no power at all. -/
theorem raplRun_steady_load :
    ¬ ∀ (host : RaplHost) (data₀ data : PluginMetrics) (ds : List RaplDomain) (r₀ : RaplReading)
      (rs : List RaplReading) (st₀ st : RaplState) (outs : List (PluginMetrics × RaplState)),
      ds.Nodup → hardwareSocketsCount host ≤ maxSockets →
      mfRAPLPowerInit host data₀ (ds.map RaplDomain.metric) r₀ st₀ = .ok (1, data, st) →
      (∀ r ∈ r₀ :: rs, r.readOk = true) →
      (r₀ :: rs).IsChain (fun a b => a.clock < b.clock) →
      raplRun data st rs = .ok (some outs) →
      RunAccounts (raplGetDenominator host) r₀ rs outs := by
  intro claim
  obtain ⟨data, st, hinit⟩ := oneSocketHost_init (evenReading 1000000 1) rfl .blank blankRapl
  have ordered : [evenReading 1000000 1, evenReading 1000000 2, evenReading 1000000 3].IsChain
      (fun a b => a.clock < b.clock) := by
    norm_num [evenReading]
  have nodup : [RaplDomain.package].Nodup := by decide
  have sockets : hardwareSocketsCount oneSocketHost ≤ maxSockets := by decide
  obtain ⟨hpos, metering⟩ := raplInit_metering nodup sockets rfl hinit
  obtain ⟨outs, hrun, accounts⟩ := raplRun_metering nodup hpos sockets
    (raplGetDenominator_ne _) metering (by simp [evenReading]) ordered
  have unused := accounts.mp
    (claim _ _ _ _ _ _ _ _ outs nodup sockets hinit (by simp [evenReading]) ordered hrun)
  exact absurd (unused _ List.mem_cons_self .package List.mem_cons_self 0 hpos)
    (by simp [evenReading])

end PhantomMonitor
