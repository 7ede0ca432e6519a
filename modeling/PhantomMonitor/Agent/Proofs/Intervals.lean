import PhantomMonitor.Agent.Timings
import PhantomMonitor.Parser.Proofs.ConfigStore

/-!
# Which sampling intervals take effect

What a sequence of `init_timings` calls leaves in `timings` and `sleep_tims`. A call writes the
sleeping time of a plugin only from a value of its own, so the time of a plugin that falls back to
the default is the one of an earlier call.
-/

namespace PhantomMonitor

open CText

variable {H : HashTable CText}

/-! ## The configured intervals -/

/-- The text of a timing: a number that is not negative, short enough for the buffer. -/
structure TimingText (text : CText) : Prop where
  noNul : nul ∉ text
  ne_nil : text ≠ []
  fits : text.length < timingSize
  nonneg : 0 ≤ strtol text

/-- The timings of the configuration are such texts, for the default and for every plugin. -/
structure TimingsValid (plugins : LoadedPlugins) (st : ParserState H) : Prop where
  default : ∀ text, st.value "timings".toList "default".toList = some text → TimingText text
  own : ∀ name, some name ∈ plugins.names →
    ∀ text, st.value "timings".toList name = some text → TimingText text

/-- The plugin's own timing, if it has one. -/
def ownTiming (st : ParserState H) (name : CText) : Option Int :=
  (st.value "timings".toList name).map strtol

/-- The timing of the plugins without one of their own; 0 when it is not configured. -/
def defaultTiming (st : ParserState H) : Int :=
  ((st.value "timings".toList "default".toList).map strtol).getD 0

/-- A sleeping time of so many nanoseconds, in normal form. -/
structure Timespec.Encodes (ts : Timespec) (timing : Int) : Prop where
  sum : ts.tvSec * nsecPerSec + ts.tvNsec = timing
  nsec_nonneg : 0 ≤ ts.tvNsec
  nsec_lt : ts.tvNsec < nsecPerSec

/-- The configured timing of a plugin is in `timings` and `sleep_tims`. -/
structure InEffect (st : ParserState H) (t : Timings) (i : Nat) (name : CText) : Prop where
  timing : t.timings i = (ownTiming st name).getD (defaultTiming st)
  sleep : (t.sleepTims i).Encodes (t.timings i)

/-- Every decimal numeral of a `long` that is not negative is the text of a timing. -/
theorem timingText_toDigits {n : Nat} (h : (n : Int) ≤ longMax) :
    TimingText (Nat.toDigits 10 n) where
  noNul := notMem_toDigits n (by decide)
  ne_nil := Nat.toDigits_ne_nil
  fits := by
    have bound : n < 10 ^ 19 := by
      have : longMax < 10 ^ 19 := by decide
      omega
    have := (Nat.length_toDigits_le_iff (by decide) (by decide)).mpr bound
    exact Nat.lt_of_le_of_lt this (by decide)
  nonneg := by
    rw [strtol_toDigits h]
    exact Int.natCast_nonneg n

theorem toTimespec_encodes {timing : Int} (h : 0 ≤ timing) :
    (toTimespec timing).Encodes timing := by
  unfold toTimespec
  split
  · refine ⟨?_, ?_, ?_⟩
    · show timing / nsecPerSec * nsecPerSec + timing % nsecPerSec = timing
      rw [Int.mul_comm]
      exact Int.mul_ediv_add_emod timing nsecPerSec
    · exact Int.emod_nonneg timing (by decide)
    · exact Int.emod_lt_of_pos timing (by decide)
  · rename_i small
    refine ⟨?_, h, Int.not_le.mp small⟩
    show 0 * nsecPerSec + timing = timing
    rw [Int.zero_mul, Int.zero_add]

theorem Timespec.Encodes.unique {ts : Timespec} {timing timing' : Int} (h : ts.Encodes timing)
    (h' : ts.Encodes timing') : timing = timing' := by
  rw [← h.sum, h'.sum]

/-! ## One call -/

theorem readConfig_none {size : Nat} {st : ParserState H} {sect key : CText}
    (h : st.value sect key = none) : readConfig size st sect key = .ok [] := by
  unfold readConfig
  rw [mfpGetValue_eq, h]
  dsimp only
  rw [if_pos (Nat.le_of_eq List.length_replicate)]
  cases size with
  | zero => rfl
  | succ n => rfl

theorem readConfig_some {size : Nat} {st : ParserState H} {sect key text : CText}
    (h : st.value sect key = some text) (hfits : text.length < size) (hnul : nul ∉ text) :
    readConfig size st sect key = .ok text := by
  have hlength : (strcpy (List.replicate size nul) text).length ≤ size := by
    unfold strcpy
    rw [List.length_append, List.length_cons, List.length_drop, List.length_replicate]
    omega
  unfold readConfig
  rw [mfpGetValue_eq, h]
  dsimp only
  rw [if_pos hlength, cstr_strcpy hnul]

/-- What one call makes of the entry of a plugin. -/
def timingStep (st : ParserState H) (name : Option CText) (entry : Int × Timespec) :
    Int × Timespec :=
  match name with
  | none => entry
  | some name =>
      match ownTiming st name with
      | none => (defaultTiming st, entry.2)
      | some timing => (timing, toTimespec timing)

theorem timingStep_default {st : ParserState H} {name : CText} (h : ownTiming st name = none)
    (entry : Int × Timespec) : timingStep st (some name) entry = (defaultTiming st, entry.2) := by
  unfold timingStep
  dsimp only
  rw [h]

theorem timingStep_own {st : ParserState H} {name : CText} {timing : Int}
    (h : ownTiming st name = some timing) (entry : Int × Timespec) :
    timingStep st (some name) entry = (timing, toTimespec timing) := by
  unfold timingStep
  dsimp only
  rw [h]

theorem TimingsValid.own_nonneg {plugins : LoadedPlugins} {st : ParserState H}
    (h : TimingsValid plugins st) {name : CText} (hname : some name ∈ plugins.names) {timing : Int}
    (hown : ownTiming st name = some timing) : 0 ≤ timing := by
  obtain ⟨text, hvalue, rfl⟩ := Option.map_eq_some_iff.mp hown
  exact (h.own name hname text hvalue).nonneg

/-- The entry at an index. -/
def Timings.entry (t : Timings) (i : Nat) : Int × Timespec := (t.timings i, t.sleepTims i)

theorem initTiming_ok {st : ParserState H} {name : CText}
    (hvalid : ∀ text, st.value "timings".toList name = some text → TimingText text)
    (t : Timings) (i : Nat) :
    ∃ t', initTiming st (defaultTiming st) t i name = .ok t' ∧
      t'.entry i = timingStep st (some name) (t.entry i) ∧
      ∀ j, j ≠ i → t'.entry j = t.entry j := by
  unfold initTiming Timings.entry
  cases hvalue : st.value "timings".toList name with
  | none =>
      have hown : ownTiming st name = none := by rw [ownTiming, hvalue, Option.map_none]
      rw [readConfig_none hvalue, timingStep_default hown]
      refine ⟨_, rfl, ?_, ?_⟩
      · dsimp only
        rw [Function.update_self]
      · intro j other
        dsimp only
        rw [Function.update_of_ne other]
  | some text =>
      have valid := hvalid text hvalue
      have hown : ownTiming st name = some (strtol text) := by
        rw [ownTiming, hvalue, Option.map_some]
      rw [readConfig_some hvalue valid.fits valid.noNul, timingStep_own hown]
      refine ⟨_, if_neg valid.ne_nil, ?_, ?_⟩
      · dsimp only
        rw [Function.update_self, Function.update_self]
      · intro j other
        dsimp only
        rw [Function.update_of_ne other, Function.update_of_ne other]

/-- The loop changes the entries of its plugins and no other. -/
theorem initTimingsFrom_ok {st : ParserState H} (names : List (Option CText))
    (hvalid : ∀ name, some name ∈ names →
      ∀ text, st.value "timings".toList name = some text → TimingText text)
    (i : Nat) (t : Timings) :
    ∃ t', initTimingsFrom st (defaultTiming st) names i t = .ok t' ∧
      (∀ k name, names[k]? = some name → t'.entry (i + k) = timingStep st name (t.entry (i + k))) ∧
      ∀ j < i, t'.entry j = t.entry j := by
  induction names generalizing i t with
  | nil =>
      refine ⟨t, rfl, ?_, fun _ _ => rfl⟩
      intro k name h
      rw [List.getElem?_nil] at h
      cases h
  | cons first names ih =>
      have hrest := fun name member => hvalid name (List.mem_cons_of_mem _ member)
      -- the entry of the first plugin after its turn
      have turn : ∃ t₁, initTimingsFrom st (defaultTiming st) (first :: names) i t =
            initTimingsFrom st (defaultTiming st) names (i + 1) t₁ ∧
          t₁.entry i = timingStep st first (t.entry i) ∧ ∀ j, j ≠ i → t₁.entry j = t.entry j := by
        cases first with
        | none => exact ⟨t, rfl, rfl, fun _ _ => rfl⟩
        | some name =>
            obtain ⟨t₁, hrun, hentry, hframe⟩ := initTiming_ok (hvalid name List.mem_cons_self) t i
            refine ⟨t₁, ?_, hentry, hframe⟩
            rw [initTimingsFrom, hrun]
            rfl
      obtain ⟨t₁, hrun₁, hentry₁, hframe₁⟩ := turn
      obtain ⟨t', hrun, hentries, hframe⟩ := ih hrest (i + 1) t₁
      refine ⟨t', hrun₁.trans hrun, ?_, ?_⟩
      · intro k name hk
        cases k with
        | zero =>
            cases hk
            rw [Nat.add_zero, hframe i (Nat.lt_succ_self i), hentry₁]
        | succ k =>
            have hindex : i + (k + 1) = i + 1 + k := by omega
            have hother : i + 1 + k ≠ i := by omega
            rw [hindex, hentries k name hk, hframe₁ _ hother]
      · intro j hj
        rw [hframe j (by omega), hframe₁ j (by omega)]

theorem readDefault_ok {plugins : LoadedPlugins} {st : ParserState H}
    (hvalid : TimingsValid plugins st) :
    ∃ timing, readConfig timingSize st "timings".toList "default".toList = .ok timing ∧
      strtol timing = defaultTiming st := by
  unfold defaultTiming
  cases hvalue : st.value "timings".toList "default".toList with
  | none =>
      refine ⟨[], readConfig_none hvalue, ?_⟩
      decide
  | some text =>
      have valid := hvalid.default text hvalue
      exact ⟨text, readConfig_some hvalue valid.fits valid.noNul, rfl⟩

/-- One call. -/
theorem initTimings_ok {plugins : LoadedPlugins} {st : ParserState H}
    (hvalid : TimingsValid plugins st) (t : Timings) :
    ∃ t', initTimings plugins st t = .ok t' ∧
      ∀ i name, plugins.names[i]? = some name → t'.entry i = timingStep st name (t.entry i) := by
  obtain ⟨timing, hread, hdefault⟩ := readDefault_ok hvalid
  obtain ⟨t', hrun, hentries, -⟩ := initTimingsFrom_ok plugins.names hvalid.own 0 t
  refine ⟨t', ?_, ?_⟩
  · unfold initTimings
    rw [hread, ← hrun, ← hdefault]
    rfl
  · intro i name hname
    have := hentries i name hname
    rwa [Nat.zero_add] at this

/-! ## Any number of calls -/

/-- The last timing that the plugin had of its own. -/
def lastOwnTiming (stores : List (ParserState H)) (name : CText) : Option Int :=
  (stores.filterMap fun st => ownTiming st name).getLast?

/-- The sleeping time that a sequence of calls leaves. -/
def sleepAfter (stores : List (ParserState H)) (name : CText) (ts : Timespec) : Timespec :=
  match lastOwnTiming stores name with
  | none => ts
  | some timing => toTimespec timing

theorem sleepAfter_append (stores : List (ParserState H)) (st : ParserState H) (name : CText)
    (ts : Timespec) :
    sleepAfter (stores ++ [st]) name ts =
      match ownTiming st name with
      | none => sleepAfter stores name ts
      | some timing => toTimespec timing := by
  unfold sleepAfter lastOwnTiming
  rw [List.filterMap_append, List.filterMap_cons, List.filterMap_nil]
  cases ownTiming st name with
  | none =>
      dsimp only
      rw [List.append_nil]
  | some timing =>
      dsimp only
      rw [List.getLast?_concat]

theorem reloadTimings_append (plugins : LoadedPlugins) (stores : List (ParserState H))
    (st : ParserState H) (t : Timings) :
    reloadTimings plugins (stores ++ [st]) t =
      reloadTimings plugins stores t >>= initTimings plugins st := by
  unfold reloadTimings
  simp only [List.foldlM_append, List.foldlM_cons, List.foldlM_nil, bind_pure]

/-- Any number of calls. -/
theorem reloadTimings_ok {plugins : LoadedPlugins} {stores : List (ParserState H)}
    (hvalid : ∀ st ∈ stores, TimingsValid plugins st) (t : Timings) :
    ∃ t', reloadTimings plugins stores t = .ok t' ∧
      ∀ i name, plugins.names[i]? = some (some name) →
        t'.sleepTims i = sleepAfter stores name (t.sleepTims i) := by
  induction stores using List.reverseRecOn with
  | nil => exact ⟨t, rfl, fun _ _ _ => rfl⟩
  | append_singleton stores st ih =>
      obtain ⟨t₁, hrun₁, hsleep₁⟩ := ih fun st' member => hvalid st' (List.mem_append_left _ member)
      have hlast := hvalid st (List.mem_append_right _ List.mem_cons_self)
      obtain ⟨t', hrun, hentries⟩ := initTimings_ok hlast t₁
      refine ⟨t', ?_, ?_⟩
      · rw [reloadTimings_append, hrun₁]
        exact hrun
      · intro i name hname
        have hentry := hentries i _ hname
        rw [sleepAfter_append, ← hsleep₁ i name hname]
        cases hown : ownTiming st name with
        | none =>
            rw [timingStep_default hown] at hentry
            exact congrArg Prod.snd hentry
        | some timing =>
            rw [timingStep_own hown] at hentry
            exact congrArg Prod.snd hentry

/-- The sleeping time that earlier calls leave encodes a timing if the last own timing of the
plugin is that one, or there was none and the time from the start encodes it. -/
theorem sleepAfter_encodes_iff {plugins : LoadedPlugins} {stores : List (ParserState H)}
    (hvalid : ∀ st ∈ stores, TimingsValid plugins st) {name : CText}
    (hname : some name ∈ plugins.names) (ts : Timespec) (timing : Int) :
    (sleepAfter stores name ts).Encodes timing ↔
      match lastOwnTiming stores name with
      | none => ts.Encodes timing
      | some last => last = timing := by
  unfold sleepAfter
  cases hlast : lastOwnTiming stores name with
  | none => exact Iff.rfl
  | some last =>
      obtain ⟨st, member, hown⟩ := List.mem_filterMap.mp (List.mem_of_mem_getLast? hlast)
      have encodes := toTimespec_encodes ((hvalid st member).own_nonneg hname hown)
      constructor
      · intro stale
        exact encodes.unique stale
      · rintro rfl
        exact encodes

/-- For any number of calls, with any earlier configurations and any content of the arrays before
the first one: the configured timings are in effect after the last call exactly when every plugin
without a timing of its own is left, by the last configuration in which it had one or from the
start, with the default timing of the last configuration. -/
theorem initTimings_inEffect_iff (H : HashTable CText) (plugins : LoadedPlugins)
    (earlier : List (ParserState H)) (st : ParserState H) (t : Timings)
    (hvalid : ∀ store ∈ earlier ++ [st], TimingsValid plugins store) :
    ∃ t', reloadTimings plugins (earlier ++ [st]) t = .ok t' ∧
      ((∀ i name, plugins.names[i]? = some (some name) → InEffect st t' i name) ↔
        ∀ i name, plugins.names[i]? = some (some name) → ownTiming st name = none →
          match lastOwnTiming earlier name with
          | none => (t.sleepTims i).Encodes (defaultTiming st)
          | some timing => timing = defaultTiming st) := by
  have hearlier := fun store member => hvalid store (List.mem_append_left _ member)
  obtain ⟨t₁, hrun₁, hsleep₁⟩ := reloadTimings_ok hearlier t
  have hlast := hvalid st (List.mem_append_right _ List.mem_cons_self)
  obtain ⟨t', hrun, hentries⟩ := initTimings_ok hlast t₁
  refine ⟨t', ?_, ?_⟩
  · rw [reloadTimings_append, hrun₁]
    exact hrun
  · apply forall_congr'
    intro i
    apply forall_congr'
    intro name
    apply imp_congr_right
    intro hname
    have member : some name ∈ plugins.names := List.mem_of_getElem? hname
    have hentry := hentries i _ hname
    have hstale := sleepAfter_encodes_iff hearlier member (t.sleepTims i) (defaultTiming st)
    cases hown : ownTiming st name with
    | none =>
        -- the time that was there before the last call stays
        rw [timingStep_default hown] at hentry
        have htiming : t'.timings i = defaultTiming st := congrArg Prod.fst hentry
        have hsleep : t'.sleepTims i = sleepAfter earlier name (t.sleepTims i) :=
          (congrArg Prod.snd hentry).trans (hsleep₁ i name hname)
        constructor
        · intro inEffect _
          apply hstale.mp
          rw [← hsleep, ← htiming]
          exact inEffect.sleep
        · intro stale
          refine ⟨?_, ?_⟩
          · rw [htiming, hown, Option.getD_none]
          · rw [hsleep, htiming]
            exact hstale.mpr (stale rfl)
    | some timing =>
        rw [timingStep_own hown] at hentry
        have htiming : t'.timings i = timing := congrArg Prod.fst hentry
        have hsleep : t'.sleepTims i = toTimespec timing := congrArg Prod.snd hentry
        constructor
        · intro _ absent
          cases absent
        · intro _
          refine ⟨?_, ?_⟩
          · rw [htiming, hown, Option.getD_some]
          · rw [hsleep, htiming]
            exact toTimespec_encodes (hlast.own_nonneg member hown)

/-! ## Two configurations of one plugin -/

/-- A default of one second, and a plugin that has one and a half. -/
def ownSecond : ParserState (.alist CText) :=
  configStore (.alist CText)
    [.parse (.opened [⟨"timings".toList, "default".toList, "1000000000".toList⟩,
      ⟨"timings".toList, "NVML".toList, "1500000000".toList⟩] 0)]

/-- A default of one second only. -/
def defaultSecond : ParserState (.alist CText) :=
  configStore (.alist CText)
    [.parse (.opened [⟨"timings".toList, "default".toList, "1000000000".toList⟩] 0)]

def nvmlLoaded : LoadedPlugins := ⟨[some "NVML".toList], by decide⟩

/-- The arrays at the start of the agent. -/
def zeroTimings : Timings := ⟨fun _ => 0, fun _ => ⟨0, 0⟩⟩

theorem ownSecond_valid : TimingsValid nvmlLoaded ownSecond where
  default := by
    have hvalue : ownSecond.value "timings".toList "default".toList =
        some (Nat.toDigits 10 1000000000) := by decide +kernel
    intro text found
    rw [hvalue] at found
    cases found
    exact timingText_toDigits (by decide)
  own := by
    have hvalue : ownSecond.value "timings".toList "NVML".toList =
        some (Nat.toDigits 10 1500000000) := by decide +kernel
    intro name member text found
    cases List.mem_singleton.mp member
    rw [hvalue] at found
    cases found
    exact timingText_toDigits (by decide)

theorem initTimings_inEffect_iff_own : ∃ t',
    reloadTimings nvmlLoaded [ownSecond] zeroTimings = .ok t' ∧
      InEffect ownSecond t' 0 "NVML".toList := by
  have hvalid : ∀ store ∈ [] ++ [ownSecond], TimingsValid nvmlLoaded store := by
    intro store member
    cases List.mem_singleton.mp member
    exact ownSecond_valid
  have hown : ownTiming ownSecond "NVML".toList = some 1500000000 := by decide +kernel
  obtain ⟨t', hrun, inEffect⟩ :=
    initTimings_inEffect_iff (.alist CText) nvmlLoaded [] ownSecond zeroTimings hvalid
  refine ⟨t', hrun, inEffect.mpr ?_ 0 _ rfl⟩
  intro i name hname absent
  have member : some name ∈ nvmlLoaded.names := List.mem_of_getElem? hname
  cases List.mem_singleton.mp member
  rw [hown] at absent
  cases absent

/-- A plugin that is to use the default of one second does not sleep at all. -/
theorem initTimings_default_unslept :
    (initTimings nvmlLoaded defaultSecond zeroTimings).map (fun t => (t.timings 0, t.sleepTims 0)) =
      .ok (1000000000, ⟨0, 0⟩) := by
  decide +kernel

end PhantomMonitor
