import Mathlib.Data.Set.Card
import PhantomMonitor.Parser.Proofs.ConfigStore

/-!
# What the lookups find

The lookups after any history of calls: `mfp_get_value` finds the last assignment, and
`mfp_get_data_filtered_by_value` lists a section. What `mfp_parse` leaves behind when it fails.
-/

namespace PhantomMonitor

open CText

variable {H : HashTable CText}

/-- An `mfp_data` lists a set of pairs: each of them once, and nothing else. -/
structure Lists (data : MfpData) (pairs : Set (CText × CText)) : Prop where
  nodup : data.pairs.Nodup
  mem : ∀ pair, pair ∈ data.pairs ↔ pair ∈ pairs
  size : data.size = pairs.ncard

theorem StoreFollows.mem_entries {st : ParserState H} {made : List IniEntry}
    (h : StoreFollows st (some made)) (sect : CText) (pair : CText × CText) :
    pair ∈ H.entries₂ st.htConfig sect ↔ lastAssigned made sect pair.1 = some pair.2 := by
  have found := h.lookup sect pair.1
  rw [Option.bind_some] at found
  rw [← found]
  exact H.mem_entries₂ st.htConfig sect pair.1 pair.2

/-- A section has no more entries than keys. -/
theorem StoreFollows.entries_length_le {st : ParserState H} {made : List IniEntry}
    (h : StoreFollows st (some made)) (sect : CText) :
    (H.entries₂ st.htConfig sect).length ≤ (sectionKeys made sect).length := by
  have hsub : (H.entries₂ st.htConfig sect).map Prod.fst ⊆ sectionKeys made sect := by
    intro key member
    obtain ⟨pair, hpair, rfl⟩ := List.mem_map.mp member
    exact mem_sectionKeys ((h.mem_entries sect pair).mp hpair)
  have := List.Nodup.length_le_of_subset (H.keys₂_nodup st.htConfig sect) hsub
  rwa [List.length_map] at this

theorem StoreFollows.getData {st : ParserState H} {made : List IniEntry}
    (h : StoreFollows st (some made)) {sect : CText} (data : MfpData) {filterByValue : Option CText}
    (hkeys : (sectionKeys made sect).length ≤ mfpCapacity)
    (hfits : ∀ pair ∈ sectionPairs made sect filterByValue,
      pair.1.length < mfpTextSize ∧ pair.2.length < mfpTextSize) :
    ∃ data', mfpGetDataFilteredByValue st sect data filterByValue = .ok data' ∧
      Lists data' (sectionPairs made sect filterByValue) := by
  have hlength := h.entries_length_le sect
  have hpassing : (passing filterByValue (H.entries₂ st.htConfig sect)).length ≤
      (H.entries₂ st.htConfig sect).length := List.length_filter_le _ _
  have hmem : ∀ pair, pair ∈ passing filterByValue (H.entries₂ st.htConfig sect) ↔
      pair ∈ sectionPairs made sect filterByValue := by
    intro pair
    rw [mem_passing, h.mem_entries]
    rfl
  have hnodup : (passing filterByValue (H.entries₂ st.htConfig sect)).Nodup :=
    (List.Nodup.of_map _ (H.keys₂_nodup st.htConfig sect)).filter _
  have hroom : (0 : Nat) + (passing filterByValue (H.entries₂ st.htConfig sect)).length ≤
      mfpCapacity := by omega
  obtain ⟨data', hrun, hpairs⟩ :=
    collect_ok (H.entries₂ st.htConfig sect) { data with size := 0 } hroom
      fun pair member passes => hfits pair ((hmem pair).mp (mem_passing.mpr ⟨member, passes⟩))
  have hlisted : data'.pairs = passing filterByValue (H.entries₂ st.htConfig sect) := hpairs
  refine ⟨data', ?_, ?_, ?_, ?_⟩
  · rw [getData_eq h.initialized]
    exact hrun
  · rw [hlisted]
    exact hnodup
  · rw [hlisted]
    exact hmem
  · have hset : sectionPairs made sect filterByValue = {pair | pair ∈ data'.pairs} := by
      ext pair
      rw [hlisted]
      exact (hmem pair).symm
    rw [hset, ← MfpData.pairs_length, ← List.coe_toFinset, Set.ncard_coe_finset,
      List.toFinset_card_of_nodup (hlisted ▸ hnodup)]

/-- After any history of calls `mfp_get_value` writes the value of the last assignment since the
last `mfp_parse` and leaves the buffer alone when there is none; an assignment changes no other
lookup; and from the first `mfp_parse` on a section of at most 256 keys is listed by
`mfp_get_data_filtered_by_value` as `mfp_get_value` sees it, provided that the listed texts fit
their copies. -/
theorem configStore_refines (H : HashTable CText) (history : List ConfigCall) :
    (∀ sect key retVal, mfpGetValue (configStore H history) sect key retVal =
      match (assignments history).bind fun made => lastAssigned made sect key with
      | none => retVal
      | some value => strcpy retVal value) ∧
    (∀ sect key value sect' key' retVal, ¬ (sect' = sect ∧ key' = key) →
      mfpGetValue (mfpSetValue (configStore H history) sect key value) sect' key' retVal =
        mfpGetValue (configStore H history) sect' key' retVal) ∧
    ∀ made, assignments history = some made → ∀ sect data filterByValue,
      (sectionKeys made sect).length ≤ mfpCapacity →
      (∀ pair ∈ sectionPairs made sect filterByValue,
        pair.1.length < mfpTextSize ∧ pair.2.length < mfpTextSize) →
      ∃ data', mfpGetDataFilteredByValue (configStore H history) sect data filterByValue =
          .ok data' ∧
        Lists data' (sectionPairs made sect filterByValue) ∧
        ∀ i < data'.size, ∀ retVal,
          mfpGetValue (configStore H history) sect (data'.keys i) retVal =
            strcpy retVal (data'.values i) := by
  have follows := configStore_follows H history
  refine ⟨follows.getValue, ?_, ?_⟩
  · intro sect key value sect' key' retVal other
    cases hmade : assignments history with
    | none =>
        rw [hmade] at follows
        rw [mfpSetValue_ignored follows.initialized]
    | some made =>
        rw [hmade] at follows
        rw [(follows.setValue sect key value).getValue, follows.getValue, Option.bind_some,
          Option.bind_some, lastAssigned_append, if_neg other]
  · intro made hmade sect data filterByValue hkeys hfits
    rw [hmade] at follows
    obtain ⟨data', hrun, lists⟩ := follows.getData data hkeys hfits
    refine ⟨data', hrun, lists, ?_⟩
    intro i hi retVal
    have listed := (lists.mem _).mp (data'.mem_pairs hi)
    have last : lastAssigned made sect (data'.keys i) = some (data'.values i) := listed.1
    rw [follows.getValue, Option.bind_some, last]

/-- A file with two timings, one of which is overwritten. -/
def twoTimings : List ConfigCall :=
  [.parse (.opened [⟨"timings".toList, "default".toList, "1000".toList⟩,
      ⟨"timings".toList, "NVML".toList, "500".toList⟩] 0),
    .setValue "timings".toList "default".toList "2000".toList]

/-- The assignments of `twoTimings`. -/
def twoTimingsMade : List IniEntry :=
  [⟨"timings".toList, "default".toList, "1000".toList⟩,
    ⟨"timings".toList, "NVML".toList, "500".toList⟩,
    ⟨"timings".toList, "default".toList, "2000".toList⟩]

theorem configStore_refines_two : ∃ data',
    mfpGetDataFilteredByValue (configStore (.alist CText) twoTimings) "timings".toList
        ⟨fun _ => [], fun _ => [], 0⟩ none = .ok data' ∧
      ("default".toList, "2000".toList) ∈ data'.pairs := by
  have hmade : assignments twoTimings = some twoTimingsMade := by decide +kernel
  have hkeys : (sectionKeys twoTimingsMade "timings".toList).length ≤ mfpCapacity := by
    decide +kernel
  have hfits : ∀ pair ∈ sectionPairs twoTimingsMade "timings".toList none,
      pair.1.length < mfpTextSize ∧ pair.2.length < mfpTextSize := by
    have short : ∀ entry ∈ twoTimingsMade,
        entry.name.length < mfpTextSize ∧ entry.value.length < mfpTextSize := by decide +kernel
    intro pair member
    obtain ⟨entry, hentry, -, hname, hvalue⟩ := exists_of_lastAssigned member.1
    rw [← hname, ← hvalue]
    exact short entry hentry
  obtain ⟨-, -, listing⟩ := configStore_refines (.alist CText) twoTimings
  obtain ⟨data', hrun, lists, -⟩ := listing _ hmade _ _ _ hkeys hfits
  refine ⟨data', hrun, (lists.mem _).mpr ⟨?_, rfl⟩⟩
  decide +kernel

/-- Without the two provisos the listing fails: before the first `mfp_parse` the number of pairs
is not written, and a value of 256 bytes does not fit its copy. -/
theorem mfpGetData_unlisted :
    (mfpGetDataFilteredByValue (configStore (.alist CText) []) "timings".toList
        ⟨fun _ => [], fun _ => [], 7⟩ none).map MfpData.size = .ok 7 ∧
      (mfpGetDataFilteredByValue (configStore (.alist CText)
          [.parse (.opened [] 0),
            .setValue "timings".toList "default".toList (List.replicate 256 '1')])
        "timings".toList ⟨fun _ => [], fun _ => [], 0⟩ none).map MfpData.size =
          .error .overflow := by
  decide +kernel

/-! ## A failed `mfp_parse` -/

theorem mfpParse_snd_eq_zero {st : ParserState H} {file : IniFile} :
    (mfpParse st file).2 = 0 ↔ file = .notOpened := by
  cases file with
  | notOpened => exact ⟨fun _ => rfl, fun _ => rfl⟩
  | opened entries firstBadLine =>
      have hread : ¬ (IniFile.opened entries firstBadLine).error < 0 :=
        Int.not_lt.mpr (Int.natCast_nonneg firstBadLine)
      unfold mfpParse
      rw [if_neg hread]
      constructor
      · intro h
        cases h
      · intro h
        cases h

/-- A failed `mfp_parse` leaves an empty store, whatever was in it: no lookup finds anything. -/
theorem mfpParse_failed_clears (H : HashTable CText) (history : List ConfigCall) (file : IniFile)
    (failed : (mfpParse (configStore H history) file).2 = 0) :
    (∀ sect key retVal,
      mfpGetValue (mfpParse (configStore H history) file).1 sect key retVal = retVal) ∧
    ∀ sect data filterByValue,
      mfpGetDataFilteredByValue (mfpParse (configStore H history) file).1 sect data
        filterByValue = .ok { data with size := 0 } := by
  obtain rfl := mfpParse_snd_eq_zero.mp failed
  have follows : StoreFollows (mfpParse (configStore H history) .notOpened).1 (some []) :=
    follows_parse _ _
  refine ⟨?_, ?_⟩
  · intro sect key retVal
    rw [follows.getValue]
    rfl
  · intro sect data filterByValue
    have hnone : H.entries₂ (mfpParse (configStore H history) .notOpened).1.htConfig sect = [] := by
      apply List.eq_nil_iff_forall_not_mem.mpr
      intro pair member
      have last := (follows.mem_entries sect pair).mp member
      rw [lastAssigned_nil] at last
      cases last
    rw [getData_eq follows.initialized, hnone]
    rfl

theorem mfpParse_failed_clears_loaded :
    mfpGetValue (mfpParse (configStore (.alist CText) twoTimings) .notOpened).1 "timings".toList
      "default".toList [] = [] :=
  (mfpParse_failed_clears (.alist CText) twoTimings .notOpened rfl).1 _ _ _

/-- A reload that cannot open the file forgets the default timing. -/
theorem mfpParse_failed_forgets :
    (mfpParse (configStore (.alist CText) twoTimings) .notOpened).2 = 0 ∧
      mfpGetValue (configStore (.alist CText) twoTimings) "timings".toList "default".toList [] =
        "2000".toList ++ [nul] ∧
      mfpGetValue (mfpParse (configStore (.alist CText) twoTimings) .notOpened).1
        "timings".toList "default".toList [] = [] := by
  decide +kernel

end PhantomMonitor
