import Mathlib.Data.List.Dedup
import PhantomMonitor.Parser.MfParser

/-!
# The store is a finite map

What the configuration store is for, in terms of the calls made so far: the assignments since the
last `mfp_parse`, and the last of them for a section and a key. `StoreFollows` relates the store of
hash tables to it; every call preserves the relation, and the lookups are read off from it.
-/

namespace PhantomMonitor

open CText

/-! ## The purpose of the store -/

/-- The effect of a call on the assignments in force. -/
def assignStep (made : Option (List IniEntry)) : ConfigCall → Option (List IniEntry)
  | .parse file => some file.entries
  | .setValue sect key value => made.map fun made => made ++ [⟨sect, key, value⟩]
  | .getValue _ _ => made
  | .getDataFilteredByValue _ _ => made

/-- The assignments since the last `mfp_parse`, oldest first; `none` before the first one. -/
def assignments (history : List ConfigCall) : Option (List IniEntry) :=
  history.foldl assignStep none

/-- The value of the last assignment to a key of a section. -/
def lastAssigned (made : List IniEntry) (sect key : CText) : Option CText :=
  (made.filter fun entry => entry.sect = sect ∧ entry.name = key).getLast?.map IniEntry.value

/-- The keys of a section. -/
def sectionKeys (made : List IniEntry) (sect : CText) : List CText :=
  ((made.filter fun entry => entry.sect = sect).map IniEntry.name).dedup

/-- The pairs of a section whose value passes the filter. -/
def sectionPairs (made : List IniEntry) (sect : CText) (filterByValue : Option CText) :
    Set (CText × CText) :=
  {pair | lastAssigned made sect pair.1 = some pair.2 ∧ passesFilter filterByValue pair.2}

theorem lastAssigned_nil (sect key : CText) : lastAssigned [] sect key = none := rfl

theorem lastAssigned_append (made : List IniEntry) (entry : IniEntry) (sect key : CText) :
    lastAssigned (made ++ [entry]) sect key =
      if sect = entry.sect ∧ key = entry.name then some entry.value
      else lastAssigned made sect key := by
  unfold lastAssigned
  rw [List.filter_append]
  by_cases same : entry.sect = sect ∧ entry.name = key
  · rw [if_pos ⟨same.1.symm, same.2.symm⟩, List.filter_cons_of_pos (by simpa using same),
      List.filter_nil, List.getLast?_concat]
    rfl
  · rw [if_neg fun both => same ⟨both.1.symm, both.2.symm⟩,
      List.filter_cons_of_neg (by simpa using same), List.filter_nil,
      List.append_nil]

theorem exists_of_lastAssigned {made : List IniEntry} {sect key value : CText}
    (h : lastAssigned made sect key = some value) :
    ∃ entry ∈ made, entry.sect = sect ∧ entry.name = key ∧ entry.value = value := by
  unfold lastAssigned at h
  obtain ⟨entry, hlast, hvalue⟩ := Option.map_eq_some_iff.mp h
  have member := List.mem_of_mem_getLast? hlast
  rw [List.mem_filter, decide_eq_true_eq] at member
  exact ⟨entry, member.1, member.2.1, member.2.2, hvalue⟩

theorem mem_sectionKeys {made : List IniEntry} {sect key value : CText}
    (h : lastAssigned made sect key = some value) : key ∈ sectionKeys made sect := by
  obtain ⟨entry, hmade, hsect, hname, -⟩ := exists_of_lastAssigned h
  rw [sectionKeys, List.mem_dedup, List.mem_map]
  exact ⟨entry, List.mem_filter.mpr ⟨hmade, decide_eq_true hsect⟩, hname⟩

/-! ## The store follows the assignments -/

variable {H : HashTable CText}

/-- The store holds the assignments in force, and is marked as initialized from the first
`mfp_parse` on. -/
structure StoreFollows (st : ParserState H) (made : Option (List IniEntry)) : Prop where
  initialized : st.htInitialized = made.isSome
  lookup : ∀ sect key,
    H.get₂ st.htConfig sect key = made.bind fun made => lastAssigned made sect key

theorem mfpSetValue_eq {st : ParserState H} (hinit : st.htInitialized = true)
    (sect key value : CText) :
    mfpSetValue st sect key value =
      { st with htConfig := H.set₂ st.htConfig sect key value } := by
  unfold mfpSetValue HashTable.set₂
  rw [if_pos hinit]
  cases H.get st.htConfig sect <;> rfl

theorem mfpSetValue_ignored {st : ParserState H} (hinit : st.htInitialized = false)
    (sect key value : CText) : mfpSetValue st sect key value = st := by
  unfold mfpSetValue
  rw [if_neg (by rw [hinit]; exact Bool.false_ne_true)]

theorem follows_init : StoreFollows (ParserState.init : ParserState H) none where
  initialized := rfl
  lookup sect key := H.get₂_make sect key

theorem follows_reset (st : ParserState H) : StoreFollows (mfpReset st) (some []) where
  initialized := rfl
  lookup sect key := H.get₂_make sect key

theorem StoreFollows.setValue {st : ParserState H} {made : List IniEntry}
    (h : StoreFollows st (some made)) (sect key value : CText) :
    StoreFollows (mfpSetValue st sect key value) (some (made ++ [⟨sect, key, value⟩])) := by
  rw [mfpSetValue_eq h.initialized]
  refine ⟨h.initialized, ?_⟩
  intro sect' key'
  show H.get₂ (H.set₂ st.htConfig sect key value) sect' key' = _
  rw [HashTable.get₂_set₂, h.lookup, Option.bind_some, Option.bind_some, lastAssigned_append]

theorem StoreFollows.setValue_none {st : ParserState H} (h : StoreFollows st none)
    (sect key value : CText) : StoreFollows (mfpSetValue st sect key value) none := by
  rw [mfpSetValue_ignored h.initialized]
  exact h

theorem StoreFollows.handleEntries {st : ParserState H} {made : List IniEntry}
    (h : StoreFollows st (some made)) (entries : List IniEntry) :
    StoreFollows (entries.foldl handleParser st) (some (made ++ entries)) := by
  induction entries generalizing st made with
  | nil =>
      rw [List.append_nil]
      exact h
  | cons entry entries ih =>
      have next := ih (h.setValue entry.sect entry.name entry.value)
      rw [List.append_assoc] at next
      exact next

theorem mfpParse_fst (st : ParserState H) (file : IniFile) :
    (mfpParse st file).1 = file.entries.foldl handleParser (mfpReset st) := by
  unfold mfpParse
  dsimp only
  split <;> rfl

theorem follows_parse (st : ParserState H) (file : IniFile) :
    StoreFollows (mfpParse st file).1 (some file.entries) := by
  rw [mfpParse_fst]
  exact (follows_reset st).handleEntries file.entries

/-- One call. -/
theorem StoreFollows.apply {st : ParserState H} {made : Option (List IniEntry)}
    (h : StoreFollows st made)
    (call : ConfigCall) : StoreFollows (call.apply st) (assignStep made call) := by
  cases call with
  | parse file => exact follows_parse st file
  | setValue sect key value =>
      cases made with
      | none => exact h.setValue_none sect key value
      | some made => exact h.setValue sect key value
  | getValue sect key => exact h
  | getDataFilteredByValue sect filterByValue => exact h

/-- Any number of calls. -/
theorem StoreFollows.run {st : ParserState H} {made : Option (List IniEntry)}
    (h : StoreFollows st made) (history : List ConfigCall) :
    StoreFollows (history.foldl ConfigCall.apply st) (history.foldl assignStep made) := by
  induction history generalizing st made with
  | nil => exact h
  | cons call history ih => exact ih (h.apply call)

theorem configStore_follows (H : HashTable CText) (history : List ConfigCall) :
    StoreFollows (configStore H history) (assignments history) := follows_init.run history

/-! ## Lookups -/

/-- The value that a lookup finds. -/
def ParserState.value (st : ParserState H) (sect key : CText) : Option CText :=
  if st.htInitialized then H.get₂ st.htConfig sect key else none

theorem mfpGetValue_eq (st : ParserState H) (sect key retVal : CText) :
    mfpGetValue st sect key retVal =
      match st.value sect key with
      | none => retVal
      | some value => strcpy retVal value := by
  unfold mfpGetValue ParserState.value HashTable.get₂
  by_cases hinit : st.htInitialized = true
  · rw [if_pos hinit, if_pos hinit]
    cases H.get st.htConfig sect <;> rfl
  · rw [if_neg hinit, if_neg hinit]

theorem StoreFollows.value_eq {st : ParserState H} {made : Option (List IniEntry)}
    (h : StoreFollows st made) (sect key : CText) :
    st.value sect key = made.bind fun made => lastAssigned made sect key := by
  unfold ParserState.value
  cases made with
  | none => rw [if_neg (by rw [h.initialized]; exact Bool.false_ne_true), Option.bind_none]
  | some made => rw [if_pos (by rw [h.initialized]; rfl), h.lookup]

theorem StoreFollows.getValue {st : ParserState H} {made : Option (List IniEntry)}
    (h : StoreFollows st made) (sect key retVal : CText) :
    mfpGetValue st sect key retVal =
      match made.bind fun made => lastAssigned made sect key with
      | none => retVal
      | some value => strcpy retVal value := by
  rw [mfpGetValue_eq, h.value_eq]

/-- The pairs that an `mfp_data` holds. -/
def MfpData.pairs (data : MfpData) : List (CText × CText) :=
  (List.range data.size).map fun i => (data.keys i, data.values i)

@[simp] theorem MfpData.pairs_length (data : MfpData) : data.pairs.length = data.size := by
  rw [pairs, List.length_map, List.length_range]

theorem MfpData.mem_pairs (data : MfpData) {i : Nat} (h : i < data.size) :
    (data.keys i, data.values i) ∈ data.pairs :=
  List.mem_map.mpr ⟨i, List.mem_range.mpr h, rfl⟩

/-- A pair is stored behind the pairs already there. -/
theorem MfpData.pairs_stored (data : MfpData) (key value : CText) :
    MfpData.pairs { keys := Function.update data.keys data.size key,
                    values := Function.update data.values data.size value,
                    size := data.size + 1 } = data.pairs ++ [(key, value)] := by
  unfold pairs
  dsimp only
  rw [List.range_succ, List.map_append, List.map_singleton, Function.update_self,
    Function.update_self]
  congr 1
  apply List.map_congr_left
  intro i member
  have hi := List.mem_range.mp member
  rw [Function.update_of_ne (Nat.ne_of_lt hi), Function.update_of_ne (Nat.ne_of_lt hi)]

theorem MfpData.push_ok {data : MfpData} {key value : CText} (hroom : data.size < mfpCapacity)
    (hkey : key.length < mfpTextSize) (hvalue : value.length < mfpTextSize) :
    ∃ data', data.push key value = .ok data' ∧ data'.pairs = data.pairs ++ [(key, value)] := by
  unfold push
  rw [if_pos hroom, store_ok hkey, store_ok hvalue]
  exact ⟨_, rfl, data.pairs_stored key value⟩

theorem MfpData.push_eq_ok {data data' : MfpData} {key value : CText}
    (h : data.push key value = .ok data') : data'.pairs = data.pairs ++ [(key, value)] := by
  unfold push at h
  split at h
  · obtain ⟨key', hkey, h⟩ := Fault.bind_eq_ok.mp h
    obtain ⟨value', hvalue, stored⟩ := Fault.bind_eq_ok.mp h
    obtain rfl := store_eq_ok hkey
    obtain rfl := store_eq_ok hvalue
    cases stored
    exact data.pairs_stored key' value'
  · cases h

/-- The pairs that pass the filter. -/
def passing (filterByValue : Option CText) (pairs : List (CText × CText)) : List (CText × CText) :=
  pairs.filter fun pair => passesFilter filterByValue pair.2

theorem mem_passing {filterByValue : Option CText} {pairs : List (CText × CText)}
    {pair : CText × CText} :
    pair ∈ passing filterByValue pairs ↔ pair ∈ pairs ∧ passesFilter filterByValue pair.2 :=
  List.mem_filter

/-- The loop over a section stores the pairs that pass the filter, in the order of the iterator. -/
theorem collect_ok {filterByValue : Option CText} (entries : List (CText × CText)) (data : MfpData)
    (hroom : data.size + (passing filterByValue entries).length ≤ mfpCapacity)
    (hfits : ∀ entry ∈ entries, passesFilter filterByValue entry.2 →
      entry.1.length < mfpTextSize ∧ entry.2.length < mfpTextSize) :
    ∃ data', entries.foldlM (mfpCollect filterByValue) data = .ok data' ∧
      data'.pairs = data.pairs ++ passing filterByValue entries := by
  induction entries generalizing data with
  | nil => exact ⟨data, rfl, (List.append_nil _).symm⟩
  | cons entry entries ih =>
      have htail := fun e member => hfits e (List.mem_cons_of_mem _ member)
      by_cases passes : passesFilter filterByValue entry.2 = true
      · obtain ⟨hkey, hvalue⟩ := hfits entry List.mem_cons_self passes
        have hpassing : passing filterByValue (entry :: entries) =
            entry :: passing filterByValue entries := List.filter_cons_of_pos passes
        rw [hpassing, List.length_cons] at hroom
        have hnext : data.size < mfpCapacity := by omega
        obtain ⟨data₁, hpush, hpairs₁⟩ := MfpData.push_ok hnext hkey hvalue
        have hsize₁ : data₁.size = data.size + 1 := by
          rw [← MfpData.pairs_length, hpairs₁, List.length_append, MfpData.pairs_length]
          rfl
        have hroom₁ : data₁.size + (passing filterByValue entries).length ≤ mfpCapacity := by omega
        obtain ⟨data', hrun, hpairs⟩ := ih data₁ hroom₁ htail
        refine ⟨data', ?_, ?_⟩
        · rw [List.foldlM_cons, mfpCollect, if_pos passes, hpush]
          exact hrun
        · rw [hpairs, hpairs₁, hpassing, List.append_assoc]
          rfl
      · have hpassing : passing filterByValue (entry :: entries) =
            passing filterByValue entries := List.filter_cons_of_neg passes
        rw [hpassing] at hroom
        obtain ⟨data', hrun, hpairs⟩ := ih data hroom htail
        refine ⟨data', ?_, ?_⟩
        · rw [List.foldlM_cons, mfpCollect, if_neg passes]
          exact hrun
        · rw [hpairs, hpassing]

/-- What a loop over a section has stored when it ends. -/
theorem collect_eq_ok {filterByValue : Option CText} {entries : List (CText × CText)}
    {data data' : MfpData} (h : entries.foldlM (mfpCollect filterByValue) data = .ok data') :
    data'.pairs = data.pairs ++ passing filterByValue entries := by
  induction entries generalizing data with
  | nil =>
      cases h
      exact (List.append_nil _).symm
  | cons entry entries ih =>
      rw [List.foldlM_cons, Fault.bind_eq_ok] at h
      obtain ⟨data₁, hfirst, hrest⟩ := h
      rw [mfpCollect] at hfirst
      rw [ih hrest]
      by_cases passes : passesFilter filterByValue entry.2 = true
      · have hpassing : passing filterByValue (entry :: entries) =
            entry :: passing filterByValue entries := List.filter_cons_of_pos passes
        rw [if_pos passes] at hfirst
        rw [MfpData.push_eq_ok hfirst, hpassing, List.append_assoc]
        rfl
      · have hpassing : passing filterByValue (entry :: entries) =
            passing filterByValue entries := List.filter_cons_of_neg passes
        rw [if_neg passes] at hfirst
        cases hfirst
        rw [hpassing]

theorem getData_eq {st : ParserState H} (hinit : st.htInitialized = true) (sect : CText)
    (data : MfpData) (filterByValue : Option CText) :
    mfpGetDataFilteredByValue st sect data filterByValue =
      (H.entries₂ st.htConfig sect).foldlM (mfpCollect filterByValue) { data with size := 0 } := by
  unfold mfpGetDataFilteredByValue HashTable.entries₂
  rw [if_pos hinit]
  cases H.get st.htConfig sect <;> rfl

/-- The keys that are listed are distinct. -/
theorem getData_keys_nodup {st : ParserState H} (hinit : st.htInitialized = true) {sect : CText}
    {data data' : MfpData} {filterByValue : Option CText}
    (h : mfpGetDataFilteredByValue st sect data filterByValue = .ok data') :
    (data'.pairs.map Prod.fst).Nodup := by
  rw [getData_eq hinit] at h
  have listed : data'.pairs = passing filterByValue (H.entries₂ st.htConfig sect) := collect_eq_ok h
  rw [listed]
  exact (List.filter_sublist.map Prod.fst).nodup (H.keys₂_nodup st.htConfig sect)

end PhantomMonitor
