import PhantomMonitor.Misc.CText
import PhantomMonitor.Misc.HashTable

/-!
# The configuration store

`mf_parser.c`: the configuration file is read into a hash table of hash tables, section by section,
and looked up from there. Every `mfp_parse` starts from a new table in a new pool.

The hash tables are APR's, given as `H`, and so is the end of the library, given as `apr`. The INI
reader hands the entries of a file to `handle_parser` one after another; what it finds in a file is
a value of `IniFile`.
-/

namespace PhantomMonitor

open CText

/-- One call of `handle_parser` (`mf_parser.c:63-68`). -/
structure IniEntry where
  sect : CText
  name : CText
  value : CText
  deriving DecidableEq, Repr

/-- What `ini_parse` meets (`ini.c:164-178`): a file that cannot be opened, or the entries of the
file and the number of the first line that is not understood (0 if there is none). -/
inductive IniFile where
  | notOpened
  | opened (entries : List IniEntry) (firstBadLine : Nat)
  deriving DecidableEq, Repr

/-- The entries that are handed to the handler. -/
def IniFile.entries : IniFile → List IniEntry
  | .notOpened => []
  | .opened entries _ => entries

/-- The value of `ini_parse`. -/
def IniFile.error : IniFile → Int
  | .notOpened => -1
  | .opened _ firstBadLine => firstBadLine

/-- What `apr_terminate` leaves of the pools, with the number of `apr_initialize` calls that it has
not matched yet. The library is torn down by the call that matches the last one. -/
structure AprTerminate where
  left : Int → List Nat → List Nat
  left_sublist (n : Int) (pools : List Nat) : (left n pools).Sublist pools
  left_last (pools : List Nat) : left 0 pools = []

/-- The calls that match an earlier one change nothing. -/
def AprTerminate.counted : AprTerminate where
  left n pools := if n = 0 then [] else pools
  left_sublist n pools := by
    by_cases last : n = 0
    · rw [if_pos last]
      exact List.nil_sublist pools
    · rw [if_neg last]
  left_last _ := if_pos rfl

/-- The static variables of `mf_parser.c`, the calls of `apr_initialize` without `apr_terminate`,
and the pools that were created and not destroyed. `htPool` is the pool in which the table
`htConfig` was made. -/
structure ParserState (H : HashTable CText) where
  htInitialized : Bool
  aprInitialized : Int
  mp : Option Nat
  pools : List Nat
  nextPool : Nat
  htConfig : H.Table (H.Table CText)
  htPool : Option Nat

/-- `mfp_data` (`mf_parser.h:30-34`). -/
structure MfpData where
  keys : Nat → CText
  values : Nat → CText
  size : Nat

/-- The number of pairs that an `mfp_data` has room for. -/
def mfpCapacity : Nat := 256

/-- The size of the copies of keys and values in an `mfp_data` (`mf_parser.c:139-142`). -/
def mfpTextSize : Nat := 256

section

variable {H : HashTable CText}

/-- The variables before any call. -/
def ParserState.init : ParserState H := ⟨false, 0, none, [], 0, H.make, none⟩

/-- `mfp_set_value` (`mf_parser.c:72-87`). -/
def mfpSetValue (st : ParserState H) (sect key value : CText) : ParserState H :=
  if st.htInitialized then
    let htValues := match H.get st.htConfig sect with
      | none => H.make
      | some htValues => htValues
    { st with htConfig := H.set st.htConfig sect (H.set htValues key value) }
  else st

/-- `handle_parser` (`mf_parser.c:63-68`). -/
def handleParser (st : ParserState H) (entry : IniEntry) : ParserState H :=
  mfpSetValue st entry.sect entry.name entry.value

/-- The new pool and the new table of `mfp_parse` (`mf_parser.c:47-50`). The pool of the previous
table is not destroyed. -/
def mfpReset (st : ParserState H) : ParserState H :=
  { htInitialized := true, aprInitialized := st.aprInitialized + 1, mp := some st.nextPool,
    pools := st.nextPool :: st.pools, nextPool := st.nextPool + 1, htConfig := H.make,
    htPool := some st.nextPool }

/-- `mfp_parse` (`mf_parser.c:43-60`): the store after it and its value. -/
def mfpParse (st : ParserState H) (file : IniFile) : ParserState H × Nat :=
  let st := file.entries.foldl handleParser (mfpReset st)
  if file.error < 0 then (st, 0) else (st, 1)

/-- `mfp_get_value` (`mf_parser.c:90-108`): what `ret_val` holds after it. -/
def mfpGetValue (st : ParserState H) (sect key retVal : CText) : CText :=
  if st.htInitialized then
    match H.get st.htConfig sect with
    | none => retVal
    | some htValues =>
        match H.get htValues key with
        | none => retVal
        | some htKey => strcpy retVal htKey
  else retVal

/-- The test of `filter_by_value` (`mf_parser.c:131-136`); `none` is the null pointer. -/
def passesFilter (filterByValue : Option CText) (value : CText) : Bool :=
  match filterByValue with
  | none => true
  | some filter => value == filter

/-- The copies of one key and its value (`mf_parser.c:138-143`). -/
def MfpData.push (data : MfpData) (key value : CText) : Except Fault MfpData :=
  if data.size < mfpCapacity then do
    let key ← store mfpTextSize key
    let value ← store mfpTextSize value
    return { keys := Function.update data.keys data.size key,
             values := Function.update data.values data.size value,
             size := data.size + 1 }
  else .error .outOfBounds

/-- The body of the loop over a section (`mf_parser.c:125-144`). -/
def mfpCollect (filterByValue : Option CText) (data : MfpData) (entry : CText × CText) :
    Except Fault MfpData :=
  if passesFilter filterByValue entry.2 then data.push entry.1 entry.2 else .ok data

/-- `mfp_get_data_filtered_by_value` (`mf_parser.c:111-146`). -/
def mfpGetDataFilteredByValue (st : ParserState H) (sect : CText) (data : MfpData)
    (filterByValue : Option CText) : Except Fault MfpData :=
  if st.htInitialized then
    match H.get st.htConfig sect with
    | none => .ok { data with size := 0 }
    | some htSection =>
        (H.entries htSection).foldlM (mfpCollect filterByValue) { data with size := 0 }
  else .ok data

/-- `mfp_get_data` (`mf_parser.c:149-153`). -/
def mfpGetData (st : ParserState H) (sect : CText) (data : MfpData) : Except Fault MfpData :=
  mfpGetDataFilteredByValue st sect data none

/-- `mfp_parse_clean` (`mf_parser.c:168-176`). The variables keep their values. -/
def mfpParseClean (apr : AprTerminate) (st : ParserState H) : ParserState H :=
  if st.htInitialized then
    let pools := st.pools.filter fun pool => st.mp ≠ some pool
    { st with pools := apr.left (st.aprInitialized - 1) pools,
              aprInitialized := st.aprInitialized - 1 }
  else st

end

/-! ## Histories of calls -/

/-- The calls of a program before `mfp_parse_clean`. -/
inductive ConfigCall where
  | parse (file : IniFile)
  | setValue (sect key value : CText)
  | getValue (sect key : CText)
  | getDataFilteredByValue (sect : CText) (filterByValue : Option CText)
  deriving DecidableEq, Repr

/-- The store after one call. The lookups only read it. -/
def ConfigCall.apply {H : HashTable CText} (st : ParserState H) : ConfigCall → ParserState H
  | .parse file => (mfpParse st file).1
  | .setValue sect key value => mfpSetValue st sect key value
  | .getValue _ _ => st
  | .getDataFilteredByValue _ _ => st

/-- The store that a program finds after a history of calls. -/
def configStore (H : HashTable CText) (history : List ConfigCall) : ParserState H :=
  history.foldl ConfigCall.apply .init

/-- The calls of a program, `mfp_parse_clean` among them. -/
inductive ParserCall where
  | config (call : ConfigCall)
  | parseClean
  deriving DecidableEq, Repr

/-- The store after one call. -/
def ParserCall.apply {H : HashTable CText} (apr : AprTerminate) (st : ParserState H) :
    ParserCall → ParserState H
  | .config call => call.apply st
  | .parseClean => mfpParseClean apr st

end PhantomMonitor
