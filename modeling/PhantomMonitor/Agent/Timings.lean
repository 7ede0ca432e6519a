import PhantomMonitor.Misc.Numeral
import PhantomMonitor.Parser.MfParser

/-!
# `init_timings`

The sampling intervals of the plugins (`thread_handler.c:206-236`). `checkConf` calls
`init_timings` again after every reload of the configuration file, so a call finds the arrays as
the previous one left them.
-/

namespace PhantomMonitor

open CText

/-- The size of `plugins_name`, `timings` and `sleep_tims`. -/
def maxPlugins : Nat := 256

/-- The size of the buffers for configured values (`thread_handler.c:209`, `:217`). -/
def timingSize : Nat := 20

/-- The double constant `10e8`, and its conversion to `long`. -/
def nsecPerSec : Int := 10 ^ 9

/-- The loaded plugins: the first `pluginCount` entries of `plugins_name`. -/
structure LoadedPlugins where
  names : List (Option CText)
  fits : names.length ≤ maxPlugins

/-- `struct timespec`. -/
structure Timespec where
  tvSec : Int
  tvNsec : Int
  deriving DecidableEq, Repr

/-- The arrays `timings` and `sleep_tims`. -/
structure Timings where
  timings : Nat → Int
  sleepTims : Nat → Timespec

/-- `sleep_tims[i]` for a configured timing (`thread_handler.c:226-232`). -/
def toTimespec (timing : Int) : Timespec :=
  if nsecPerSec ≤ timing then ⟨timing / nsecPerSec, timing % nsecPerSec⟩ else ⟨0, timing⟩

section

variable {H : HashTable CText}

/-- `mfp_get_value` into a zeroed buffer of the given size, read as a C string. -/
def readConfig (size : Nat) (st : ParserState H) (sect key : CText) : Except Fault CText :=
  let retVal := mfpGetValue st sect key (List.replicate size nul)
  if retVal.length ≤ size then .ok (cstr retVal) else .error .overflow

/-- The body of the loop (`thread_handler.c:217-233`) for the plugin `name` at index `i`. -/
def initTiming (st : ParserState H) (defaultTiming : Int) (t : Timings) (i : Nat) (name : CText) :
    Except Fault Timings := do
  let value ← readConfig timingSize st "timings".toList name
  if value = [] then
    return { t with timings := Function.update t.timings i defaultTiming }
  else
    return { timings := Function.update t.timings i (strtol value),
             sleepTims := Function.update t.sleepTims i (toTimespec (strtol value)) }

/-- The loop (`thread_handler.c:213-235`) from index `i` on. -/
def initTimingsFrom (st : ParserState H) (defaultTiming : Int) :
    List (Option CText) → Nat → Timings → Except Fault Timings
  | [], _, t => .ok t
  | none :: names, i, t => initTimingsFrom st defaultTiming names (i + 1) t
  | some name :: names, i, t => do
      let t ← initTiming st defaultTiming t i name
      initTimingsFrom st defaultTiming names (i + 1) t

/-- `init_timings` (`thread_handler.c:206-236`). -/
def initTimings (plugins : LoadedPlugins) (st : ParserState H) (t : Timings) :
    Except Fault Timings := do
  let timing ← readConfig timingSize st "timings".toList "default".toList
  initTimingsFrom st (strtol timing) plugins.names 0 t

/-- Successive calls of `init_timings`, each with the configuration of its time. -/
def reloadTimings (plugins : LoadedPlugins) (stores : List (ParserState H)) (t : Timings) :
    Except Fault Timings :=
  stores.foldlM (fun t st => initTimings plugins st t) t

end

end PhantomMonitor
