import PhantomMonitor.Misc.CText

/-!
# `gatherMetric`

The gatherer thread of one plugin (`thread_handler.c`): it calls the plugin's hook, collects the
results into a JSON array and posts the array after `bulk_size` results, or earlier when
`nanosleep` is interrupted.

The plugin, the clock and the signal handler are the environment: the result of the `k`-th call of
the hook, whether the sleep after it is completed, and how often the test of `running` succeeds.
-/

namespace PhantomMonitor

open CText

/-- `JSON_LEN` (`thread_handler.c:33`). -/
def jsonLen : Nat := 1024

/-- The size of `static_json` (`thread_handler.c:169`). -/
def staticJsonSize : Nat := 512

/-- The globals that the thread reads, and what its calls meet. -/
structure GatherEnv where
  applicationId : CText
  experimentId : CText
  taskId : CText
  platformId : CText
  bulkSize : Nat
  hook : Nat → Option CText
  sleepOk : Nat → Bool

/-- A message handed to `publish_json`, with the hook results it was made from. -/
structure Bulk where
  samples : List (Option CText)
  text : CText
  deriving DecidableEq, Repr

/-- The number of calls of the hook so far, `json_array`, and the messages handed over. -/
structure Gather where
  calls : Nat
  jsonArray : CText
  sent : List Bulk
  deriving DecidableEq, Repr

/-- `static_json` (`thread_handler.c:171-172`). -/
def staticJson (env : GatherEnv) : CText :=
  "\x7b\"WorkflowID\":\"".toList ++ env.applicationId ++ "\",\"ExperimentID\":\"".toList ++
    env.experimentId ++ "\",\"TaskID\":\"".toList ++ env.taskId ++ "\",\"host\":\"".toList ++
    env.platformId ++ "\",".toList

/-- One call of the hook (`thread_handler.c:177-183`). -/
def gatherSample (env : GatherEnv) (g : Gather) : Except Fault Gather :=
  match env.hook g.calls with
  | none => .ok { g with calls := g.calls + 1 }
  | some json => do
      let msg ← store jsonLen (staticJson env ++ json ++ ['}', ','])
      let jsonArray ← store (jsonLen * env.bulkSize) (g.jsonArray ++ msg)
      return { g with calls := g.calls + 1, jsonArray }

/-- The sampling loop (`thread_handler.c:176-189`) with the given number of turns left; an
interrupted sleep ends it. -/
def gatherSamples (env : GatherEnv) : Nat → Gather → Except Fault Gather
  | 0, g => .ok g
  | n + 1, g => do
      let g' ← gatherSample env g
      if env.sleepOk g.calls then gatherSamples env n g' else return g'

/-- `json_array[strlen (json_array) - 1] = ']'` (`thread_handler.c:190`). -/
def closeArray (jsonArray : CText) : CText := jsonArray.dropLast ++ [']']

/-- The body of the outer loop (`thread_handler.c:176-195`). The value of `publish_json` is not
looked at. -/
def gatherBulk (env : GatherEnv) (g : Gather) : Except Fault Gather := do
  let g' ← gatherSamples env env.bulkSize g
  let samples := (List.range' g.calls (g'.calls - g.calls)).map env.hook
  return ⟨g'.calls, ['['], g.sent ++ [⟨samples, closeArray g'.jsonArray⟩]⟩

/-- The outer loop (`thread_handler.c:174-197`) when `running` is found set the given number of
times. -/
def gatherBulks (env : GatherEnv) : Nat → Gather → Except Fault Gather
  | 0, g => .ok g
  | m + 1, g => do
      let g ← gatherBulk env g
      gatherBulks env m g

/-- `gatherMetric` (`thread_handler.c:159-203`). -/
def gatherMetric (env : GatherEnv) (m : Nat) : Except Fault Gather := do
  let _ ← store staticJsonSize (staticJson env)
  gatherBulks env m ⟨0, ['['], []⟩

end PhantomMonitor
