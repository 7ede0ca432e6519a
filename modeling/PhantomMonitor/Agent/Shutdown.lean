import PhantomMonitor.Agent.Timings
import PhantomMonitor.Misc.Runs

/-!
# The end of the agent

`startThreads` waits until `running` is 0, joins the plugin threads and returns; `main` then cleans
the configuration store and exits. The thread of `checkConf` was created together with the plugin
threads and is not joined (`thread_handler.c:92-156`, `main.c:132-155`).

The two threads are parties that move in any order, with the signal handler and the ends of the
plugin threads in between. After `mfp_parse_clean` the store is shown with what its pool held.
-/

namespace PhantomMonitor

open CText

/-- The size of `wait_some_seconds` (`thread_handler.c:148`). -/
def waitSize : Nat := 20

/-- What the main thread does next: test `running`, join plugin thread `t`, call `mfp_parse_clean`,
call `exit`. -/
inductive MainAt where
  | waiting
  | joining (t : Nat)
  | cleaning
  | cleaned
  | exited
  deriving DecidableEq, Repr

/-- What the thread of `checkConf` does next: test `running`, call `mfp_parse`, call
`mfp_get_value`, sleep, call `init_timings`. -/
inductive CheckConfAt where
  | testing
  | parsing
  | gettingValue
  | sleeping
  | updating
  | finished
  deriving DecidableEq, Repr

/-- The agent from the creation of the threads on. `ended` tells which plugin threads are over. -/
structure Agent (H : HashTable CText) where
  running : Bool
  ended : Nat → Bool
  main : MainAt
  checkConf : CheckConfAt
  waitSomeSeconds : Int
  store : ParserState H
  timings : Timings

/-- A move of one party; `file` is what `mfp_parse` meets if it is called. A plugin thread ends
after a test of `running`. -/
inductive AgentMove where
  | signal
  | pluginEnds (t : Nat)
  | main
  | checkConf (file : IniFile)
  deriving DecidableEq, Repr

section

variable {H : HashTable CText}

/-- All threads are created (`thread_handler.c:92-100`). -/
def Agent.start (st : ParserState H) (t : Timings) : Agent H :=
  { running := true, ended := fun _ => false, main := .waiting, checkConf := .testing,
    waitSomeSeconds := 0, store := st, timings := t }

/-- The main thread (`thread_handler.c:109-120`, `main.c:153-154`). -/
def mainStep (apr : AprTerminate) (plugins : LoadedPlugins) (a : Agent H) : Option (Agent H) :=
  match a.main with
  | .waiting => if a.running then some a else some { a with main := .joining 0 }
  | .joining t =>
      if t < plugins.names.length then
        if a.ended t then some { a with main := .joining (t + 1) } else none
      else some { a with main := .cleaning }
  | .cleaning => some { a with main := .cleaned, store := mfpParseClean apr a.store }
  | .cleaned => some { a with main := .exited }
  | .exited => none

/-- `checkConf` (`thread_handler.c:144-156`). A value that does not fit its buffer is not followed
further. -/
def checkConfStep (plugins : LoadedPlugins) (file : IniFile) (a : Agent H) : Option (Agent H) :=
  match a.checkConf with
  | .testing => some { a with checkConf := if a.running then .parsing else .finished }
  | .parsing => some { a with checkConf := .gettingValue, store := (mfpParse a.store file).1 }
  | .gettingValue =>
      match readConfig waitSize a.store "timings".toList "update_configuration".toList with
      | .ok wait => some { a with checkConf := .sleeping, waitSomeSeconds := atoi wait }
      | .error _ => none
  | .sleeping => some { a with checkConf := .updating }
  | .updating =>
      match initTimings plugins a.store a.timings with
      | .ok timings => some { a with checkConf := .testing, timings := timings }
      | .error _ => none
  | .finished => none

/-- One move of the agent. Nothing moves after `exit`. -/
def agentStep (apr : AprTerminate) (plugins : LoadedPlugins) (a : Agent H) (move : AgentMove) :
    Option (Agent H) :=
  if a.main = .exited then none
  else
    match move with
    | .signal => some { a with running := false }
    | .pluginEnds t =>
        if a.running then none else some { a with ended := Function.update a.ended t true }
    | .main => mainStep apr plugins a
    | .checkConf file => checkConfStep plugins file a

end

end PhantomMonitor
