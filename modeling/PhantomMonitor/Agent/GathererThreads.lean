import PhantomMonitor.Agent.GatherMetric
import PhantomMonitor.Agent.Shutdown

/-!
# The gatherer threads and the end of the agent

The agent of `Shutdown` with its plugin threads in full: `gatherMetric` is cut at each point at
which another thread can come in between, and a plugin thread ends with the function. The main
thread closes the libraries of the plugins (`cleanup_plugins`) between its last join and
`mfp_parse_clean`.
-/

namespace PhantomMonitor

open CText

/-- What the thread of a plugin does next: write `static_json`, test `running`, come to the test of
the inner loop, sleep, post the array. -/
inductive GathererAt where
  | starting
  | testing
  | looping (i : Nat)
  | sleeping (i : Nat)
  | publishing
  | finished
  deriving DecidableEq, Repr

/-- The thread of a plugin. `firstCall` is the number of calls of the hook before the bulk. -/
structure Gatherer where
  next : GathererAt
  firstCall : Nat
  gather : Gather
  deriving DecidableEq, Repr

/-- A thread that was just created. -/
def Gatherer.start : Gatherer := ⟨.starting, 0, ⟨0, ['['], []⟩⟩

/-- One step of `gatherMetric` (`thread_handler.c:159-203`). A text that does not fit its buffer is
not followed further. -/
def gathererStep (env : GatherEnv) (running : Bool) (w : Gatherer) : Option Gatherer :=
  match w.next with
  | .starting =>
      match store staticJsonSize (staticJson env) with
      | .ok _ => some { w with next := .testing }
      | .error _ => none
  | .testing => some { w with next := if running then .looping 0 else .finished }
  | .looping i =>
      if i < env.bulkSize then
        match gatherSample env w.gather with
        | .ok gather => some { w with next := .sleeping i, gather }
        | .error _ => none
      else some { w with next := .publishing }
  | .sleeping i =>
      some { w with
        next := if env.sleepOk (w.gather.calls - 1) then .looping (i + 1) else .publishing }
  | .publishing =>
      let samples := (List.range' w.firstCall (w.gather.calls - w.firstCall)).map env.hook
      let sent := w.gather.sent ++ [⟨samples, closeArray w.gather.jsonArray⟩]
      some ⟨.testing, w.gather.calls, ⟨w.gather.calls, ['['], sent⟩⟩
  | .finished => none

/-- The agent with its plugin threads. -/
structure AgentThreads (H : HashTable CText) where
  agent : Agent H
  gatherers : Nat → Gatherer

/-- A move of one thread; the end of a plugin thread is a move of that thread. -/
inductive ThreadMove where
  | signal
  | main
  | checkConf (file : IniFile)
  | gatherer (t : Nat)
  deriving DecidableEq, Repr

section

variable {H : HashTable CText}

/-- All threads are created (`thread_handler.c:92-100`). -/
def AgentThreads.start (st : ParserState H) (t : Timings) : AgentThreads H :=
  ⟨Agent.start st t, fun _ => .start⟩

/-- A move of the agent leaves the plugin threads alone. -/
def AgentThreads.withAgent (s : AgentThreads H) (a : Agent H) : AgentThreads H :=
  { s with agent := a }

/-- The thread of plugin `t` after a step. With its last one it ends. -/
def AgentThreads.withGatherer (s : AgentThreads H) (t : Nat) (w : Gatherer) : AgentThreads H :=
  { agent := if w.next = .finished then
        { s.agent with ended := Function.update s.agent.ended t true }
      else s.agent
    gatherers := Function.update s.gatherers t w }

/-- One move. There is a thread for each plugin that is loaded, and nothing moves after `exit`. -/
def threadsStep (apr : AprTerminate) (plugins : LoadedPlugins) (envs : Nat → GatherEnv)
    (s : AgentThreads H) (move : ThreadMove) : Option (AgentThreads H) :=
  match move with
  | .signal => (agentStep apr plugins s.agent .signal).map s.withAgent
  | .main => (agentStep apr plugins s.agent .main).map s.withAgent
  | .checkConf file => (agentStep apr plugins s.agent (.checkConf file)).map s.withAgent
  | .gatherer t =>
      if s.agent.main = .exited ∨ plugins.names.length ≤ t then none
      else (gathererStep (envs t) s.agent.running (s.gatherers t)).map (s.withGatherer t)

/-- The libraries of the plugins are closed. -/
def Agent.Closed (a : Agent H) : Prop := a.main = .cleaning ∨ a.main = .cleaned ∨ a.main = .exited

end

end PhantomMonitor
