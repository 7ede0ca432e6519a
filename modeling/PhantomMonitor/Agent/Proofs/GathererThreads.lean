import PhantomMonitor.Agent.GathererThreads
import PhantomMonitor.Agent.Proofs.GatherBuffers
import PhantomMonitor.Agent.Proofs.Shutdown

/-!
# What the agent leaves behind

Cut into steps and interleaved with the other threads, `gatherMetric` does what it does alone. So
when the main thread has joined the plugin threads, everything that their hooks have given was
posted, and no hook is called any more. After the signal the threads come to their ends by
themselves.
-/

namespace PhantomMonitor

open CText

/-! ## One plugin thread -/

theorem gatherBulks_succ (env : GatherEnv) (m : Nat) (g : Gather) :
    gatherBulks env (m + 1) g = (gatherBulks env m g).bind (gatherBulk env) := by
  induction m generalizing g with
  | zero =>
      show (gatherBulk env g).bind Except.ok = gatherBulk env g
      cases gatherBulk env g <;> rfl
  | succ m ih =>
      rw [gatherBulks]
      show (gatherBulk env g).bind (gatherBulks env (m + 1)) =
        ((gatherBulk env g).bind (gatherBulks env m)).bind (gatherBulk env)
      cases gatherBulk env g with
      | error fault => rfl
      | ok g' => exact ih g'

/-- The threads that come from the start in steps. Between two tests of `running` the bulks so far
are those of `gatherMetric`, and inside a bulk the rest of the sampling loop leads to where the loop
leads as a whole. -/
inductive Traced (env : GatherEnv) : Gatherer → Prop where
  | starting : Traced env .start
  | between {next : GathererAt} {m : Nat} {g : Gather} (idle : next = .testing ∨ next = .finished)
      (static : (staticJson env).length < staticJsonSize)
      (bulks : gatherBulks env m ⟨0, ['['], []⟩ = .ok g) : Traced env ⟨next, g.calls, g⟩
  | looping {i m : Nat} {g g' : Gather} (static : (staticJson env).length < staticJsonSize)
      (bulks : gatherBulks env m ⟨0, ['['], []⟩ = .ok g) (sent : g'.sent = g.sent)
      (inside : i ≤ env.bulkSize)
      (left : gatherSamples env env.bulkSize g = gatherSamples env (env.bulkSize - i) g') :
      Traced env ⟨.looping i, g.calls, g'⟩
  | sleeping {i m : Nat} {g g' : Gather} (static : (staticJson env).length < staticJsonSize)
      (bulks : gatherBulks env m ⟨0, ['['], []⟩ = .ok g) (sent : g'.sent = g.sent)
      (inside : i < env.bulkSize)
      (left : gatherSamples env env.bulkSize g =
        if env.sleepOk (g'.calls - 1) then gatherSamples env (env.bulkSize - (i + 1)) g'
        else .ok g') :
      Traced env ⟨.sleeping i, g.calls, g'⟩
  | publishing {m : Nat} {g g' : Gather} (static : (staticJson env).length < staticJsonSize)
      (bulks : gatherBulks env m ⟨0, ['['], []⟩ = .ok g) (sent : g'.sent = g.sent)
      (left : gatherSamples env env.bulkSize g = .ok g') :
      Traced env ⟨.publishing, g.calls, g'⟩

/-- A call of the hook counts and posts nothing. -/
theorem gatherSample_frame {env : GatherEnv} {g g' : Gather} (run : gatherSample env g = .ok g') :
    g'.calls = g.calls + 1 ∧ g'.sent = g.sent := by
  unfold gatherSample at run
  split at run
  · cases run
    exact ⟨rfl, rfl⟩
  · obtain ⟨msg, -, run⟩ := Fault.bind_eq_ok.mp run
    obtain ⟨jsonArray, -, run⟩ := Fault.bind_eq_ok.mp run
    cases run
    exact ⟨rfl, rfl⟩

/-- A bulk whose samples are taken is posted. -/
theorem gatherBulks_publish {env : GatherEnv} {m : Nat} {g g' : Gather}
    (bulks : gatherBulks env m ⟨0, ['['], []⟩ = .ok g) (sent : g'.sent = g.sent)
    (left : gatherSamples env env.bulkSize g = .ok g') :
    gatherBulks env (m + 1) ⟨0, ['['], []⟩ = .ok ⟨g'.calls, ['['], g'.sent ++
      [⟨(List.range' g.calls (g'.calls - g.calls)).map env.hook, closeArray g'.jsonArray⟩]⟩ := by
  rw [gatherBulks_succ, bulks, sent]
  show gatherBulk env g = _
  rw [gatherBulk, left]
  rfl

theorem gathererStep_traced {env : GatherEnv} {running : Bool} {w w' : Gatherer}
    (traced : Traced env w) (made : gathererStep env running w = some w') : Traced env w' := by
  cases traced with
  | starting =>
      unfold gathererStep Gatherer.start at made
      dsimp only at made
      split at made
      · rename_i stored
        cases made
        exact .between (m := 0) (Or.inl rfl) (store_eq_ok_iff.mp stored).1 rfl
      · cases made
  | between idle static bulks =>
      rcases idle with rfl | rfl
      · cases made
        cases running with
        | true => exact .looping static bulks rfl (Nat.zero_le _) rfl
        | false => exact .between (Or.inr rfl) static bulks
      · cases made
  | @looping i m g g' static bulks sent inside left =>
      unfold gathererStep at made
      dsimp only at made
      split at made
      · rename_i more
        split at made
        · rename_i gather sampled
          cases made
          obtain ⟨calls, same⟩ := gatherSample_frame sampled
          refine .sleeping static bulks (same.trans sent) more ?_
          have turn : env.bulkSize - i = env.bulkSize - (i + 1) + 1 := by omega
          rw [left, turn, gatherSamples, sampled, calls, Nat.add_sub_cancel]
          rfl
        · cases made
      · rename_i past
        cases made
        refine .publishing static bulks sent ?_
        have none : env.bulkSize - i = 0 := by omega
        rw [left, none]
        rfl
  | sleeping static bulks sent inside left =>
      cases made
      split
      · rename_i slept
        rw [if_pos slept] at left
        exact .looping static bulks sent inside left
      · rename_i broken
        rw [if_neg broken] at left
        exact .publishing static bulks sent left
  | publishing static bulks sent left =>
      cases made
      exact .between (Or.inl rfl) static (gatherBulks_publish bulks sent left)

/-- A thread that has ended has done what `gatherMetric` does. -/
theorem Traced.finished {env : GatherEnv} {w : Gatherer} (traced : Traced env w)
    (ended : w.next = .finished) : ∃ m, gatherMetric env m = .ok w.gather := by
  cases traced with
  | starting => cases ended
  | @between next m g idle static bulks =>
      refine ⟨m, ?_⟩
      rw [gatherMetric, store_bind, if_pos static]
      exact bulks
  | looping => cases ended
  | sleeping => cases ended
  | publishing => cases ended

theorem gatherSamples_frame {env : GatherEnv} {n : Nat} {g g' : Gather}
    (run : gatherSamples env n g = .ok g') : g.calls ≤ g'.calls ∧ g'.sent = g.sent := by
  induction n generalizing g with
  | zero =>
      cases run
      exact ⟨Nat.le_refl _, rfl⟩
  | succ n ih =>
      obtain ⟨middle, first, run⟩ := Fault.bind_eq_ok.mp run
      obtain ⟨calls, sent⟩ := gatherSample_frame first
      split at run
      · obtain ⟨more, same⟩ := ih run
        exact ⟨by omega, same.trans sent⟩
      · cases run
        exact ⟨by omega, sent⟩

/-- The posts share out the calls of the hook, in order. -/
theorem gatherBulks_shares {env : GatherEnv} {m : Nat} {g g' : Gather}
    (before : g.sent.flatMap Bulk.samples = (List.range g.calls).map env.hook)
    (run : gatherBulks env m g = .ok g') :
    g'.sent.flatMap Bulk.samples = (List.range g'.calls).map env.hook := by
  induction m generalizing g with
  | zero =>
      cases run
      exact before
  | succ m ih =>
      obtain ⟨middle, bulk, run⟩ := Fault.bind_eq_ok.mp run
      refine ih ?_ run
      obtain ⟨sampled, samples, bulk⟩ := Fault.bind_eq_ok.mp bulk
      obtain ⟨later, -⟩ := gatherSamples_frame samples
      cases bulk
      dsimp only
      have joined := List.range'_append_1 (s := 0) (m := g.calls) (n := sampled.calls - g.calls)
      rw [Nat.zero_add, Nat.add_sub_cancel' later] at joined
      rw [List.flatMap_append, before, List.flatMap_singleton, ← List.map_append,
        List.range_eq_range', List.range_eq_range', joined]

/-! ## The threads together -/

section

variable {H : HashTable CText} {apr : AprTerminate} {plugins : LoadedPlugins}
  {envs : Nat → GatherEnv}

/-- The plugin threads that the main thread has joined have ended. -/
def Agent.Joined (plugins : LoadedPlugins) (a : Agent H) : Prop :=
  match a.main with
  | .waiting => True
  | .joining t => ∀ k < t, a.ended k = true
  | .cleaning | .cleaned | .exited => ∀ k < plugins.names.length, a.ended k = true

theorem mainStep_joined {a a' : Agent H} (joined : a.Joined plugins)
    (made : mainStep apr plugins a = some a') : a'.Joined plugins ∧ a'.ended = a.ended := by
  unfold mainStep at made
  unfold Agent.Joined at joined ⊢
  cases hmain : a.main with
  | waiting =>
      simp only [hmain] at made
      split at made
      · cases made
        exact ⟨by simp only [hmain], rfl⟩
      · cases made
        exact ⟨fun k none => absurd none (Nat.not_lt_zero k), rfl⟩
  | joining t =>
      simp only [hmain] at made joined
      split at made
      · split at made
        · rename_i past
          cases made
          refine ⟨?_, rfl⟩
          intro k below
          rcases Nat.lt_succ_iff_lt_or_eq.mp below with before | rfl
          · exact joined k before
          · exact past
        · cases made
      · rename_i all
        cases made
        exact ⟨fun k inside => joined k (by omega), rfl⟩
  | cleaning =>
      simp only [hmain] at made joined
      cases made
      exact ⟨joined, rfl⟩
  | cleaned =>
      simp only [hmain] at made joined
      cases made
      exact ⟨joined, rfl⟩
  | exited => simp [hmain] at made

/-- More plugin threads that have ended. -/
theorem Agent.Joined.mono {a : Agent H} (joined : a.Joined plugins) (t : Nat) :
    Agent.Joined plugins { a with ended := Function.update a.ended t true } := by
  have kept : ∀ k, a.ended k = true → Function.update a.ended t true k = true := by
    intro k past
    by_cases same : k = t
    · rw [same, Function.update_self]
    · rw [Function.update_of_ne same, past]
  unfold Agent.Joined at joined ⊢
  dsimp only
  cases hmain : a.main with
  | waiting => trivial
  | joining t =>
      simp only [hmain] at joined
      exact fun k below => kept k (joined k below)
  | cleaning =>
      simp only [hmain] at joined
      exact fun k inside => kept k (joined k inside)
  | cleaned =>
      simp only [hmain] at joined
      exact fun k inside => kept k (joined k inside)
  | exited =>
      simp only [hmain] at joined
      exact fun k inside => kept k (joined k inside)

theorem checkConfStep_ended {file : IniFile} {a a' : Agent H}
    (made : checkConfStep plugins file a = some a') : a'.ended = a.ended := by
  unfold checkConfStep at made
  split at made
  · cases made
    rfl
  · cases made
    rfl
  · split at made
    · cases made
      rfl
    · cases made
  · cases made
    rfl
  · split at made
    · cases made
      rfl
    · cases made
  · cases made

/-- Every plugin thread is one that runs alone, and the main thread knows of their ends. -/
structure ThreadsInv (plugins : LoadedPlugins) (envs : Nat → GatherEnv) (s : AgentThreads H) :
    Prop where
  stopped : s.agent.Stopped
  joined : s.agent.Joined plugins
  ended : ∀ t, s.agent.ended t = true ↔ (s.gatherers t).next = .finished
  traced : ∀ t, Traced (envs t) (s.gatherers t)

theorem threadsInv_start (st : ParserState H) (t : Timings) :
    ThreadsInv plugins envs (AgentThreads.start st t) where
  stopped := stopped_start st t
  joined := trivial
  ended _ := iff_of_false Bool.false_ne_true GathererAt.noConfusion
  traced _ := .starting

/-- What the agent itself does to the ends of the plugin threads. -/
theorem agentStep_joined {a a' : Agent H} {move : AgentMove} (own : ∀ t, move ≠ .pluginEnds t)
    (joined : a.Joined plugins) (made : agentStep apr plugins a move = some a') :
    a'.Joined plugins ∧ a'.ended = a.ended := by
  unfold agentStep at made
  split at made
  · cases made
  · cases move with
    | signal =>
        cases made
        exact ⟨joined, rfl⟩
    | pluginEnds t => exact absurd rfl (own t)
    | main => exact mainStep_joined joined made
    | checkConf file =>
        have moved := checkConfStep_moved made
        have same := checkConfStep_ended made
        refine ⟨?_, same⟩
        unfold Agent.Joined at joined ⊢
        rw [moved.main, same]
        exact joined

/-- A move is one of the agent, or a step of a plugin thread. -/
theorem threadsStep_cases {s s' : AgentThreads H} {move : ThreadMove}
    (made : threadsStep apr plugins envs s move = some s') :
    (∃ own a, (∀ t, own ≠ .pluginEnds t) ∧ agentStep apr plugins s.agent own = some a ∧
      s' = s.withAgent a) ∨
    ∃ t w, move = .gatherer t ∧ s.agent.main ≠ .exited ∧ t < plugins.names.length ∧
      gathererStep (envs t) s.agent.running (s.gatherers t) = some w ∧ s' = s.withGatherer t w := by
  unfold threadsStep at made
  cases move with
  | signal =>
      obtain ⟨a, step, rfl⟩ := Option.map_eq_some_iff.mp made
      exact Or.inl ⟨.signal, a, fun _ => AgentMove.noConfusion, step, rfl⟩
  | main =>
      obtain ⟨a, step, rfl⟩ := Option.map_eq_some_iff.mp made
      exact Or.inl ⟨.main, a, fun _ => AgentMove.noConfusion, step, rfl⟩
  | checkConf file =>
      obtain ⟨a, step, rfl⟩ := Option.map_eq_some_iff.mp made
      exact Or.inl ⟨.checkConf file, a, fun _ => AgentMove.noConfusion, step, rfl⟩
  | gatherer t =>
      dsimp only at made
      split at made
      · cases made
      · rename_i possible
        rw [not_or, Nat.not_le] at possible
        obtain ⟨w, step, rfl⟩ := Option.map_eq_some_iff.mp made
        exact Or.inr ⟨t, w, rfl, possible.1, possible.2, step, rfl⟩

/-- A plugin thread ends only when `running` is 0. -/
theorem gathererStep_finished {env : GatherEnv} {running : Bool} {w w' : Gatherer}
    (made : gathererStep env running w = some w') (past : w'.next = .finished) :
    running = false := by
  unfold gathererStep at made
  split at made
  · split at made
    · cases made
      cases past
    · cases made
  · cases made
    dsimp only at past
    split at past
    · cases past
    · rename_i stopped
      exact Bool.eq_false_iff.mpr stopped
  · split at made
    · split at made
      · cases made
        cases past
      · cases made
    · cases made
      cases past
  · cases made
    dsimp only at past
    split at past <;> cases past
  · cases made
    cases past
  · cases made

/-- The agent in which a plugin thread just ends is what the threads in full show of it. -/
theorem threadsStep_refines {s s' : AgentThreads H} {move : ThreadMove}
    (made : threadsStep apr plugins envs s move = some s') :
    s'.agent = s.agent ∨ ∃ own, agentStep apr plugins s.agent own = some s'.agent := by
  rcases threadsStep_cases made with ⟨own, a, -, step, rfl⟩ | ⟨t, w, -, moving, -, step, rfl⟩
  · exact Or.inr ⟨own, step⟩
  · by_cases past : w.next = .finished
    · refine Or.inr ⟨.pluginEnds t, ?_⟩
      have stopped := gathererStep_finished step past
      unfold agentStep AgentThreads.withGatherer
      rw [if_neg moving, if_pos past]
      dsimp only
      rw [stopped, if_neg Bool.false_ne_true]
    · refine Or.inl ?_
      unfold AgentThreads.withGatherer
      rw [if_neg past]

/-- A thread that takes its last step has ended, and the others are what they were. -/
theorem withGatherer_ended (s : AgentThreads H) (t : Nat) (w : Gatherer) (k : Nat) :
    (s.withGatherer t w).agent.ended k = true ↔
      s.agent.ended k = true ∨ k = t ∧ w.next = .finished := by
  unfold AgentThreads.withGatherer
  dsimp only
  split
  · rename_i past
    by_cases same : k = t
    · subst same
      simp [past]
    · simp [same]
  · rename_i going
    simp [going]

theorem threadsStep_inv {s s' : AgentThreads H} {move : ThreadMove}
    (inv : ThreadsInv plugins envs s)
    (made : threadsStep apr plugins envs s move = some s') : ThreadsInv plugins envs s' := by
  have stopped : s'.agent.Stopped := by
    rcases threadsStep_refines made with same | ⟨own, step⟩
    · rw [same]
      exact inv.stopped
    · exact agentStep_stopped inv.stopped step
  rcases threadsStep_cases made with ⟨own, a, away, step, rfl⟩ | ⟨t, w, -, -, -, step, rfl⟩
  · obtain ⟨joined, ended⟩ := agentStep_joined away inv.joined step
    refine ⟨stopped, joined, ?_, inv.traced⟩
    intro k
    rw [AgentThreads.withAgent, ended]
    exact inv.ended k
  · have traced := gathererStep_traced (inv.traced t) step
    refine ⟨stopped, ?_, ?_, ?_⟩
    · unfold AgentThreads.withGatherer
      dsimp only
      split
      · exact inv.joined.mono t
      · exact inv.joined
    · intro k
      rw [withGatherer_ended, AgentThreads.withGatherer]
      dsimp only
      by_cases same : k = t
      · subst same
        -- a thread that has ended makes no step
        have alive : ¬ s.agent.ended k = true := by
          intro past
          unfold gathererStep at step
          rw [(inv.ended k).mp past] at step
          cases step
        rw [Function.update_self]
        exact ⟨fun past => (past.resolve_left alive).2, fun past => Or.inr ⟨rfl, past⟩⟩
      · rw [Function.update_of_ne same, ← inv.ended k]
        exact ⟨fun past => past.resolve_right fun both => same both.1, Or.inl⟩
    · intro k
      unfold AgentThreads.withGatherer
      dsimp only
      by_cases same : k = t
      · subst same
        rw [Function.update_self]
        exact traced
      · rw [Function.update_of_ne same]
        exact inv.traced k

theorem threadsInv_run {s s' : AgentThreads H} {moves : List ThreadMove}
    (inv : ThreadsInv plugins envs s)
    (reached : Runs.run (threadsStep apr plugins envs) s moves = some s') :
    ThreadsInv plugins envs s' :=
  Runs.inv_run (P := fun _ _ => True) (fun inv _ => threadsStep_inv inv) inv
    (Runs.each_of_forall (fun _ _ => trivial) _ _) reached

/-- With the libraries closed, the plugin threads have ended. -/
theorem ThreadsInv.finished {s : AgentThreads H} (inv : ThreadsInv plugins envs s)
    (closed : s.agent.Closed) {t : Nat} (inside : t < plugins.names.length) :
    (s.gatherers t).next = .finished := by
  have joined := inv.joined
  unfold Agent.Joined at joined
  rcases closed with cleaning | cleaned | exited
  · rw [cleaning] at joined
    exact (inv.ended t).mp (joined t inside)
  · rw [cleaned] at joined
    exact (inv.ended t).mp (joined t inside)
  · rw [exited] at joined
    exact (inv.ended t).mp (joined t inside)

/-- A plugin thread that has ended stays as it is. -/
theorem threadsStep_finished {s s' : AgentThreads H} {move : ThreadMove} {t : Nat}
    (past : (s.gatherers t).next = .finished)
    (made : threadsStep apr plugins envs s move = some s') : s'.gatherers t = s.gatherers t := by
  rcases threadsStep_cases made with ⟨own, a, -, -, rfl⟩ | ⟨k, w, -, -, -, step, rfl⟩
  · rfl
  · by_cases same : t = k
    · subst same
      unfold gathererStep at step
      rw [past] at step
      cases step
    · exact Function.update_of_ne same _ _

end

/-- One loaded plugin. -/
def onePlugin : LoadedPlugins := ⟨[some "mf_plugin_Linux_resources".toList], by decide⟩

/-- The threads of an agent with that plugin. -/
def oneStart : AgentThreads (HashTable.alist CText) :=
  .start .init ⟨fun _ => 0, fun _ => ⟨0, 0⟩⟩

/-- The signal comes while the plugin thread sleeps in its first bulk. -/
def signalInBulk : List ThreadMove :=
  List.replicate 3 (.gatherer 0) ++ [.signal, .main] ++ List.replicate 6 (.gatherer 0) ++
    [.main, .main]

end PhantomMonitor
