import Mathlib.Algebra.BigOperators.Group.Finset.Basic
import Mathlib.Algebra.Order.BigOperators.Group.Finset
import PhantomMonitor.Agent.Proofs.GathererThreads

/-!
# How the agent comes to its end

After the signal, a plugin thread finishes its bulk, posts it and ends; the main thread joins it and
goes on to `exit`. No party waits for another one for ever, and each has few steps left.
-/

namespace PhantomMonitor

open CText

/-! ## Steps that are left -/

/-- The steps that a plugin thread has left at most when `running` is 0. -/
def stepsLeft (env : GatherEnv) (w : Gatherer) : Nat :=
  match w.next with
  | .starting => 2
  | .testing => 1
  | .looping i => 2 * (env.bulkSize - i) + 3
  | .sleeping i => 2 * (env.bulkSize - (i + 1)) + 4
  | .publishing => 2
  | .finished => 0

/-- The calls of the hook that a plugin thread has left at most when `running` is 0. -/
def callsLeft (env : GatherEnv) (w : Gatherer) : Nat :=
  match w.next with
  | .looping i => env.bulkSize - i
  | .sleeping i => env.bulkSize - (i + 1)
  | .starting | .testing | .publishing | .finished => 0

/-- The posts that a plugin thread has left when `running` is 0. -/
def postsLeft (w : Gatherer) : Nat :=
  match w.next with
  | .looping _ | .sleeping _ | .publishing => 1
  | .starting | .testing | .finished => 0

theorem stepsLeft_le (env : GatherEnv) (w : Gatherer) : stepsLeft env w ≤ 2 * env.bulkSize + 4 := by
  unfold stepsLeft
  split <;> omega

theorem callsLeft_le (env : GatherEnv) (w : Gatherer) : callsLeft env w ≤ env.bulkSize := by
  unfold callsLeft
  split <;> omega

theorem postsLeft_le (w : Gatherer) : postsLeft w ≤ 1 := by
  unfold postsLeft
  split <;> omega

/-- What a step of a plugin thread costs when `running` is 0. -/
structure Spent (env : GatherEnv) (w w' : Gatherer) : Prop where
  steps : stepsLeft env w' < stepsLeft env w
  calls : w'.gather.calls + callsLeft env w' ≤ w.gather.calls + callsLeft env w
  posts : w'.gather.sent.length + postsLeft w' ≤ w.gather.sent.length + postsLeft w

theorem gathererStep_spent {env : GatherEnv} {w w' : Gatherer}
    (made : gathererStep env false w = some w') : Spent env w w' := by
  obtain ⟨next, firstCall, g⟩ := w
  cases next with
  | starting =>
      unfold gathererStep at made
      dsimp only at made
      split at made
      · cases made
        exact ⟨Nat.lt_succ_self 1, Nat.le_refl _, Nat.le_refl _⟩
      · cases made
  | testing =>
      cases made
      exact ⟨Nat.lt_succ_self 0, Nat.le_refl _, Nat.le_refl _⟩
  | looping i =>
      unfold gathererStep at made
      dsimp only at made
      split at made
      · rename_i more
        split at made
        · rename_i gather sampled
          cases made
          obtain ⟨calls, sent⟩ := gatherSample_frame sampled
          refine ⟨?_, ?_, ?_⟩
          · simp only [stepsLeft]
            omega
          · simp only [callsLeft, calls]
            omega
          · simp only [postsLeft, sent]
            omega
        · cases made
      · cases made
        refine ⟨?_, ?_, Nat.le_refl _⟩
        · simp only [stepsLeft]
          omega
        · simp only [callsLeft]
          omega
  | sleeping i =>
      unfold gathererStep at made
      dsimp only at made
      split at made
      · cases made
        refine ⟨?_, Nat.le_refl _, Nat.le_refl _⟩
        simp only [stepsLeft]
        omega
      · cases made
        refine ⟨?_, ?_, Nat.le_refl _⟩
        · simp only [stepsLeft]
          omega
        · simp only [callsLeft]
          omega
  | publishing =>
      cases made
      refine ⟨Nat.lt_succ_self 1, Nat.le_refl _, ?_⟩
      simp only [postsLeft, List.length_append, List.length_singleton]
      omega
  | finished => cases made

section

variable {H : HashTable CText} {apr : AprTerminate} {plugins : LoadedPlugins}
  {envs : Nat → GatherEnv}

/-- The steps that the main thread has left when `running` is 0. -/
def mainLeft (plugins : LoadedPlugins) (a : Agent H) : Nat :=
  match a.main with
  | .waiting => plugins.names.length + 4
  | .joining t => plugins.names.length - t + 3
  | .cleaning => 2
  | .cleaned => 1
  | .exited => 0

/-- The steps that `checkConf` has left when `running` is 0. -/
def confLeft (a : Agent H) : Nat :=
  match a.checkConf with
  | .parsing => 5
  | .gettingValue => 4
  | .sleeping => 3
  | .updating => 2
  | .testing => 1
  | .finished => 0

theorem mainStep_left {a a' : Agent H} (stopped : a.running = false)
    (made : mainStep apr plugins a = some a') :
    mainLeft plugins a' < mainLeft plugins a ∧ confLeft a' = confLeft a ∧
    a'.running = a.running := by
  have moved := mainStep_moved made
  have conf : confLeft a' = confLeft a := by
    unfold confLeft
    rw [moved.checkConf]
  refine ⟨?_, conf, moved.running⟩
  unfold mainStep at made
  unfold mainLeft
  cases hmain : a.main with
  | waiting =>
      simp only [hmain, stopped] at made
      cases made
      exact Nat.lt_succ_self _
  | joining t =>
      simp only [hmain] at made
      split at made
      · split at made
        · cases made
          dsimp only
          omega
        · cases made
      · cases made
        dsimp only
        omega
  | cleaning =>
      simp only [hmain] at made
      cases made
      exact Nat.lt_succ_self _
  | cleaned =>
      simp only [hmain] at made
      cases made
      exact Nat.lt_succ_self _
  | exited => simp [hmain] at made

theorem checkConfStep_left {file : IniFile} {a a' : Agent H} (stopped : a.running = false)
    (made : checkConfStep plugins file a = some a') :
    confLeft a' < confLeft a ∧ mainLeft plugins a' = mainLeft plugins a ∧
    a'.running = a.running := by
  have moved := checkConfStep_moved made
  have main : mainLeft plugins a' = mainLeft plugins a := by
    unfold mainLeft
    rw [moved.main]
  refine ⟨?_, main, moved.running⟩
  unfold checkConfStep at made
  unfold confLeft
  cases hconf : a.checkConf with
  | testing =>
      simp only [hconf, stopped] at made
      cases made
      exact Nat.lt_succ_self _
  | parsing =>
      simp only [hconf] at made
      cases made
      exact Nat.lt_succ_self _
  | gettingValue =>
      simp only [hconf] at made
      split at made
      · cases made
        exact Nat.lt_succ_self _
      · cases made
  | sleeping =>
      simp only [hconf] at made
      cases made
      exact Nat.lt_succ_self _
  | updating =>
      simp only [hconf] at made
      split at made
      · cases made
        exact Nat.lt_succ_self _
      · cases made
  | finished => simp [hconf] at made

/-- The steps that all threads have left when `running` is 0. -/
def threadsLeft (plugins : LoadedPlugins) (envs : Nat → GatherEnv) (s : AgentThreads H) : Nat :=
  mainLeft plugins s.agent + confLeft s.agent +
    (Finset.range plugins.names.length).sum fun k => stepsLeft (envs k) (s.gatherers k)

theorem threadsLeft_le (s : AgentThreads H) :
    threadsLeft plugins envs s ≤ plugins.names.length + 9 +
      (Finset.range plugins.names.length).sum fun k => 2 * (envs k).bulkSize + 4 := by
  have main : mainLeft plugins s.agent ≤ plugins.names.length + 4 := by
    unfold mainLeft
    split <;> omega
  have conf : confLeft s.agent ≤ 5 := by
    unfold confLeft
    split <;> omega
  have threads := Finset.sum_le_sum fun k (_ : k ∈ Finset.range plugins.names.length) =>
    stepsLeft_le (envs k) (s.gatherers k)
  unfold threadsLeft
  omega

/-- A step of a plugin thread is one step less for all of them. -/
theorem threadsLeft_gatherer {s : AgentThreads H} {t : Nat} (inside : t < plugins.names.length)
    {w : Gatherer} (less : stepsLeft (envs t) w < stepsLeft (envs t) (s.gatherers t)) :
    threadsLeft plugins envs (s.withGatherer t w) < threadsLeft plugins envs s := by
  have agent : mainLeft plugins (s.withGatherer t w).agent = mainLeft plugins s.agent ∧
      confLeft (s.withGatherer t w).agent = confLeft s.agent := by
    unfold AgentThreads.withGatherer
    dsimp only
    split <;> exact ⟨rfl, rfl⟩
  have threads : ((Finset.range plugins.names.length).sum fun k =>
      stepsLeft (envs k) ((s.withGatherer t w).gatherers k)) <
        (Finset.range plugins.names.length).sum fun k => stepsLeft (envs k) (s.gatherers k) := by
    refine Runs.sum_lt_of_one inside ?_ ?_
    · unfold AgentThreads.withGatherer
      dsimp only
      rw [Function.update_self]
      exact less
    · intro k other
      unfold AgentThreads.withGatherer
      dsimp only
      rw [Function.update_of_ne other]
  unfold threadsLeft
  omega

/-- The move is not another signal. -/
def ThreadMove.isStep : ThreadMove → Bool
  | signal => false
  | main | checkConf _ | gatherer _ => true

/-- Once `running` is 0 it stays so, and every step counts. -/
structure StepLeft (plugins : LoadedPlugins) (envs : Nat → GatherEnv) (s s' : AgentThreads H)
    (move : ThreadMove) : Prop where
  stopped : s'.agent.running = false
  step : move.isStep = true → threadsLeft plugins envs s' < threadsLeft plugins envs s
  signal : move.isStep = false → threadsLeft plugins envs s' = threadsLeft plugins envs s

theorem threadsStep_left {s s' : AgentThreads H} {move : ThreadMove}
    (stopped : s.agent.running = false)
    (made : threadsStep apr plugins envs s move = some s') : StepLeft plugins envs s s' move := by
  unfold threadsStep at made
  cases move with
  | signal =>
      obtain ⟨a, step, rfl⟩ := Option.map_eq_some_iff.mp made
      unfold agentStep at step
      split at step
      · cases step
      · cases step
        exact ⟨rfl, fun other => absurd other Bool.false_ne_true, fun _ => rfl⟩
  | main =>
      obtain ⟨a, step, rfl⟩ := Option.map_eq_some_iff.mp made
      unfold agentStep at step
      split at step
      · cases step
      · obtain ⟨main, conf, running⟩ := mainStep_left stopped step
        refine ⟨running.trans stopped, fun _ => ?_,
          fun other => absurd other.symm Bool.false_ne_true⟩
        unfold threadsLeft AgentThreads.withAgent
        dsimp only
        omega
  | checkConf file =>
      obtain ⟨a, step, rfl⟩ := Option.map_eq_some_iff.mp made
      unfold agentStep at step
      split at step
      · cases step
      · obtain ⟨conf, main, running⟩ : confLeft a < confLeft s.agent ∧
            mainLeft plugins a = mainLeft plugins s.agent ∧ a.running = s.agent.running :=
          checkConfStep_left stopped step
        refine ⟨running.trans stopped, fun _ => ?_,
          fun other => absurd other.symm Bool.false_ne_true⟩
        unfold threadsLeft AgentThreads.withAgent
        dsimp only
        omega
  | gatherer t =>
      dsimp only at made
      split at made
      · cases made
      · rename_i possible
        rw [not_or, Nat.not_le] at possible
        obtain ⟨w, step, rfl⟩ := Option.map_eq_some_iff.mp made
        rw [stopped] at step
        refine ⟨?_, fun _ => threadsLeft_gatherer possible.2 (gathererStep_spent step).steps,
          fun other => absurd other.symm Bool.false_ne_true⟩
        unfold AgentThreads.withGatherer
        dsimp only
        split <;> exact stopped

/-! ## No thread waits for ever -/

/-- A plugin thread whose texts fit can move until it has ended. -/
theorem gathererStep_possible {env : GatherEnv} (fits : ∀ m, ∃ g, gatherMetric env m = .ok g)
    {w : Gatherer} (traced : Traced env w) (alive : w.next ≠ .finished) (running : Bool) :
    ∃ w', gathererStep env running w = some w' := by
  cases traced with
  | starting =>
      obtain ⟨g, run⟩ := fits 0
      obtain ⟨static, stored, -⟩ := Fault.bind_eq_ok.mp run
      unfold gathererStep Gatherer.start
      dsimp only
      rw [stored]
      exact ⟨_, rfl⟩
  | between idle =>
      rcases idle with rfl | rfl
      · exact ⟨_, rfl⟩
      · exact absurd rfl alive
  | @looping i m g g' static bulks sent inside left =>
      unfold gathererStep
      dsimp only
      split
      · rename_i more
        obtain ⟨whole, run⟩ := fits (m + 1)
        obtain ⟨text, -, run⟩ := Fault.bind_eq_ok.mp run
        rw [gatherBulks_succ, bulks] at run
        have bulk : gatherBulk env g = .ok whole := run
        obtain ⟨sampled, samples, -⟩ := Fault.bind_eq_ok.mp bulk
        have turn : env.bulkSize - i = env.bulkSize - (i + 1) + 1 := by omega
        rw [left, turn] at samples
        obtain ⟨first, sample, -⟩ := Fault.bind_eq_ok.mp samples
        rw [sample]
        exact ⟨_, rfl⟩
      · exact ⟨_, rfl⟩
  | sleeping => exact ⟨_, rfl⟩
  | publishing => exact ⟨_, rfl⟩

/-- As long as the agent has not exited, the main thread can move, or the plugin thread that it
waits for. -/
theorem threadsStep_possible {s : AgentThreads H} (inv : ThreadsInv plugins envs s)
    (stopped : s.agent.running = false)
    (fits : ∀ k < plugins.names.length, ∀ m, ∃ g, gatherMetric (envs k) m = .ok g)
    (going : s.agent.main ≠ .exited) :
    ∃ move s', (move = .main ∨ ∃ k, move = .gatherer k) ∧
      threadsStep apr plugins envs s move = some s' := by
  have moves : ∀ a, mainStep apr plugins s.agent = some a → ∃ move s',
      (move = .main ∨ ∃ k, move = .gatherer k) ∧
        threadsStep apr plugins envs s move = some s' := by
    intro a step
    refine ⟨.main, s.withAgent a, Or.inl rfl, ?_⟩
    unfold threadsStep agentStep
    dsimp only
    rw [if_neg going, step]
    rfl
  cases hmain : s.agent.main with
  | waiting =>
      refine moves { s.agent with main := .joining 0 } ?_
      unfold mainStep
      rw [hmain]
      dsimp only
      rw [if_neg (by rw [stopped]; exact Bool.false_ne_true)]
  | joining t =>
      by_cases inside : t < plugins.names.length
      · by_cases past : s.agent.ended t = true
        · refine moves { s.agent with main := .joining (t + 1) } ?_
          unfold mainStep
          rw [hmain]
          dsimp only
          rw [if_pos inside, if_pos past]
        · have alive : (s.gatherers t).next ≠ .finished := fun done => past ((inv.ended t).mpr done)
          obtain ⟨w, step⟩ :=
            gathererStep_possible (fits t inside) (inv.traced t) alive s.agent.running
          refine ⟨.gatherer t, s.withGatherer t w, Or.inr ⟨t, rfl⟩, ?_⟩
          unfold threadsStep
          dsimp only
          rw [if_neg, step]
          · rfl
          · rw [not_or, Nat.not_le]
            exact ⟨going, inside⟩
      · refine moves { s.agent with main := .cleaning } ?_
        unfold mainStep
        rw [hmain]
        dsimp only
        rw [if_neg inside]
  | cleaning =>
      refine moves { s.agent with main := .cleaned, store := mfpParseClean apr s.agent.store } ?_
      unfold mainStep
      rw [hmain]
  | cleaned =>
      refine moves { s.agent with main := .exited } ?_
      unfold mainStep
      rw [hmain]
  | exited => exact absurd hmain going

/-- The calls and the posts of a plugin thread stay within what it had left. -/
theorem gatherer_bounded {s s' : AgentThreads H} {after : List ThreadMove}
    (stopped : s.agent.running = false)
    (later : Runs.run (threadsStep apr plugins envs) s after = some s') (k : Nat) :
    (s'.gatherers k).gather.calls ≤ (s.gatherers k).gather.calls + (envs k).bulkSize ∧
      (s'.gatherers k).gather.sent.length ≤ (s.gatherers k).gather.sent.length + 1 := by
  let Within := fun s₁ : AgentThreads H => s₁.agent.running = false ∧
    (s₁.gatherers k).gather.calls + callsLeft (envs k) (s₁.gatherers k) ≤
      (s.gatherers k).gather.calls + (envs k).bulkSize ∧
    (s₁.gatherers k).gather.sent.length + postsLeft (s₁.gatherers k) ≤
      (s.gatherers k).gather.sent.length + 1
  have start : Within s :=
    ⟨stopped, Nat.add_le_add_left (callsLeft_le _ _) _, Nat.add_le_add_left (postsLeft_le _) _⟩
  have step : ∀ {s₁ move s₂}, Within s₁ → threadsStep apr plugins envs s₁ move = some s₂ →
      Within s₂ := by
    intro s₁ move s₂ within made
    obtain ⟨stopped₁, calls, posts⟩ := within
    have stopped₂ := (threadsStep_left stopped₁ made).stopped
    rcases threadsStep_cases made with ⟨own, a, -, -, rfl⟩ | ⟨t, w, -, -, -, step, rfl⟩
    · exact ⟨stopped₂, calls, posts⟩
    · refine ⟨stopped₂, ?_⟩
      unfold AgentThreads.withGatherer
      dsimp only
      by_cases same : k = t
      · subst same
        rw [stopped₁] at step
        have spent := gathererStep_spent step
        rw [Function.update_self]
        exact ⟨spent.calls.trans calls, spent.posts.trans posts⟩
      · rw [Function.update_of_ne same]
        exact ⟨calls, posts⟩
  obtain ⟨-, calls, posts⟩ := Runs.inv_run (P := fun _ _ => True)
      (fun within _ => step within) start
    (Runs.each_of_forall (fun _ _ => trivial) _ _) later
  omega

/-- After the signal the agent comes to its end. All threads together have a bounded number of steps
left; a hook is called for the rest of one bulk at most, and its thread posts at most once; and
until the agent exits, the main thread or a plugin thread can move, whatever `checkConf` does. -/
theorem threads_end (st : ParserState H) (t : Timings) {before after : List ThreadMove}
    {s s' : AgentThreads H}
    (reached : Runs.run (threadsStep apr plugins envs) (AgentThreads.start st t) before = some s)
    (stopped : s.agent.running = false)
    (later : Runs.run (threadsStep apr plugins envs) s after = some s') :
    after.countP ThreadMove.isStep ≤ plugins.names.length + 9 +
        (Finset.range plugins.names.length).sum (fun k => 2 * (envs k).bulkSize + 4) ∧
      (∀ k, (s'.gatherers k).gather.calls ≤ (s.gatherers k).gather.calls + (envs k).bulkSize ∧
        (s'.gatherers k).gather.sent.length ≤ (s.gatherers k).gather.sent.length + 1) ∧
      ((∀ k < plugins.names.length, ∀ m, ∃ g, gatherMetric (envs k) m = .ok g) →
        s'.agent.main ≠ .exited → ∃ move s'', (move = .main ∨ ∃ k, move = .gatherer k) ∧
          threadsStep apr plugins envs s' move = some s'') := by
  refine ⟨?_, gatherer_bounded stopped later, ?_⟩
  · have count := Runs.count_le_of_measure (threadsLeft plugins envs) ThreadMove.isStep
      (fun _ _ _ stopped made => (threadsStep_left stopped made).stopped)
      (fun _ _ _ stopped step made => (threadsStep_left stopped made).step step)
      (fun _ _ _ stopped other made => Nat.le_of_eq ((threadsStep_left stopped made).signal other))
      stopped later
    have bound : threadsLeft plugins envs s ≤ _ := threadsLeft_le s
    omega
  · intro fits going
    have inv := threadsInv_run (threadsInv_run (threadsInv_start st t) reached) later
    have stopped' : s'.agent.running = false :=
      Runs.inv_run (P := fun _ _ => True)
        (fun stopped _ made => (threadsStep_left stopped made).stopped)
        stopped (Runs.each_of_forall (fun _ _ => trivial) _ _) later
    exact threadsStep_possible inv stopped' fits going

end

theorem threads_end_one : ∃ s',
    Runs.run (threadsStep .counted onePlugin fun _ => earlyEnv) oneStart
        (signalInBulk.take 4 ++ signalInBulk.drop 4) = some s' ∧
      (s'.gatherers 0).gather.calls ≤ 1 + 2 ∧
      ∃ move s'', (move = .main ∨ ∃ k, move = .gatherer k) ∧
        threadsStep .counted onePlugin (fun _ => earlyEnv) s' move = some s'' := by
  have start : (Runs.run (threadsStep .counted onePlugin fun _ => earlyEnv) oneStart
      (signalInBulk.take 4)).map (fun s => (s.agent.running, (s.gatherers 0).gather.calls)) =
        some (false, 1) := by
    decide +kernel
  have whole : (Runs.run (threadsStep .counted onePlugin fun _ => earlyEnv) oneStart
      (signalInBulk.take 4 ++ signalInBulk.drop 4)).map (fun s => s.agent.main) =
        some .cleaning := by
    decide +kernel
  obtain ⟨s, reached, state⟩ := Option.map_eq_some_iff.mp start
  obtain ⟨stopped, calls⟩ := Prod.mk.inj state
  obtain ⟨s', run, cleaning⟩ := Option.map_eq_some_iff.mp whole
  have later := Runs.run_of_append reached run
  obtain ⟨-, bounds, moves⟩ := threads_end .init _ reached stopped later
  have bound := (bounds 0).1
  rw [calls] at bound
  have going : s'.agent.main ≠ .exited := by
    rw [cleaning]
    decide
  exact ⟨s', run, bound, moves (fun _ _ m => (earlyEnv_fits m).runs (by decide)) going⟩

end PhantomMonitor
