import PhantomMonitor.Agent.Shutdown

/-!
# Accesses to the configuration at the end of the agent

`checkConf` tests `running` at the top of its loop only. When the main thread cleans the store while
`checkConf` is past that test, the rest of the round reads or parses the configuration after the
clean, unless the process exits first.
-/

namespace PhantomMonitor

open CText

variable {H : HashTable CText}

/-- The move calls `mfp_parse`, `mfp_get_value` or `init_timings`. -/
def ConfigAccess (a : Agent H) : AgentMove → Prop
  | .checkConf _ => a.checkConf = .parsing ∨ a.checkConf = .gettingValue ∨ a.checkConf = .updating
  | _ => False

/-- A move accesses the configuration only when the store was not cleaned. -/
def AccessInTime (a : Agent H) (move : AgentMove) : Prop := ConfigAccess a move → a.main ≠ .cleaned

/-- `checkConf` is at the test of its loop, or past its last one. -/
def Agent.ConfIdle (a : Agent H) : Prop := a.checkConf = .testing ∨ a.checkConf = .finished

/-- A move that cleans the store finds `checkConf` idle. -/
def CleansIdle (a : Agent H) : AgentMove → Prop
  | .main => a.main = .cleaning → a.ConfIdle
  | _ => True

instance (a : Agent H) (move : AgentMove) : Decidable (CleansIdle a move) :=
  match move with
  | .main => inferInstanceAs (Decidable (a.main = .cleaning → a.checkConf = .testing ∨ _))
  | .signal | .pluginEnds _ | .checkConf _ => .isTrue trivial

/-- `running` is 0 once the main thread has left its loop. -/
def Agent.Stopped (a : Agent H) : Prop := a.main ≠ .waiting → a.running = false

/-- `checkConf` is idle and stays so. -/
structure Agent.Quiet (a : Agent H) : Prop where
  stopped : a.running = false
  idle : a.ConfIdle

variable {apr : AprTerminate} {plugins : LoadedPlugins}

/-! ## One move -/

/-- A move of the main thread. -/
structure MainMoved (a a' : Agent H) : Prop where
  running : a'.running = a.running
  checkConf : a'.checkConf = a.checkConf
  leaves : a'.main ≠ .waiting → a.main ≠ .waiting ∨ a.running = false
  cleans : a'.main = .cleaned → a.main = .cleaning

theorem mainStep_moved {a a' : Agent H} (made : mainStep apr plugins a = some a') :
    MainMoved a a' := by
  unfold mainStep at made
  cases hmain : a.main with
  | waiting =>
      simp only [hmain] at made
      by_cases hrunning : a.running
      · rw [if_pos hrunning, Option.some.injEq] at made
        subst made
        exact ⟨rfl, rfl, fun away => absurd hmain away, fun cleaned => by simp [hmain] at cleaned⟩
      · rw [if_neg hrunning, Option.some.injEq] at made
        subst made
        have stops : a.running = false := Bool.eq_false_iff.mpr hrunning
        exact ⟨rfl, rfl, fun _ => .inr stops, fun cleaned => nomatch cleaned⟩
  | joining t =>
      have away : a.main ≠ .waiting := by simp [hmain]
      simp only [hmain] at made
      split at made
      · split at made
        · rw [Option.some.injEq] at made
          subst made
          exact ⟨rfl, rfl, fun _ => .inl away, fun cleaned => nomatch cleaned⟩
        · cases made
      · rw [Option.some.injEq] at made
        subst made
        exact ⟨rfl, rfl, fun _ => .inl away, fun cleaned => nomatch cleaned⟩
  | cleaning =>
      have away : a.main ≠ .waiting := by simp [hmain]
      simp only [hmain, Option.some.injEq] at made
      subst made
      exact ⟨rfl, rfl, fun _ => .inl away, fun _ => hmain⟩
  | cleaned =>
      have away : a.main ≠ .waiting := by simp [hmain]
      simp only [hmain, Option.some.injEq] at made
      subst made
      exact ⟨rfl, rfl, fun _ => .inl away, fun cleaned => nomatch cleaned⟩
  | exited => simp [hmain] at made

/-- A move of `checkConf`. Once `running` is 0, an idle thread can only finish. -/
structure CheckConfMoved (a a' : Agent H) : Prop where
  running : a'.running = a.running
  main : a'.main = a.main
  idle : a.running = false → a.ConfIdle → a'.ConfIdle

theorem checkConfStep_moved {file : IniFile} {a a' : Agent H}
    (made : checkConfStep plugins file a = some a') : CheckConfMoved a a' := by
  unfold checkConfStep at made
  have busy {b : Agent H} (h : a.checkConf ≠ .testing) (h' : a.checkConf ≠ .finished) :
      a.running = false → a.ConfIdle → b.ConfIdle := by
    rintro - (idle | idle)
    · exact absurd idle h
    · exact absurd idle h'
  cases hconf : a.checkConf with
  | testing =>
      simp only [hconf, Option.some.injEq] at made
      subst made
      refine ⟨rfl, rfl, ?_⟩
      intro stopped _
      exact .inr (by simp [stopped])
  | parsing =>
      simp only [hconf, Option.some.injEq] at made
      subst made
      exact ⟨rfl, rfl, busy (by simp [hconf]) (by simp [hconf])⟩
  | gettingValue =>
      simp only [hconf] at made
      split at made
      · rw [Option.some.injEq] at made
        subst made
        exact ⟨rfl, rfl, busy (by simp [hconf]) (by simp [hconf])⟩
      · cases made
  | sleeping =>
      simp only [hconf, Option.some.injEq] at made
      subst made
      exact ⟨rfl, rfl, busy (by simp [hconf]) (by simp [hconf])⟩
  | updating =>
      simp only [hconf] at made
      split at made
      · rw [Option.some.injEq] at made
        subst made
        exact ⟨rfl, rfl, fun _ _ => .inl rfl⟩
      · cases made
  | finished => simp [hconf] at made

theorem agentStep_stopped {a a' : Agent H} {move : AgentMove} (stopped : a.Stopped)
    (made : agentStep apr plugins a move = some a') : a'.Stopped := by
  unfold agentStep at made
  split at made
  · cases made
  · cases move with
    | signal =>
        rw [Option.some.injEq] at made
        subst made
        exact fun _ => rfl
    | pluginEnds t =>
        simp only at made
        split at made
        · cases made
        · rw [Option.some.injEq] at made
          subst made
          exact stopped
    | main =>
        have moved := mainStep_moved made
        intro away
        rw [moved.running]
        rcases moved.leaves away with left | stops
        · exact stopped left
        · exact stops
    | checkConf file =>
        have moved := checkConfStep_moved made
        rw [Agent.Stopped, moved.running, moved.main]
        exact stopped

theorem agentStep_quiet {a a' : Agent H} {move : AgentMove} (quiet : a.Quiet)
    (made : agentStep apr plugins a move = some a') : a'.Quiet := by
  unfold agentStep at made
  split at made
  · cases made
  · cases move with
    | signal =>
        rw [Option.some.injEq] at made
        subst made
        exact ⟨rfl, quiet.idle⟩
    | pluginEnds t =>
        simp only at made
        split at made
        · cases made
        · rw [Option.some.injEq] at made
          subst made
          exact ⟨quiet.stopped, quiet.idle⟩
    | main =>
        have moved := mainStep_moved made
        constructor
        · rw [moved.running]
          exact quiet.stopped
        · rw [Agent.ConfIdle, moved.checkConf]
          exact quiet.idle
    | checkConf file =>
        have moved := checkConfStep_moved made
        constructor
        · rw [moved.running]
          exact quiet.stopped
        · exact moved.idle quiet.stopped quiet.idle

/-- The store becomes cleaned by a move of the main thread that cleans it. -/
theorem agentStep_cleaned {a a' : Agent H} {move : AgentMove} (idle : CleansIdle a move)
    (made : agentStep apr plugins a move = some a') (before : a.main ≠ .cleaned)
    (cleaned : a'.main = .cleaned) : a'.ConfIdle := by
  unfold agentStep at made
  split at made
  · cases made
  · cases move with
    | signal =>
        rw [Option.some.injEq] at made
        subst made
        exact absurd cleaned before
    | pluginEnds t =>
        simp only at made
        split at made
        · cases made
        · rw [Option.some.injEq] at made
          subst made
          exact absurd cleaned before
    | main =>
        have moved := mainStep_moved made
        rw [Agent.ConfIdle, moved.checkConf]
        exact idle (moved.cleans cleaned)
    | checkConf file => exact absurd ((checkConfStep_moved made).main ▸ cleaned) before

/-- `checkConf` is idle when the store is cleaned. -/
structure ShutdownInv (a : Agent H) : Prop where
  stopped : a.Stopped
  idle : a.main = .cleaned → a.ConfIdle

theorem stopped_start (st : ParserState H) (t : Timings) : (Agent.start st t).Stopped :=
  fun away => absurd rfl away

theorem shutdownInv_start (st : ParserState H) (t : Timings) :
    ShutdownInv (Agent.start st t) where
  stopped := stopped_start st t
  idle cleaned := nomatch cleaned

theorem agentStep_inv {a a' : Agent H} {move : AgentMove} (inv : ShutdownInv a)
    (idle : CleansIdle a move) (made : agentStep apr plugins a move = some a') :
    ShutdownInv a' := by
  refine ⟨agentStep_stopped inv.stopped made, ?_⟩
  by_cases before : a.main = .cleaned
  · have quiet : a.Quiet := ⟨inv.stopped (by simp [before]), inv.idle before⟩
    exact fun _ => (agentStep_quiet quiet made).idle
  · exact agentStep_cleaned idle made before

/-- An idle `checkConf` does not access the configuration next. -/
theorem Agent.ConfIdle.no_access {a : Agent H} (idle : a.ConfIdle) (move : AgentMove) :
    ¬ ConfigAccess a move := by
  intro access
  cases move with
  | signal => exact access
  | pluginEnds t => exact access
  | main => exact access
  | checkConf file => rcases idle with idle | idle <;> simp [ConfigAccess, idle] at access

/-! ## Runs -/

/-- From a clean of the store under a busy `checkConf`, the round of `checkConf` goes on. -/
theorem access_after_busy_clean (apr : AprTerminate) (plugins : LoadedPlugins) {a : Agent H}
    (cleaning : a.main = .cleaning) (busy : ¬ a.ConfIdle) :
    ∃ moves, ¬ Runs.Each (agentStep apr plugins) AccessInTime a moves := by
  have cleans : agentStep apr plugins a .main =
      some { a with main := .cleaned, store := mfpParseClean apr a.store } := by
    simp [agentStep, mainStep, cleaning]
  cases hconf : a.checkConf with
  | testing => exact absurd (.inl hconf) busy
  | finished => exact absurd (.inr hconf) busy
  | parsing =>
      refine ⟨[.main, .checkConf .notOpened], ?_⟩
      intro each
      exact (each.2 _ cleans).1 (.inl hconf) rfl
  | gettingValue =>
      refine ⟨[.main, .checkConf .notOpened], ?_⟩
      intro each
      exact (each.2 _ cleans).1 (.inr (.inl hconf)) rfl
  | updating =>
      refine ⟨[.main, .checkConf .notOpened], ?_⟩
      intro each
      exact (each.2 _ cleans).1 (.inr (.inr hconf)) rfl
  | sleeping =>
      refine ⟨[.main, .checkConf .notOpened, .checkConf .notOpened], ?_⟩
      intro each
      have wakes : agentStep apr plugins
          { a with main := .cleaned, store := mfpParseClean apr a.store } (.checkConf .notOpened) =
            some { a with main := .cleaned, store := mfpParseClean apr a.store,
                          checkConf := .updating } := by
        simp [agentStep, checkConfStep, hconf]
      exact ((each.2 _ cleans).2 _ wakes).1 (.inr (.inr rfl)) rfl

/-- In a run whose cleans find `checkConf` idle, nothing accesses the configuration between the
clean and the exit; and from a state in which the store is about to be cleaned no run does so
exactly when `checkConf` is idle there. -/
theorem access_in_time_iff_cleans_idle (H : HashTable CText) (apr : AprTerminate)
    (plugins : LoadedPlugins) (st : ParserState H) (t : Timings) :
    (∀ moves, Runs.Each (agentStep apr plugins) CleansIdle (Agent.start st t) moves →
      Runs.Each (agentStep apr plugins) AccessInTime (Agent.start st t) moves) ∧
    ∀ before a, Runs.run (agentStep apr plugins) (Agent.start st t) before = some a →
      a.main = .cleaning →
        ((∀ after, Runs.Each (agentStep apr plugins) AccessInTime a after) ↔ a.ConfIdle) := by
  constructor
  · intro moves each
    refine Runs.Each.mono agentStep_inv ?_ (shutdownInv_start st t) each
    intro a move inv _ access cleaned
    exact (inv.idle cleaned).no_access move access
  · intro before a reached cleaning
    have stopped : a.Stopped :=
      Runs.inv_run (fun stopped _ => agentStep_stopped stopped) (stopped_start st t)
        (Runs.each_of_forall (fun _ _ => trivial) _ _) reached
    constructor
    · intro inTime
      apply of_not_not
      intro busy
      obtain ⟨moves, access⟩ := access_after_busy_clean apr plugins cleaning busy
      exact access (inTime moves)
    · intro idle after
      have quiet : a.Quiet := ⟨stopped (by simp [cleaning]), idle⟩
      refine Runs.Each.mono (fun quiet _ => agentStep_quiet quiet) ?_ quiet
        (Runs.each_of_forall (fun _ _ => trivial) _ _)
      intro a move quiet _ access
      exact absurd access (quiet.idle.no_access move)

/-- The agent behind its first parse of an empty file, without plugins. -/
def emptyAgent : Agent (HashTable.alist CText) :=
  .start (mfpParse .init (.opened [] 0)).1 ⟨fun _ => 0, fun _ => ⟨0, 0⟩⟩

/-- A round of `checkConf`, and a signal that finds it at the test of its loop. -/
def idleMoves : List AgentMove :=
  [.checkConf .notOpened, .checkConf (.opened [] 0), .checkConf .notOpened, .checkConf .notOpened,
    .checkConf .notOpened, .signal, .main, .main, .checkConf .notOpened, .main, .main]

theorem access_in_time_iff_cleans_idle_signal :
    (Runs.run (agentStep .counted ⟨[], Nat.zero_le _⟩) emptyAgent idleMoves).map Agent.main =
        some .exited ∧
      Runs.Each (agentStep .counted ⟨[], Nat.zero_le _⟩) AccessInTime emptyAgent idleMoves := by
  refine ⟨by decide +kernel, ?_⟩
  refine (access_in_time_iff_cleans_idle (HashTable.alist CText) .counted ⟨[], Nat.zero_le _⟩ _ _).1
    idleMoves ?_
  decide +kernel

/-- The signal comes while `checkConf` sleeps: the main thread cleans the store, and `checkConf`
then calls `init_timings`. -/
theorem init_timings_after_clean :
    ¬ ∀ moves, Runs.Each (agentStep .counted ⟨[], Nat.zero_le _⟩) AccessInTime
        emptyAgent moves := by
  intro inTime
  have each := inTime ([.checkConf .notOpened, .checkConf (.opened [] 0), .checkConf .notOpened,
    .signal, .main, .main, .main, .checkConf .notOpened] ++ [.checkConf .notOpened])
  exact Runs.Each.at each rfl (.inr (.inr rfl)) rfl

end PhantomMonitor
