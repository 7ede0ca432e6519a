import PhantomMonitor.Api.Proofs.MonitorThreads

/-!
# How `mf_end` returns

`mf_end` clears `running` and waits for the threads in turn. A thread that sleeps samples once more
and prints its line; then it finds `running` cleared, closes its file and ends.
-/

namespace PhantomMonitor

open CText

/-! ## Moves that are left -/

section

variable {c : MonitorCode}

/-- The moves that a monitor has left when `running` is 0. -/
def MonitorThread.stepsLeft : MonitorThread c → Nat
  | .entering => 3
  | .looping .sleeping _ _ => 3
  | .looping .testing _ _ => 2
  | .looping .closing _ _ => 1
  | .finished => 0

/-- The iterations that a monitor has left when `running` is 0. -/
def MonitorThread.iterationsLeft : MonitorThread c → Nat
  | .looping .sleeping _ _ => 1
  | .entering | .looping .testing _ _ | .looping .closing _ _ | .finished => 0

theorem MonitorThread.stepsLeft_le (m : MonitorThread c) : m.stepsLeft ≤ 3 := by
  unfold MonitorThread.stepsLeft
  split <;> omega

theorem MonitorThread.iterationsLeft_le (m : MonitorThread c) : m.iterationsLeft ≤ 1 := by
  unfold MonitorThread.iterationsLeft
  split <;> omega

end

/-- The moves that the user's thread has left in `mf_end`. -/
def UserAt.stepsLeft (count : Nat) : UserAt → Nat
  | .joining t => count - t + 1
  | .creating _ | .refused _ | .working | .joiningRefused _ _ | .ended => 0

section

variable {codes : Nat → MonitorCode} {count : Nat} {paths : Nat → CText}

/-- A move of a thread; the C library writes on its own. -/
def ApiMove.isStep : ApiMove codes → Bool
  | .flush _ _ => false
  | .user | .refuse | .enter _ _ | .advance _ | .sample _ _ => true

/-- A session in or behind `mf_end`, with all threads created. -/
structure Ending (s : ApiThreads codes) : Prop where
  stopped : s.running = false
  user : (∃ t, s.user = .joining t) ∨ s.user = .ended

theorem Ending.inside {s : ApiThreads codes} (ending : Ending s) {t : Nat}
    (created : s.Created count t) : t < count := by
  unfold ApiThreads.Created at created
  rcases ending.user with ⟨v, joining⟩ | ended
  · rw [joining] at created
    exact created
  · rw [ended] at created
    exact created

/-- What a move of thread `t` leaves of its own, where the process goes on. -/
structure MovesOn (t : Nat) (s s' : ApiThreads codes) : Prop where
  running : s'.running = s.running
  user : s'.user = s.user
  exited : s'.exited = s.exited
  others : ∀ u ≠ t, s'.monitors u = s.monitors u

theorem movesOn_monitor {s : ApiThreads codes} {t : Nat} (m : MonitorThread (codes t)) :
    MovesOn t s (s.withMonitor t m) :=
  ⟨rfl, rfl, rfl, fun _ other => Function.update_of_ne other _ _⟩

theorem movesOn_write {s : ApiThreads codes} {t : Nat} (path text : CText)
    (m : MonitorThread (codes t)) : MovesOn t s ((s.write path text).withMonitor t m) :=
  ⟨rfl, rfl, rfl, fun _ other => Function.update_of_ne other _ _⟩

theorem enterStep_left {s s' : ApiThreads codes} {t : Nat} {opened : Option (codes t).Start}
    (made : s.enterStep t opened = some s') :
    s' = { s with exited := true } ∨ MovesOn t s s' ∧
      (s'.monitors t).stepsLeft < (s.monitors t).stepsLeft ∧
      (s'.monitors t).iterationsLeft = 0 := by
  unfold ApiThreads.enterStep at made
  cases monitor : s.monitors t with
  | entering =>
      rw [monitor] at made
      cases opened with
      | none =>
          cases made
          split
          · exact .inl rfl
          · refine .inr ⟨movesOn_monitor _, ?_⟩
            rw [ApiThreads.withMonitor_self]
            exact ⟨Nat.zero_lt_succ _, rfl⟩
      | some first =>
          dsimp only at made
          split at made
          · cases made
          · cases made
            exact .inl rfl
          · cases made
            refine .inr ⟨movesOn_monitor _, ?_⟩
            rw [ApiThreads.withMonitor_self]
            exact ⟨Nat.lt_succ_self _, rfl⟩
  | looping place vars buffer => rw [monitor] at made; cases made
  | finished => rw [monitor] at made; cases made

theorem advanceStep_left {s s' : ApiThreads codes} (stopped : s.running = false) {t : Nat}
    (made : s.advanceStep paths t = some s') : MovesOn t s s' ∧
      (s'.monitors t).stepsLeft < (s.monitors t).stepsLeft ∧
      (s'.monitors t).iterationsLeft = 0 := by
  unfold ApiThreads.advanceStep at made
  cases monitor : s.monitors t with
  | looping place vars buffer =>
      rw [monitor] at made
      cases place with
      | testing =>
          rw [stopped] at made
          cases made
          refine ⟨movesOn_monitor _, ?_⟩
          rw [ApiThreads.withMonitor_self]
          exact ⟨Nat.lt_succ_self _, rfl⟩
      | sleeping => cases made
      | closing =>
          cases made
          refine ⟨movesOn_write _ _ _, ?_⟩
          rw [ApiThreads.withMonitor_self]
          exact ⟨Nat.lt_succ_self _, rfl⟩
  | entering => rw [monitor] at made; cases made
  | finished => rw [monitor] at made; cases made

theorem sampleStep_left {s s' : ApiThreads codes} {t : Nat} {reading : (codes t).Reading}
    (made : s.sampleStep t reading = some s') : (s.monitors t).iterationsLeft = 1 ∧
      (s' = { s with exited := true } ∨ MovesOn t s s' ∧
        (s'.monitors t).stepsLeft < (s.monitors t).stepsLeft ∧
        (s'.monitors t).iterationsLeft = 0) := by
  unfold ApiThreads.sampleStep at made
  cases monitor : s.monitors t with
  | looping place vars buffer =>
      rw [monitor] at made
      cases place with
      | testing => cases made
      | closing => cases made
      | sleeping =>
          refine ⟨rfl, ?_⟩
          dsimp only at made
          split at made
          · cases made
          · cases made
            exact .inl rfl
          · cases made
            refine .inr ⟨movesOn_monitor _, ?_⟩
            rw [ApiThreads.withMonitor_self]
            exact ⟨Nat.lt_succ_self _, rfl⟩
  | entering => rw [monitor] at made; cases made
  | finished => rw [monitor] at made; cases made

theorem flushStep_left {s s' : ApiThreads codes} {t n : Nat}
    (made : s.flushStep paths t n = some s') :
    MovesOn t s s' ∧ (s'.monitors t).stepsLeft = (s.monitors t).stepsLeft ∧
      (s'.monitors t).iterationsLeft = (s.monitors t).iterationsLeft := by
  unfold ApiThreads.flushStep at made
  cases monitor : s.monitors t with
  | looping place vars buffer =>
      rw [monitor] at made
      cases made
      refine ⟨movesOn_write _ _ _, ?_⟩
      rw [ApiThreads.withMonitor_self]
      cases place <;> exact ⟨rfl, rfl⟩
  | entering => rw [monitor] at made; cases made
  | finished => rw [monitor] at made; cases made

/-- The moves that a session has left in `mf_end`; the exit of the process counts as one. -/
def sessionLeft (count : Nat) (s : ApiThreads codes) : Nat :=
  if s.exited then 0
  else s.user.stepsLeft count + (Finset.range count).sum (fun t => (s.monitors t).stepsLeft) + 1

/-- The iterations that a thread has left. -/
def readingsLeft (t : Nat) (s : ApiThreads codes) : Nat :=
  if s.exited then 0 else (s.monitors t).iterationsLeft

/-- What a move costs in `mf_end`. -/
structure Spends (count : Nat) (move : ApiMove codes) (s s' : ApiThreads codes) : Prop where
  ending : Ending s'
  step : move.isStep = true → sessionLeft count s' < sessionLeft count s
  flush : move.isStep = false → sessionLeft count s' ≤ sessionLeft count s
  reads : ∀ t, (move.reading t).isSome = true → readingsLeft t s' < readingsLeft t s
  rests : ∀ t, (move.reading t).isSome = false → readingsLeft t s' ≤ readingsLeft t s

theorem spends_exit {s : ApiThreads codes} (ending : Ending s) (going : s.exited = false)
    {move : ApiMove codes} (step : move.isStep = true)
    (reads : ∀ t, (move.reading t).isSome = true → (s.monitors t).iterationsLeft = 1) :
    Spends count move s { s with exited := true } := by
  have before : ∀ t, readingsLeft t s = (s.monitors t).iterationsLeft := by
    intro t
    rw [readingsLeft, if_neg (by rw [going]; exact Bool.false_ne_true)]
  have after : ∀ t, readingsLeft t { s with exited := true } = 0 := fun t => if_pos rfl
  refine ⟨⟨ending.stopped, ending.user⟩, ?_, ?_, ?_, ?_⟩
  · intro _
    rw [sessionLeft, if_pos rfl, sessionLeft, if_neg (by rw [going]; exact Bool.false_ne_true)]
    exact Nat.succ_pos _
  · intro flush
    rw [step] at flush
    cases flush
  · intro t read
    rw [after, before, reads t read]
    exact Nat.one_pos
  · intro t _
    rw [after]
    exact Nat.zero_le _

theorem spends_monitor {s s' : ApiThreads codes} (ending : Ending s)
    (going : s.exited = false) {t : Nat} (inside : t < count) (moves : MovesOn t s s')
    (less : (s'.monitors t).stepsLeft < (s.monitors t).stepsLeft)
    (rests : (s'.monitors t).iterationsLeft = 0) {move : ApiMove codes} (step : move.isStep = true)
    (reads : ∀ u, (move.reading u).isSome = true → u = t ∧ (s.monitors u).iterationsLeft = 1) :
    Spends count move s s' := by
  have alive : ¬ s.exited = true := by rw [going]; exact Bool.false_ne_true
  have left : ∀ u, readingsLeft u s' ≤ readingsLeft u s := by
    intro u
    rw [readingsLeft, readingsLeft, moves.exited, if_neg alive, if_neg alive]
    by_cases same : u = t
    · subst same
      rw [rests]
      exact Nat.zero_le _
    · rw [moves.others u same]
  refine ⟨⟨moves.running.trans ending.stopped, by rw [moves.user]; exact ending.user⟩,
    ?_, ?_, ?_, ?_⟩
  · intro _
    have threads := Runs.sum_lt_of_one (f := fun u => (s.monitors u).stepsLeft)
      (g := fun u => (s'.monitors u).stepsLeft) inside less
      fun u other => congrArg MonitorThread.stepsLeft (moves.others u other)
    rw [sessionLeft, sessionLeft, moves.exited, if_neg alive, if_neg alive, moves.user]
    omega
  · intro flush
    rw [step] at flush
    cases flush
  · intro u read
    obtain ⟨rfl, one⟩ := reads u read
    rw [readingsLeft, readingsLeft, moves.exited, if_neg alive, if_neg alive, rests, one]
    exact Nat.one_pos
  · intro u _
    exact left u

theorem spends_flush {s s' : ApiThreads codes} (ending : Ending s) {t n : Nat}
    (moves : MovesOn t s s') (steps : (s'.monitors t).stepsLeft = (s.monitors t).stepsLeft)
    (iterations : (s'.monitors t).iterationsLeft = (s.monitors t).iterationsLeft) :
    Spends count (.flush t n) s s' := by
  have each : ∀ u, (s'.monitors u).stepsLeft = (s.monitors u).stepsLeft ∧
      (s'.monitors u).iterationsLeft = (s.monitors u).iterationsLeft := by
    intro u
    by_cases same : u = t
    · subst same
      exact ⟨steps, iterations⟩
    · rw [moves.others u same]
      exact ⟨rfl, rfl⟩
  refine ⟨⟨moves.running.trans ending.stopped, by rw [moves.user]; exact ending.user⟩,
    ?_, ?_, ?_, ?_⟩
  · rintro ⟨⟩
  · intro _
    refine Nat.le_of_eq ?_
    simp only [sessionLeft, moves.exited, moves.user, each]
  · rintro u ⟨⟩
  · intro u _
    refine Nat.le_of_eq ?_
    rw [readingsLeft, readingsLeft, moves.exited, (each u).2]

theorem spends_user {s s' : ApiThreads codes} (ending : Ending s) (going : s.exited = false)
    (made : s.userStep count = some s') : Spends count .user s s' := by
  have alive : ¬ s.exited = true := by rw [going]; exact Bool.false_ne_true
  have stays : ∀ at', at'.stepsLeft count < s.user.stepsLeft count →
      ((∃ t, at' = .joining t) ∨ at' = .ended) → Spends count .user s { s with user := at' } := by
    intro at' less user
    refine ⟨⟨ending.stopped, user⟩, ?_, ?_, ?_, fun t _ => Nat.le_refl _⟩
    · intro _
      simp only [sessionLeft, if_neg alive]
      omega
    · rintro ⟨⟩
    · rintro t ⟨⟩
  rcases ending.user with ⟨t, user⟩ | user
  · rw [user] at stays
    obtain ⟨inside, -, rfl⟩ | ⟨-, rfl⟩ := userStep_joining user made
    · refine stays (.joining (t + 1)) ?_ (.inl ⟨t + 1, rfl⟩)
      simp only [UserAt.stepsLeft]
      omega
    · exact stays .ended (Nat.zero_lt_succ _) (.inr rfl)
  · unfold ApiThreads.userStep at made
    rw [user] at made
    cases made

/-- A move in `mf_end`. -/
theorem step_spends {s s' : ApiThreads codes} (ending : Ending s) {move : ApiMove codes}
    (made : ApiThreads.step count paths s move = some s') : Spends count move s s' := by
  unfold ApiThreads.step at made
  split at made
  · cases made
  · rename_i alive
    have going := Bool.eq_false_iff.mpr alive
    cases move with
    | user => exact spends_user ending going made
    | refuse =>
        dsimp only at made
        unfold ApiThreads.refuseStep at made
        rcases ending.user with ⟨t, user⟩ | user
        · rw [user] at made
          cases made
        · rw [user] at made
          cases made
    | enter t opened =>
        dsimp only at made
        split at made
        · rename_i created
          rcases enterStep_left made with rfl | ⟨moves, less, rests⟩
          · exact spends_exit ending going rfl (by rintro u ⟨⟩)
          · exact spends_monitor ending going (ending.inside created) moves less rests rfl
              (by rintro u ⟨⟩)
        · cases made
    | advance t =>
        dsimp only at made
        split at made
        · rename_i created
          obtain ⟨moves, less, rests⟩ := advanceStep_left ending.stopped made
          exact spends_monitor ending going (ending.inside created) moves less rests rfl
            (by rintro u ⟨⟩)
        · cases made
    | sample t reading =>
        dsimp only at made
        split at made
        · rename_i created
          have own : ∀ u, ((ApiMove.sample t reading : ApiMove codes).reading u).isSome =
              true → u = t := by
            intro u read
            by_contra other
            rw [ApiMove.reading, dif_neg fun same => other same.symm] at read
            cases read
          obtain ⟨one, rfl | ⟨moves, less, rests⟩⟩ := sampleStep_left made
          · exact spends_exit ending going rfl fun u read => by rw [own u read, one]
          · refine spends_monitor ending going (ending.inside created) moves less rests rfl ?_
            intro u read
            obtain rfl := own u read
            exact ⟨rfl, one⟩
        · cases made
    | flush t n =>
        dsimp only at made
        split at made
        · obtain ⟨moves, steps, iterations⟩ := flushStep_left made
          exact spends_flush ending moves steps iterations
        · cases made

/-! ## The return -/

/-- Thread `t` waits for nothing: whatever it finds, it makes its next move, unless that is a
fault. -/
def Unblocked (count : Nat) (paths : Nat → CText) (s : ApiThreads codes) (t : Nat) : Prop :=
  match s.monitors t with
  | .entering => ∀ opened, (∀ first, opened = some first → ∃ out, (codes t).start first = .ok out) →
      (ApiThreads.step count paths s (.enter t opened)).isSome = true
  | .looping .sleeping vars _ => ∀ reading, (∃ out, (codes t).iterate reading vars = .ok out) →
      (ApiThreads.step count paths s (.sample t reading)).isSome = true
  | .looping .testing _ _ | .looping .closing _ _ =>
      (ApiThreads.step count paths s (.advance t)).isSome = true
  | .finished => False

theorem unblocked_of_alive {s : ApiThreads codes} (going : s.exited = false) {t : Nat}
    (created : s.Created count t) (alive : s.monitors t ≠ .finished) :
    Unblocked count paths s t := by
  have going : ¬ s.exited = true := by rw [going]; exact Bool.false_ne_true
  unfold Unblocked
  cases monitor : s.monitors t with
  | entering =>
      intro opened sound
      unfold ApiThreads.step
      dsimp only
      rw [if_neg going, if_pos created]
      unfold ApiThreads.enterStep
      rw [monitor]
      cases opened with
      | none => rfl
      | some first =>
          obtain ⟨out, started⟩ := sound first rfl
          dsimp only
          rw [started]
          cases out <;> rfl
  | looping place vars buffer =>
      cases place with
      | sleeping =>
          rintro reading ⟨out, iterated⟩
          unfold ApiThreads.step
          dsimp only
          rw [if_neg going, if_pos created]
          unfold ApiThreads.sampleStep
          rw [monitor]
          dsimp only
          rw [iterated]
          cases out <;> rfl
      | testing =>
          unfold ApiThreads.step
          dsimp only
          rw [if_neg going, if_pos created]
          unfold ApiThreads.advanceStep
          rw [monitor]
          rfl
      | closing =>
          unfold ApiThreads.step
          dsimp only
          rw [if_neg going, if_pos created]
          unfold ApiThreads.advanceStep
          rw [monitor]
          rfl
  | finished => exact alive monitor

/-- The thread of the user moves, or the one that it waits for. -/
theorem step_possible {s : ApiThreads codes} (ending : Ending s) (going : s.exited = false)
    (waits : s.user ≠ .ended) : (ApiThreads.step count paths s .user).isSome = true ∨
      ∃ t < count, Unblocked count paths s t := by
  have alive : ¬ s.exited = true := by rw [going]; exact Bool.false_ne_true
  rcases ending.user with ⟨t, user⟩ | ended
  · by_cases inside : t < count
    · by_cases done : s.monitors t = .finished
      · refine .inl ?_
        unfold ApiThreads.step
        rw [if_neg alive, ApiThreads.userStep, user]
        dsimp only
        rw [if_pos inside, done]
        rfl
      · refine .inr ⟨t, inside, unblocked_of_alive going ?_ done⟩
        unfold ApiThreads.Created
        rw [user]
        exact inside
    · refine .inl ?_
      unfold ApiThreads.step
      rw [if_neg alive, ApiThreads.userStep, user]
      dsimp only
      rw [if_neg inside]
      rfl
  · exact absurd ended waits

theorem sessionLeft_le (s : ApiThreads codes) : sessionLeft count s ≤ 4 * count + 2 := by
  have threads := Finset.sum_le_card_nsmul (Finset.range count)
      (fun t => (s.monitors t).stepsLeft) 3
    fun t _ => (s.monitors t).stepsLeft_le
  have user : s.user.stepsLeft count ≤ count + 1 := by
    unfold UserAt.stepsLeft
    split <;> omega
  rw [Finset.card_range, Nat.nsmul_eq_mul] at threads
  unfold sessionLeft
  split <;> omega

/-- `mf_end` returns: the threads have few moves left, and each of them prints one line at most. No
thread waits for one that waits, as long as the process does not exit. -/
theorem mfEnd_returns {s s' : ApiThreads codes} (stopped : s.running = false) {t : Nat}
    (joining : s.user = .joining t) {after : List (ApiMove codes)}
    (later : Runs.run (ApiThreads.step count paths) s after = some s') :
    after.countP ApiMove.isStep ≤ 4 * count + 2 ∧ (∀ t, (samples t after).length ≤ 1) ∧
      (s'.exited = false → s'.user ≠ .ended → (ApiThreads.step count paths s' .user).isSome = true ∨
        ∃ t < count, Unblocked count paths s' t) := by
  have ending : Ending s := ⟨stopped, .inl ⟨t, joining⟩⟩
  refine ⟨?_, ?_, ?_⟩
  · have moves := Runs.count_le_of_measure (sessionLeft count) ApiMove.isStep
      (fun _ _ _ ending made => (step_spends ending made).ending)
      (fun _ _ _ ending step made => (step_spends ending made).step step)
      (fun _ _ _ ending flush made => (step_spends ending made).flush flush) ending later
    have bound : sessionLeft count s ≤ _ := sessionLeft_le s
    omega
  · intro t
    have reads := Runs.count_le_of_measure (readingsLeft t) (fun move => (move.reading t).isSome)
      (fun _ _ _ ending made => (step_spends ending made).ending)
      (fun _ _ _ ending read made => (step_spends ending made).reads t read)
      (fun _ _ _ ending rest made => (step_spends ending made).rests t rest) ending later
    have bound : readingsLeft t s ≤ 1 := by
      unfold readingsLeft
      split
      · exact Nat.zero_le 1
      · exact (s.monitors t).iterationsLeft_le
    rw [samples, List.length_filterMap_eq_countP]
    omega
  · intro going waits
    have ended : Ending s' := Runs.inv_run (P := fun _ _ => True)
      (fun ending _ made => (step_spends ending made).ending) ending
      (Runs.each_of_forall (fun _ _ => trivial) _ _) later
    exact step_possible ended going waits

end

theorem mfEnd_returns_disk : ∃ s' : ApiThreads diskSession,
    Runs.run (ApiThreads.step 1 (dataFile "/tmp/7".toList fun _ => metricName2))
        (ApiThreads.start fun _ => []) (diskMoves.take 7 ++ diskMoves.drop 7) = some s' ∧
      (diskMoves.drop 7).countP ApiMove.isStep ≤ 4 * 1 + 2 := by
  have waiting : (Runs.run (ApiThreads.step 1 (dataFile "/tmp/7".toList fun _ => metricName2))
      (ApiThreads.start fun _ => []) (diskMoves.take 7)).map (fun s => (s.running, s.user)) =
        some (false, .joining 0) := by
    decide
  obtain ⟨s, reached, state⟩ := Option.map_eq_some_iff.mp waiting
  obtain ⟨stopped, joining⟩ := Prod.mk.inj state
  obtain ⟨s', whole, -, -⟩ := diskMoves_end
  have whole : Runs.run (ApiThreads.step 1 (dataFile "/tmp/7".toList fun _ => metricName2))
      (ApiThreads.start fun _ => []) (diskMoves.take 7 ++ diskMoves.drop 7) = some s' := whole
  exact ⟨s', whole, (mfEnd_returns stopped joining (Runs.run_of_append reached whole)).1⟩

end PhantomMonitor
