import PhantomMonitor.Misc.Runs
import PhantomMonitor.Parser.Proofs.ConfigStore

/-!
# The pools of the configuration store

Every `mfp_parse` puts the table into a pool of its own. The pool of the table is live as long as
`ht_initialized` is set and no other pool is, provided that the file is parsed once and the store is
not cleaned after it: `mfp_parse` keeps the pool of the previous table, and `mfp_parse_clean` keeps
the flag.
-/

namespace PhantomMonitor

open CText

variable {H : HashTable CText}

/-- A variable points to a pool that was not destroyed. -/
def ParserState.Live (st : ParserState H) (pool : Option Nat) : Prop :=
  ∃ p ∈ st.pools, pool = some p

/-- A lookup reads the table if it passes the test of `ht_initialized`. -/
def ParserState.LookupLive (st : ParserState H) : Prop :=
  st.htInitialized = true → st.Live st.htPool

/-- An assignment that passes the test also makes its copies in `mp`. -/
def ParserState.AssignLive (st : ParserState H) : Prop :=
  st.htInitialized = true → st.Live st.htPool ∧ st.Live st.mp

/-- The lookups and assignments of a call touch live pools only. -/
def ParserCall.UsesLive (st : ParserState H) : ParserCall → Prop
  | .config (.parse file) => ∀ before entry after, file.entries = before ++ entry :: after →
      (before.foldl handleParser (mfpReset st)).AssignLive
  | .config (.setValue _ _ _) => st.AssignLive
  | .config (.getValue _ _) => st.LookupLive
  | .config (.getDataFilteredByValue _ _) => st.LookupLive
  | .parseClean => True

/-- The flag, the table and the live pools agree. -/
structure PoolsSound (st : ParserState H) : Prop where
  flag : st.htInitialized = true ↔ st.Live st.htPool
  single : st.pools.length ≤ 1

/-- What the module promises of a call. -/
structure PoolsKept (apr : AprTerminate) (st : ParserState H) (call : ParserCall) : Prop where
  uses : call.UsesLive st
  sound : PoolsSound (call.apply apr st)
  cleaned : call = .parseClean → (call.apply apr st).pools = []

/-- A call that parses or cleans comes before the first parse. -/
def BeforeParse (st : ParserState H) : ParserCall → Prop
  | .config (.parse _) => st.htInitialized = false
  | .parseClean => st.htInitialized = false
  | _ => True

/-- The calls of a program as moves. -/
def parserStep (apr : AprTerminate) (st : ParserState H) (call : ParserCall) :
    Option (ParserState H) :=
  some (call.apply apr st)

/-! ## The pools before and after the first parse -/

/-- The pools of the store are as the first parse leaves them, or as they were before it. -/
structure OnePool (st : ParserState H) : Prop where
  before : st.htInitialized = false → st.pools = []
  after : st.htInitialized = true → ∃ p, st.pools = [p] ∧ st.htPool = some p ∧ st.mp = some p

/-- The assignments leave the flag and the pools alone. -/
structure SamePools (st st' : ParserState H) : Prop where
  flag : st'.htInitialized = st.htInitialized
  pools : st'.pools = st.pools
  htPool : st'.htPool = st.htPool
  mp : st'.mp = st.mp

theorem mfpSetValue_pools (st : ParserState H) (sect key value : CText) :
    SamePools st (mfpSetValue st sect key value) := by
  cases hinit : st.htInitialized with
  | false =>
      rw [mfpSetValue_ignored hinit]
      exact ⟨rfl, rfl, rfl, rfl⟩
  | true =>
      rw [mfpSetValue_eq hinit]
      exact ⟨rfl, rfl, rfl, rfl⟩

theorem handleEntries_pools (entries : List IniEntry) (st : ParserState H) :
    SamePools st (entries.foldl handleParser st) := by
  induction entries generalizing st with
  | nil => exact ⟨rfl, rfl, rfl, rfl⟩
  | cons entry entries ih =>
      have first := mfpSetValue_pools st entry.sect entry.name entry.value
      have rest := ih (handleParser st entry)
      exact ⟨rest.flag.trans first.flag, rest.pools.trans first.pools,
        rest.htPool.trans first.htPool, rest.mp.trans first.mp⟩

theorem mfpParse_pools (st : ParserState H) (file : IniFile) :
    SamePools (mfpReset st) (mfpParse st file).1 := by
  rw [mfpParse_fst]
  exact handleEntries_pools file.entries (mfpReset st)

theorem OnePool.same {st st' : ParserState H} (h : OnePool st) (same : SamePools st st') :
    OnePool st' := by
  constructor
  · intro hinit
    rw [same.pools]
    exact h.before (same.flag ▸ hinit)
  · intro hinit
    rw [same.pools, same.htPool, same.mp]
    exact h.after (same.flag ▸ hinit)

theorem OnePool.reset {st : ParserState H} (h : OnePool st) (hinit : st.htInitialized = false) :
    OnePool (mfpReset st) := by
  constructor
  · intro initialized
    exact absurd initialized (by simp [mfpReset])
  · intro _
    refine ⟨st.nextPool, ?_, rfl, rfl⟩
    show st.nextPool :: st.pools = [st.nextPool]
    rw [h.before hinit]

theorem OnePool.assignLive {st : ParserState H} (h : OnePool st) : st.AssignLive := by
  intro hinit
  obtain ⟨p, pools, htPool, mp⟩ := h.after hinit
  rw [ParserState.Live, ParserState.Live, pools]
  exact ⟨⟨p, List.mem_singleton_self p, htPool⟩, ⟨p, List.mem_singleton_self p, mp⟩⟩

theorem OnePool.sound {st : ParserState H} (h : OnePool st) : PoolsSound st := by
  cases hinit : st.htInitialized with
  | false =>
      have pools := h.before hinit
      constructor
      · rw [hinit, ParserState.Live, pools]
        simp
      · rw [pools]
        exact Nat.zero_le 1
  | true =>
      constructor
      · exact ⟨fun initialized => (h.assignLive initialized).1, fun _ => hinit⟩
      · obtain ⟨p, pools, -⟩ := h.after hinit
        rw [pools, List.length_singleton]

theorem onePool_init : OnePool (ParserState.init : ParserState H) where
  before _ := rfl
  after hinit := absurd hinit Bool.false_ne_true

/-! ## One call -/

theorem mfpParseClean_ignored (apr : AprTerminate) {st : ParserState H}
    (hinit : st.htInitialized = false) : mfpParseClean apr st = st := by
  rw [mfpParseClean, if_neg (by rw [hinit]; exact Bool.false_ne_true)]

/-- A call that does not follow a parse as a parse or a clean keeps the one pool. -/
theorem OnePool.apply (apr : AprTerminate) {st : ParserState H} {call : ParserCall}
    (h : OnePool st) (before : BeforeParse st call) : OnePool (call.apply apr st) := by
  rcases call with (_ | ⟨sect, key, value⟩ | _ | _) | _
  · exact (h.reset before).same (mfpParse_pools st _)
  · exact h.same (mfpSetValue_pools st sect key value)
  · exact h
  · exact h
  · rw [ParserCall.apply, mfpParseClean_ignored apr before]
    exact h

theorem OnePool.usesLive {st : ParserState H} {call : ParserCall} (h : OnePool st)
    (before : BeforeParse st call) : call.UsesLive st := by
  rcases call with (_ | _ | _ | _) | _
  · intro handled entry rest _
    exact ((h.reset before).same (handleEntries_pools handled _)).assignLive
  · exact h.assignLive
  · exact fun hinit => (h.assignLive hinit).1
  · exact fun hinit => (h.assignLive hinit).1
  · trivial

/-- A second parse leaves two live pools. -/
theorem parse_twice_pools {st : ParserState H} (h : OnePool st) (hinit : st.htInitialized = true)
    (file : IniFile) : ¬ PoolsSound (mfpParse st file).1 := by
  intro sound
  obtain ⟨p, pools, -⟩ := h.after hinit
  have single := sound.single
  rw [(mfpParse_pools st file).pools] at single
  change (st.nextPool :: st.pools).length ≤ 1 at single
  rw [pools] at single
  simp at single

/-- A clean after a parse leaves the flag set and the table in a dead pool. -/
theorem parseClean_flag (apr : AprTerminate) {st : ParserState H} (h : OnePool st)
    (hinit : st.htInitialized = true) : ¬ PoolsSound (mfpParseClean apr st) := by
  intro sound
  obtain ⟨p, pools, -, mp⟩ := h.after hinit
  rw [mfpParseClean, if_pos hinit] at sound
  obtain ⟨q, member, -⟩ := sound.flag.mp hinit
  have kept := (apr.left_sublist _ _).subset member
  rw [pools, mp] at kept
  simp at kept

/-- A call keeps the promise of the module exactly when it does not parse or clean after a parse. -/
theorem OnePool.kept_iff (apr : AprTerminate) {st : ParserState H} (h : OnePool st)
    (call : ParserCall) : PoolsKept apr st call ↔ BeforeParse st call := by
  constructor
  · intro kept
    rcases call with (file | _ | _ | _) | _
    · apply Bool.eq_false_iff.mpr
      intro hinit
      exact parse_twice_pools h hinit file kept.sound
    · trivial
    · trivial
    · trivial
    · apply Bool.eq_false_iff.mpr
      intro hinit
      exact parseClean_flag apr h hinit kept.sound
  · intro before
    refine ⟨h.usesLive before, (h.apply apr before).sound, ?_⟩
    rintro rfl
    have uninitialized : st.htInitialized = false := before
    rw [ParserCall.apply, mfpParseClean_ignored apr uninitialized]
    exact h.before uninitialized

/-! ## Any sequence of calls -/

/-- The flag, the table and the live pools agree throughout a sequence of calls exactly when the
file is parsed at most once and the store is not cleaned after it. -/
theorem pools_kept_iff_parsed_once (H : HashTable CText) (apr : AprTerminate)
    (calls : List ParserCall) :
    Runs.Each (parserStep apr) (PoolsKept apr) (ParserState.init : ParserState H) calls ↔
      Runs.Each (parserStep apr) BeforeParse (ParserState.init : ParserState H) calls := by
  have agree : ∀ {st : ParserState H} {call : ParserCall}, OnePool st →
      (PoolsKept apr st call ↔ BeforeParse st call) := fun h => h.kept_iff apr _
  refine Runs.each_iff ?_ agree onePool_init
  intro st call st' h kept made
  rw [parserStep, Option.some.injEq] at made
  exact made ▸ h.apply apr ((agree h).mp kept)

/-- Two parses, and a lookup after a parse and a clean. -/
theorem pools_not_kept_after_reload :
    ¬ Runs.Each (parserStep .counted) (PoolsKept .counted)
        (ParserState.init : ParserState (HashTable.alist CText))
        [.config (.parse (.opened [] 0)), .config (.parse (.opened [] 0))] ∧
      ¬ Runs.Each (parserStep .counted) (PoolsKept .counted)
        (ParserState.init : ParserState (HashTable.alist CText))
        [.config (.parse (.opened [] 0)), .parseClean,
          .config (.getValue "generic".toList "server".toList)] := by
  constructor
  · intro each
    have second := (each.2 _ rfl).1.sound.single
    exact absurd second (by decide)
  · intro each
    obtain ⟨p, member, -⟩ := (each.2 _ rfl).1.sound.flag.mp rfl
    exact absurd member (List.not_mem_nil)

end PhantomMonitor
