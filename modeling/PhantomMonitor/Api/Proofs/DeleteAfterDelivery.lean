import Mathlib.Data.List.Perm.Subperm
import PhantomMonitor.Api.MfSend
import PhantomMonitor.Publisher.Proofs.PublishFile

/-!
# Which files `mf_send` may remove

`mf_send` ignores the value that `publish_file` returns and removes the file in any case. So no
record is lost only when `publish_file` happens to deliver every file whole; the condition for
that is worked out here for one file and then for the directory.
-/

namespace PhantomMonitor

open CText Batcher

/-! ## One file -/

theorem chop_short {line : CText} (h : line.length < lineSize) :
    nul ∉ chop line ∧ (chop line).length ≤ 318 := by
  constructor
  · intro member
    exact nul_notMem_cstr line (List.dropLast_subset _ member)
  · have := cstr_length_le line
    unfold lineSize at h
    rw [chop, List.length_dropLast]
    omega

/-- Every record that `publish_file` can have sent is short and without a NUL. -/
theorem readLines_chop_short {content record : CText}
    (h : record ∈ (readLines lineSize content).map chop) :
    nul ∉ record ∧ record.length ≤ 318 := by
  obtain ⟨line, member, rfl⟩ := List.mem_map.mp h
  exact chop_short (readLines_length_le (by decide) content line member)

/-- A file that can be delivered whole: short, terminated lines, room for each group, and a
server that takes every group. -/
structure Deliverable (s : CText) (perform : Nat → Bool) (data : CText) : Prop where
  terminated : data = unlines (fileLines data)
  short : ∀ line ∈ fileLines data, ShortLine line
  fit : GroupsFit s (fileLines data)
  accepted : ∀ j, 10 * j < (fileLines data).length → perform j = true

/-- The last line loses a character when no newline ends it, so a delivered file ends with a
newline. -/
theorem terminated_of_delivered {data : CText} {delivered : List CText}
    (hshort : ∀ line ∈ fileLines data, ShortLine line)
    (hbefore : delivered <+: (readLines lineSize data).map chop)
    (hcovered : (fileLines data).Subperm delivered) :
    data = unlines (fileLines data) ∧ delivered = fileLines data := by
  obtain ⟨lines, tail, hlines, htail, rfl⟩ := exists_unlines_append data
  have split : fileLines (unlines lines ++ tail) = lines ++ fileLines tail :=
    fileLines_unlines_append hlines tail
  rw [split] at hshort hcovered ⊢
  have hlinesShort : ∀ line ∈ lines, ShortLine line :=
    fun line member => hshort line (List.mem_append_left _ member)
  rw [readLines_short hlinesShort] at hbefore
  by_cases hnil : tail = []
  · subst hnil
    rw [readLines_nil, List.map_nil, List.append_nil] at hbefore
    have none : fileLines [] = [] := rfl
    rw [none, List.append_nil] at hcovered
    rw [none, List.append_nil, List.append_nil]
    exact ⟨rfl, hbefore.eq_of_length_le hcovered.length_le⟩
  · exfalso
    have last : fileLines tail = [tail] := fileLines_unterminated htail hnil
    rw [last] at hshort hcovered
    have short := hshort tail (by simp)
    have whole : cstr tail = tail := cstr_eq_self short.2.1
    rw [readLines_unterminated htail hnil (by unfold lineSize; have := short.2.2; omega),
      List.map_singleton, chop, whole] at hbefore
    have all : delivered = lines ++ [tail.dropLast] := by
      apply hbefore.eq_of_length_le
      have := hcovered.length_le
      simpa using this
    rw [all] at hcovered
    have same : (lines ++ [tail]).Perm (lines ++ [tail.dropLast]) := by
      apply hcovered.perm_of_length_le
      simp
    have tails := List.singleton_perm_singleton.mp ((List.perm_append_left_iff lines).mp same)
    have shorter := congrArg List.length tails
    have := List.length_pos_iff.mpr hnil
    rw [List.length_dropLast] at shorter
    omega

theorem deliverable_of_covered {s : CText} {perform : Nat → Bool} {data : CText}
    {posts : List Post} {go : Bool} (hrun : publishContent perform s data = .ok (posts, go))
    (hcovered : (fileLines data).Subperm (deliveredRecords posts)) :
    Deliverable s perform data := by
  obtain ⟨first, all⟩ := publishContent_delivered hrun
  have short : ∀ line ∈ fileLines data, ShortLine line := by
    intro line member
    have sent := first.subset (hcovered.subset member)
    exact ⟨newline_notMem_fileLines member, readLines_chop_short sent⟩
  obtain ⟨terminated, delivered⟩ := terminated_of_delivered short first hcovered
  have chopped : (readLines lineSize data).map chop = fileLines data := by
    conv => lhs; rw [terminated]
    simpa using readLines_short short []
  have batched := publishContent_batched hrun
  rw [chopped] at batched all
  obtain rfl : go = true := all.mpr delivered
  obtain ⟨count, accepted⟩ := batched.finished rfl
  have posted : ∀ j, 10 * j < (fileLines data).length →
      batchPost perform s (fileLines data) j ∈ posts := by
    intro j hj
    rw [batched.groups, count]
    exact List.mem_map_of_mem (List.mem_range.mpr ((lt_groupCount (by decide)).mpr hj))
  exact ⟨terminated, short, fun j hj => batched.fits _ (posted j hj),
    fun j hj => accepted _ (posted j hj)⟩

theorem covered_of_deliverable {s : CText} {perform : Nat → Bool} {data : CText}
    (h : Deliverable s perform data) :
    ∃ posts go, publishContent perform s data = .ok (posts, go) ∧
      (fileLines data).Subperm (deliveredRecords posts) := by
  obtain ⟨posts, go, hrun, batched⟩ := publishContent_short h.short h.fit perform
  rw [← h.terminated] at hrun
  refine ⟨posts, go, hrun, ?_⟩
  have chopped : (readLines lineSize data).map chop = fileLines data := by
    conv => lhs; rw [h.terminated]
    simpa using readLines_short h.short []
  have through : go = true := by
    cases go with
    | true => rfl
    | false =>
        obtain ⟨post, member, hpost⟩ := batched.refused rfl
        rw [batched.groups] at member
        obtain ⟨j, hj, rfl⟩ := List.mem_map.mp member
        have reached := Nat.lt_of_lt_of_le (List.mem_range.mp hj) batched.count
        rw [lt_groupCount (by decide)] at reached
        exact absurd (h.accepted j reached) (by simpa [batchPost] using hpost)
  have all := (publishContent_delivered hrun).2.mp through
  rw [all, chopped]

/-! ## The directory -/

/-- The entry was removed only if each of its records was in an accepted POST. -/
def Visit.Covered (v : Visit) : Prop :=
  v.removed = true → (fileLines v.entry.data).Subperm (deliveredRecords v.posts)

/-- The files that a call removed had been delivered. -/
def DeleteAfterDelivery (out : SendResult) : Prop := ∀ v ∈ out.visits, v.Covered

/-- An entry whose removal loses nothing: a directory, an empty file, or a readable file that is
delivered whole. -/
def DirEntry.Safe (s : CText) (e : DirEntry) : Prop :=
  match e.kind with
  | .directory => True
  | .regular data readable =>
      data = [] ∨ e.curlInit = true ∧ readable = true ∧ Deliverable s e.perform data

theorem fileLines_eq_nil {data : CText} : fileLines data = [] ↔ data = [] := by
  cases data with
  | nil => simp [fileLines]
  | cons c data =>
      unfold fileLines
      by_cases hc : c = '\n'
      · simp [hc]
      · cases fileLines data <;> simp [hc]

theorem deliverable_nil (s : CText) (perform : Nat → Bool) : Deliverable s perform [] :=
  ⟨rfl, by simp [fileLines], fun j hj => absurd hj (by simp [fileLines]),
    fun j hj => absurd hj (by simp [fileLines])⟩

theorem subperm_fileLines_nil {data : CText} :
    (fileLines data).Subperm (deliveredRecords []) ↔ data = [] := by
  have none : deliveredRecords [] = [] := rfl
  rw [none]
  constructor
  · intro covered
    exact fileLines_eq_nil.mp (List.subset_nil.mp covered.subset)
  · rintro rfl
    exact List.Subperm.refl _

/-- Posting and removing one entry loses nothing exactly when the entry is safe. -/
theorem publishFile_covers_iff {url s filename : CText} (hurl : url ≠ []) (hs : s ≠ [])
    (hfilename : filename ≠ []) (e : DirEntry) (r : Resources) :
    (∃ out, publishFile e.transfer url s filename r = .ok out ∧
        (e.unlinked = true → (fileLines e.data).Subperm (deliveredRecords out.posts))) ↔
      e.Safe s := by
  rw [publishFile_checked hurl hs hfilename]
  obtain ⟨name, kind, curlInit, perform⟩ := e
  cases kind with
  | directory =>
      have nothing : publishContent perform s [] = .ok ([], true) := rfl
      cases curlInit <;>
        simp [DirEntry.transfer, DirEntry.unlinked, DirEntry.Safe, nothing]
  | regular data readable =>
      simp only [DirEntry.transfer, DirEntry.unlinked, DirEntry.data, DirEntry.Safe,
        forall_const]
      cases curlInit with
      | false => simp [subperm_fileLines_nil]
      | true =>
          cases readable with
          | false => simp [subperm_fileLines_nil]
          | true =>
              simp only [if_true, true_and]
              constructor
              · rintro ⟨out, hrun, covered⟩
                rcases hcontent : publishContent perform s data with fault | ⟨posts, go⟩
                · simp [hcontent] at hrun
                · refine Or.inr (deliverable_of_covered hcontent ?_)
                  cases go <;> simp only [hcontent, Except.ok.injEq] at hrun <;> subst hrun <;>
                    exact covered
              · intro safe
                have deliverable : Deliverable s perform data := by
                  rcases safe with rfl | deliverable
                  · exact deliverable_nil s perform
                  · exact deliverable
                obtain ⟨posts, go, hcontent, covered⟩ := covered_of_deliverable deliverable
                cases go <;> exact ⟨_, by rw [hcontent], covered⟩

/-- The texts made for an entry fit their buffers, and its removal loses nothing. -/
structure EntrySafe (env : SendEnv) (experimentId : CText) (e : DirEntry) : Prop where
  path : (filePath env e).length < textSize
  text : (staticText env experimentId e).length < textSize
  safe : e.Safe (staticText env experimentId e)

theorem sendEntry_covered_iff {env : SendEnv} (hkeep : env.keepLocalDataFlag = 0)
    {url : CText} (hurl : url ≠ []) (id : CText) (e : DirEntry) (r : Resources) :
    (∃ v r', sendEntry env url id e r = .ok (v, r') ∧ v.Covered) ↔ EntrySafe env id e := by
  have covers := publishFile_covers_iff hurl (staticText_ne_nil env id e)
    (filePath_ne_nil env e) e r
  have pairs : (∃ v r', sendEntry env url id e r = .ok (v, r') ∧ v.Covered) ↔
      ∃ out, sendEntry env url id e r = .ok out ∧ out.1.Covered := by
    rw [Prod.exists]
  rw [pairs, sendEntry, exists_store_bind, exists_store_bind]
  simp only [Fault.bind_eq_ok, hkeep, if_true]
  constructor
  · rintro ⟨path, text, out, ⟨published, hrun, result⟩, covered⟩
    cases result
    exact ⟨path, text, covers.mp ⟨published, hrun, covered⟩⟩
  · intro safe
    obtain ⟨published, hrun, covered⟩ := covers.mpr safe.safe
    exact ⟨safe.path, safe.text, _, ⟨published, hrun, rfl⟩, covered⟩

/-- The directory loop loses nothing exactly when no entry does. -/
theorem sendEntries_covered_iff {env : SendEnv} (hkeep : env.keepLocalDataFlag = 0)
    {url : CText} (hurl : url ≠ []) (id : CText) (entries : List DirEntry) (r : Resources) :
    (∃ vs r', sendEntries env url id entries r = .ok (vs, r') ∧ ∀ v ∈ vs, v.Covered) ↔
      ∀ e ∈ entries, EntrySafe env id e := by
  induction entries generalizing r with
  | nil => simp [sendEntries]
  | cons e entries ih =>
      simp only [sendEntries, Fault.bind_eq_ok, List.forall_mem_cons]
      constructor
      · rintro ⟨vs, r', ⟨⟨v, r₁⟩, hentry, ⟨⟨vs', r₂⟩, hentries, result⟩⟩, covered⟩
        cases result
        rw [List.forall_mem_cons] at covered
        exact ⟨(sendEntry_covered_iff hkeep hurl id e r).mp ⟨v, r₁, hentry, covered.1⟩,
          (ih r₁).mp ⟨vs', _, hentries, covered.2⟩⟩
      · rintro ⟨safe, rest⟩
        obtain ⟨v, r₁, hentry, covered⟩ := (sendEntry_covered_iff hkeep hurl id e r).mpr safe
        obtain ⟨vs, r₂, hentries, all⟩ := (ih r₁).mpr rest
        exact ⟨v :: vs, r₂, ⟨_, hentry, ⟨_, hentries, rfl⟩⟩,
          List.forall_mem_cons.mpr ⟨covered, all⟩⟩

/-! ## The call -/

/-- The experiment identifier that the server answers with: its last piece. -/
def answeredId (t : Transfer) : CText :=
  if t.curlInit then
    match t.pieces.getLast? with
    | none => []
    | some piece => cstr piece
  else []

theorem cstr_getStreamData (stream piece : CText) :
    cstr (getStreamData stream piece) = cstr piece := cstr_append_nul piece _

/-- Whatever `createNewExperiment` returns, its buffer then holds the server's answer. -/
theorem createNewExperiment_id {url message : CText} (hurl : url ≠ []) (hmessage : message ≠ [])
    (t : Transfer) (r : Resources) :
    cstr (createNewExperiment t url message (List.replicate experimentIdSize nul) r).2.1 =
      answeredId t := by
  have blank : cstr (List.replicate experimentIdSize nul) = [] := by decide
  have checks : ¬ (checkURL url = failed ∨ checkMessage message = failed) := by
    simp [checkURL, checkMessage, hurl, hmessage, success, failed]
  unfold createNewExperiment answeredId
  rw [if_neg checks]
  cases hcurl : t.curlInit with
  | false => simpa [preparePublish] using blank
  | true =>
      have answer : cstr (t.pieces.foldl getStreamData (List.replicate experimentIdSize nul)) =
          match t.pieces.getLast? with
          | none => []
          | some piece => cstr piece := by
        cases t.pieces using List.reverseRecOn with
        | nil => exact blank
        | append_singleton pieces piece =>
            rw [List.foldl_append, List.getLast?_append]
            simp [cstr_getStreamData]
      cases t.perform <;> simpa [preparePublish] using answer

/-- What a call of `mf_send` leaves: it stopped before the directory, or it went through it. -/
inductive MfSendOk (env : SendEnv) (out : SendResult) : Prop where
  | stopped (early : answeredId env.experiment = [] ∨ env.dir = none) (ret : out.ret = none)
      (visits : out.visits = []) (open_log : out.logClosed = false)
      (kept : out.rmdirCalled = false)
  | through (entries : List DirEntry) (r₁ r₂ : Resources)
      (answered : answeredId env.experiment ≠ []) (dir : env.dir = some entries)
      (loop : sendEntries env (metricURL env) (answeredId env.experiment) entries r₁ =
        .ok (out.visits, r₂))
      (ret : out.ret = some (answeredId env.experiment)) (closed : out.logClosed = true)

theorem mfSend_ok {env : SendEnv} {r : Resources} {out : SendResult}
    (run : mfSend env r = .ok out) : MfSendOk env out := by
  obtain ⟨msg, hmsg, run⟩ := Fault.bind_eq_ok.mp run
  obtain ⟨url, hurl, run⟩ := Fault.bind_eq_ok.mp run
  have message_ne : msg ≠ [] := by
    rw [store_eq_ok hmsg]
    exact experimentMessage_ne_nil env
  have url_ne : url ≠ [] := by
    rw [store_eq_ok hurl]
    exact experimentURL_ne_nil env
  have answered := createNewExperiment_id url_ne message_ne env.experiment r
  generalize createNewExperiment env.experiment url msg (List.replicate experimentIdSize nul) r =
    created at run answered
  obtain ⟨ret, buffer, r₁⟩ := created
  dsimp only at run answered
  rw [answered] at run
  by_cases none : answeredId env.experiment = []
  · rw [if_pos none] at run
    cases run
    exact .stopped (Or.inl none) rfl rfl rfl rfl
  · rw [if_neg none] at run
    obtain ⟨metricUrl, hmetric, run⟩ := Fault.bind_eq_ok.mp run
    rw [store_eq_ok hmetric] at run
    cases hdir : env.dir with
    | none =>
        rw [hdir] at run
        cases run
        exact .stopped (Or.inr hdir) rfl rfl rfl rfl
    | some entries =>
        rw [hdir] at run
        obtain ⟨⟨visits, r₂⟩, hloop, run⟩ := Fault.bind_eq_ok.mp run
        cases run
        exact .through entries r₁ r₂ none hdir hloop rfl rfl

/-- When a call without local data loses no record: its texts fit, and it either stops before
the directory is read, or every entry is safe. -/
structure SendSafe (env : SendEnv) : Prop where
  message : (experimentMessage env).length < textSize
  url : (experimentURL env).length < textSize
  metrics : answeredId env.experiment ≠ [] → (metricURL env).length < textSize
  entries : answeredId env.experiment ≠ [] → ∀ entries, env.dir = some entries →
    ∀ e ∈ entries, EntrySafe env (answeredId env.experiment) e

/-- `mf_send` runs without a fault and removes delivered files only, exactly when the condition
holds. -/
theorem mfSend_deleteAfterDelivery_iff (env : SendEnv) (hkeep : env.keepLocalDataFlag = 0)
    (r : Resources) :
    (∃ out, mfSend env r = .ok out ∧ DeleteAfterDelivery out) ↔ SendSafe env := by
  have answered := createNewExperiment_id (experimentURL_ne_nil env) (experimentMessage_ne_nil env)
    env.experiment r
  unfold mfSend
  rw [exists_store_bind, exists_store_bind]
  rcases created : createNewExperiment env.experiment (experimentURL env)
    (experimentMessage env) (List.replicate experimentIdSize nul) r with ⟨ret, buffer, r'⟩
  rw [created] at answered
  simp only at answered ⊢
  rw [answered]
  by_cases none : answeredId env.experiment = []
  · rw [if_pos none]
    constructor
    · rintro ⟨message, url, -⟩
      exact ⟨message, url, fun some => absurd none some, fun some => absurd none some⟩
    · intro safe
      exact ⟨safe.message, safe.url, _, rfl, by simp [DeleteAfterDelivery]⟩
  · rw [if_neg none, exists_store_bind]
    cases hdir : env.dir with
    | none =>
        constructor
        · rintro ⟨message, url, metrics, -⟩
          refine ⟨message, url, fun _ => metrics, fun _ entries opened => ?_⟩
          rw [hdir] at opened
          cases opened
        · intro safe
          exact ⟨safe.message, safe.url, safe.metrics none, _, rfl, by simp [DeleteAfterDelivery]⟩
    | some entries =>
        have loop := sendEntries_covered_iff hkeep (metricURL_ne_nil env)
          (answeredId env.experiment) entries r'
        simp only [Fault.bind_eq_ok]
        constructor
        · rintro ⟨message, url, metrics, out, ⟨⟨visits, r''⟩, hrun, result⟩, covered⟩
          cases result
          refine ⟨message, url, fun _ => metrics, fun _ listed opened => ?_⟩
          rw [hdir] at opened
          cases opened
          exact loop.mp ⟨visits, r'', hrun, covered⟩
        · intro safe
          obtain ⟨visits, r'', hrun, covered⟩ := loop.mpr (safe.entries none entries hdir)
          exact ⟨safe.message, safe.url, safe.metrics none, _, ⟨_, hrun, rfl⟩, covered⟩

/-- A session with one record in one file, and the server's answer to the POST of it. -/
def oneRecordEnv (accepts : Bool) : SendEnv where
  server := "http://localhost".toList
  applicationId := "app".toList
  componentId := "task".toList
  platformId := "node".toList
  dataPath := "/tmp/7".toList
  keepLocalDataFlag := 0
  experiment := ⟨true, ["AVq1".toList], true⟩
  dir := some [⟨['.'], .directory, true, fun _ => accepts⟩,
    ⟨"user_defined".toList, .regular "\"a\":1\n".toList true, true, fun _ => accepts⟩]

theorem mfSend_deleteAfterDelivery_one :
    ∃ out, mfSend (oneRecordEnv true) ⟨0, 1⟩ = .ok out ∧ DeleteAfterDelivery out := by
  refine (mfSend_deleteAfterDelivery_iff (oneRecordEnv true) rfl ⟨0, 1⟩).mpr ?_
  refine ⟨by decide, by decide, fun _ => by decide, ?_⟩
  intro _ entries opened
  cases opened
  have fit : GroupsFit (staticText (oneRecordEnv true) "AVq1".toList
      ⟨"user_defined".toList, .regular "\"a\":1\n".toList true, true, fun _ => true⟩)
      ["\"a\":1".toList] := by
    intro j hj
    simp only [List.length_singleton] at hj
    obtain rfl : j = 0 := by omega
    decide
  refine List.forall_mem_cons.mpr ⟨⟨by decide, by decide, trivial⟩, ?_⟩
  refine List.forall_mem_cons.mpr ⟨⟨by decide, by decide, ?_⟩, by simp⟩
  refine Or.inr ⟨rfl, rfl, by decide, ?_, fit, fun _ _ => rfl⟩
  unfold ShortLine
  decide

/-- The server refuses the POST; the file is removed all the same. -/
theorem mfSend_removes_undelivered :
    ¬ ∀ (env : SendEnv) (r : Resources) (out : SendResult), env.keepLocalDataFlag = 0 →
      mfSend env r = .ok out → DeleteAfterDelivery out := by
  intro claim
  have outcome : (mfSend (oneRecordEnv false) ⟨0, 1⟩).map (fun out => out.visits.map
        fun v => (v.removed, fileLines v.entry.data, deliveredRecords v.posts)) =
      .ok [(false, [], []), (true, ["\"a\":1".toList], [])] := by
    decide +kernel
  obtain ⟨out, hrun, visits⟩ := Fault.map_eq_ok.mp outcome
  obtain ⟨v, member, seen⟩ :=
    List.mem_map.mp (visits ▸ List.mem_cons_of_mem _ List.mem_cons_self)
  simp only [Prod.mk.injEq] at seen
  have covered := claim _ _ out rfl hrun v member seen.1
  rw [seen.2.1, seen.2.2] at covered
  exact absurd covered.length_le (by decide)

end PhantomMonitor
