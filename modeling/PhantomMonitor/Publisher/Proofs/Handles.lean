import PhantomMonitor.Misc.Runs
import PhantomMonitor.Publisher.Publisher

/-!
# Handles and streams of the publisher

A call is balanced when it leaves as many curl handles and open files as it found. The functions
that make one transfer are, unless that transfer fails; `publish_file` is only when it makes no
handle, since no path of it closes the file.
-/

namespace PhantomMonitor

open CText

/-- A call of one of the four functions, with its arguments and what it meets. -/
inductive PublisherCall where
  | queryJson (t : Transfer) (url responseStr : CText)
  | publishJson (t : Transfer) (url message : CText)
  | createNewExperiment (t : Transfer) (url message experimentId : CText)
  | publishFile (t : FileTransfer) (url staticString filename : CText)

namespace PublisherCall

/-- The handles and streams after a call. -/
def apply (r : Resources) : PublisherCall → Except Fault Resources
  | queryJson t url responseStr => .ok (PhantomMonitor.queryJson t url responseStr r).2.2
  | publishJson t url message => .ok (PhantomMonitor.publishJson t url message r).2.2
  | createNewExperiment t url message experimentId =>
      .ok (PhantomMonitor.createNewExperiment t url message experimentId r).2.2
  | publishFile t url staticString filename =>
      (PhantomMonitor.publishFile t url staticString filename r).map Published.res

/-- The calls of a program as moves. -/
def step (r : Resources) (call : PublisherCall) : Option Resources := (call.apply r).toOption

/-- The call leaves the handles and streams as it found them. -/
def Balanced (r : Resources) (call : PublisherCall) : Prop := call.apply r = .ok r

/-- The call gets past the checks of its arguments and is given a handle. -/
def MakesHandle : PublisherCall → Prop
  | queryJson t url _ => url ≠ [] ∧ t.curlInit = true
  | publishJson t url message => url ≠ [] ∧ message ≠ [] ∧ t.curlInit = true
  | createNewExperiment t url message _ => url ≠ [] ∧ message ≠ [] ∧ t.curlInit = true
  | publishFile t url staticString filename =>
      url ≠ [] ∧ staticString ≠ [] ∧ filename ≠ [] ∧ t.curlInit = true

/-- The transfer of a call that makes only one succeeds. -/
def Transferred : PublisherCall → Prop
  | queryJson t _ _ => t.perform = true
  | publishJson t _ _ => t.perform = true
  | createNewExperiment t _ _ _ => t.perform = true
  | publishFile _ _ _ _ => False

end PublisherCall

/-! ## One call -/

theorem checkURL_eq_failed (url : CText) : checkURL url = failed ↔ url = [] := by
  rw [checkURL]
  split <;> simp_all [success, failed]

theorem checkMessage_eq_failed (message : CText) : checkMessage message = failed ↔ message = [] :=
  checkURL_eq_failed message

theorem curlEasyCleanup_new (r : Resources) :
    curlEasyCleanup { r with handles := r.handles + 1 } = r := rfl

theorem newHandle_ne (r : Resources) : { r with handles := r.handles + 1 } ≠ r := by
  intro same
  have handles := congrArg Resources.handles same
  simp at handles

theorem newStream_ne (r : Resources) (n : Nat) :
    ({ handles := n, streams := r.streams + 1 } : Resources) ≠ r := by
  intro same
  have streams := congrArg Resources.streams same
  simp at streams

theorem queryJson_balanced_iff (t : Transfer) (url responseStr : CText) (r : Resources) :
    (queryJson t url responseStr r).2.2 = r ↔
      (url ≠ [] ∧ t.curlInit = true → t.perform = true) := by
  unfold queryJson prepareQuery preparePublish
  simp only [checkURL_eq_failed]
  by_cases hurl : url = []
  · simp [hurl]
  · cases hinit : t.curlInit with
    | false => simp [hurl]
    | true =>
        cases hperform : t.perform with
        | true => simp [hurl, curlEasyCleanup_new]
        | false => simp [hurl, newHandle_ne]

theorem publishJson_balanced_iff (t : Transfer) (url message : CText) (r : Resources) :
    (publishJson t url message r).2.2 = r ↔
      (url ≠ [] ∧ message ≠ [] ∧ t.curlInit = true → t.perform = true) := by
  unfold publishJson preparePublish
  simp only [checkURL_eq_failed, checkMessage_eq_failed]
  by_cases hchecks : url = [] ∨ message = []
  · rcases hchecks with hurl | hmessage
    · simp [hurl]
    · simp [hmessage]
  · obtain ⟨hurl, hmessage⟩ := not_or.mp hchecks
    cases hinit : t.curlInit with
    | false => simp [hurl, hmessage]
    | true =>
        cases hperform : t.perform with
        | true => simp [hurl, hmessage, curlEasyCleanup_new]
        | false => simp [hurl, hmessage, newHandle_ne]

/-- `create_new_experiment` makes and releases its handle as `publish_json` does. -/
theorem createNewExperiment_res (t : Transfer) (url message experimentId : CText)
    (r : Resources) :
    (createNewExperiment t url message experimentId r).2.2 = (publishJson t url message r).2.2 := by
  unfold createNewExperiment publishJson
  split
  · rfl
  · cases preparePublish t.curlInit r with
    | none => rfl
    | some r => cases t.perform <;> rfl

theorem publishFile_balanced_iff (t : FileTransfer) (url staticString filename : CText)
    (r : Resources) :
    (publishFile t url staticString filename r).map Published.res = .ok r ↔
      ¬ (url ≠ [] ∧ staticString ≠ [] ∧ filename ≠ [] ∧ t.curlInit = true) := by
  unfold publishFile preparePublish
  simp only [checkURL_eq_failed, checkMessage_eq_failed]
  by_cases hchecks : url = [] ∨ staticString = [] ∨ filename = []
  · rcases hchecks with hurl | hstatic | hfilename
    · simp [hurl, Except.map]
    · simp [hstatic, Except.map]
    · simp [hfilename, Except.map]
  · obtain ⟨hurl, hstatic, hfilename⟩ : url ≠ [] ∧ staticString ≠ [] ∧ filename ≠ [] := by
      simpa using hchecks
    cases hinit : t.curlInit with
    | false => simp [hurl, hstatic, hfilename, Except.map]
    | true =>
        cases hcontent : t.content with
        | none => simp [hurl, hstatic, hfilename, Except.map, newHandle_ne]
        | some content =>
            cases hpublish : publishContent t.perform staticString content with
            | error fault => simp [hurl, hstatic, hfilename, hpublish, Except.map]
            | ok published =>
                obtain ⟨posts, go⟩ := published
                cases go <;>
                  simp [hurl, hstatic, hfilename, hpublish, Except.map, curlEasyCleanup,
                    newStream_ne]

/-- A call is balanced exactly when it makes no handle, or makes one transfer which succeeds. -/
theorem PublisherCall.balanced_iff (r : Resources) (call : PublisherCall) :
    call.Balanced r ↔ (call.MakesHandle → call.Transferred) := by
  unfold Balanced
  cases call with
  | queryJson t url responseStr =>
      simp only [apply, Except.ok.injEq]
      exact queryJson_balanced_iff t url responseStr r
  | publishJson t url message =>
      simp only [apply, Except.ok.injEq]
      exact publishJson_balanced_iff t url message r
  | createNewExperiment t url message experimentId =>
      simp only [apply, Except.ok.injEq, createNewExperiment_res]
      exact publishJson_balanced_iff t url message r
  | publishFile t url staticString filename =>
      exact publishFile_balanced_iff t url staticString filename r

/-! ## Any sequence of calls -/

/-- Every call of a sequence is balanced exactly when none of them makes a handle, except for a
single transfer which succeeds. -/
theorem publisher_balanced_iff (calls : List PublisherCall) (r : Resources) :
    Runs.Each PublisherCall.step (fun r call => call.Balanced r) r calls ↔
      ∀ call ∈ calls, call.MakesHandle → call.Transferred := by
  induction calls with
  | nil => simp [Runs.Each]
  | cons call calls ih =>
      rw [Runs.Each, List.forall_mem_cons, ← call.balanced_iff r]
      constructor
      · rintro ⟨balanced, rest⟩
        have next : PublisherCall.step r call = some r := by
          rw [PublisherCall.step, balanced, Except.toOption]
        exact ⟨balanced, ih.mp (rest r next)⟩
      · rintro ⟨balanced, rest⟩
        refine ⟨balanced, ?_⟩
        intro r' next
        rw [PublisherCall.step, balanced, Except.toOption, Option.some.injEq] at next
        exact next ▸ ih.mpr rest

/-- A transfer that fails leaves its handle, and a file that is sent stays open. -/
theorem failed_publish_leaks :
    ¬ Runs.Each PublisherCall.step (fun r call => call.Balanced r) ⟨0, 0⟩
        [.publishJson ⟨true, [], false⟩ "http://localhost:3033/v1/mf/metrics".toList "[]".toList] ∧
      ¬ Runs.Each PublisherCall.step (fun r call => call.Balanced r) ⟨0, 0⟩
        [.publishFile ⟨true, some [], fun _ => true⟩ "http://localhost:3033/v1/mf/metrics".toList
          "\"TaskID\":\"t\"".toList "logs/power".toList] := by
  constructor
  · intro each
    have transferred := (PublisherCall.balanced_iff _ _).mp each.1 ⟨by simp, by simp, rfl⟩
    exact Bool.false_ne_true transferred
  · intro each
    exact (PublisherCall.balanced_iff _ _).mp each.1 ⟨by simp, by simp, by simp, rfl⟩

end PhantomMonitor
