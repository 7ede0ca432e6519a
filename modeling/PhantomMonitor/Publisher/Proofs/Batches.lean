import PhantomMonitor.Misc.Batching
import PhantomMonitor.Publisher.Publisher

/-!
# The messages of `publish_file`

`publish_file` is a batcher of ten lines: its counter `i` and its half-built `message` follow
the list of lines that wait for the next POST, and each POST carries the text of one group. The
facts about groups come from `Batcher`; here the text and the counter are tied to it.
-/

namespace PhantomMonitor

open CText

/-- The text in `message` while the given lines wait to be sent. -/
def openBody (staticString : CText) (lines : List CText) : CText :=
  '[' :: [','].intercalate (lines.map (objectText staticString))

/-- The body of the message that carries the given lines: `[{s, l1},{s, l2},...]`. -/
def batchBody (staticString : CText) (lines : List CText) : CText :=
  openBody staticString lines ++ [']']

theorem openBody_singleton (s line : CText) : openBody s [line] = '[' :: objectText s line := by
  simp [openBody]

theorem openBody_append_singleton (s : CText) {lines : List CText} (hne : lines ≠ [])
    (line : CText) :
    openBody s (lines ++ [line]) = openBody s lines ++ ',' :: objectText s line := by
  have parts : ∀ (texts : List CText) (text : CText), texts ≠ [] →
      [','].intercalate (texts ++ [text]) = [','].intercalate texts ++ ',' :: text := by
    intro texts text htexts
    induction texts with
    | nil => exact absurd rfl htexts
    | cons first texts ih =>
        cases texts with
        | nil => simp [List.intercalate]
        | cons second texts =>
            have := ih (by simp)
            simp only [List.intercalate, List.cons_append, List.intersperse_cons_cons,
              List.flatten_cons, List.append_assoc] at this ⊢
            rw [this]
  simp only [openBody, List.map_append, List.map_cons, List.map_nil]
  rw [parts _ _ (by simpa using hne)]
  rfl

/-- A message only grows while lines are added to it. -/
theorem openBody_length_le (s : CText) {lines : List CText} (hne : lines ≠ [])
    (more : List CText) : (openBody s lines).length ≤ (openBody s (lines ++ more)).length := by
  induction more using List.reverseRecOn with
  | nil => simp
  | append_singleton more line ih =>
      rw [← List.append_assoc, openBody_append_singleton s (by simp [hne]), List.length_append]
      exact Nat.le_add_right_of_le ih

/-! ## The loop follows the batcher -/

/-- The posts carry the batcher's groups as text, each within the buffer. -/
structure Carry (s : CText) (posts : List Post) (sent : List (List CText × Bool)) : Prop where
  groups : posts.map (fun post => (post.records, post.ok)) = sent
  bodies : ∀ post ∈ posts, post.body = batchBody s post.records
  fits : ∀ post ∈ posts, post.body.length < messageSize

theorem Carry.length {s : CText} {posts : List Post} {sent : List (List CText × Bool)}
    (h : Carry s posts sent) : posts.length = sent.length := by
  rw [← h.groups, List.length_map]

/-- The loop variables show the batcher's pending lines and its hand-overs. -/
structure Shows (s : CText) (st : Posting) (b : Batcher CText) : Prop where
  short : b.pending.length < 10
  counter : st.i = b.pending.length
  records : st.records = b.pending
  message : b.pending ≠ [] → st.message = openBody s b.pending
  sent : Carry s st.posts b.sent

theorem shows_start (s : CText) : Shows s ⟨0, [], [], []⟩ Batcher.empty :=
  ⟨by simp [Batcher.empty], rfl, rfl, fun h => absurd rfl h, rfl, by simp, by simp⟩

/-- A POST of the pending lines is the batcher's hand-over. -/
theorem carry_post {s : CText} (st : Posting) (b : Batcher CText) (perform : Nat → Bool)
    (hsent : Carry s st.posts b.sent) (hrecords : st.records = b.pending)
    (hmessage : st.message = batchBody s b.pending) (hfits : st.message.length < messageSize) :
    Carry s (postMessage perform st).1.posts (Batcher.flush perform b).1.sent := by
  refine ⟨?_, ?_, ?_⟩
  · simp [postMessage, Batcher.flush, hsent.groups, hrecords, hsent.length]
  · intro post member
    rcases List.mem_append.mp member with member | member
    · exact hsent.bodies post member
    · rw [List.mem_singleton.mp member, hmessage, hrecords]
  · intro post member
    rcases List.mem_append.mp member with member | member
    · exact hsent.fits post member
    · rw [List.mem_singleton.mp member]
      exact hfits

/-- The text that one turn of the loop writes into `message`. -/
def lineMessage (s line : CText) (st : Posting) : CText :=
  if st.i = 0 then '[' :: objectText s (chop line)
  else if st.i = 9 then st.message ++ ',' :: objectText s (chop line) ++ [']']
  else st.message ++ ',' :: objectText s (chop line)

/-- The loop variables after a turn whose text fits. -/
def lineDone (perform : Nat → Bool) (s line : CText) (st : Posting) : Posting × Bool :=
  let st' := { st with message := lineMessage s line st, records := st.records ++ [chop line] }
  if st.i = 9 then
    if perform st.posts.length then (resetMessage (postMessage perform st').1, true)
    else ((postMessage perform st').1, false)
  else ({ st' with i := st.i + 1 }, true)

/-- One turn of the loop: a fault on an empty string or a full buffer, a write otherwise. -/
theorem publishLine_eq (perform : Nat → Bool) (s line : CText) (st : Posting) :
    publishLine perform s line st =
      if cstr line = [] then .error .outOfBounds
      else if (lineMessage s line st).length < messageSize then
        .ok (lineDone perform s line st)
      else .error .overflow := by
  unfold publishLine lineMessage lineDone
  by_cases hempty : cstr line = []
  · simp only [hempty, if_true]
  by_cases hzero : st.i = 0
  · simp only [hempty, if_false, hzero, if_true, store_bind, OfNat.zero_ne_ofNat, lineMessage]
    rfl
  by_cases hnine : st.i = 9
  · simp only [hempty, if_false, hnine, OfNat.ofNat_ne_zero, if_true, store_bind, lineMessage,
      postMessage]
    cases perform st.posts.length <;> rfl
  · simp only [hempty, if_false, hzero, hnine, store_bind, lineMessage]
    rfl

/-- In terms of the pending lines, the text written is an open message, or a closed one when the
tenth line comes. -/
theorem lineMessage_eq {s : CText} {st : Posting} {b : Batcher CText} (h : Shows s st b)
    (line : CText) :
    lineMessage s line st =
      if b.pending.length + 1 = 10 then batchBody s (b.pending ++ [chop line])
      else openBody s (b.pending ++ [chop line]) := by
  unfold lineMessage
  rw [h.counter]
  by_cases hnil : b.pending = []
  · simp [hnil, openBody_singleton]
  · have hpos : b.pending.length ≠ 0 := fun hz => hnil (List.length_eq_zero_iff.mp hz)
    rw [if_neg hpos, batchBody, openBody_append_singleton s hnil, h.message hnil]
    simp only [Nat.reduceEqDiff]

/-- The result of a turn shows the result of the batcher's step; after a refused POST only the
posts count. -/
def Follows (s : CText) (r : Posting × Bool) (q : Batcher CText × Bool) : Prop :=
  r.2 = q.2 ∧ Carry s r.1.posts q.1.sent ∧ (r.2 = true → Shows s r.1 q.1)

/-- A turn whose text fits is one `push` of the chopped line. -/
theorem lineDone_follows {s : CText} {st : Posting} {b : Batcher CText} (h : Shows s st b)
    (perform : Nat → Bool) (line : CText) (hfits : (lineMessage s line st).length < messageSize) :
    Follows s (lineDone perform s line st) (Batcher.push 10 perform (chop line) b) := by
  have text := lineMessage_eq h line
  unfold lineDone Batcher.push
  by_cases full : b.pending.length + 1 = 10
  · have hnine : st.i = 9 := by
      rw [h.counter]
      omega
    rw [if_pos full] at text ⊢
    rw [if_pos hnine, h.sent.length]
    have posted := carry_post
      { st with message := lineMessage s line st, records := st.records ++ [chop line] }
      ⟨b.pending ++ [chop line], b.sent⟩ perform h.sent (by simp only [h.records]) text hfits
    cases outcome : perform b.sent.length with
    | true =>
        refine ⟨by simp [Batcher.flush, outcome], posted, ?_⟩
        intro _
        exact ⟨by simp [Batcher.flush], rfl, rfl, fun hn => absurd rfl hn, posted⟩
    | false => exact ⟨by simp [Batcher.flush, outcome], posted, fun hgo => by simp at hgo⟩
  · have hnine : st.i ≠ 9 := by
      rw [h.counter]
      omega
    rw [if_neg full] at text ⊢
    rw [if_neg hnine]
    refine ⟨rfl, h.sent, ?_⟩
    intro _
    have := h.short
    exact ⟨by simp; omega, by simp [h.counter], by simp [h.records], fun _ => text, h.sent⟩

theorem publishLines_follows {s : CText} {perform : Nat → Bool} {lines : List CText}
    {st : Posting} {b : Batcher CText} (h : Shows s st b) {r : Posting × Bool}
    (hrun : publishLines perform s lines st = .ok r) :
    Follows s r (Batcher.pushAll 10 perform (lines.map chop) b) := by
  induction lines generalizing st b with
  | nil =>
      obtain rfl : (st, true) = r := by simpa [publishLines] using hrun
      exact ⟨rfl, h.sent, fun _ => h⟩
  | cons line lines ih =>
      simp only [publishLines, publishLine_eq] at hrun
      by_cases hempty : cstr line = []
      · simp [hempty] at hrun
      rw [if_neg hempty] at hrun
      by_cases hfits : (lineMessage s line st).length < messageSize
      · rw [if_pos hfits] at hrun
        have step := lineDone_follows h perform line hfits
        simp only [List.map_cons, Batcher.pushAll]
        rcases hdone : lineDone perform s line st with ⟨st', go⟩
        rcases hpush : Batcher.push 10 perform (chop line) b with ⟨b', go'⟩
        rw [hdone, hpush] at step
        rw [hdone] at hrun
        obtain rfl : go = go' := step.1
        cases go with
        | true => exact ih (step.2.2 rfl) hrun
        | false =>
            obtain rfl : (st', false) = r := by simpa using hrun
            exact step
      · simp [hfits] at hrun

theorem publishRest_follows {s : CText} {perform : Nat → Bool} {st : Posting}
    {b : Batcher CText} (h : Shows s st b) {r : Posting × Bool}
    (hrun : publishRest perform st = .ok r) :
    r.2 = (Batcher.finish perform (b, true)).2 ∧
      Carry s r.1.posts (Batcher.finish perform (b, true)).1.sent := by
  unfold publishRest at hrun
  by_cases hnil : b.pending = []
  · have hzero : ¬ 0 < st.i := by
      rw [h.counter, hnil]
      exact Nat.lt_irrefl 0
    rw [if_neg hzero] at hrun
    obtain rfl : (st, true) = r := by simpa using hrun
    simp only [Batcher.finish, if_pos hnil]
    exact ⟨trivial, h.sent⟩
  · have hpos : 0 < st.i := by
      rw [h.counter]
      exact List.length_pos_iff.mpr hnil
    rw [if_pos hpos, store_bind] at hrun
    simp only [Batcher.finish, if_neg hnil]
    by_cases hfits : (st.message ++ [']']).length < messageSize
    · rw [if_pos hfits] at hrun
      obtain rfl : postMessage perform { st with message := st.message ++ [']'] } = r := by
        simpa [pure, Except.pure] using hrun
      refine ⟨by simp [postMessage, Batcher.flush, h.sent.length], ?_⟩
      exact carry_post { st with message := st.message ++ [']'] } b perform h.sent h.records
        (by simp only [h.message hnil, batchBody]) hfits
    · rw [if_neg hfits] at hrun
      simp at hrun

/-- A call that gets through the file without a fault makes the posts of a batcher of ten on the
chopped lines. -/
theorem publishContent_run {perform : Nat → Bool} {s content : CText} {posts : List Post}
    {go : Bool} (hrun : publishContent perform s content = .ok (posts, go)) :
    go = (Batcher.run 10 perform ((readLines lineSize content).map chop)).2 ∧
      Carry s posts (Batcher.run 10 perform ((readLines lineSize content).map chop)).1.sent := by
  unfold publishContent at hrun
  unfold Batcher.run
  rcases hlines : publishLines perform s (readLines lineSize content) ⟨0, [], [], []⟩ with
    fault | ⟨st, more⟩
  · simp [hlines] at hrun
  rw [hlines] at hrun
  have follows := publishLines_follows (shows_start s) hlines
  rcases hpush : Batcher.pushAll 10 perform ((readLines lineSize content).map chop)
    Batcher.empty with ⟨b, more'⟩
  rw [hpush] at follows
  obtain rfl : more = more' := follows.1
  cases more with
  | false =>
      obtain ⟨rfl, rfl⟩ : st.posts = posts ∧ false = go := by simpa using hrun
      exact ⟨rfl, follows.2.1⟩
  | true =>
      rcases hrest : publishRest perform st with fault | ⟨st', go'⟩
      · simp [hrest] at hrun
      · simp only [hrest, Except.ok.injEq, Prod.mk.injEq] at hrun
        obtain ⟨rfl, rfl⟩ := hrun
        exact publishRest_follows (follows.2.2 rfl) hrest

/-! ## Messages that fit -/

/-- A group of ten with room for its message leaves room for every part of it. -/
theorem lineMessage_lt {s : CText} {st : Posting} {b : Batcher CText} (h : Shows s st b)
    (line : CText) (more : List CText)
    (hgroup : (batchBody s ((b.pending ++ chop line :: more).take 10)).length < messageSize) :
    (lineMessage s line st).length < messageSize := by
  have short := h.short
  have split : (b.pending ++ chop line :: more).take 10 =
      (b.pending ++ [chop line]) ++ more.take (9 - b.pending.length) := by
    rw [List.append_cons, List.take_append, List.take_of_length_le (by simp; omega)]
    simp
  rw [lineMessage_eq h line]
  by_cases full : b.pending.length + 1 = 10
  · rw [if_pos full]
    have none : 9 - b.pending.length = 0 := by omega
    rwa [split, none, List.take_zero, List.append_nil] at hgroup
  · rw [if_neg full]
    have open_ne : b.pending ++ [chop line] ≠ [] := by simp
    have grows := openBody_length_le s open_ne (more.take (9 - b.pending.length))
    rw [split, batchBody, List.length_append] at hgroup
    omega

theorem publishLines_ok {s : CText} {perform : Nat → Bool} {lines : List CText}
    {done : List CText} {st : Posting} {b : Batcher CText} (h : Shows s st b)
    (hcaught : Batcher.Caught 10 perform done b) (hlines : ∀ line ∈ lines, cstr line ≠ [])
    (hgroups : ∀ j, 10 * j < (done ++ lines.map chop).length →
      (batchBody s (Batcher.group 10 (done ++ lines.map chop) j)).length < messageSize) :
    ∃ r, publishLines perform s lines st = .ok r := by
  induction lines generalizing st b done with
  | nil => exact ⟨_, rfl⟩
  | cons line lines ih =>
      have total := hcaught.length
      have hgroup := hgroups b.sent.length (by simp; omega)
      rw [Batcher.group, List.drop_append_of_le_length (by omega), ← hcaught.pending,
        List.map_cons] at hgroup
      have hfits := lineMessage_lt h line _ hgroup
      have follows := lineDone_follows h perform line hfits
      have step := Batcher.push_spec (chop line) hcaught
      simp only [publishLines, publishLine_eq, if_neg (hlines line List.mem_cons_self),
        if_pos hfits]
      rcases hdone : lineDone perform s line st with ⟨st', go⟩
      rcases hpush : Batcher.push 10 perform (chop line) b with ⟨b', go'⟩
      rw [hdone, hpush] at follows
      rw [hpush] at step
      obtain rfl : go = go' := follows.1
      cases go with
      | false => exact ⟨_, rfl⟩
      | true =>
          rcases step with ⟨-, caught⟩ | ⟨stopped, -⟩
          · refine ih (follows.2.2 rfl) caught (fun l m => hlines l (List.mem_cons_of_mem _ m)) ?_
            simpa using hgroups
          · cases stopped

/-- A file whose groups of lines fit the buffer is sent without a fault. -/
theorem publishContent_ok {perform : Nat → Bool} {s content : CText}
    (hlines : ∀ line ∈ readLines lineSize content, cstr line ≠ [])
    (hgroups : ∀ j, 10 * j < ((readLines lineSize content).map chop).length →
      (batchBody s (Batcher.group 10 ((readLines lineSize content).map chop) j)).length <
        messageSize) :
    ∃ r, publishContent perform s content = .ok r := by
  have hstart := Batcher.caught_empty (α := CText) (n := 10) (by decide) perform
  obtain ⟨⟨st, more⟩, hrun⟩ := publishLines_ok (shows_start s) hstart hlines hgroups
  have follows := publishLines_follows (shows_start s) hrun
  simp only [publishContent, hrun]
  cases more with
  | false => exact ⟨_, rfl⟩
  | true =>
      have caught := Batcher.pushAll_spec hstart ((readLines lineSize content).map chop)
      rcases hpush : Batcher.pushAll 10 perform ((readLines lineSize content).map chop)
        Batcher.empty with ⟨b, more'⟩
      rw [hpush] at follows caught
      obtain rfl : true = more' := follows.1
      rcases caught with ⟨-, caught⟩ | ⟨stopped, -⟩
      · replace caught : Batcher.Caught 10 perform
            ([] ++ (readLines lineSize content).map chop) b := caught
        have shows := follows.2.2 rfl
        simp only [publishRest]
        by_cases hpos : 0 < st.i
        · have hne : b.pending ≠ [] := by
            rw [shows.counter] at hpos
            exact List.length_pos_iff.mp hpos
          rw [List.nil_append] at caught
          have total := caught.length
          have waiting := List.length_pos_iff.mpr hne
          have hgroup := hgroups b.sent.length (by omega)
          have hpending : b.pending =
              Batcher.group 10 ((readLines lineSize content).map chop) b.sent.length := by
            rw [Batcher.group, ← caught.pending, List.take_of_length_le (Nat.le_of_lt caught.short)]
          rw [← hpending] at hgroup
          rw [if_pos hpos, store_bind, if_pos (by rw [shows.message hne]; exact hgroup)]
          exact ⟨_, rfl⟩
        · rw [if_neg hpos]
          exact ⟨_, rfl⟩
      · cases stopped

end PhantomMonitor
