import PhantomMonitor.Publisher.Proofs.PublishFile

/-!
# The message buffer

`message` grows record by record, up to ten of them, and nothing looks at its length. A call stays
in its buffers exactly when the lines of each group that is reached are short enough together, and
none of their pieces is empty.
-/

namespace PhantomMonitor

open CText Batcher

/-! ## Lengths -/

/-- The length of `message` with the given lines in it. -/
def groupLength (s : CText) (lines : List CText) : Nat :=
  (lines.map List.length).sum + lines.length * (s.length + 5)

theorem openBody_length (s : CText) {lines : List CText} (hne : lines ≠ []) :
    (openBody s lines).length = groupLength s lines := by
  have object (line : CText) : (objectText s line).length = s.length + line.length + 4 := by
    simp only [objectText, List.cons_append, List.length_cons, List.length_append, List.length_nil]
    omega
  induction lines using List.reverseRecOn with
  | nil => exact absurd rfl hne
  | append_singleton lines line ih =>
      by_cases hnil : lines = []
      · subst hnil
        simp only [List.nil_append, openBody_singleton, groupLength, List.length_cons, object,
          List.map_cons, List.map_nil, List.sum_cons, List.sum_nil, List.length_nil]
        omega
      · rw [openBody_append_singleton s hnil, List.length_append, ih hnil, List.length_cons, object]
        simp only [groupLength, List.map_append, List.sum_append, List.length_append, List.map_cons,
          List.map_nil, List.sum_cons, List.sum_nil, List.length_singleton, Nat.add_mul]
        omega

theorem groupLength_take_le (s : CText) (n : Nat) (lines : List CText) :
    groupLength s (lines.take n) ≤ groupLength s lines := by
  conv => rhs; rw [← List.take_append_drop n lines]
  simp only [groupLength, List.map_append, List.sum_append, List.length_append, Nat.add_mul]
  omega

/-- The length of `message` behind the `m`-th line. -/
def textLength (s : CText) (lines : List CText) (m : Nat) : Nat :=
  groupLength s ((lines.drop (10 * (m / 10))).take (m % 10 + 1)) + if m % 10 = 9 then 1 else 0

/-- The text that a turn writes, by its place in the file. -/
theorem lineMessage_length {s : CText} {st : Posting} {b : Batcher CText} (h : Shows s st b)
    {perform : Nat → Bool} {done : List CText} (caught : Caught 10 perform done b) (line : CText)
    (rest : List CText) :
    (lineMessage s line st).length = textLength s (done ++ chop line :: rest) done.length := by
  have short := caught.short
  have total := caught.length
  have group : done.length / 10 = b.sent.length := by omega
  have place : done.length % 10 = b.pending.length := by omega
  have lines : (done ++ chop line :: rest).drop (10 * b.sent.length) =
      (b.pending ++ [chop line]) ++ rest := by
    rw [List.drop_append_of_le_length (by omega), ← caught.pending, List.append_assoc]
    rfl
  have taken : ((b.pending ++ [chop line]) ++ rest).take (b.pending.length + 1) =
      b.pending ++ [chop line] := by
    rw [List.take_append_of_le_length (by simp), List.take_of_length_le (by simp)]
  have filled : b.pending ++ [chop line] ≠ [] := by simp
  rw [lineMessage_eq h line, textLength, group, place, lines, taken]
  by_cases full : b.pending.length + 1 = 10
  · rw [if_pos full, if_pos (by omega), batchBody, List.length_append, openBody_length s filled]
    rfl
  · rw [if_neg full, if_neg (by omega), openBody_length s filled]
    rfl

/-! ## The turns of a call -/

/-- Each of the remaining pieces that is reached has a character and fits into the message, and so
does the bracket behind the last message. -/
structure Fits (perform : Nat → Bool) (s : CText) (done chunks : List CText) : Prop where
  turns : ∀ n, ∀ chunk ∈ chunks[n]?, (∀ k < (done.length + n) / 10, perform k = true) →
    cstr chunk ≠ [] ∧ textLength s (done ++ chunks.map chop) (done.length + n) < messageSize
  rest : (done.length + chunks.length) % 10 ≠ 0 →
    (∀ k < (done.length + chunks.length) / 10, perform k = true) →
      groupLength s
          ((done ++ chunks.map chop).drop (10 * ((done.length + chunks.length) / 10))) + 1 <
        messageSize

/-- The call from some line on. -/
def continueContent (perform : Nat → Bool) (s : CText) (chunks : List CText) (st : Posting) :
    Except Fault (List Post × Bool) :=
  match publishLines perform s chunks st with
  | .error fault => .error fault
  | .ok (st, false) => .ok (st.posts, false)
  | .ok (st, true) =>
      match publishRest perform st with
      | .error fault => .error fault
      | .ok (st, go) => .ok (st.posts, go)

theorem fits_cons {perform : Nat → Bool} {s chunk : CText} {done chunks : List CText}
    (reached : ∀ k < done.length / 10, perform k = true) :
    Fits perform s done (chunk :: chunks) ↔
      (cstr chunk ≠ [] ∧
        textLength s (done ++ chop chunk :: chunks.map chop) done.length < messageSize) ∧
      Fits perform s (done ++ [chop chunk]) chunks := by
  have lines : done ++ chop chunk :: chunks.map chop = done ++ [chop chunk] ++ chunks.map chop :=
    List.append_cons _ _ _
  have behind (n : Nat) : done.length + (n + 1) = (done ++ [chop chunk]).length + n := by
    rw [List.length_append, List.length_singleton]
    omega
  constructor
  · intro fits
    refine ⟨fits.turns 0 chunk rfl reached, ?_, ?_⟩
    · intro n next found accepted
      rw [← behind, ← lines] at *
      exact fits.turns (n + 1) next found accepted
    · intro waiting accepted
      rw [← behind, ← lines] at *
      exact fits.rest waiting accepted
  · rintro ⟨first, fits⟩
    constructor
    · intro n next found accepted
      cases n with
      | zero =>
          cases found
          exact first
      | succ n =>
          rw [List.map_cons, lines, behind] at *
          exact fits.turns n next found accepted
    · intro waiting accepted
      rw [List.map_cons, lines, List.length_cons, behind] at *
      exact fits.rest waiting accepted

/-- Nothing is written behind a message that is refused. -/
theorem fits_refused {perform : Nat → Bool} {s : CText} {done chunks : List CText} {k : Nat}
    (refused : perform k = false) (h : 10 * (k + 1) ≤ done.length) :
    Fits perform s done chunks := by
  have stop {m : Nat} (later : done.length ≤ m) : ¬ ∀ k < m / 10, perform k = true := by
    intro accepted
    rw [accepted k (by omega)] at refused
    cases refused
  exact ⟨fun n _ _ accepted => absurd accepted (stop (Nat.le_add_right _ n)),
    fun _ accepted => absurd accepted (stop (Nat.le_add_right _ _))⟩

/-- What is left at the end of the file. -/
theorem continueContent_nil {perform : Nat → Bool} {s : CText} {done : List CText} {st : Posting}
    {b : Batcher CText} (h : Shows s st b) (caught : Caught 10 perform done b) :
    (∃ out, continueContent perform s [] st = .ok out) ↔ Fits perform s done [] := by
  have short := caught.short
  have total := caught.length
  have group : done.length / 10 = b.sent.length := by omega
  have place : done.length % 10 = b.pending.length := by omega
  have last : Fits perform s done [] ↔
      (b.pending.length ≠ 0 → groupLength s b.pending + 1 < messageSize) := by
    have lines : done ++ ([] : List CText).map chop = done := List.append_nil done
    constructor
    · intro fits waiting
      have rest := fits.rest
      rw [lines, List.length_nil, Nat.add_zero, place, group, ← caught.pending] at rest
      exact rest waiting caught.accepted
    · intro fits
      refine ⟨fun n chunk found => (by cases found), ?_⟩
      rw [lines, List.length_nil, Nat.add_zero, place, group, ← caught.pending]
      exact fun waiting _ => fits waiting
  rw [last]
  unfold continueContent
  simp only [publishLines, publishRest]
  by_cases hnil : b.pending = []
  · have zero : ¬ 0 < st.i := by
      rw [h.counter, hnil]
      exact Nat.lt_irrefl 0
    rw [if_neg zero]
    exact ⟨fun _ waiting => absurd (List.length_eq_zero_iff.mpr hnil) waiting, fun _ => ⟨_, rfl⟩⟩
  · have waiting := List.length_pos_iff.mpr hnil
    have positive : 0 < st.i := by
      rw [h.counter]
      exact waiting
    have length : (st.message ++ [']']).length = groupLength s b.pending + 1 := by
      rw [List.length_append, h.message hnil, openBody_length s hnil]
      rfl
    rw [if_pos positive, store_bind, length]
    by_cases fits : groupLength s b.pending + 1 < messageSize
    · rw [if_pos fits]
      exact ⟨fun _ _ => fits, fun _ => ⟨_, rfl⟩⟩
    · rw [if_neg fits]
      refine ⟨?_, fun rest => absurd (rest waiting.ne') fits⟩
      rintro ⟨_, ⟨⟩⟩

/-- One piece, and the rest of the call. -/
theorem continueContent_cons (perform : Nat → Bool) (s chunk : CText) (chunks : List CText)
    (st : Posting) :
    continueContent perform s (chunk :: chunks) st =
      match publishLine perform s chunk st with
      | .error fault => .error fault
      | .ok (st, true) => continueContent perform s chunks st
      | .ok (st, false) => .ok (st.posts, false) := by
  rw [continueContent, publishLines]
  rcases publishLine perform s chunk st with fault | ⟨st', _ | _⟩ <;> rfl

/-- The rest of a call, by induction on the pieces that are left. -/
theorem continueContent_ok_iff {perform : Nat → Bool} {s : CText} {chunks done : List CText}
    {st : Posting} {b : Batcher CText} (h : Shows s st b) (caught : Caught 10 perform done b) :
    (∃ out, continueContent perform s chunks st = .ok out) ↔ Fits perform s done chunks := by
  induction chunks generalizing st b done with
  | nil => exact continueContent_nil h caught
  | cons chunk chunks ih =>
      have reached : ∀ k < done.length / 10, perform k = true := by
        intro k less
        have short := caught.short
        have total := caught.length
        exact caught.accepted k (by omega)
      rw [continueContent_cons, publishLine_eq, fits_cons reached,
        ← lineMessage_length h caught chunk (chunks.map chop)]
      by_cases hempty : cstr chunk = []
      · rw [if_pos hempty]
        refine ⟨?_, fun fits => absurd hempty fits.1.1⟩
        rintro ⟨_, ⟨⟩⟩
      · rw [if_neg hempty]
        by_cases fits : (lineMessage s chunk st).length < messageSize
        · rw [if_pos fits]
          have follows := lineDone_follows h perform chunk fits
          have step := push_spec (chop chunk) caught
          rcases hdone : lineDone perform s chunk st with ⟨st', go⟩
          rcases hpush : push 10 perform (chop chunk) b with ⟨b', go'⟩
          rw [hdone, hpush] at follows
          rw [hpush] at step
          obtain rfl : go = go' := follows.1
          refine Iff.trans ?_ (and_iff_right ⟨hempty, fits⟩).symm
          rcases step with ⟨rfl, caught'⟩ | ⟨rfl, full, refused⟩
          · exact ih (follows.2.2 rfl) caught'
          · refine iff_of_true ⟨_, rfl⟩ (fits_refused refused.refused ?_)
            have some : 0 < b'.sent.length := refused.some
            rw [Nat.sub_add_cancel some]
            exact full
        · rw [if_neg fits]
          refine ⟨?_, fun rest => absurd rest.1.2 fits⟩
          rintro ⟨_, ⟨⟩⟩

/-! ## Groups of lines -/

/-- In each group of ten that is reached, every piece has a character, and the lines fit the buffer
together with their bracket. -/
def BatchesFit (perform : Nat → Bool) (s : CText) (chunks : List CText) : Prop :=
  ∀ j, 10 * j < chunks.length → (∀ k < j, perform k = true) →
    (∀ chunk ∈ group 10 chunks j, cstr chunk ≠ []) ∧
      groupLength s ((group 10 chunks j).map chop) + 1 < messageSize

theorem group_map (chunks : List CText) (j : Nat) :
    (group 10 chunks j).map chop = group 10 (chunks.map chop) j := by
  rw [group, group, List.map_take, List.map_drop]

theorem group_rest {lines : List CText} {j : Nat} (h : lines.length < 10 * j + 10) :
    group 10 lines j = lines.drop (10 * j) := by
  rw [group, List.take_of_length_le]
  rw [List.length_drop]
  omega

/-- A piece is in the group of its place. -/
theorem mem_group_iff {chunks : List CText} {j : Nat} {chunk : CText} :
    chunk ∈ group 10 chunks j ↔ ∃ n, chunks[n]? = some chunk ∧ n / 10 = j := by
  constructor
  · intro member
    obtain ⟨i, found⟩ := List.mem_iff_getElem?.mp member
    have less : i < 10 := by
      have bound := (List.getElem?_eq_some_iff.mp found).1
      rw [group, List.length_take] at bound
      omega
    rw [group, List.getElem?_take_of_lt less, List.getElem?_drop] at found
    exact ⟨10 * j + i, found, by omega⟩
  · rintro ⟨n, found, rfl⟩
    refine List.mem_iff_getElem?.mpr ⟨n % 10, ?_⟩
    rw [group, List.getElem?_take_of_lt (by omega), List.getElem?_drop, ← found]
    congr 1
    omega

/-- The longest text of a group is the last one. -/
theorem textLength_le {s : CText} {lines : List CText} (m : Nat) :
    textLength s lines m ≤ groupLength s (group 10 lines (m / 10)) + 1 := by
  have inner : (lines.drop (10 * (m / 10))).take (m % 10 + 1) =
      (group 10 lines (m / 10)).take (m % 10 + 1) := by
    rw [group, List.take_take, Nat.min_eq_left (by omega)]
  rw [textLength, inner]
  refine Nat.add_le_add (groupLength_take_le s _ _) ?_
  split
  · exact Nat.le_refl 1
  · exact Nat.zero_le 1

theorem BatchesFit.fits {perform : Nat → Bool} {s : CText} {chunks : List CText}
    (h : BatchesFit perform s chunks) : Fits perform s [] chunks := by
  constructor
  · intro n chunk found accepted
    rw [List.length_nil, Nat.zero_add] at accepted ⊢
    have inside := (List.getElem?_eq_some_iff.mp found).1
    obtain ⟨characters, length⟩ := h (n / 10) (by omega) accepted
    rw [group_map] at length
    exact ⟨characters chunk (mem_group_iff.mpr ⟨n, found, rfl⟩),
      Nat.lt_of_le_of_lt (textLength_le n) length⟩
  · intro waiting accepted
    rw [List.length_nil, Nat.zero_add] at waiting accepted ⊢
    have length := (h _ (by omega) accepted).2
    rwa [group_map, group_rest (by rw [List.length_map]; omega)] at length

theorem Fits.batchesFit {perform : Nat → Bool} {s : CText} {chunks : List CText}
    (h : Fits perform s [] chunks) : BatchesFit perform s chunks := by
  obtain ⟨turns, rest⟩ := h
  simp only [List.length_nil, Nat.zero_add, List.nil_append] at turns rest
  intro j some accepted
  constructor
  · intro chunk member
    obtain ⟨n, found, rfl⟩ := mem_group_iff.mp member
    exact (turns n chunk found accepted).1
  · rw [group_map]
    by_cases full : 10 * j + 9 < chunks.length
    · have tenth : (10 * j + 9) / 10 = j ∧ (10 * j + 9) % 10 = 9 := by omega
      have fits := (turns (10 * j + 9) _ (List.getElem?_eq_getElem full)
        (by rwa [tenth.1])).2
      rwa [textLength, tenth.1, tenth.2, if_pos rfl] at fits
    · have last : chunks.length / 10 = j := by omega
      have fits := rest (by omega) (by rwa [last])
      rwa [last, ← group_rest (by rw [List.length_map]; omega)] at fits

theorem publishContent_ok_iff {perform : Nat → Bool} {s content : CText} :
    (∃ out, publishContent perform s content = .ok out) ↔
      BatchesFit perform s (readLines lineSize content) := by
  have run : (∃ out, continueContent perform s (readLines lineSize content) ⟨0, [], [], []⟩ =
      .ok out) ↔ Fits perform s [] (readLines lineSize content) :=
    continueContent_ok_iff (shows_start s) (caught_empty (by decide) perform)
  exact run.trans ⟨Fits.batchesFit, BatchesFit.fits⟩

/-- A call stays in the message buffer, and in the line, exactly when each group of lines that is
reached is short enough and has no empty piece, or the call does not get to read the file. -/
theorem publishFile_inside_iff (t : FileTransfer) (url s filename : CText) (r : Resources) :
    (∃ out, publishFile t url s filename r = .ok out) ↔
      (url ≠ [] → s ≠ [] → filename ≠ [] → t.curlInit = true → ∀ content ∈ t.content,
        BatchesFit t.perform s (readLines lineSize content)) := by
  by_cases checked : url ≠ [] ∧ s ≠ [] ∧ filename ≠ []
  · obtain ⟨hurl, hs, hfilename⟩ := checked
    rw [publishFile_checked hurl hs hfilename]
    simp only [ne_eq, hurl, hs, hfilename, not_false_eq_true, true_implies]
    cases hcurl : t.curlInit with
    | false => exact ⟨fun _ started => (by cases started), fun _ => ⟨_, rfl⟩⟩
    | true =>
        cases hcontent : t.content with
        | none => exact ⟨fun _ _ content found => (by cases found), fun _ => ⟨_, rfl⟩⟩
        | some content =>
            simp only [if_true, true_implies, Option.mem_def, Option.some.injEq, forall_eq']
            rw [← publishContent_ok_iff]
            rcases publishContent t.perform s content with fault | ⟨posts, _ | _⟩ <;> simp
  · have refused : publishFile t url s filename r = .ok ⟨failed, [], r⟩ := by
      unfold publishFile
      rw [if_pos]
      simp only [checkURL, checkMessage, success, failed]
      by_contra passed
      refine checked ⟨?_, ?_, ?_⟩ <;> rintro rfl <;> simp at passed
    rw [refused]
    refine ⟨?_, fun _ => ⟨_, rfl⟩⟩
    intro _ hurl hs hfilename
    exact absurd ⟨hurl, hs, hfilename⟩ checked

/-- Without an empty piece only `message` can overflow. -/
theorem publishLines_fault {perform : Nat → Bool} {s : CText} {chunks : List CText}
    (characters : ∀ chunk ∈ chunks, cstr chunk ≠ []) {st : Posting} {fault : Fault}
    (stopped : publishLines perform s chunks st = .error fault) : fault = .overflow := by
  induction chunks generalizing st with
  | nil => cases stopped
  | cons chunk chunks ih =>
      obtain ⟨first, others⟩ := List.forall_mem_cons.mp characters
      rw [publishLines, publishLine_eq, if_neg first] at stopped
      by_cases fits : (lineMessage s chunk st).length < messageSize
      · rw [if_pos fits] at stopped
        rcases done : lineDone perform s chunk st with ⟨st', _ | _⟩
        · rw [done] at stopped
          cases stopped
        · rw [done] at stopped
          exact ih others stopped
      · rw [if_neg fits] at stopped
        cases stopped
        rfl

theorem publishContent_fault {perform : Nat → Bool} {s content : CText} {fault : Fault}
    (characters : ∀ chunk ∈ readLines lineSize content, cstr chunk ≠ [])
    (stopped : publishContent perform s content = .error fault) : fault = .overflow := by
  unfold publishContent at stopped
  split at stopped
  · rename_i lines
    cases stopped
    exact publishLines_fault characters lines
  · cases stopped
  · rename_i st lines
    unfold publishRest at stopped
    rw [store_bind] at stopped
    by_cases some : 0 < st.i
    · rw [if_pos some] at stopped
      split at stopped
      · rename_i rest
        cases stopped
        split at rest <;> cases rest
        rfl
      · cases stopped
    · rw [if_neg some] at stopped
      cases stopped

/-- A line as long as `line` takes it. -/
def longLine : CText := List.replicate 318 'x'

/-- The longest static string that `mf_send` has room for. -/
def longString : CText := List.replicate 255 's'

/-- Ten such lines. -/
theorem publishFile_overflow :
    publishFile ⟨true, some (unlines (List.replicate 10 longLine)), fun _ => true⟩ ['u'] longString
      ['f'] ⟨0, 0⟩ = .error .overflow := by
  have short : ∀ line ∈ List.replicate 10 longLine, ShortLine line := by
    intro line member
    rw [(List.mem_replicate.mp member).2]
    refine ⟨?_, ?_, ?_⟩
    · exact fun newline => absurd (List.mem_replicate.mp newline).2 (by decide)
    · exact fun zero => absurd (List.mem_replicate.mp zero).2 (by decide)
    · exact Nat.le_of_eq List.length_replicate
  have nonempty := readLines_short_ne short
  have chopped := readLines_short short []
  rw [List.append_nil, readLines_nil, List.map_nil, List.append_nil] at chopped
  have none : ¬ ∃ out, publishContent (fun _ => true) longString
      (unlines (List.replicate 10 longLine)) = .ok out := by
    rw [publishContent_ok_iff]
    intro fits
    have count := congrArg List.length chopped
    rw [List.length_map, List.length_replicate] at count
    have first := (fits 0 (by rw [count]; decide) nofun).2
    rw [group_map, chopped] at first
    revert first
    unfold groupLength longLine longString
    decide +kernel
  have static : longString ≠ [] := by
    unfold longString
    exact List.cons_ne_nil _ _
  rw [publishFile_checked (List.cons_ne_nil _ _) static (List.cons_ne_nil _ _)]
  dsimp only
  rw [if_pos rfl]
  cases run : publishContent (fun _ => true) longString (unlines (List.replicate 10 longLine)) with
  | ok out => exact absurd ⟨out, run⟩ none
  | error fault => rw [publishContent_fault nonempty run]

end PhantomMonitor
