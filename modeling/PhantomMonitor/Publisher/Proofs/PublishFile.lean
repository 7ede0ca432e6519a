import PhantomMonitor.Publisher.Proofs.Batches

/-!
# What a call of `publish_file` has sent

The posts of a call, said in terms of the groups of ten lines: which groups were posted, with
which outcomes, and when the call got through the whole file.
-/

namespace PhantomMonitor

open CText Batcher

/-- The POST of the `j`-th group of ten lines. -/
def batchPost (perform : Nat → Bool) (staticString : CText) (lines : List CText) (j : Nat) : Post :=
  ⟨group 10 lines j, batchBody staticString (group 10 lines j), perform j⟩

/-- The posts are those of the first groups, up to the first one that fails; `go` says that none
failed, and then all groups were posted. -/
structure Batched (perform : Nat → Bool) (staticString : CText) (lines : List CText)
    (posts : List Post) (go : Bool) : Prop where
  groups : posts = (List.range posts.length).map (batchPost perform staticString lines)
  count : posts.length ≤ groupCount 10 lines
  fits : ∀ post ∈ posts, post.body.length < messageSize
  stops : ∀ j, j + 1 < posts.length → perform j = true
  finished : go = true → posts.length = groupCount 10 lines ∧ ∀ post ∈ posts, post.ok = true
  refused : go = false → ∃ post ∈ posts, post.ok = false

/-- The lines in the posts that were accepted. -/
def deliveredRecords (posts : List Post) : List CText :=
  (posts.filter Post.ok).flatMap Post.records

theorem Carry.delivered_eq {s : CText} {posts : List Post} {sent : List (List CText × Bool)}
    (h : Carry s posts sent) : deliveredRecords posts = delivered sent := by
  rw [← h.groups, delivered, List.filter_map, List.flatMap_map]
  rfl

/-- A call delivers the first lines of the file, and all of them when it gets through. -/
theorem publishContent_delivered {perform : Nat → Bool} {s content : CText} {posts : List Post}
    {go : Bool} (hrun : publishContent perform s content = .ok (posts, go)) :
    deliveredRecords posts <+: (readLines lineSize content).map chop ∧
      (go = true ↔ deliveredRecords posts = (readLines lineSize content).map chop) := by
  obtain ⟨hgo, carry⟩ := publishContent_run hrun
  rw [carry.delivered_eq]
  cases go with
  | true =>
      have all := run_delivered (by decide) hgo.symm
      rw [all]
      exact ⟨List.prefix_rfl, fun _ => rfl, fun _ => rfl⟩
  | false =>
      obtain ⟨first, fewer⟩ := run_delivered_refused (by decide) hgo.symm
      refine ⟨first, ?_, ?_⟩
      · intro accepted
        cases accepted
      · intro all
        rw [all] at fewer
        exact absurd fewer (Nat.lt_irrefl _)

/-- Posts with the batcher's groups and the right bodies are the posts of these groups. -/
theorem Carry.posts_eq {perform : Nat → Bool} {s : CText} {lines : List CText}
    {posts : List Post} {sent : List (List CText × Bool)} (h : Carry s posts sent)
    (hsent : sent = (List.range sent.length).map fun j => (group 10 lines j, perform j)) :
    posts = (List.range posts.length).map (batchPost perform s lines) := by
  have rebuilt : ∀ entry ∈ posts, entry = ⟨entry.records, batchBody s entry.records, entry.ok⟩ := by
    intro entry member
    rw [← h.bodies entry member]
  calc
    posts = posts.map fun entry => ⟨entry.records, batchBody s entry.records, entry.ok⟩ := by
      conv => lhs; rw [← List.map_id posts]
      exact List.map_congr_left rebuilt
    _ = sent.map fun entry => ⟨entry.1, batchBody s entry.1, entry.2⟩ := by
      rw [← h.groups, List.map_map]
      rfl
    _ = (List.range posts.length).map (batchPost perform s lines) := by
      rw [hsent, List.map_map, h.length]
      rfl

/-- Between `fopen` and the clean-up, `publish_file` posts the groups of the chopped lines. -/
theorem publishContent_batched {perform : Nat → Bool} {s content : CText} {posts : List Post}
    {go : Bool} (hrun : publishContent perform s content = .ok (posts, go)) :
    Batched perform s ((readLines lineSize content).map chop) posts go := by
  obtain ⟨hgo, carry⟩ := publishContent_run hrun
  set lines := (readLines lineSize content).map chop with hlines
  rcases run_spec (by decide : 0 < 10) perform lines with
    ⟨accepted, hsent, hperform⟩ | ⟨stopped, refused⟩
  · have hcount : posts.length = groupCount 10 lines := by
      rw [carry.length, hsent, List.length_map, List.length_range]
    have groups : posts = (List.range posts.length).map (batchPost perform s lines) := by
      apply carry.posts_eq
      rw [hsent, List.length_map, List.length_range]
    refine ⟨groups, Nat.le_of_eq hcount, carry.fits, ?_, ?_, ?_⟩
    · intro j hj
      exact hperform j (by omega)
    · intro _
      refine ⟨hcount, ?_⟩
      intro post member
      rw [groups] at member
      obtain ⟨j, hj, rfl⟩ := List.mem_map.mp member
      exact hperform j (by rw [← hcount]; exact List.mem_range.mp hj)
    · intro hfalse
      rw [hgo, accepted] at hfalse
      cases hfalse
  · have groups := carry.posts_eq refused.sent
    have some := refused.some
    rw [← carry.length] at some
    refine ⟨groups, ?_, carry.fits, ?_, ?_, ?_⟩
    · have last := (lt_groupCount (by decide : 0 < 10)).mpr refused.reached
      rw [← carry.length] at last
      omega
    · intro j hj
      exact refused.accepted j (by rwa [← carry.length])
    · intro htrue
      rw [hgo, stopped] at htrue
      cases htrue
    · intro _
      refine ⟨batchPost perform s lines (posts.length - 1), ?_, ?_⟩
      · rw [groups]
        exact List.mem_map_of_mem (List.mem_range.mpr (by simpa using some))
      · have last := refused.refused
        rwa [← carry.length] at last

theorem Batched.records_eq {perform : Nat → Bool} {s : CText} {lines : List CText}
    {posts : List Post} {go : Bool} (h : Batched perform s lines posts go) :
    posts.flatMap Post.records = lines.take (10 * posts.length) := by
  conv => lhs; rw [h.groups]
  rw [List.flatMap_map, ← flatMap_group]
  rfl

/-- A call that gets through the file has posted every line once, in order. -/
theorem Batched.records_finished {perform : Nat → Bool} {s : CText} {lines : List CText}
    {posts : List Post} (h : Batched perform s lines posts true) :
    posts.flatMap Post.records = lines := by
  rw [h.records_eq, (h.finished rfl).1]
  exact List.take_of_length_le (le_mul_groupCount (by decide) lines)

/-! ## Files of short lines -/

/-- A line that `fgets` reads whole into `line`, and `strlen` sees whole. -/
def ShortLine (line : CText) : Prop := '\n' ∉ line ∧ nul ∉ line ∧ line.length ≤ 318

theorem chop_terminated {line : CText} (h : nul ∉ line) : chop (line ++ ['\n']) = line := by
  have whole : nul ∉ line ++ ['\n'] := by
    simp only [List.mem_append, List.mem_singleton, not_or]
    exact ⟨h, by decide⟩
  rw [chop, cstr_eq_self whole, List.dropLast_concat]

theorem readLines_short {lines : List CText} (h : ∀ line ∈ lines, ShortLine line)
    (tail : CText) :
    (readLines lineSize (unlines lines ++ tail)).map chop =
      lines ++ (readLines lineSize tail).map chop := by
  have room : ∀ line ∈ lines, '\n' ∉ line ∧ line.length + 1 < lineSize := by
    intro line member
    obtain ⟨newline, -, short⟩ := h line member
    exact ⟨newline, by unfold lineSize; omega⟩
  rw [readLines_unlines_append room, List.map_append, List.map_map]
  congr 1
  conv => rhs; rw [← List.map_id lines]
  apply List.map_congr_left
  intro line member
  exact chop_terminated (h line member).2.1

theorem readLines_short_ne {lines : List CText} (h : ∀ line ∈ lines, ShortLine line) :
    ∀ line ∈ readLines lineSize (unlines lines), cstr line ≠ [] := by
  have room : ∀ line ∈ lines, '\n' ∉ line ∧ line.length + 1 < lineSize := by
    intro line member
    obtain ⟨newline, -, short⟩ := h line member
    exact ⟨newline, by unfold lineSize; omega⟩
  intro piece member
  rw [readLines_unlines room] at member
  obtain ⟨line, hline, rfl⟩ := List.mem_map.mp member
  have whole : nul ∉ line ++ ['\n'] := by
    simp only [List.mem_append, List.mem_singleton, not_or]
    exact ⟨(h line hline).2.1, by decide⟩
  rw [cstr_eq_self whole]
  simp

/-- The groups of the lines leave room in `message`. -/
def GroupsFit (staticString : CText) (lines : List CText) : Prop :=
  ∀ j, 10 * j < lines.length → (batchBody staticString (group 10 lines j)).length < messageSize

/-- A file of short lines whose groups fit the buffer is posted without a fault. -/
theorem publishContent_short {s : CText} {lines : List CText}
    (hlines : ∀ line ∈ lines, ShortLine line) (hfit : GroupsFit s lines) (perform : Nat → Bool) :
    ∃ posts go, publishContent perform s (unlines lines) = .ok (posts, go) ∧
      Batched perform s lines posts go := by
  have chopped : (readLines lineSize (unlines lines)).map chop = lines := by
    simpa using readLines_short hlines []
  have ok : ∃ r, publishContent perform s (unlines lines) = .ok r := by
    apply publishContent_ok (readLines_short_ne hlines)
    rwa [chopped]
  obtain ⟨⟨posts, go⟩, hrun⟩ := ok
  have batched := publishContent_batched hrun
  rw [chopped] at batched
  exact ⟨posts, go, hrun, batched⟩

/-- `publish_file` after its checks: the posts come from `publishContent`, and only a call that
gets through releases the handle. -/
theorem publishFile_checked {url s filename : CText} (hurl : url ≠ []) (hs : s ≠ [])
    (hfilename : filename ≠ []) (t : FileTransfer) (r : Resources) :
    publishFile t url s filename r =
      if t.curlInit then
        match t.content with
        | none => .ok ⟨failed, [], ⟨r.handles + 1, r.streams⟩⟩
        | some content =>
            match publishContent t.perform s content with
            | .error fault => .error fault
            | .ok (posts, false) => .ok ⟨failed, posts, ⟨r.handles + 1, r.streams + 1⟩⟩
            | .ok (posts, true) => .ok ⟨success, posts, ⟨r.handles, r.streams + 1⟩⟩
      else .ok ⟨failed, [], r⟩ := by
  have checks : ¬ (checkURL url = failed ∨ checkMessage s = failed ∨
      checkMessage filename = failed) := by
    simp [checkURL, checkMessage, hurl, hs, hfilename, success, failed]
  rw [publishFile, if_neg checks]
  cases hcurl : t.curlInit with
  | false => rfl
  | true =>
      cases t.content with
      | none => rfl
      | some content =>
          rcases hrun : publishContent t.perform s content with fault | ⟨posts, _ | _⟩ <;>
            simp [preparePublish, curlEasyCleanup, hrun]

/-- The bodies given to curl are those of the groups of ten lines, in order and up to the first
failed POST, and `publish_file` returns 1 when none failed. -/
theorem publishFile_batches {t : FileTransfer} {url s filename : CText} {lines : List CText}
    (hurl : url ≠ []) (hs : s ≠ []) (hfilename : filename ≠ []) (hcurl : t.curlInit = true)
    (hcontent : t.content = some (unlines lines)) (hlines : ∀ line ∈ lines, ShortLine line)
    (hfit : GroupsFit s lines) (r : Resources) :
    ∃ out, publishFile t url s filename r = .ok out ∧
      out.posts = (List.range out.posts.length).map (batchPost t.perform s lines) ∧
      out.posts.length ≤ groupCount 10 lines ∧
      (∀ j, j + 1 < out.posts.length → t.perform j = true) ∧
      (out.ret = 1 ↔ ∀ post ∈ out.posts, post.ok = true) ∧
      (out.ret = 1 → out.posts.length = groupCount 10 lines ∧
        out.posts.flatMap Post.records = lines) ∧
      (out.ret ≠ 1 → out.ret = 0 ∧ ∃ post ∈ out.posts, post.ok = false) := by
  obtain ⟨posts, go, hrun, batched⟩ := publishContent_short hlines hfit t.perform
  simp only [publishFile_checked hurl hs hfilename, hcurl, if_true, hcontent, hrun]
  cases go with
  | true =>
      refine ⟨_, rfl, batched.groups, batched.count, batched.stops, ?_, ?_, ?_⟩
      · exact ⟨fun _ => (batched.finished rfl).2, fun _ => rfl⟩
      · intro _
        exact ⟨(batched.finished rfl).1, batched.records_finished⟩
      · intro hne
        exact absurd rfl hne
  | false =>
      obtain ⟨post, member, hpost⟩ := batched.refused rfl
      refine ⟨_, rfl, batched.groups, batched.count, batched.stops, ?_, ?_, ?_⟩
      · constructor
        · intro hret
          cases hret
        · intro all
          rw [all post member] at hpost
          cases hpost
      · intro hret
        cases hret
      · intro _
        exact ⟨rfl, post, member, hpost⟩

/-- Eleven lines, and a server that takes both POSTs. -/
theorem publishFile_batches_eleven :
    ∃ out, publishFile ⟨true, some (unlines (List.replicate 11 ['a'])), fun _ => true⟩ ['u'] ['s']
        ['f'] ⟨0, 0⟩ = .ok out ∧ out.ret = 1 ∧
      out.posts.map Post.records = [List.replicate 10 ['a'], [['a']]] ∧
      out.posts.map Post.body = [batchBody ['s'] (List.replicate 10 ['a']),
        "[\x7bs, a\x7d]".toList] := by
  have eleven : ∀ line ∈ List.replicate 11 ['a'], ShortLine line := by
    intro line member
    rw [(List.mem_replicate.mp member).2]
    unfold ShortLine
    decide
  have fit : GroupsFit ['s'] (List.replicate 11 ['a']) := by
    intro j hj
    rw [List.length_replicate] at hj
    obtain rfl | rfl : j = 0 ∨ j = 1 := by omega
    · decide
    · decide
  obtain ⟨out, hrun, groups, count, -, hret, all, -⟩ :=
    publishFile_batches (t := ⟨true, some (unlines (List.replicate 11 ['a'])), fun _ => true⟩)
      (by decide : ['u'] ≠ []) (by decide : ['s'] ≠ []) (by decide : ['f'] ≠ []) rfl rfl eleven fit
      ⟨0, 0⟩
  have accepted : ∀ post ∈ out.posts, post.ok = true := by
    intro post member
    rw [groups] at member
    obtain ⟨j, -, rfl⟩ := List.mem_map.mp member
    rfl
  have two : out.posts.length = 2 := (all (hret.mpr accepted)).1
  rw [two] at groups
  refine ⟨out, hrun, hret.mpr accepted, ?_, ?_⟩
  · rw [groups]
    decide
  · rw [groups]
    decide

end PhantomMonitor
