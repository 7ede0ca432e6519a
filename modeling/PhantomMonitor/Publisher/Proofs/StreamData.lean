import PhantomMonitor.Publisher.Publisher

/-!
# The server's answer

`get_stream_data` copies each piece of an answer to the start of the stream. The caller gets the
whole answer exactly when nothing but empty pieces came before the last one.
-/

namespace PhantomMonitor

open CText

namespace Transfer

/-- The body of the answer. -/
def body (t : Transfer) : CText := t.pieces.flatten

/-- The block that the last `realloc` leaves to the caller: the last piece and a NUL. -/
def block (t : Transfer) (buffer : CText) : CText :=
  buffer.take ((t.pieces.getLast?.getD []).length + 1)

/-- The caller's block holds the body, and nothing but its NUL after it. -/
def Whole (t : Transfer) (buffer : CText) : Prop := t.block buffer = t.body ++ [nul]

/-- The body came in one piece, after empty ones at most. -/
def OnePiece (t : Transfer) : Prop := ∀ piece ∈ t.pieces.dropLast, piece = []

end Transfer

/-- The last piece stands at the start of the stream. -/
theorem foldl_getStreamData (pieces : List CText) (last stream : CText) :
    ∃ rest, (pieces ++ [last]).foldl getStreamData stream = last ++ nul :: rest := by
  rw [List.foldl_append]
  exact ⟨_, rfl⟩

theorem flatten_eq_last_iff (pieces : List CText) (last : CText) :
    (pieces ++ [last]).flatten = last ↔ ∀ piece ∈ pieces, piece = [] := by
  rw [List.flatten_append, List.flatten_singleton, List.append_left_eq_self,
    List.flatten_eq_nil_iff]

/-- What the pieces leave in the stream, against the body. -/
theorem streamData_whole_iff {t : Transfer} (answered : t.pieces ≠ []) (stream : CText) :
    (t.Whole (t.pieces.foldl getStreamData stream) ↔ t.OnePiece) ∧
      (nul ∉ t.body → (cstr (t.pieces.foldl getStreamData stream) = t.body ↔ t.OnePiece)) := by
  rcases List.eq_nil_or_concat t.pieces with none | ⟨pieces, last, split⟩
  · exact absurd none answered
  · obtain ⟨rest, stored⟩ := foldl_getStreamData pieces last stream
    rw [List.concat_eq_append] at split
    -- in both equations what stands before the last piece has to be empty
    have before : t.OnePiece ↔ (pieces ++ [last]).flatten = last := by
      rw [flatten_eq_last_iff, Transfer.OnePiece, split, List.dropLast_concat]
    have block : t.block (t.pieces.foldl getStreamData stream) = last ++ [nul] := by
      rw [Transfer.block, split, stored, List.getLast?_concat, Option.getD_some,
        List.take_length_add_append]
      rfl
    constructor
    · rw [Transfer.Whole, block, before, Transfer.body, split, List.append_cancel_right_eq]
      exact eq_comm
    · intro text
      rw [Transfer.body, split] at text
      have plain : nul ∉ last := by
        intro inside
        exact text (List.mem_flatten_of_mem (List.mem_append_right _ (List.mem_singleton_self _))
          inside)
      rw [before, Transfer.body, split, stored, cstr_append_nul, cstr_eq_self plain]
      exact eq_comm

theorem queryJson_answered {t : Transfer} {url stream : CText} {r : Resources}
    (h : (queryJson t url stream r).1 = success) :
    (queryJson t url stream r).2.1 = t.pieces.foldl getStreamData stream := by
  unfold queryJson at *
  by_cases refused : checkURL url = failed
  · rw [if_pos refused] at h
    cases h
  · rw [if_neg refused] at h ⊢
    cases hcurl : t.curlInit <;> cases hperform : t.perform <;>
      simp [prepareQuery, preparePublish, hcurl, hperform, success, failed] at h ⊢

theorem createNewExperiment_answered {t : Transfer} {url message stream : CText} {r : Resources}
    (h : (createNewExperiment t url message stream r).1 = success) :
    (createNewExperiment t url message stream r).2.1 = t.pieces.foldl getStreamData stream := by
  unfold createNewExperiment at *
  by_cases refused : checkURL url = failed ∨ checkMessage message = failed
  · rw [if_pos refused] at h
    cases h
  · rw [if_neg refused] at h ⊢
    cases hcurl : t.curlInit <;> cases hperform : t.perform <;>
      simp [preparePublish, hcurl, hperform, success, failed] at h ⊢

/-- A caller that is told of success has the whole body exactly when it came in one piece. -/
theorem answer_whole_iff {t : Transfer} (answered : t.pieces ≠ []) (url message stream : CText)
    (r : Resources) :
    ((queryJson t url stream r).1 = success →
      (t.Whole (queryJson t url stream r).2.1 ↔ t.OnePiece) ∧
        (nul ∉ t.body → (cstr (queryJson t url stream r).2.1 = t.body ↔ t.OnePiece))) ∧
    ((createNewExperiment t url message stream r).1 = success →
      (t.Whole (createNewExperiment t url message stream r).2.1 ↔ t.OnePiece) ∧
        (nul ∉ t.body →
          (cstr (createNewExperiment t url message stream r).2.1 = t.body ↔ t.OnePiece))) := by
  constructor
  · intro h
    rw [queryJson_answered h]
    exact streamData_whole_iff answered stream
  · intro h
    rw [createNewExperiment_answered h]
    exact streamData_whole_iff answered stream

/-- An answer behind an empty piece. -/
theorem answer_whole_iff_two :
    (⟨true, [[], "AVq1".toList], true⟩ : Transfer).Whole
        (queryJson ⟨true, [[], "AVq1".toList], true⟩ ['u'] [] ⟨0, 0⟩).2.1 ∧
      cstr (createNewExperiment ⟨true, [[], "AVq1".toList], true⟩ ['u'] ['m'] [] ⟨0, 0⟩).2.1 =
        "AVq1".toList := by
  obtain ⟨query, create⟩ := answer_whole_iff (t := ⟨true, [[], "AVq1".toList], true⟩)
      (by simp) ['u']
    ['m'] [] ⟨0, 0⟩
  have one : (⟨true, [[], "AVq1".toList], true⟩ : Transfer).OnePiece := by
    simp [Transfer.OnePiece]
  exact ⟨(query rfl).1.mpr one, ((create rfl).2 (by decide)).mpr one⟩

/-- An answer in two pieces: only the second one is kept. -/
theorem answer_first_piece_lost :
    ¬ ∀ (t : Transfer) (url message stream : CText) (r : Resources), t.pieces ≠ [] →
      ((queryJson t url stream r).1 = success → t.Whole (queryJson t url stream r).2.1) ∧
      ((createNewExperiment t url message stream r).1 = success →
        t.Whole (createNewExperiment t url message stream r).2.1) := by
  intro claim
  have kept := (claim ⟨true, [['A', 'V'], ['q', '1']], true⟩ ['u'] ['m'] [] ⟨0, 0⟩
    (by simp)).1 rfl
  have lengths := congrArg List.length kept
  simp [Transfer.block, Transfer.body] at lengths
  omega

end PhantomMonitor
