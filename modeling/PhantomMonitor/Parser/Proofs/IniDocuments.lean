import PhantomMonitor.Agent.Proofs.ValueBuffers
import PhantomMonitor.Parser.Proofs.Lookups

/-!
# Configuration files

What a configuration file is for: sections with named values. The lines of a file may be laid out in
many ways, with comments, blank lines, white space and continued values; whatever the layout, the
reader hands over the values, and the store gives them back.
-/

namespace PhantomMonitor

open CText

/-! ## White space at the ends of a text -/

/-- The text is white space. -/
abbrev Blank (s : CText) : Prop := ∀ c ∈ s, isSpace c = true

/-- The text neither starts nor ends with white space. -/
structure Trimmed (s : CText) : Prop where
  first : ∀ c ∈ s.head?, isSpace c = false
  last : ∀ c ∈ s.getLast?, isSpace c = false

/-- The first or the last character of a text, checked. -/
theorem forall_mem_of_all {o : Option Char} {p : Char → Prop} [DecidablePred p]
    (h : o.all (fun c => decide (p c)) = true) : ∀ c ∈ o, p c := by
  intro c given
  rw [Option.mem_def.mp given] at h
  exact of_decide_eq_true h

theorem trimmed_of_all {s : CText}
    (first : s.head?.all (fun c => decide (isSpace c = false)) = true)
    (last : s.getLast?.all (fun c => decide (isSpace c = false)) = true) : Trimmed s :=
  ⟨forall_mem_of_all first, forall_mem_of_all last⟩

theorem Blank.append {s t : CText} (hs : Blank s) (ht : Blank t) : Blank (s ++ t) :=
  List.forall_mem_append.mpr ⟨hs, ht⟩

theorem rstrip_append_blank (s : CText) {t : CText} (blank : Blank t) :
    rstrip (s ++ t) = rstrip s := by
  induction t using List.reverseRecOn with
  | nil => rw [List.append_nil]
  | append_singleton t c ih =>
      obtain ⟨front, last⟩ := List.forall_mem_append.mp blank
      rw [← List.append_assoc, rstrip, List.rdropWhile_concat_pos _ _ _ (last c List.mem_cons_self)]
      exact ih front

theorem rstrip_eq_nil {s : CText} (blank : Blank s) : rstrip s = [] :=
  List.rdropWhile_eq_nil_iff.mpr blank

theorem rstrip_of_last {s : CText} (last : ∀ c ∈ s.getLast?, isSpace c = false) : rstrip s = s := by
  refine List.rdropWhile_eq_self_iff.mpr ?_
  intro some space
  rw [last _ (List.getLast?_eq_some_getLast some)] at space
  cases space

theorem Trimmed.rstrip {s : CText} (h : Trimmed s) : rstrip s = s := rstrip_of_last h.last

/-- What stands behind a text that does not end with white space is stripped by itself. -/
theorem rstrip_append_of_last {s : CText} (last : ∀ c ∈ s.getLast?, isSpace c = false) (t : CText) :
    rstrip (s ++ t) = s ++ rstrip t := by
  induction t using List.reverseRecOn with
  | nil => rw [List.append_nil, rstrip_of_last last, rstrip_eq_nil (List.forall_mem_nil _),
      List.append_nil]
  | append_singleton t c ih =>
      by_cases space : isSpace c = true
      · rw [← List.append_assoc, rstrip, rstrip, List.rdropWhile_concat_pos _ _ _ space,
          List.rdropWhile_concat_pos _ _ _ space]
        exact ih
      · rw [← List.append_assoc, rstrip, rstrip, List.rdropWhile_concat_neg _ _ _ space,
          List.rdropWhile_concat_neg _ _ _ space, List.append_assoc]

theorem lskip_append {s : CText} (blank : Blank s) (t : CText) : lskip (s ++ t) = lskip t :=
  List.dropWhile_append_of_pos blank

theorem lskip_of_first {s : CText} (first : ∀ c ∈ s.head?, isSpace c = false) : lskip s = s := by
  cases s with
  | nil => rfl
  | cons c s => exact List.dropWhile_cons_of_neg (by rw [first c rfl]; exact Bool.false_ne_true)

theorem lskip_eq_nil {s : CText} (blank : Blank s) : lskip s = [] :=
  List.dropWhile_eq_nil_iff.mpr blank

/-! ## Places in a line -/

/-- Whether white space stands before a text's end, or before the text when it is empty. -/
def endsBlank (was : Bool) (s : CText) : Bool := s.foldl (fun _ c => isSpace c) was

/-- No semicolon stands behind white space, so no comment starts in the text. -/
def Quiet : Bool → CText → Prop
  | _, [] => True
  | was, c :: s => ¬ (was = true ∧ c = ';') ∧ Quiet (isSpace c) s

instance decidableQuiet : (was : Bool) → (s : CText) → Decidable (Quiet was s)
  | _, [] => .isTrue trivial
  | was, c :: s =>
      have := decidableQuiet (isSpace c) s
      inferInstanceAs (Decidable (¬ (was = true ∧ c = ';') ∧ Quiet (isSpace c) s))

theorem endsBlank_append (was : Bool) (s t : CText) :
    endsBlank was (s ++ t) = endsBlank (endsBlank was s) t := List.foldl_append

theorem endsBlank_of_blank {was : Bool} {s : CText} (blank : Blank s) (some : s ≠ []) :
    endsBlank was s = true := by
  obtain ⟨front, c, rfl⟩ := (List.eq_nil_or_concat' _).resolve_left some
  rw [endsBlank_append]
  exact blank c (List.mem_append_right _ List.mem_cons_self)

theorem quiet_append {was : Bool} {s t : CText} (hs : Quiet was s)
    (ht : Quiet (endsBlank was s) t) : Quiet was (s ++ t) := by
  induction s generalizing was with
  | nil => exact ht
  | cons c s ih => exact ⟨hs.1, ih hs.2 ht⟩

/-- White space has no semicolon. -/
theorem Blank.quiet {s : CText} (blank : Blank s) (was : Bool) : Quiet was s := by
  induction s generalizing was with
  | nil => trivial
  | cons c s ih =>
      obtain ⟨first, others⟩ := List.forall_mem_cons.mp blank
      refine ⟨?_, ih others _⟩
      rintro ⟨-, rfl⟩
      cases first

/-- A text that does not have the character and in which no comment starts is passed. -/
theorem findCharOrComment_pass {c : Char} {was : Bool} {s : CText} (absent : c ∉ s)
    (quiet : Quiet was s) (t : CText) :
    findCharOrComment c was (s ++ t) =
      (s ++ (findCharOrComment c (endsBlank was s) t).1,
        (findCharOrComment c (endsBlank was s) t).2) := by
  induction s generalizing was with
  | nil => rfl
  | cons x s ih =>
      rw [List.mem_cons, not_or] at absent
      have stays : ¬ (x = c ∨ was ∧ x = ';') := by
        rintro (rfl | comment)
        · exact absent.1 rfl
        · exact quiet.1 comment
      rw [List.cons_append, findCharOrComment, if_neg stays, ih absent.2 quiet.2]
      rfl

theorem findCharOrComment_here (c : Char) (was : Bool) (t : CText) :
    findCharOrComment c was (c :: t) = ([], c :: t) := by
  rw [findCharOrComment, if_pos (Or.inl rfl)]

theorem findCharOrComment_comment (c : Char) (t : CText) :
    findCharOrComment c true (';' :: t) = ([], ';' :: t) := by
  rw [findCharOrComment, if_pos (Or.inr ⟨rfl, rfl⟩)]

/-- A character is found only where it stands. -/
theorem findCharOrComment_absent {c : Char} {was : Bool} {s : CText} (absent : c ∉ s) :
    (findCharOrComment c was s).2.head? ≠ some c := by
  induction s generalizing was with
  | nil => exact Option.some_ne_none c |>.symm
  | cons x s ih =>
      rw [List.mem_cons, not_or] at absent
      rw [findCharOrComment]
      split
      · exact fun same => absent.1 (Option.some.inj same).symm
      · exact ih absent.2

/-- It is not found in a comment. -/
theorem findCharOrComment_absent_comment {c : Char} (other : c ≠ ';') {was : Bool} {s : CText}
    (absent : c ∉ s) (ends : endsBlank was s = true) (t : CText) :
    (findCharOrComment c was (s ++ ';' :: t)).2.head? ≠ some c := by
  induction s generalizing was with
  | nil =>
      obtain rfl : was = true := ends
      rw [List.nil_append, findCharOrComment_comment]
      exact fun same => other (Option.some.inj same).symm
  | cons x s ih =>
      rw [List.mem_cons, not_or] at absent
      rw [List.cons_append, findCharOrComment]
      split
      · exact fun same => absent.1 (Option.some.inj same).symm
      · exact ih absent.2 ends

/-! ## The lines of a configuration file -/

/-- A line, with the white space and the comments that it may have. -/
inductive IniItem where
  | remark (gap text : CText)
  | header (gap sect behind : CText)
  | pair (gap name mid : CText) (colon : Bool) (front value note : CText)
  | more (gap value behind : CText)

/-- The sign between a name and its value. -/
def separator (colon : Bool) : Char := if colon then ':' else '='

/-- What may stand behind a value: white space, or a comment behind white space. Without a value the
semicolon would be one. -/
inductive Note (value : CText) : CText → Prop where
  | blank {gap : CText} (blank : Blank gap) : Note value gap
  | comment {gap : CText} (given : value ≠ []) (blank : Blank gap) (some : gap ≠ [])
      (text : CText) : Note value (gap ++ ';' :: text)

/-- The parts of a pair cannot be taken for something else. -/
structure PairFits (name mid : CText) (colon : Bool) (front value note : CText) : Prop where
  given : name ≠ []
  nameTrimmed : Trimmed name
  start : ∀ c ∈ name.head?, c ≠ ';' ∧ c ≠ '#' ∧ c ≠ '['
  nameQuiet : Quiet false name
  nameEquals : '=' ∉ name
  nameColon : colon = true → ':' ∉ name
  midBlank : Blank mid
  frontBlank : Blank front
  valueTrimmed : Trimmed value
  valueQuiet : Quiet false value
  valueEquals : colon = true → '=' ∉ value
  behind : Note value note

namespace IniItem

def text : IniItem → CText
  | remark gap text => gap ++ text
  | header gap sect behind => gap ++ ('[' :: (sect ++ ']' :: behind))
  | pair gap name mid colon front value note =>
      gap ++ (name ++ mid ++ separator colon :: (front ++ (value ++ note)))
  | more gap value behind => gap ++ (value ++ behind)

/-- The section after a line. -/
def sect (held : CText) : IniItem → CText
  | header _ sect _ => sect
  | remark .. | pair .. | more .. => held

/-- The name that a continued value belongs to after a line. -/
def named (held : CText) : IniItem → CText
  | header .. => []
  | pair _ name _ _ _ _ _ => name
  | remark .. | more .. => held

/-- The value that a line gives to a name. -/
def entry (sect prev : CText) : IniItem → Option IniEntry
  | pair _ name _ _ _ value _ => some ⟨sect, name, value⟩
  | more _ value _ => some ⟨sect, prev, value⟩
  | remark .. | header .. => none

/-- A line that says what it is meant to say behind a given name. With a name in force, white space
in front of a line makes it a continuation. -/
def Fits (prev : CText) : IniItem → Prop
  | remark gap text => Blank gap ∧ (text = [] ∨ text.head? = some ';' ∨ text.head? = some '#')
  | header gap sect _ =>
      Blank gap ∧ (prev ≠ [] → gap = []) ∧ ']' ∉ sect ∧ Quiet false sect ∧ sect.length < maxSection
  | pair gap name mid colon front value note =>
      Blank gap ∧ (prev ≠ [] → gap = []) ∧ PairFits name mid colon front value note
  | more gap value behind =>
      Blank gap ∧ gap ≠ [] ∧ prev ≠ [] ∧ prev.length < maxName ∧ value ≠ [] ∧ Trimmed value ∧
        (∀ c ∈ value.head?, c ≠ ';' ∧ c ≠ '#') ∧ Blank behind

end IniItem

/-- The values that the lines of a file give, in order. -/
def documentEntries (sect prev : CText) : List IniItem → List IniEntry
  | [] => []
  | item :: doc =>
      (item.entry sect prev).toList ++ documentEntries (item.sect sect) (item.named prev) doc

/-- Every line says what it is meant to say. -/
def DocumentFits (prev : CText) : List IniItem → Prop
  | [] => True
  | item :: doc => item.Fits prev ∧ DocumentFits (item.named prev) doc

/-! ## Values -/

theorem nul_notMem_blank {s : CText} (blank : Blank s) : nul ∉ s := by
  intro member
  cases blank nul member

theorem notMem_blank {s : CText} (blank : Blank s) {c : Char} (shown : isSpace c = false) :
    c ∉ s := by
  intro member
  rw [blank c member] at shown
  cases shown

/-- The value is what is left of the text behind the sign. -/
theorem iniValue_eq {front value note : CText} (blank : Blank front) (trimmed : Trimmed value)
    (quiet : Quiet false value) (plain : nul ∉ value) (behind : Note value note) :
    iniValue (front ++ (value ++ note)) = value := by
  rw [iniValue, lskip_append blank]
  cases behind with
  | blank gap =>
      by_cases given : value = []
      · subst given
        rw [List.nil_append, lskip_eq_nil gap]
        rfl
      · have first : ∀ c ∈ (value ++ note).head?, isSpace c = false := by
          rw [List.head?_append_of_ne_nil _ given]
          exact trimmed.first
        have passed := findCharOrComment_pass (nul_notMem_blank gap)
            (gap.quiet (endsBlank false value))
          []
        rw [List.append_nil] at passed
        rw [lskip_of_first first, findCharOrComment_pass plain quiet, passed]
        dsimp only [findCharOrComment]
        rw [List.append_nil, rstrip_append_blank _ gap, trimmed.rstrip]
  | @comment gap given blank' some text =>
      have first : ∀ c ∈ (value ++ (gap ++ ';' :: text)).head?, isSpace c = false := by
        rw [List.head?_append_of_ne_nil _ given]
        exact trimmed.first
      rw [lskip_of_first first, findCharOrComment_pass plain quiet,
        findCharOrComment_pass (nul_notMem_blank blank') (blank'.quiet _),
        endsBlank_of_blank blank' some, findCharOrComment_comment]
      dsimp only
      rw [List.append_nil, rstrip_append_blank _ blank', trimmed.rstrip]

/-- What is stripped off a line leaves the value. -/
theorem exists_rstrip_value {front value note : CText} (blank : Blank front)
    (trimmed : Trimmed value) (behind : Note value note) :
    ∃ front' note', rstrip (front ++ (value ++ note)) = front' ++ (value ++ note') ∧ Blank front' ∧
      Note value note' := by
  have nothing : Note value [] := .blank (List.forall_mem_nil _)
  by_cases given : value = []
  · subst given
    cases behind with
    | blank gap => exact ⟨[], [], rstrip_eq_nil (blank.append gap), List.forall_mem_nil _, nothing⟩
    | comment given => exact absurd rfl given
  · have last : ∀ c ∈ (front ++ value).getLast?, isSpace c = false := by
      rw [List.getLast?_append_of_ne_nil _ given]
      exact trimmed.last
    refine ⟨front, rstrip note, ?_, blank, ?_⟩
    · rw [← List.append_assoc, rstrip_append_of_last last, List.append_assoc]
    · cases behind with
      | blank gap =>
          rw [rstrip_eq_nil gap]
          exact nothing
      | @comment gap given blank' behind text =>
          have mark : ∀ c ∈ (gap ++ [';']).getLast?, isSpace c = false := by
            rw [List.getLast?_concat]
            intro c same
            cases same
            rfl
          rw [← List.singleton_append, ← List.append_assoc, rstrip_append_of_last mark,
            List.append_assoc, List.singleton_append]
          exact .comment given blank' behind _

/-! ## One line -/

theorem pairLine_equals {start before rest : CText}
    (found : findCharOrComment '=' false start = (before, '=' :: rest)) :
    pairLine start = .pair (rstrip before) (iniValue rest) := by
  simp only [pairLine, found]

theorem pairLine_colon {start before rest : CText}
    (none : (findCharOrComment '=' false start).2.head? ≠ some '=')
    (found : findCharOrComment ':' false start = (before, ':' :: rest)) :
    pairLine start = .pair (rstrip before) (iniValue rest) := by
  unfold pairLine
  split
  · rename_i first
    rw [first] at none
    exact absurd rfl none
  · simp only [found]

/-- With a colon as the sign no equals sign is found. -/
theorem no_equals {name mid front value note : CText}
    (h : PairFits name mid true front value note) :
    (findCharOrComment '=' false (name ++ mid ++ ':' :: (front ++ (value ++ note)))).2.head? ≠
      some '=' := by
  have blank : ∀ {s : CText}, Blank s → '=' ∉ s := fun blank => notMem_blank blank rfl
  have before : '=' ∉ name ++ mid ++ ':' :: (front ++ value) := by
    simp only [List.mem_append, List.mem_cons, not_or]
    exact ⟨⟨h.nameEquals, blank h.midBlank⟩, by decide, blank h.frontBlank, h.valueEquals rfl⟩
  cases h.behind with
  | blank gap =>
      refine findCharOrComment_absent ?_
      have whole : name ++ mid ++ ':' :: (front ++ (value ++ note)) =
          name ++ mid ++ ':' :: (front ++ value) ++ note := by simp
      rw [whole, List.mem_append, not_or]
      exact ⟨before, blank gap⟩
  | @comment gap given blank' behind text =>
      have whole : name ++ mid ++ ':' :: (front ++ (value ++ (gap ++ ';' :: text))) =
          name ++ mid ++ ':' :: (front ++ value) ++ gap ++ ';' :: text := by simp
      rw [whole]
      refine findCharOrComment_absent_comment (by decide) ?_ ?_ text
      · rw [List.mem_append, not_or]
        exact ⟨before, blank blank'⟩
      · rw [endsBlank_append]
        exact endsBlank_of_blank blank' behind

/-- The sign is found behind the name, and the pair is handed over. -/
theorem pairLine_pair {name mid front value note : CText} {colon : Bool}
    (h : PairFits name mid colon front value note) (plain : nul ∉ value) :
    pairLine (name ++ mid ++ separator colon :: (front ++ (value ++ note))) = .pair name value := by
  have stripped : rstrip (name ++ mid) = name := by
    rw [rstrip_append_blank _ h.midBlank, h.nameTrimmed.rstrip]
  have handed := iniValue_eq h.frontBlank h.valueTrimmed h.valueQuiet plain h.behind
  have found : ∀ c, c ∉ name → isSpace c = false →
      findCharOrComment c false (name ++ mid ++ c :: (front ++ (value ++ note))) =
        (name ++ mid, c :: (front ++ (value ++ note))) := by
    intro c absent shown
    have absent' : c ∉ name ++ mid := by
      rw [List.mem_append, not_or]
      exact ⟨absent, notMem_blank h.midBlank shown⟩
    have passed := findCharOrComment_pass absent' (quiet_append h.nameQuiet (h.midBlank.quiet _))
      (c :: (front ++ (value ++ note)))
    rw [findCharOrComment_here] at passed
    dsimp only at passed
    rwa [List.append_nil] at passed
  cases colon with
  | false =>
      have line := pairLine_equals (found '=' h.nameEquals rfl)
      rw [stripped, handed] at line
      exact line
  | true =>
      have line := pairLine_colon (no_equals h) (found ':' (h.nameColon rfl) rfl)
      rw [stripped, handed] at line
      exact line

/-- A line whose text starts behind some white space. `marked` says whether the byte order mark was
in front. -/
structure Starts (first : Bool) (line : CText) (marked : Bool) (gap start : CText) : Prop where
  stripped : ∃ text, (if first then skipBom line else (false, line)) = (marked, text) ∧
    rstrip text = gap ++ start
  blank : Blank gap
  shown : ∀ c ∈ start.head?, isSpace c = false

variable {first named marked : Bool} {line gap start : CText}

theorem Starts.lskip (h : Starts first line marked gap start) : lskip (gap ++ start) = start := by
  rw [lskip_append h.blank, lskip_of_first h.shown]

theorem Starts.ignored (h : Starts first line marked gap start)
    (remark : start = [] ∨ start.head? = some ';' ∨ start.head? = some '#') :
    iniLine first named line = .ignored := by
  obtain ⟨text, unmarked, stripped⟩ := h.stripped
  unfold iniLine
  rw [unmarked]
  dsimp only
  rw [stripped, h.lskip]
  rcases remark with rfl | semicolon | hash
  · rfl
  · obtain ⟨rest, rfl⟩ := List.head?_eq_some_iff.mp semicolon
    rfl
  · obtain ⟨rest, rfl⟩ := List.head?_eq_some_iff.mp hash
    rfl

/-- A line that is not ignored. -/
theorem Starts.iniLine_eq (h : Starts first line marked gap start) {c : Char} {rest : CText}
    (shape : start = c :: rest) (semicolon : c ≠ ';') (hash : c ≠ '#') :
    iniLine first named line =
      if named && (marked || decide (gap ≠ [])) then .continuation start
      else if c = '[' then sectionLine rest else pairLine start := by
  obtain ⟨text, unmarked, stripped⟩ := h.stripped
  have longer : decide (start.length < (gap ++ start).length) = decide (gap ≠ []) := by
    rw [List.length_append, decide_eq_decide, ← List.length_pos_iff]
    omega
  unfold iniLine
  rw [unmarked]
  dsimp only
  rw [stripped, h.lskip, longer]
  subst shape
  split
  · rename_i same
    cases same
  · rename_i same
    cases same
    exact absurd rfl semicolon
  · rename_i same
    cases same
    exact absurd rfl hash
  · rename_i same
    cases same
    rfl

theorem sectionLine_header {sect behind : CText} (absent : ']' ∉ sect) (quiet : Quiet false sect)
    (short : sect.length < maxSection) :
    sectionLine (sect ++ ']' :: behind) = .newSection sect := by
  have found := findCharOrComment_pass absent quiet (']' :: behind)
  rw [findCharOrComment_here] at found
  dsimp only at found
  rw [List.append_nil] at found
  have whole : strncpy0 sect maxSection = sect := List.take_of_length_le (Nat.le_pred_of_lt short)
  simp only [sectionLine, found, whole]

/-- What a line asks for. -/
def IniItem.asks : IniItem → IniLine
  | remark .. => .ignored
  | header _ sect _ => .newSection sect
  | pair _ name _ _ _ value _ => .pair name value
  | more _ value _ => .continuation value

theorem nonspace_getLast {s : CText} {c : Char} (shown : isSpace c = false) :
    ∀ x ∈ (s ++ [c]).getLast?, isSpace x = false := by
  rw [List.getLast?_concat]
  intro x same
  cases same
  exact shown

/-- Behind a shown character only the rest of the text is stripped. -/
theorem rstrip_append_cons (s : CText) {c : Char} (shown : isSpace c = false) (t : CText) :
    rstrip (s ++ c :: t) = s ++ c :: rstrip t := by
  rw [← List.singleton_append, ← List.append_assoc, rstrip_append_of_last (nonspace_getLast shown),
    List.append_assoc, List.singleton_append]

theorem newline_blank : Blank ['\n'] := List.forall_mem_singleton.mpr rfl

/-- A line is taken for what it is meant to be. -/
theorem IniItem.Fits.iniLine_eq {item : IniItem} {prev : CText} (fits : item.Fits prev)
    (unmarked : (if first then skipBom line else (false, line)) = (marked, item.text ++ ['\n']))
    (fresh : marked = true → prev = []) (plain : nul ∉ item.text) :
    iniLine first (prev ≠ []) line = item.asks := by
  have starts : ∀ {gap start}, rstrip item.text = gap ++ start → Blank gap →
      (∀ c ∈ start.head?, isSpace c = false) → Starts first line marked gap start := by
    intro gap start stripped blank shown
    exact ⟨⟨_, unmarked, (rstrip_append_blank _ newline_blank).trans stripped⟩, blank, shown⟩
  -- white space in front of a line counts when a name is in force
  have apart : ∀ {gap : CText}, (prev ≠ [] → gap = []) →
      (decide (prev ≠ []) && (marked || decide (gap ≠ []))) = false := by
    intro gap none
    by_cases given : prev = []
    · rw [decide_eq_false (not_not_intro given), Bool.false_and]
    · have unmarked : marked = false := Bool.eq_false_iff.mpr fun mark => given (fresh mark)
      rw [unmarked, none given, Bool.false_or]
      exact Bool.and_false _
  cases item with
  | remark gap text =>
      obtain ⟨blank, remark⟩ := fits
      rcases remark with rfl | mark
      · have stripped : rstrip (gap ++ []) = [] ++ [] := by
          rw [List.append_nil]
          exact rstrip_eq_nil blank
        have start := starts stripped (List.forall_mem_nil _) (by intro c none; cases none)
        exact start.ignored (Or.inl rfl)
      · obtain ⟨c, rest, rfl, shown, kind⟩ : ∃ c rest, text = c :: rest ∧ isSpace c = false ∧
            (c = ';' ∨ c = '#') := by
          rcases mark with semicolon | hash
          · obtain ⟨rest, rfl⟩ := List.head?_eq_some_iff.mp semicolon
            exact ⟨_, rest, rfl, rfl, Or.inl rfl⟩
          · obtain ⟨rest, rfl⟩ := List.head?_eq_some_iff.mp hash
            exact ⟨_, rest, rfl, rfl, Or.inr rfl⟩
        have start := starts (rstrip_append_cons gap shown rest) blank
          (fun x same => by cases same; exact shown)
        refine start.ignored (Or.inr ?_)
        rcases kind with rfl | rfl
        · exact Or.inl rfl
        · exact Or.inr rfl
  | header gap sect behind =>
      obtain ⟨blank, none, absent, quiet, short⟩ := fits
      have stripped : rstrip (gap ++ ('[' :: (sect ++ ']' :: behind))) =
          gap ++ ('[' :: (sect ++ ']' :: rstrip behind)) := by
        have whole := rstrip_append_cons (gap ++ '[' :: sect) (c := ']') rfl behind
        simpa using whole
      have start := starts stripped blank (fun x same => by cases same; rfl)
      rw [start.iniLine_eq rfl (by decide) (by decide), apart none, if_neg Bool.false_ne_true,
        if_pos rfl]
      exact sectionLine_header absent quiet short
  | pair gap name mid colon front value note =>
      obtain ⟨blank, none, parts⟩ := fits
      obtain ⟨front', note', trimmed, frontBlank, behind⟩ :=
        exists_rstrip_value parts.frontBlank parts.valueTrimmed parts.behind
      have sign : isSpace (separator colon) = false := by cases colon <;> rfl
      have stripped : rstrip (gap ++ (name ++ mid ++ separator colon ::
          (front ++ (value ++ note)))) =
          gap ++ (name ++ mid ++ separator colon :: (front' ++ (value ++ note'))) := by
        have whole := rstrip_append_cons (gap ++ (name ++ mid)) sign (front ++ (value ++ note))
        rw [trimmed] at whole
        simpa using whole
      have parts' : PairFits name mid colon front' value note' :=
        { parts with frontBlank, behind }
      obtain ⟨c, rest, shape⟩ := List.exists_cons_of_ne_nil parts.given
      have kind := parts.start c (by rw [shape]; rfl)
      have shown := parts.nameTrimmed.first c (by rw [shape]; rfl)
      have head : name ++ mid ++ separator colon :: (front' ++ (value ++ note')) =
          c :: (rest ++ mid ++ separator colon :: (front' ++ (value ++ note'))) := by
        rw [shape]
        rfl
      have start := starts stripped blank
        (by rw [head]; exact fun x same => by cases same; exact shown)
      rw [start.iniLine_eq head kind.1 kind.2.1, apart none, if_neg Bool.false_ne_true,
        if_neg kind.2.2]
      refine pairLine_pair parts' fun member => plain ?_
      simp only [IniItem.text, List.mem_append, List.mem_cons]
      tauto
  | more gap value behind =>
      obtain ⟨blank, indented, given, short, some, trimmed, kind, blank'⟩ := fits
      have stripped : rstrip (gap ++ (value ++ behind)) = gap ++ value := by
        rw [← List.append_assoc, rstrip_append_blank _ blank']
        refine rstrip_of_last ?_
        rw [List.getLast?_append_of_ne_nil _ some]
        exact trimmed.last
      obtain ⟨c, rest, shape⟩ := List.exists_cons_of_ne_nil some
      have mark := kind c (by rw [shape]; rfl)
      have start := starts stripped blank trimmed.first
      rw [start.iniLine_eq shape mark.1 mark.2, decide_eq_true given, decide_eq_true indented,
        Bool.or_true, Bool.true_and, if_pos rfl]
      rfl

/-! ## A whole file -/

/-- A line as the file has it: no newline inside, no NUL, and short enough for the buffer. -/
def LineFits (line : CText) : Prop := '\n' ∉ line ∧ nul ∉ line ∧ line.length + 1 < iniMaxLine

theorem strncpy0_of_short {name : CText} (short : name.length < maxName) :
    strncpy0 name maxName = name := List.take_of_length_le (Nat.le_pred_of_lt short)

theorem strncpy0_eq_nil {name : CText} : strncpy0 name maxName = [] ↔ name = [] := by
  unfold strncpy0
  rw [List.take_eq_nil_iff]
  exact or_iff_right (by decide)

/-- The reader in front of a line, when the lines before it were meant as they were taken. -/
structure Understands (r : IniReader) (sect prev : CText) : Prop where
  sect : r.sect = sect
  prevName : r.prevName = strncpy0 prev maxName

/-- One line. `mark` is what stands in front of it: the byte order mark, or nothing. -/
theorem Understands.step {r : IniReader} {sect prev : CText} (h : Understands r sect prev)
    {item : IniItem} (fits : item.Fits prev) (mark : CText) (line : LineFits (mark ++ item.text))
    (unmarked : ∃ marked, (marked = true → prev = []) ∧
      (if decide (r.lineno + 1 = 1) then skipBom (mark ++ item.text ++ ['\n'])
        else (false, mark ++ item.text ++ ['\n'])) = (marked, item.text ++ ['\n'])) :
    Understands (iniStep r (mark ++ item.text ++ ['\n'])) (item.sect sect) (item.named prev) ∧
      (iniStep r (mark ++ item.text ++ ['\n'])).lineno = r.lineno + 1 ∧
      (iniStep r (mark ++ item.text ++ ['\n'])).error = r.error ∧
      (iniStep r (mark ++ item.text ++ ['\n'])).calls =
        r.calls ++ (item.entry sect prev).toList := by
  obtain ⟨marked, fresh, unmarked⟩ := unmarked
  have plain : nul ∉ mark ++ item.text ++ ['\n'] := by
    rw [List.mem_append, not_or]
    exact ⟨line.2.1, by decide⟩
  have text : nul ∉ item.text := fun member => line.2.1 (List.mem_append_right _ member)
  have named : decide (r.prevName ≠ []) = decide (prev ≠ []) := by
    rw [h.prevName, decide_eq_decide, ne_eq, ne_eq, strncpy0_eq_nil]
  have asked := fits.iniLine_eq unmarked fresh text
  unfold iniStep
  dsimp only
  rw [cstr_eq_self plain, named, asked]
  cases item with
  | remark gap text => exact ⟨⟨h.sect, h.prevName⟩, rfl, rfl, (List.append_nil _).symm⟩
  | header gap sect' behind => exact ⟨⟨rfl, rfl⟩, rfl, rfl, (List.append_nil _).symm⟩
  | pair gap name mid colon front value note =>
    exact ⟨⟨h.sect, rfl⟩, rfl, rfl, by rw [← h.sect]; rfl⟩
  | more gap value behind =>
      have short : r.prevName = prev := h.prevName.trans (strncpy0_of_short fits.2.2.2.1)
      exact ⟨⟨h.sect, h.prevName⟩, rfl, rfl, by rw [← h.sect, ← short]; rfl⟩

/-- The lines behind the first one. -/
theorem Understands.run {r : IniReader} {sect prev : CText} (h : Understands r sect prev)
    (behind : r.lineno ≠ 0) {doc : List IniItem} (fits : DocumentFits prev doc)
    (lines : ∀ item ∈ doc, LineFits item.text) :
    (doc.foldl (fun r item => iniStep r (item.text ++ ['\n'])) r).calls =
        r.calls ++ documentEntries sect prev doc ∧
      (doc.foldl (fun r item => iniStep r (item.text ++ ['\n'])) r).error = r.error := by
  induction doc generalizing r sect prev with
  | nil => exact ⟨(List.append_nil _).symm, rfl⟩
  | cons item doc ih =>
      obtain ⟨first, others⟩ := List.forall_mem_cons.mp lines
      have later : ¬ r.lineno + 1 = 1 := by omega
      obtain ⟨reads, lineno, error, calls⟩ := h.step fits.1 [] first
        ⟨false, fun none => absurd none Bool.false_ne_true, by
          rw [decide_eq_false later, if_neg Bool.false_ne_true]
          rfl⟩
      rw [List.nil_append] at reads lineno error calls
      obtain ⟨calls', error'⟩ := ih reads (by omega) fits.2 others
      rw [List.foldl_cons]
      refine ⟨?_, error'.trans error⟩
      rw [calls', calls, List.append_assoc]
      rfl

/-- The byte order mark, as the reader sees its bytes. -/
def byteOrderMark : CText := [Char.ofNat 0xEF, Char.ofNat 0xBB, Char.ofNat 0xBF]

/-- A file may start with the byte order mark. Without it, its first line does not look like one. -/
inductive FirstLine (item : IniItem) : CText → Prop where
  | marked : FirstLine item byteOrderMark
  | plain (unmarked : (skipBom (item.text ++ ['\n'])).1 = false) : FirstLine item []

/-- The content of a configuration file. -/
def documentText (mark : CText) (item : IniItem) (doc : List IniItem) : CText :=
  unlines ((mark ++ item.text) :: doc.map IniItem.text)

theorem skipBom_unmarked {line : CText} (unmarked : (skipBom line).1 = false) :
    skipBom line = (false, line) := by
  revert unmarked
  unfold skipBom
  split
  · split
    · intro marked
      cases marked
    · exact fun _ => rfl
  · exact fun _ => rfl

theorem skipBom_mark (text : CText) : skipBom (byteOrderMark ++ text) = (true, text) := rfl

/-- The reader hands over exactly the values that the lines give, in their order, and finds no
error. -/
theorem iniParse_document {mark : CText} {item : IniItem} {doc : List IniItem}
    (fits : DocumentFits [] (item :: doc)) (start : FirstLine item mark)
    (lines : ∀ line ∈ (mark ++ item.text) :: doc.map IniItem.text, LineFits line) :
    iniParse (some (documentText mark item doc)) =
      .opened (documentEntries [] [] (item :: doc)) 0 := by
  obtain ⟨first, others⟩ := List.forall_mem_cons.mp lines
  have fresh : Understands .init [] [] := ⟨rfl, rfl⟩
  obtain ⟨reads, lineno, error, calls⟩ := fresh.step fits.1 _ first (by
    cases start with
    | marked => exact ⟨true, fun _ => rfl, by rw [List.append_assoc, skipBom_mark]; rfl⟩
    | plain unmarked =>
        refine ⟨false, fun none => absurd none Bool.false_ne_true, ?_⟩
        rw [List.nil_append, skipBom_unmarked unmarked]
        rfl)
  obtain ⟨calls', error'⟩ := reads.run (by rw [lineno]; exact Nat.succ_ne_zero _) fits.2
    fun other member => others _ (List.mem_map_of_mem member)
  have read : readLines iniMaxLine (documentText mark item doc) =
      (mark ++ item.text ++ ['\n']) :: doc.map fun other => other.text ++ ['\n'] := by
    rw [documentText, readLines_unlines fun line member => ⟨(lines line member).1,
      (lines line member).2.2⟩, List.map_cons, List.map_map]
    rfl
  rw [iniParse, read, List.foldl_cons, List.foldl_map, calls', error', calls, error]
  rfl

section

variable {H : HashTable CText}

/-- Lookups in a store give the last value of each key, and list the pairs of a section. -/
structure GivesBack (st : ParserState H) (made : List IniEntry) : Prop where
  value : ∀ sect key retVal, mfpGetValue st sect key retVal =
    ((lastAssigned made sect key).map (strcpy retVal)).getD retVal
  pairs : ∀ sect data filterByValue, (sectionKeys made sect).length ≤ mfpCapacity →
    ∃ data', mfpGetDataFilteredByValue st sect data filterByValue = .ok data' ∧
      Lists data' (sectionPairs made sect filterByValue)

/-- A store that holds short entries gives them back. -/
theorem StoreFollows.givesBack {st : ParserState H} {made : List IniEntry}
    (h : StoreFollows st (some made)) (short : ∀ entry ∈ made, entry.Short) :
    GivesBack st made where
  value sect key retVal := by
    rw [h.getValue, Option.bind_some]
    cases lastAssigned made sect key <;> rfl
  pairs sect data filterByValue few := by
    refine h.getData data few ?_
    intro pair member
    obtain ⟨entry, inside, -, name, value⟩ := exists_of_lastAssigned member.1
    obtain ⟨-, shortName, shortValue⟩ := short entry inside
    rw [name] at shortName
    rw [value] at shortValue
    exact ⟨Nat.lt_trans shortName (by decide), Nat.lt_trans shortValue (by decide)⟩

/-- Whatever the layout of a configuration file, and whatever was in the store before, reading it
succeeds, and from then on the store gives back what the lines say. -/
theorem mfpParse_document (st : ParserState H) {mark : CText} {item : IniItem} {doc : List IniItem}
    (fits : DocumentFits [] (item :: doc)) (start : FirstLine item mark)
    (lines : ∀ line ∈ (mark ++ item.text) :: doc.map IniItem.text, LineFits line) :
    (mfpParse st (iniParse (some (documentText mark item doc)))).2 = 1 ∧
      GivesBack (mfpParse st (iniParse (some (documentText mark item doc)))).1
        (documentEntries [] [] (item :: doc)) := by
  have read := iniParse_document fits start lines
  have short := iniParse_short (documentText mark item doc)
  have follows := follows_parse st (iniParse (some (documentText mark item doc)))
  rw [read] at short follows ⊢
  exact ⟨rfl, follows.givesBack short⟩

end

/-- A configuration with a comment, a commented value, a colon and a value that is given again on a
second line. -/
def timingsDocument : List IniItem :=
  [.header [] "timings".toList [],
    .pair [] "default".toList [' '] false [' '] "1000000000".toList " ; one second".toList,
    .pair [] "mf_plugin_NVML".toList [] true [' '] "5".toList [],
    .more [' ', ' '] "7000000".toList []]

theorem mfpParse_document_timings :
    (mfpParse (ParserState.init : ParserState (HashTable.alist CText)) (iniParse (some
      (documentText byteOrderMark (.remark [] "; intervals".toList) timingsDocument)))).2 = 1 ∧
    GivesBack (mfpParse (ParserState.init : ParserState (HashTable.alist CText)) (iniParse (some
      (documentText byteOrderMark (.remark [] "; intervals".toList) timingsDocument)))).1
      [⟨"timings".toList, "default".toList, "1000000000".toList⟩,
        ⟨"timings".toList, "mf_plugin_NVML".toList, "5".toList⟩,
        ⟨"timings".toList, "mf_plugin_NVML".toList, "7000000".toList⟩] := by
  have nothing : Blank [] := List.forall_mem_nil _
  have space : Blank [' '] := List.forall_mem_singleton.mpr rfl
  have spaces : Blank [' ', ' '] := Blank.append space space
  have header : IniItem.Fits [] (.header [] "timings".toList []) := by
    refine ⟨nothing, fun _ => rfl, ?_, ?_, ?_⟩ <;> decide
  have note : Note "1000000000".toList ([' '] ++ ';' :: " one second".toList) := by
    refine .comment ?_ space ?_ _ <;> decide
  have default : PairFits "default".toList [' '] false [' '] "1000000000".toList
      " ; one second".toList := by
    refine ⟨?_, trimmed_of_all ?_ ?_, forall_mem_of_all ?_, ?_, ?_, ?_, space, space,
      trimmed_of_all ?_ ?_, ?_, ?_, note⟩ <;> decide
  have nvml : PairFits "mf_plugin_NVML".toList [] true [' '] "5".toList [] := by
    refine ⟨?_, trimmed_of_all ?_ ?_, forall_mem_of_all ?_, ?_, ?_, ?_, nothing, space,
      trimmed_of_all ?_ ?_, ?_, ?_, .blank nothing⟩ <;> decide
  have more : IniItem.Fits "mf_plugin_NVML".toList (.more [' ', ' '] "7000000".toList []) := by
    refine ⟨spaces, ?_, ?_, ?_, ?_, trimmed_of_all ?_ ?_, forall_mem_of_all ?_, nothing⟩ <;>
      decide
  refine mfpParse_document _ ⟨⟨nothing, Or.inr (Or.inl rfl)⟩, header,
    ⟨nothing, fun _ => rfl, default⟩, ⟨nothing, fun _ => rfl, nvml⟩, more, trivial⟩ .marked ?_
  unfold LineFits
  decide

end PhantomMonitor
