import Mathlib.Data.List.Basic
import Mathlib.Data.List.Infix
import Mathlib.Data.List.TakeWhile

/-!
# C text

Bytes of a C program's buffers and files, as lists of characters. A buffer holds a C string:
the bytes before its first NUL. Files are read line by line by `fgets`, which stops after a
newline or when the line buffer is full, so a long line arrives in several pieces.

Bounded writes (`sprintf`, `strcat` into an array of known size) return `Except Fault`: a write
past the end of the array has no defined result, so nothing is said about what follows it.
-/

namespace PhantomMonitor

/-- The bytes of a C string or of a file. -/
abbrev CText := List Char

/-- An access that C leaves undefined. -/
inductive Fault where
  | overflow
  | outOfBounds
  deriving DecidableEq, Repr

theorem Fault.bind_eq_ok {α β : Type} {x : Except Fault α} {next : α → Except Fault β} {r : β} :
    x >>= next = .ok r ↔ ∃ a, x = .ok a ∧ next a = .ok r := by
  cases x with
  | error fault =>
      constructor
      · intro run
        cases run
      · rintro ⟨a, run, -⟩
        cases run
  | ok a =>
      constructor
      · intro run
        exact ⟨a, rfl, run⟩
      · rintro ⟨_, same, run⟩
        cases same
        exact run

theorem Fault.map_eq_ok {α β : Type} {x : Except Fault α} {f : α → β} {b : β} :
    x.map f = .ok b ↔ ∃ a, x = .ok a ∧ f a = b := by
  cases x <;> simp [Except.map]

theorem Fault.mapM_ok {α β : Type} {items : List α} {f : α → Except Fault β} {g : α → β}
    (each : ∀ item ∈ items, f item = .ok (g item)) : items.mapM f = .ok (items.map g) := by
  induction items with
  | nil => rfl
  | cons item items ih =>
      have rest := ih fun other inside => each other (List.mem_cons_of_mem _ inside)
      rw [List.mapM_cons, each item List.mem_cons_self, rest]
      rfl

theorem Fault.mem_of_mapM {α β : Type} {items : List α} {f : α → Except Fault β} {out : List β}
    (run : items.mapM f = .ok out) {b : β} (h : b ∈ out) : ∃ item ∈ items, f item = .ok b := by
  induction items generalizing out with
  | nil =>
      cases run
      cases h
  | cons item items ih =>
      rw [List.mapM_cons] at run
      obtain ⟨first, one, run⟩ := Fault.bind_eq_ok.mp run
      obtain ⟨rest, others, run⟩ := Fault.bind_eq_ok.mp run
      cases run
      rcases List.mem_cons.mp h with rfl | h
      · exact ⟨item, List.mem_cons_self, one⟩
      · obtain ⟨other, member, found⟩ := ih others h
        exact ⟨other, List.mem_cons_of_mem _ member, found⟩

/-- What every turn of a loop keeps holds after it. -/
theorem Fault.foldlM_keeps {α β : Type} {items : List α} {f : β → α → Except Fault β}
    (Inv : β → Prop) (turn : ∀ b, Inv b → ∀ item ∈ items, ∀ b', f b item = .ok b' → Inv b')
    {b out : β} (start : Inv b) (run : items.foldlM f b = .ok out) : Inv out := by
  induction items generalizing b with
  | nil =>
      cases run
      exact start
  | cons item items ih =>
      rw [List.foldlM_cons] at run
      obtain ⟨b', first, rest⟩ := Fault.bind_eq_ok.mp run
      have kept := turn b start item List.mem_cons_self b' first
      exact ih (fun c inv a member => turn c inv a (List.mem_cons_of_mem _ member)) kept rest

namespace CText

/-- The byte `'\0'` that ends a C string. -/
def nul : Char := Char.ofNat 0

/-- The C string at the start of a buffer: the bytes before its first NUL. -/
def cstr (buffer : CText) : CText := buffer.takeWhile (· != nul)

/-- `sprintf` or `strcat` whose result occupies an array of `capacity` bytes: the text and its
terminating NUL have to fit. -/
def store (capacity : Nat) (text : CText) : Except Fault CText :=
  if text.length < capacity then .ok text else .error .overflow

/-- `strcpy`: the text and a NUL replace the first bytes of the destination. -/
def strcpy (dst src : CText) : CText := src ++ nul :: dst.drop (src.length + 1)

/-- `strstr (haystack, needle) != NULL`. -/
def hasSubstr (haystack needle : CText) : Bool := decide (needle <:+: haystack)

/-- `strrchr (text, c)`: the text before the last `c`, and the text from there on. -/
def strrchr (c : Char) : CText → Option (CText × CText)
  | [] => none
  | x :: text =>
      match strrchr c text with
      | some (before, found) => some (x :: before, found)
      | none => if x = c then some ([], x :: text) else none

/-- The part of a file that one read of at most `n` bytes takes, up to and with the first
newline, and what is left. -/
def splitLine : Nat → CText → CText × CText
  | 0, content => ([], content)
  | _ + 1, [] => ([], [])
  | n + 1, c :: content =>
      if c = '\n' then ([c], content)
      else ((c :: (splitLine n content).1), (splitLine n content).2)

/-- `fgets (line, size, fp)`: `none` at the end of the file, otherwise the bytes stored in `line`
and the rest of the file. -/
def fgets (size : Nat) (content : CText) : Option (CText × CText) :=
  if content = [] then none else some (splitLine (size - 1) content)

/-- The lines delivered by at most `fuel` successive calls of `fgets`. -/
def readLinesFuel (size : Nat) : Nat → CText → List CText
  | 0, _ => []
  | fuel + 1, content =>
      match fgets size content with
      | none => []
      | some (line, rest) => line :: readLinesFuel size fuel rest

/-- The lines that `while (fgets (line, size, fp) != NULL)` runs through. Each call takes at
least one byte (for `size ≥ 2`), so the length of the file bounds their number. -/
def readLines (size : Nat) (content : CText) : List CText :=
  readLinesFuel size content.length content

/-- The lines of a file as its writer meant them: the pieces between newlines, with the piece
after the last newline counted when it is not empty. -/
def fileLines : CText → List CText
  | [] => []
  | c :: content =>
      if c = '\n' then [] :: fileLines content
      else
        match fileLines content with
        | [] => [[c]]
        | line :: lines => (c :: line) :: lines

/-- A file made of newline-terminated lines. -/
def unlines (lines : List CText) : CText := lines.flatMap (· ++ ['\n'])

@[simp] theorem unlines_nil : unlines [] = [] := rfl

@[simp] theorem unlines_cons (line : CText) (lines : List CText) :
    unlines (line :: lines) = line ++ '\n' :: unlines lines := by
  simp [unlines]

theorem store_ok {capacity : Nat} {text : CText} (h : text.length < capacity) :
    store capacity text = .ok text := if_pos h

theorem store_bind {α : Type} (capacity : Nat) (text : CText) (next : CText → Except Fault α) :
    (store capacity text >>= next) =
      if text.length < capacity then next text else .error .overflow := by
  unfold store
  split <;> rfl

/-- A bounded write succeeds and so does what follows it. -/
theorem exists_store_bind {α : Type} {capacity : Nat} {text : CText} {next : CText → Except Fault α}
    {P : α → Prop} :
    (∃ out, (store capacity text >>= next) = .ok out ∧ P out) ↔
      text.length < capacity ∧ ∃ out, next text = .ok out ∧ P out := by
  rw [store_bind]
  split <;> simp [*]

theorem store_eq_ok_iff {capacity : Nat} {text stored : CText} :
    store capacity text = .ok stored ↔ text.length < capacity ∧ stored = text := by
  unfold store
  split <;> simp [*, eq_comm]

theorem store_eq_ok {capacity : Nat} {text stored : CText} (h : store capacity text = .ok stored) :
    stored = text := (store_eq_ok_iff.mp h).2

theorem nul_notMem_cstr (buffer : CText) : nul ∉ cstr buffer := by
  intro member
  have := List.mem_takeWhile_imp member
  simp at this

theorem cstr_eq_self {buffer : CText} (h : nul ∉ buffer) : cstr buffer = buffer := by
  apply List.takeWhile_eq_self_iff.mpr
  intro c member
  simp only [bne_iff_ne, ne_eq]
  rintro rfl
  exact h member

theorem cstr_length_le (buffer : CText) : (cstr buffer).length ≤ buffer.length :=
  (List.takeWhile_prefix _).length_le

theorem cstr_append {text : CText} (plain : nul ∉ text) (rest : CText) :
    cstr (text ++ rest) = text ++ cstr rest := by
  apply List.takeWhile_append_of_pos
  intro c member
  simp only [bne_iff_ne, ne_eq]
  rintro rfl
  exact plain member

theorem mem_head?_cstr {buffer : CText} {c : Char} (h : c ∈ (cstr buffer).head?) :
    c ∈ buffer.head? := by
  cases buffer with
  | nil => exact h
  | cons x buffer =>
      unfold cstr at h
      rw [List.takeWhile_cons] at h
      split at h
      · exact h
      · cases h

/-- What stands after a NUL is not read. -/
theorem cstr_append_nul (text rest : CText) : cstr (text ++ nul :: rest) = cstr text := by
  unfold cstr
  induction text with
  | nil => simp
  | cons c text ih =>
      by_cases hc : c = nul
      · simp [hc]
      · simpa [hc] using ih

/-- A string copied by `strcpy` is read back whole. -/
theorem cstr_strcpy {dst src : CText} (h : nul ∉ src) : cstr (strcpy dst src) = src := by
  rw [strcpy, cstr_append_nul, cstr_eq_self h]

/-- A needle with a byte that the haystack lacks does not occur in it. -/
theorem hasSubstr_eq_false_of_notMem {haystack needle : CText} {c : Char} (hc : c ∈ needle)
    (habsent : c ∉ haystack) : hasSubstr haystack needle = false := by
  simp only [hasSubstr, decide_eq_false_iff_not]
  intro occurs
  exact habsent (occurs.subset hc)

theorem hasSubstr_append (before needle after : CText) :
    hasSubstr (before ++ needle ++ after) needle = true := by
  simp only [hasSubstr, decide_eq_true_eq]
  exact ⟨before, after, rfl⟩

theorem append_of_strrchr {c : Char} {text before found : CText}
    (h : strrchr c text = some (before, found)) : before ++ found = text := by
  induction text generalizing before with
  | nil => cases h
  | cons x text ih =>
      unfold strrchr at h
      cases hrest : strrchr c text with
      | some split =>
          rw [hrest] at h
          cases h
          rw [List.cons_append, ih hrest]
      | none =>
          rw [hrest] at h
          by_cases hx : x = c
          · simp only [if_pos hx, Option.some.injEq, Prod.mk.injEq] at h
            rw [← h.1, ← h.2, List.nil_append]
          · simp [hx] at h

theorem strrchr_eq_none {c : Char} {text : CText} (h : c ∉ text) : strrchr c text = none := by
  induction text with
  | nil => rfl
  | cons x text ih =>
      rw [List.mem_cons, not_or] at h
      rw [strrchr, ih h.2, if_neg (Ne.symm h.1)]

theorem strrchr_append {c : Char} (before : CText) {rest : CText} (h : c ∉ rest) :
    strrchr c (before ++ c :: rest) = some (before, c :: rest) := by
  induction before with
  | nil => rw [List.nil_append, strrchr, strrchr_eq_none h, if_pos rfl]
  | cons x before ih => rw [List.cons_append, strrchr, ih]

/-! ## What one `fgets` takes -/

theorem splitLine_terminated {line : CText} (h : '\n' ∉ line) (rest : CText) {n : Nat}
    (hn : line.length < n) : splitLine n (line ++ '\n' :: rest) = (line ++ ['\n'], rest) := by
  induction line generalizing n with
  | nil =>
      obtain ⟨m, rfl⟩ := Nat.exists_eq_succ_of_ne_zero (by omega : n ≠ 0)
      simp [splitLine]
  | cons c line ih =>
      obtain ⟨m, rfl⟩ := Nat.exists_eq_succ_of_ne_zero (by omega : n ≠ 0)
      have hc : c ≠ '\n' := fun e => h (e ▸ List.mem_cons_self)
      have hline : '\n' ∉ line := fun m => h (List.mem_cons_of_mem _ m)
      simp [splitLine, hc, ih hline (by simpa using hn)]

theorem splitLine_unterminated {line : CText} (h : '\n' ∉ line) {n : Nat}
    (hn : line.length ≤ n) : splitLine n line = (line, []) := by
  induction line generalizing n with
  | nil => cases n <;> rfl
  | cons c line ih =>
      obtain ⟨m, rfl⟩ := Nat.exists_eq_succ_of_ne_zero (by simp at hn; omega : n ≠ 0)
      have hc : c ≠ '\n' := fun e => h (e ▸ List.mem_cons_self)
      have hline : '\n' ∉ line := fun m => h (List.mem_cons_of_mem _ m)
      simp [splitLine, hc, ih hline (by simpa using hn)]

/-- What stands before the newline is taken whole. -/
theorem splitLine_append_left {text : CText} (h : '\n' ∉ text) (rest : CText) {n : Nat}
    (hn : text.length ≤ n) :
    (splitLine n (text ++ rest)).1 = text ++ (splitLine (n - text.length) rest).1 := by
  induction text generalizing n with
  | nil => rfl
  | cons c text ih =>
      obtain ⟨m, rfl⟩ := Nat.exists_eq_succ_of_ne_zero (by simp at hn; omega : n ≠ 0)
      have hc : c ≠ '\n' := fun e => h (e ▸ List.mem_cons_self)
      have htext : '\n' ∉ text := fun m => h (List.mem_cons_of_mem _ m)
      simp [splitLine, hc, ih htext (by simpa using hn)]

theorem mem_head?_splitLine {n : Nat} {content : CText} {c : Char}
    (h : c ∈ (splitLine n content).1.head?) : c ∈ content.head? := by
  cases n with
  | zero => exact absurd h (by simp [splitLine])
  | succ n =>
      cases content with
      | nil => exact h
      | cons x content =>
          unfold splitLine at h
          split at h
          · exact h
          · exact h

theorem splitLine_append (n : Nat) (content : CText) :
    (splitLine n content).1 ++ (splitLine n content).2 = content := by
  induction n generalizing content with
  | zero => rfl
  | succ n ih =>
      cases content with
      | nil => rfl
      | cons c content =>
          simp only [splitLine]
          split
          · simp
          · simp [ih content]

theorem splitLine_length_le (n : Nat) (content : CText) :
    (splitLine n content).1.length ≤ n := by
  induction n generalizing content with
  | zero => simp [splitLine]
  | succ n ih =>
      cases content with
      | nil => simp [splitLine]
      | cons c content =>
          simp only [splitLine]
          split
          · simp
          · simpa using ih content

theorem splitLine_rest_lt {n : Nat} {content : CText} (hn : 0 < n) (h : content ≠ []) :
    (splitLine n content).2.length < content.length := by
  obtain ⟨m, rfl⟩ := Nat.exists_eq_succ_of_ne_zero (by omega : n ≠ 0)
  cases content with
  | nil => exact absurd rfl h
  | cons c content =>
      have sum := congrArg List.length (splitLine_append m content)
      simp only [List.length_append] at sum
      simp only [splitLine]
      split
      · simp
      · simp only [List.length_cons]
        omega

/-! ## The lines of a whole file -/

@[simp] theorem readLines_nil (size : Nat) : readLines size [] = [] := rfl

theorem readLinesFuel_eq {size : Nat} (hsize : 2 ≤ size) {fuel fuel' : Nat} {content : CText}
    (h : content.length ≤ fuel) (h' : content.length ≤ fuel') :
    readLinesFuel size fuel content = readLinesFuel size fuel' content := by
  induction fuel generalizing fuel' content with
  | zero =>
      obtain rfl : content = [] := List.length_eq_zero_iff.mp (by omega)
      cases fuel' <;> simp [readLinesFuel, fgets]
  | succ fuel ih =>
      by_cases hne : content = []
      · subst hne
        cases fuel' <;> simp [readLinesFuel, fgets]
      · have hpos : 0 < content.length := List.length_pos_iff.mpr hne
        obtain ⟨m, rfl⟩ := Nat.exists_eq_succ_of_ne_zero (by omega : fuel' ≠ 0)
        have shrinks := splitLine_rest_lt (n := size - 1) (by omega) hne
        simp only [readLinesFuel, fgets, if_neg hne]
        rw [ih (by omega) (by omega : _ ≤ m)]

/-- One `fgets` and then the lines of what it leaves. -/
theorem readLines_step {size : Nat} (hsize : 2 ≤ size) {content : CText} (hne : content ≠ []) :
    readLines size content =
      (splitLine (size - 1) content).1 :: readLines size (splitLine (size - 1) content).2 := by
  have hpos : 0 < content.length := List.length_pos_iff.mpr hne
  obtain ⟨m, hm⟩ := Nat.exists_eq_succ_of_ne_zero (by omega : content.length ≠ 0)
  have shrinks := splitLine_rest_lt (n := size - 1) (by omega) hne
  rw [readLines, hm]
  simp only [readLinesFuel, fgets, if_neg hne]
  rw [readLines, readLinesFuel_eq hsize (by omega) (Nat.le_refl _)]

theorem readLines_terminated {size : Nat} {line : CText} (h : '\n' ∉ line)
    (hlen : line.length + 1 < size) (rest : CText) :
    readLines size (line ++ '\n' :: rest) = (line ++ ['\n']) :: readLines size rest := by
  rw [readLines_step (by omega) (by simp), splitLine_terminated h rest (by omega)]

theorem readLines_unterminated {size : Nat} {line : CText} (h : '\n' ∉ line) (hne : line ≠ [])
    (hlen : line.length < size) : readLines size line = [line] := by
  have hpos : 0 < line.length := List.length_pos_iff.mpr hne
  rw [readLines_step (by omega) hne, splitLine_unterminated h (by omega), readLines_nil]

/-- Lines short enough for the buffer are read one by one, newlines included. -/
theorem readLines_unlines_append {size : Nat} {lines : List CText}
    (h : ∀ line ∈ lines, '\n' ∉ line ∧ line.length + 1 < size) (tail : CText) :
    readLines size (unlines lines ++ tail) = lines.map (· ++ ['\n']) ++ readLines size tail := by
  induction lines with
  | nil => simp
  | cons line lines ih =>
      have head := h line List.mem_cons_self
      have rest := ih fun l m => h l (List.mem_cons_of_mem _ m)
      simp only [unlines_cons, List.append_assoc, List.cons_append, List.map_cons]
      rw [readLines_terminated head.1 head.2, rest]

theorem readLines_unlines {size : Nat} {lines : List CText}
    (h : ∀ line ∈ lines, '\n' ∉ line ∧ line.length + 1 < size) :
    readLines size (unlines lines) = lines.map (· ++ ['\n']) := by
  simpa using readLines_unlines_append h []

theorem readLines_length_le {size : Nat} (hsize : 2 ≤ size) (content : CText) :
    ∀ line ∈ readLines size content, line.length < size := by
  generalize hn : content.length = n
  induction n using Nat.strong_induction_on generalizing content with
  | _ n ih =>
      intro line member
      by_cases hne : content = []
      · subst hne
        simp at member
      · rw [readLines_step hsize hne] at member
        have shrinks := splitLine_rest_lt (n := size - 1) (by omega) hne
        rcases List.mem_cons.mp member with rfl | member
        · have := splitLine_length_le (size - 1) content
          omega
        · exact ih _ (by omega) _ rfl line member

/-! ## Files as lists of lines -/

theorem fileLines_terminated {line : CText} (h : '\n' ∉ line) (rest : CText) :
    fileLines (line ++ '\n' :: rest) = line :: fileLines rest := by
  induction line with
  | nil => simp [fileLines]
  | cons c line ih =>
      have hc : c ≠ '\n' := fun e => h (e ▸ List.mem_cons_self)
      have hline : '\n' ∉ line := fun m => h (List.mem_cons_of_mem _ m)
      simp [fileLines, hc, ih hline]

theorem newline_notMem_fileLines {content line : CText} (h : line ∈ fileLines content) :
    '\n' ∉ line := by
  induction content generalizing line with
  | nil => simp [fileLines] at h
  | cons c content ih =>
      unfold fileLines at h
      by_cases hc : c = '\n'
      · rw [if_pos hc] at h
        rcases List.mem_cons.mp h with rfl | member
        · exact List.not_mem_nil
        · exact ih member
      · rw [if_neg hc] at h
        cases hlines : fileLines content with
        | nil =>
            rw [hlines] at h
            rw [List.mem_singleton.mp h, List.mem_singleton]
            exact Ne.symm hc
        | cons first lines =>
            rw [hlines] at h ih
            rcases List.mem_cons.mp h with rfl | member
            · simp only [List.mem_cons, not_or]
              exact ⟨Ne.symm hc, ih List.mem_cons_self⟩
            · exact ih (List.mem_cons_of_mem _ member)

theorem fileLines_unterminated {line : CText} (h : '\n' ∉ line) (hne : line ≠ []) :
    fileLines line = [line] := by
  induction line with
  | nil => exact absurd rfl hne
  | cons c line ih =>
      have hc : c ≠ '\n' := fun e => h (e ▸ List.mem_cons_self)
      have hline : '\n' ∉ line := fun m => h (List.mem_cons_of_mem _ m)
      by_cases hnil : line = []
      · subst hnil
        simp [fileLines, hc]
      · simp [fileLines, hc, ih hline hnil]

theorem fileLines_unlines_append {lines : List CText} (h : ∀ line ∈ lines, '\n' ∉ line)
    (tail : CText) : fileLines (unlines lines ++ tail) = lines ++ fileLines tail := by
  induction lines with
  | nil => simp
  | cons line lines ih =>
      have rest := ih fun l m => h l (List.mem_cons_of_mem _ m)
      simp only [unlines_cons, List.append_assoc, List.cons_append]
      rw [fileLines_terminated (h line List.mem_cons_self), rest]

/-- Every file is a sequence of terminated lines and a last piece without a newline. -/
theorem exists_unlines_append (content : CText) :
    ∃ lines tail, (∀ line ∈ lines, '\n' ∉ line) ∧ '\n' ∉ tail ∧
      content = unlines lines ++ tail := by
  induction content with
  | nil => exact ⟨[], [], by simp, by simp, rfl⟩
  | cons c content ih =>
      obtain ⟨lines, tail, hlines, htail, rfl⟩ := ih
      by_cases hc : c = '\n'
      · subst hc
        refine ⟨[] :: lines, tail, ?_, htail, by simp⟩
        simpa using hlines
      · cases lines with
        | nil => exact ⟨[], c :: tail, by simp, by simp [Ne.symm hc, htail], rfl⟩
        | cons line lines =>
            refine ⟨(c :: line) :: lines, tail, ?_, htail, by simp⟩
            intro l member
            rcases List.mem_cons.mp member with rfl | member
            · simp [Ne.symm hc, hlines line List.mem_cons_self]
            · exact hlines l (List.mem_cons_of_mem _ member)

end CText

end PhantomMonitor
