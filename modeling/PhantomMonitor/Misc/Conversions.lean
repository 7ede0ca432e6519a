import PhantomMonitor.Misc.Scanf

/-!
# What conversions consume

A conversion of an integer consumes white space, a sign and digits, and stops in front of any other
character. The text before such a character therefore bounds how many conversions succeed: each one
takes a character, and all but the first take two.
-/

namespace PhantomMonitor

namespace CText

/-! ## One integer -/

/-- A character that a conversion of an integer can consume. -/
def isNumeric (c : Char) : Bool := isSpace c || c == '-' || c == '+' || c.isDigit

theorem isNumeric_of_isSpace {c : Char} (space : isSpace c = true) : isNumeric c = true := by
  simp [isNumeric, space]

theorem isNumeric_of_isDigit {c : Char} (digit : c.isDigit = true) : isNumeric c = true := by
  simp [isNumeric, digit]

theorem isSpace_eq_false_of_barrier {c : Char} (barrier : isNumeric c = false) :
    isSpace c = false := by
  by_contra space
  rw [isNumeric_of_isSpace (Bool.eq_true_of_not_eq_false space)] at barrier
  cases barrier

theorem isNumeric_eq_false_of_isAlpha {c : Char} (letter : c.isAlpha = true) :
    isNumeric c = false := by
  have above : 65 ≤ c.toNat := by
    have upper : (65 : UInt32) ≤ c.val → 65 ≤ c.toNat := UInt32.le_iff_toNat_le.mp
    have lower : (97 : UInt32) ≤ c.val → 97 ≤ c.toNat := UInt32.le_iff_toNat_le.mp
    rcases (Bool.or_eq_true c.isUpper c.isLower).mp letter with inside | inside
    · have range : c.val ≥ 65 ∧ c.val ≤ 90 := of_decide_eq_true inside
      exact upper range.1
    · have range : (decide (c.val ≥ 97) && decide (c.val ≤ 122)) = true := inside
      exact (lower (of_decide_eq_true (Bool.and_eq_true_iff.mp range).1)).trans' (by decide)
  have other (d : Char) (below : d.toNat < 65) : (c == d) = false := by
    rw [beq_eq_false_iff_ne]
    rintro rfl
    omega
  have digit : c.isDigit = false := by
    by_contra digit
    simp only [Bool.not_eq_false, Char.isDigit, Bool.and_eq_true, decide_eq_true_eq] at digit
    have nine : c.val ≤ (57 : UInt32) → c.toNat ≤ 57 := UInt32.le_iff_toNat_le.mp
    have := nine digit.2
    omega
  have control : ¬ c.toNat ≤ 13 := by omega
  rw [isNumeric, isSpace, other ' ' (by decide), other '-' (by decide),
    other '+' (by decide), digit, decide_eq_false control, Bool.and_false]
  rfl

/-- What a conversion consumes: numeric characters, two at least unless a digit stands first. No
digit is left over. -/
structure Consumes (text used rest : CText) : Prop where
  split : text = used ++ rest
  numeric : ∀ c ∈ used, isNumeric c = true
  one : 1 ≤ used.length
  two : (∀ c ∈ text.head?, c.isDigit = false) → 2 ≤ used.length
  stop : ∀ c ∈ rest.head?, c.isDigit = false

theorem takeSign_split (text : CText) :
    ∃ sign, text = sign ++ (takeSign text).2 ∧ ∀ c ∈ sign, c = '-' ∨ c = '+' := by
  unfold takeSign
  split
  · exact ⟨['-'], rfl, by simp⟩
  · exact ⟨['+'], rfl, by simp⟩
  · exact ⟨[], rfl, by simp⟩

theorem head?_dropWhile_isDigit (text : CText) :
    ∀ c ∈ (text.dropWhile Char.isDigit).head?, c.isDigit = false := by
  intro c first
  have other := List.head?_dropWhile_not Char.isDigit text
  rw [Option.mem_def.mp first] at other
  simpa using other

theorem scanInteger_consumes {text rest : CText} (h : scanInteger text = some rest) :
    ∃ used, Consumes text used rest := by
  obtain ⟨sign, split, signs⟩ := takeSign_split (text.dropWhile isSpace)
  unfold scanInteger at h
  dsimp only at h
  generalize (takeSign (text.dropWhile isSpace)).2 = number at h split
  split at h
  · rename_i first
    cases h
    cases number with
    | nil => cases first
    | cons d number =>
        have digit : d.isDigit = true := first
        let gap := text.takeWhile isSpace
        let digits := d :: number.takeWhile Char.isDigit
        have whole : text = (gap ++ sign ++ digits) ++ number.dropWhile Char.isDigit := by
          calc text = gap ++ text.dropWhile isSpace := List.takeWhile_append_dropWhile.symm
            _ = gap ++ (sign ++ (d :: (number.takeWhile Char.isDigit ++
                number.dropWhile Char.isDigit))) := by
              rw [split, List.takeWhile_append_dropWhile]
            _ = (gap ++ sign ++ digits) ++ number.dropWhile Char.isDigit := by simp [digits]
        have left : (takeDigits (d :: number)).2 = number.dropWhile Char.isDigit :=
          List.dropWhile_cons_of_pos digit
        rw [left]
        refine ⟨gap ++ sign ++ digits, whole, ?_, ?_, ?_, head?_dropWhile_isDigit number⟩
        · intro c member
          rw [List.mem_append, List.mem_append, List.mem_cons] at member
          rcases member with (space | sign) | rfl | later
          · exact isNumeric_of_isSpace (List.mem_takeWhile_imp space)
          · rcases signs c sign with rfl | rfl <;> rfl
          · exact isNumeric_of_isDigit digit
          · exact isNumeric_of_isDigit (List.mem_takeWhile_imp later)
        · rw [List.length_append, List.length_cons]
          omega
        · intro other
          cases front : gap ++ sign with
          | nil =>
              rw [whole, front] at other
              rw [other d rfl] at digit
              cases digit
          | cons c front =>
              rw [List.length_append, List.length_cons, List.length_cons]
              omega
  · cases h

/-- A conversion stops in front of a character that it cannot consume. -/
theorem scanInteger_before {before rest after : CText} {c : Char} (barrier : isNumeric c = false)
    (h : scanInteger (before ++ c :: rest) = some after) :
    ∃ used before', after = before' ++ c :: rest ∧ Consumes before used before' := by
  obtain ⟨used, consumes⟩ := scanInteger_consumes h
  have inside : ∃ before', before = used ++ before' ∧ after = before' ++ c :: rest := by
    rcases List.append_eq_append_iff.mp consumes.split with ⟨more, whole, split⟩ | ⟨before', found⟩
    · cases more with
      | nil => exact ⟨[], by simp [whole], split.symm⟩
      | cons d more =>
          obtain ⟨rfl, -⟩ := List.cons_eq_cons.mp split
          rw [consumes.numeric c (by simp [whole])] at barrier
          cases barrier
    · exact ⟨before', found⟩
  obtain ⟨before', rfl, rfl⟩ := inside
  refine ⟨used, before', rfl, rfl, consumes.numeric, consumes.one, fun other => consumes.two ?_, ?_⟩
  · cases used with
    | nil => exact absurd consumes.one (by decide)
    | cons u used => exact other
  · cases before' with
    | nil => exact fun d none => nomatch none
    | cons d before' => exact consumes.stop

/-! ## Several integers -/

/-- Behind a number, every conversion takes two characters. -/
theorem length_scanUnsigned_behind {c : Char} (barrier : isNumeric c = false) (n : Nat)
    {before : CText} (behind : ∀ d ∈ before.head?, d.isDigit = false) (rest : CText) :
    2 * (scanUnsigned n (before ++ c :: rest)).length ≤ before.length := by
  induction n generalizing before with
  | zero => exact Nat.zero_le _
  | succ n ih =>
      unfold scanUnsigned
      split
      · exact Nat.zero_le _
      · rename_i after found
        obtain ⟨used, before', rfl, consumes⟩ := scanInteger_before barrier found
        have shorter := ih consumes.stop
        have two := consumes.two behind
        rw [consumes.split, List.length_append, List.length_cons]
        omega

/-- Numbers in a text in front of a character that is not numeric. -/
theorem length_scanUnsigned_before {c : Char} (barrier : isNumeric c = false) (n : Nat)
    (before rest : CText) :
    2 * (scanUnsigned n (before ++ c :: rest)).length ≤ before.length + 1 := by
  cases n with
  | zero => exact Nat.zero_le _
  | succ n =>
      unfold scanUnsigned
      split
      · exact Nat.zero_le _
      · rename_i after found
        obtain ⟨used, before', rfl, consumes⟩ := scanInteger_before barrier found
        have shorter := length_scanUnsigned_behind barrier n consumes.stop rest
        have one := consumes.one
        rw [consumes.split, List.length_append, List.length_cons]
        omega

/-! ## Words and characters -/

theorem scanWord_word {gap word rest : CText} (spaces : ∀ c ∈ gap, isSpace c = true)
    (nonempty : word ≠ []) (plain : ∀ c ∈ word, isSpace c = false)
    (stop : ∀ c ∈ rest.head?, isSpace c = true) :
    scanWord (gap ++ (word ++ rest)) = some (word, rest) := by
  have word_plain : ∀ c ∈ word, (!isSpace c) = true := fun c member => by rw [plain c member]; rfl
  have ends : rest.takeWhile (fun c => !isSpace c) = [] ∧
      rest.dropWhile (fun c => !isSpace c) = rest := by
    cases rest with
    | nil => exact ⟨rfl, rfl⟩
    | cons c rest => simp [stop c rfl]
  have taken : (word ++ rest).takeWhile (fun c => !isSpace c) = word := by
    rw [List.takeWhile_append_of_pos word_plain, ends.1, List.append_nil]
  have left : (word ++ rest).dropWhile (fun c => !isSpace c) = rest := by
    rw [List.dropWhile_append_of_pos word_plain, ends.2]
  unfold scanWord
  rw [List.dropWhile_append_of_pos spaces]
  obtain ⟨c, tail, rfl⟩ := List.exists_cons_of_ne_nil nonempty
  rw [List.cons_append, List.dropWhile_cons_of_neg (by simp [plain c List.mem_cons_self])]
  exact congrArg some (Prod.ext taken left)

theorem scanChar_char {gap : CText} (spaces : ∀ c ∈ gap, isSpace c = true) {c : Char}
    (plain : isSpace c = false) (rest : CText) : scanChar (gap ++ c :: rest) = some rest := by
  unfold scanChar
  rw [List.dropWhile_append_of_pos spaces, List.dropWhile_cons_of_neg (by simp [plain])]

/-- The character that is read stands before a given one or is that one. -/
theorem scanChar_before (before : CText) {c : Char} (plain : isSpace c = false) (rest : CText) :
    (∃ before', before'.length ≤ before.length ∧
        scanChar (before ++ c :: rest) = some (before' ++ c :: rest)) ∨
      scanChar (before ++ c :: rest) = some rest := by
  have gap : ∀ d ∈ before.takeWhile isSpace, isSpace d = true := fun d => List.mem_takeWhile_imp
  have whole : before ++ c :: rest =
      before.takeWhile isSpace ++ (before.dropWhile isSpace ++ c :: rest) := by
    rw [← List.append_assoc, List.takeWhile_append_dropWhile]
  have shorter : (before.dropWhile isSpace).length ≤ before.length :=
    (List.dropWhile_sublist _).length_le
  cases behind : before.dropWhile isSpace with
  | nil =>
      rw [whole, behind]
      exact Or.inr (scanChar_char gap plain rest)
  | cons d before' =>
      have other := List.head?_dropWhile_not isSpace before
      rw [behind] at other shorter
      rw [whole, behind]
      refine Or.inl ⟨before', ?_, scanChar_char gap (by simpa using other) _⟩
      exact (Nat.le_succ _).trans shorter

/-! ## Integers as they are printed -/

/-- `%d` and `%ld`. -/
def intText (n : Int) : CText := (if n < 0 then ['-'] else []) ++ Nat.toDigits 10 n.natAbs

theorem notMem_intText (n : Int) {c : Char} (digit : c.isDigit = false) (minus : c ≠ '-') :
    c ∉ intText n := by
  rw [intText, List.mem_append, not_or]
  refine ⟨?_, notMem_toDigits _ digit⟩
  split
  · simpa using minus
  · exact List.not_mem_nil

theorem length_intText_le {n : Int} {k : Nat} (positive : 0 < k) (h : n.natAbs < 10 ^ k) :
    (intText n).length ≤ k + 1 := by
  have digits := (Nat.length_toDigits_le_iff (by decide) positive).mpr h
  rw [intText, List.length_append]
  split
  · rw [List.length_singleton]
    omega
  · rw [List.length_nil]
    omega

theorem scanInteger_intText {gap : CText} (spaces : ∀ c ∈ gap, isSpace c = true) (n : Int)
    {rest : CText} (stop : ∀ c ∈ rest.head?, c.isDigit = false) :
    scanInteger (gap ++ intText n ++ rest) = some rest := by
  unfold intText
  split
  · let digits := NumberText.ofNat [] (List.forall_mem_nil _) n.natAbs
    have sign : (gap ++ (['-'] ++ Nat.toDigits 10 n.natAbs) ++ rest).dropWhile isSpace =
        '-' :: (digits.digits ++ rest) := by
      rw [List.append_assoc, List.dropWhile_append_of_pos spaces]
      rfl
    unfold scanInteger
    rw [sign]
    show (if startsWithDigit (digits.digits ++ rest) = true then
      some (takeDigits (digits.digits ++ rest)).2 else none) = some rest
    rw [if_pos (digits.startsWithDigit_digits rest), Decimal.takeDigits_append digits.decimal stop]
  · exact (NumberText.ofNat gap spaces n.natAbs).scanInteger_text stop

/-- Conversions of integers with a blank before each one leave the others what is behind them. -/
theorem getElem?_scanUnsigned_ints (ints : List Int) {rest : CText}
    (stop : ∀ c ∈ rest.head?, c.isDigit = false) (n i : Nat) :
    (scanUnsigned (ints.length + n) (ints.flatMap (fun k => ' ' :: intText k) ++
      rest))[ints.length + i]? = (scanUnsigned n rest)[i]? := by
  induction ints with
  | nil => simp
  | cons k ints ih =>
      let behind := ints.flatMap (fun k => ' ' :: intText k) ++ rest
      have behind_stop : ∀ c ∈ behind.head?, c.isDigit = false := by
        cases ints with
        | nil => exact stop
        | cons k' ints =>
            rintro c ⟨⟩
            rfl
      have first : scanInteger ((k :: ints).flatMap (fun k => ' ' :: intText k) ++ rest) =
          some behind := by
        rw [List.flatMap_cons, List.append_assoc]
        exact scanInteger_intText NumberText.blank_space k behind_stop
      rw [List.length_cons, Nat.succ_add, Nat.succ_add, scanUnsigned, first]
      exact ih

end CText

end PhantomMonitor
