import PhantomMonitor.Misc.Decimal

/-!
# Reading integers from a text

The conversions `%d`, `%u` and `%llu` of `sscanf`. Each one skips white space and takes a sign and
digits; without a digit it fails, and the ones behind it are not tried. The variables of conversions
that were not reached keep what they hold.
-/

namespace PhantomMonitor

namespace CText

/-- The text behind an integer at the start of a text; `none` when there is no digit. -/
def scanInteger (text : CText) : Option CText :=
  let digits := (takeSign (text.dropWhile isSpace)).2
  if startsWithDigit digits then some (takeDigits digits).2 else none

/-- `ULLONG_MAX`. -/
def ullongMax : Nat := 2 ^ 64 - 1

/-- `strtoull (text, &ptr, 10)`. A number that is too large gives the largest one, and a minus
negates what was read. -/
def strtoull (text : CText) : BitVec 64 :=
  let (minus, digits) := takeSign (text.dropWhile isSpace)
  let value := digitsValue digits
  if ullongMax < value then BitVec.ofNat 64 ullongMax
  else if minus then -BitVec.ofNat 64 value else BitVec.ofNat 64 value

/-- `sscanf (text, "%d", &value)`. -/
def sscanfInt (text : CText) (value : BitVec 32) : BitVec 32 :=
  match scanInteger text with
  | none => value
  | some _ => BitVec.ofInt 32 (strtol text)

/-- The numbers that `n` conversions of unsigned integers find, up to the first one that fails. They
are given as for `%llu`. -/
def scanUnsigned : Nat → CText → List (BitVec 64)
  | 0, _ => []
  | n + 1, text =>
      match scanInteger text with
      | none => []
      | some rest => strtoull text :: scanUnsigned n rest

/-- What `sscanf (text, "%lu", &value)` writes, also for `%llu`. -/
def scanUlong (text : CText) : Option (BitVec 64) := (scanInteger text).map fun _ => strtoull text

/-- `sscanf (text, "%lu", &value)`. -/
def sscanfUlong (text : CText) (value : BitVec 64) : BitVec 64 := (scanUlong text).getD value

/-- The conversion `%s`: the word and the text behind it; `none` at the end of the text. -/
def scanWord (text : CText) : Option (CText × CText) :=
  match text.dropWhile isSpace with
  | [] => none
  | c :: rest =>
      some ((c :: rest).takeWhile (fun c => !isSpace c),
        (c :: rest).dropWhile (fun c => !isSpace c))

/-- The conversion ` %c`: the text behind the first character that is no white space; `none` when
there is no such character. -/
def scanChar (text : CText) : Option CText :=
  match text.dropWhile isSpace with
  | [] => none
  | _ :: rest => some rest

/-! ## Numbers as they stand in a text -/

/-- White space and digits. -/
structure NumberText where
  gap : CText
  digits : CText
  spaces : ∀ c ∈ gap, isSpace c = true
  nonempty : digits ≠ []
  decimal : ∀ c ∈ digits, c.isDigit = true

namespace NumberText

def text (n : NumberText) : CText := n.gap ++ n.digits

def value (n : NumberText) : Nat := Nat.ofDigitChars 10 n.digits 0

theorem blank_space : ∀ c ∈ [' '], isSpace c = true := List.forall_mem_singleton.mpr rfl

/-- A digit behind a blank. -/
def blankDigit (c : Char) (digit : c.isDigit = true) : NumberText where
  gap := [' ']
  digits := [c]
  spaces := blank_space
  nonempty := List.cons_ne_nil _ _
  decimal := by simpa using digit

/-- The digits of a number behind white space. -/
def ofNat (gap : CText) (spaces : ∀ c ∈ gap, isSpace c = true) (n : Nat) : NumberText where
  gap
  digits := Nat.toDigits 10 n
  spaces
  nonempty := toDigits_ten_ne_nil n
  decimal := fun _ => isDigit_of_mem_toDigits

@[simp] theorem value_ofNat (gap : CText) (spaces : ∀ c ∈ gap, isSpace c = true) (n : Nat) :
    (ofNat gap spaces n).value = n := Nat.ofDigitChars_ten_toDigits

/-- The digits as a decimal number. -/
def decimalOf (n : NumberText) : Decimal where
  sign := none
  whole := n.digits
  fraction := none
  whole_digits := n.decimal
  fraction_digits _ none := by cases none
  some_digit := Or.inl n.nonempty

theorem text_decimalOf (n : NumberText) : n.decimalOf.text = n.digits := by
  simp [Decimal.text, Decimal.signText, Decimal.fractionText, decimalOf]

theorem value_decimalOf (n : NumberText) : n.decimalOf.value = n.value := by
  simp [Decimal.value, Decimal.magnitude, Decimal.places, decimalOf, value, Nat.ofDigitChars_nil]

theorem nul_notMem_text (n : NumberText) : nul ∉ n.text := by
  intro member
  rcases List.mem_append.mp member with gap | digit
  · exact absurd (n.spaces nul gap) (by decide)
  · exact absurd (n.decimal nul digit) (by decide)

/-- Behind the white space, a number starts with a digit. -/
theorem dropWhile_text (n : NumberText) (rest : CText) :
    (n.text ++ rest).dropWhile isSpace = n.digits ++ rest := by
  obtain ⟨gap, digits, spaces, nonempty, decimal⟩ := n
  obtain ⟨c, digits, rfl⟩ := List.exists_cons_of_ne_nil nonempty
  have first := isSpace_eq_false_of_isDigit (decimal c List.mem_cons_self)
  show ((gap ++ c :: digits) ++ rest).dropWhile isSpace = c :: digits ++ rest
  rw [List.append_assoc, List.dropWhile_append_of_pos spaces, List.cons_append,
    List.dropWhile_cons_of_neg (by simp [first])]

/-- A number without a sign. -/
theorem takeSign_digits (n : NumberText) (rest : CText) :
    takeSign (n.digits ++ rest) = (false, n.digits ++ rest) := by
  obtain ⟨gap, digits, spaces, nonempty, decimal⟩ := n
  obtain ⟨c, digits, rfl⟩ := List.exists_cons_of_ne_nil nonempty
  have first := decimal c List.mem_cons_self
  unfold takeSign
  split
  · rename_i minus
    cases minus
    cases first
  · rename_i plus
    cases plus
    cases first
  · rfl

theorem digitsValue_digits (n : NumberText) {rest : CText}
    (stop : ∀ c ∈ rest.head?, c.isDigit = false) : digitsValue (n.digits ++ rest) = n.value := by
  have digits := congrArg Prod.fst (Decimal.takeDigits_append n.decimal stop)
  rw [digitsValue, value]
  exact congrArg (Nat.ofDigitChars 10 · 0) digits

theorem startsWithDigit_digits (n : NumberText) (rest : CText) :
    startsWithDigit (n.digits ++ rest) = true := by
  obtain ⟨c, digits, hdigits⟩ := List.exists_cons_of_ne_nil n.nonempty
  rw [hdigits]
  exact n.decimal c (hdigits ▸ List.mem_cons_self)

theorem scanInteger_text (n : NumberText) {rest : CText}
    (stop : ∀ c ∈ rest.head?, c.isDigit = false) : scanInteger (n.text ++ rest) = some rest := by
  unfold scanInteger
  rw [n.dropWhile_text, n.takeSign_digits]
  dsimp only
  rw [if_pos (n.startsWithDigit_digits rest), Decimal.takeDigits_append n.decimal stop]

theorem strtol_text (n : NumberText) {rest : CText} (stop : ∀ c ∈ rest.head?, c.isDigit = false)
    (fits : (n.value : Int) ≤ longMax) : strtol (n.text ++ rest) = n.value := by
  have value := n.digitsValue_digits stop
  have unsigned := n.takeSign_digits rest
  unfold strtol
  rw [n.dropWhile_text]
  split
  · rename_i minus
    rw [minus] at unsigned
    cases unsigned
  · rename_i plus
    rw [plus] at unsigned
    exact absurd (congrArg Prod.snd unsigned).symm (List.cons_ne_self _ _)
  · rw [value, min_eq_right fits]

/-- The number as an `unsigned long long`. -/
def unsigned (n : NumberText) : BitVec 64 :=
  if ullongMax < n.value then BitVec.ofNat 64 ullongMax else BitVec.ofNat 64 n.value

theorem unsigned_eq {n : NumberText} (fits : n.value < 2 ^ 64) :
    n.unsigned = BitVec.ofNat 64 n.value := if_neg (by unfold ullongMax; omega)

theorem strtoull_text (n : NumberText) {rest : CText}
    (stop : ∀ c ∈ rest.head?, c.isDigit = false) : strtoull (n.text ++ rest) = n.unsigned := by
  unfold strtoull
  rw [n.dropWhile_text, n.takeSign_digits]
  dsimp only
  rw [n.digitsValue_digits stop, if_neg Bool.false_ne_true]
  rfl

/-- The conversion `%lu` of a number that fits into 64 bits. -/
theorem scanUlong_text (n : NumberText) {rest : CText}
    (stop : ∀ c ∈ rest.head?, c.isDigit = false) (fits : n.value < 2 ^ 64) :
    scanUlong (n.text ++ rest) = some (BitVec.ofNat 64 n.value) := by
  rw [scanUlong, n.scanInteger_text stop, Option.map_some, n.strtoull_text stop, unsigned_eq fits]

/-- The conversion `%d` of a number that is an `int`. -/
theorem sscanfInt_text (n : NumberText) {rest : CText}
    (stop : ∀ c ∈ rest.head?, c.isDigit = false) (fits : n.value < 2 ^ 31) (old : BitVec 32) :
    sscanfInt (n.text ++ rest) old = BitVec.ofNat 32 n.value := by
  have long : (n.value : Int) ≤ longMax := by
    unfold longMax
    omega
  unfold sscanfInt
  rw [n.scanInteger_text stop]
  dsimp only
  rw [n.strtol_text stop long, BitVec.ofInt_natCast]

/-! ## Rows of numbers -/

/-- Numbers of a row are apart when all but the first one have white space before them. -/
def Apart (row : List NumberText) : Prop := ∀ n ∈ row.tail, n.gap ≠ []

/-- Behind a number of a row there is no further digit. -/
theorem head_rowText {row : List NumberText} (apart : ∀ n ∈ row, n.gap ≠ []) {rest : CText}
    (stop : ∀ c ∈ rest.head?, c.isDigit = false) :
    ∀ c ∈ (row.flatMap text ++ rest).head?, c.isDigit = false := by
  cases row with
  | nil => exact stop
  | cons n row =>
      obtain ⟨c, gap, hgap⟩ := List.exists_cons_of_ne_nil (apart n List.mem_cons_self)
      have space := n.spaces c (hgap ▸ List.mem_cons_self)
      rintro c' first
      rw [List.flatMap_cons, text, hgap] at first
      cases first
      by_contra digit
      rw [isSpace_eq_false_of_isDigit (Bool.eq_true_of_not_eq_false digit)] at space
      cases space

/-- Conversions of a row give the values of its numbers. -/
theorem scanUnsigned_row {row : List NumberText} (apart : Apart row) {rest : CText}
    (stop : ∀ c ∈ rest.head?, c.isDigit = false) {k : Nat} (hk : k ≤ row.length) :
    scanUnsigned k (row.flatMap text ++ rest) = (row.take k).map unsigned := by
  induction k generalizing row with
  | zero => rfl
  | succ k ih =>
      cases row with
      | nil => exact absurd hk (Nat.not_succ_le_zero k)
      | cons n row =>
          have behind := head_rowText apart stop
          rw [List.tail_cons] at behind
          have later : Apart row := fun m member => apart m (List.mem_of_mem_tail member)
          have others := ih later (Nat.le_of_succ_le_succ hk)
          rw [List.flatMap_cons, List.append_assoc, scanUnsigned, n.scanInteger_text behind]
          dsimp only
          rw [n.strtoull_text behind, others, List.take_succ_cons,
            List.map_cons]

end NumberText

end CText

end PhantomMonitor
