import Mathlib.Algebra.Order.Field.Rat
import Mathlib.Tactic.FieldSimp
import Mathlib.Tactic.Ring
import PhantomMonitor.Misc.Numeral

/-!
# Decimal fractions

Decimal numerals with a sign and a point, the number that such a numeral denotes, and `atof`, which
reads it back. Numbers are exact.
-/

namespace PhantomMonitor

namespace CText

/-- The text without its sign, and whether the sign is a minus. -/
def takeSign (text : CText) : Bool × CText :=
  match text with
  | '-' :: rest => (true, rest)
  | '+' :: rest => (false, rest)
  | _ => (false, text)

/-- The digits at the start of a text, and the text behind them. -/
def takeDigits (text : CText) : CText × CText :=
  (text.takeWhile Char.isDigit, text.dropWhile Char.isDigit)

/-- The digits behind a point, and the text behind them. -/
def takeFraction (text : CText) : CText × CText :=
  match text with
  | '.' :: rest => takeDigits rest
  | _ => ([], text)

/-- The exponent at the start of a text. -/
def exponent (text : CText) : Int :=
  match text with
  | 'e' :: rest | 'E' :: rest =>
      let (minus, digits) := takeSign rest
      if minus then -(digitsValue digits : Int) else digitsValue digits
  | _ => 0

/-- `atof` of a decimal number: white space, a sign, digits, a point and digits, an exponent. -/
def atof (text : CText) : Rat :=
  let (minus, text) := takeSign (text.dropWhile isSpace)
  let (whole, text) := takeDigits text
  let (fraction, text) := takeFraction text
  let mantissa : Rat := Nat.ofDigitChars 10 (whole ++ fraction) 0 / 10 ^ fraction.length
  let value := mantissa * 10 ^ exponent text
  if minus then -value else value

end CText

open CText

/-- A decimal numeral: an optional sign, digits, and an optional point with digits behind it. There
is a digit. -/
structure Decimal where
  sign : Option Bool
  whole : CText
  fraction : Option CText
  whole_digits : ∀ c ∈ whole, c.isDigit = true
  fraction_digits : ∀ digits ∈ fraction, ∀ c ∈ digits, c.isDigit = true
  some_digit : whole ≠ [] ∨ fraction.getD [] ≠ []

namespace Decimal

/-- The sign that is written; `some true` is a minus. -/
def signText (d : Decimal) : CText :=
  match d.sign with
  | none => []
  | some true => ['-']
  | some false => ['+']

/-- The point and what is behind it. -/
def fractionText (d : Decimal) : CText :=
  match d.fraction with
  | none => []
  | some digits => '.' :: digits

/-- The numeral as it is written. -/
def text (d : Decimal) : CText := d.signText ++ (d.whole ++ d.fractionText)

/-- The digits behind the point. -/
def places (d : Decimal) : CText := d.fraction.getD []

/-- The number without its sign. -/
def magnitude (d : Decimal) : Rat :=
  Nat.ofDigitChars 10 d.whole 0 + Nat.ofDigitChars 10 d.places 0 / 10 ^ d.places.length

/-- The number that the numeral denotes. -/
def value (d : Decimal) : Rat := if d.sign = some true then -d.magnitude else d.magnitude

theorem body_head (d : Decimal) :
    ∃ c rest, d.whole ++ d.fractionText = c :: rest ∧ (c.isDigit = true ∨ c = '.') := by
  cases hwhole : d.whole with
  | cons c rest =>
      refine ⟨c, rest ++ d.fractionText, rfl, Or.inl (d.whole_digits c ?_)⟩
      rw [hwhole]
      exact List.mem_cons_self
  | nil =>
      unfold fractionText
      cases hfraction : d.fraction with
      | some digits => exact ⟨'.', digits, rfl, Or.inr rfl⟩
      | none =>
          have digit := d.some_digit
          rw [hwhole, hfraction] at digit
          simp at digit

theorem notMem_text (d : Decimal) {c : Char} (hdigit : c.isDigit = false) (hpoint : c ≠ '.')
    (hminus : c ≠ '-') (hplus : c ≠ '+') : c ∉ d.text := by
  have other {digits : CText} (h : ∀ x ∈ digits, x.isDigit = true) : c ∉ digits := by
    intro member
    have digit := h c member
    rw [hdigit] at digit
    cases digit
  unfold text signText fractionText
  simp only [List.mem_append, not_or]
  refine ⟨?_, other d.whole_digits, ?_⟩
  · cases d.sign with
    | none => exact List.not_mem_nil
    | some minus => cases minus <;> simp [hminus, hplus]
  · cases hfraction : d.fraction with
    | none => exact List.not_mem_nil
    | some digits => simp [hpoint, other (d.fraction_digits digits hfraction)]

/-- The sign is taken off. -/
theorem takeSign_text (d : Decimal) :
    takeSign (d.text.dropWhile isSpace) =
      (decide (d.sign = some true), d.whole ++ d.fractionText) := by
  obtain ⟨c, rest, body, first⟩ := d.body_head
  have space : isSpace c = false := by
    rcases first with digit | rfl
    · exact isSpace_eq_false_of_isDigit digit
    · rfl
  have unsigned : c ≠ '-' ∧ c ≠ '+' := by
    constructor
    · rintro rfl
      revert first
      decide
    · rintro rfl
      revert first
      decide
  unfold text signText
  rw [body]
  cases d.sign with
  | some minus => cases minus <;> rfl
  | none =>
      rw [List.nil_append, List.dropWhile_cons_of_neg (by rw [space]; exact Bool.false_ne_true)]
      unfold takeSign
      split
      · rename_i heq
        exact absurd (List.cons_eq_cons.mp heq).1 unsigned.1
      · rename_i heq
        exact absurd (List.cons_eq_cons.mp heq).1 unsigned.2
      · rfl

theorem takeDigits_append {digits rest : CText} (h : ∀ c ∈ digits, c.isDigit = true)
    (stop : ∀ c ∈ rest.head?, c.isDigit = false) :
    takeDigits (digits ++ rest) = (digits, rest) := by
  have none : rest.takeWhile Char.isDigit = [] ∧ rest.dropWhile Char.isDigit = rest := by
    cases rest with
    | nil => exact ⟨rfl, rfl⟩
    | cons c rest =>
        have other := stop c rfl
        simp [other]
  rw [takeDigits, List.takeWhile_append_of_pos h, List.dropWhile_append_of_pos h, none.1, none.2,
    List.append_nil]

theorem takeDigits_text (d : Decimal) :
    takeDigits (d.whole ++ d.fractionText) = (d.whole, d.fractionText) := by
  refine takeDigits_append d.whole_digits ?_
  unfold fractionText
  intro c first
  cases hfraction : d.fraction with
  | none =>
      rw [hfraction] at first
      cases first
  | some digits =>
      rw [hfraction] at first
      cases first
      rfl

theorem takeFraction_text (d : Decimal) : takeFraction d.fractionText = (d.places, []) := by
  unfold fractionText places
  cases hfraction : d.fraction with
  | none => rfl
  | some digits =>
      have whole := @takeDigits_append digits [] (d.fraction_digits digits hfraction) nofun
      rw [List.append_nil] at whole
      exact whole

/-- The digits of both parts, read as one number. -/
theorem magnitude_eq (d : Decimal) :
    (Nat.ofDigitChars 10 (d.whole ++ d.places) 0 : Rat) / 10 ^ d.places.length = d.magnitude := by
  rw [Nat.ofDigitChars_append, Nat.ofDigitChars_eq_ofDigitChars_zero, magnitude]
  push_cast
  field_simp

/-- `atof` reads a numeral back. -/
theorem atof_text (d : Decimal) : atof d.text = d.value := by
  unfold atof
  simp only [takeSign_text, takeDigits_text, takeFraction_text, magnitude_eq]
  rw [show exponent [] = 0 from rfl, zpow_zero, mul_one]
  simp only [decide_eq_true_eq]
  rfl

/-! ### Printed numbers -/

/-- The number that `%.nf` prints, in units of the last digit and without its sign. -/
def scaled (n : Nat) (q : Rat) : Nat := roundHalfEven ((if q < 0 then -q else q) * 10 ^ n)

/-- The number that `%.nf` prints. -/
def rounded (n : Nat) (q : Rat) : Rat :=
  if q < 0 then -(scaled n q / 10 ^ n : Rat) else scaled n q / 10 ^ n

/-- The digits behind the point that `%.nf` prints. -/
def fixedPlaces (n : Nat) (q : Rat) : CText :=
  List.replicate (n - (Nat.toDigits 10 (scaled n q % 10 ^ n)).length) '0' ++
    Nat.toDigits 10 (scaled n q % 10 ^ n)

theorem isDigit_of_mem_fixedPlaces {n : Nat} {q : Rat} {c : Char} (h : c ∈ fixedPlaces n q) :
    c.isDigit = true := by
  rcases List.mem_append.mp h with padding | digit
  · rw [(List.mem_replicate.mp padding).2]
    rfl
  · exact isDigit_of_mem_toDigits digit

theorem isDigit_of_mem_places {n : Nat} {q : Rat} :
    ∀ digits ∈ some (fixedPlaces n q), ∀ c ∈ digits, c.isDigit = true := by
  intro digits same c member
  cases same
  exact isDigit_of_mem_fixedPlaces member

/-- The numeral that `%.nf` prints. -/
def ofFixed (n : Nat) (q : Rat) : Decimal where
  sign := if q < 0 then some true else none
  whole := Nat.toDigits 10 (scaled n q / 10 ^ n)
  fraction := some (fixedPlaces n q)
  whole_digits _ member := isDigit_of_mem_toDigits member
  fraction_digits := isDigit_of_mem_places
  some_digit := Or.inl (toDigits_ten_ne_nil _)

theorem text_ofFixed (n : Nat) (q : Rat) : (ofFixed n q).text = fixed n q := by
  by_cases negative : q < 0 <;>
    simp [text, signText, fractionText, ofFixed, fixed, scaled, fixedPlaces, negative]

theorem length_fixedPlaces {n : Nat} (positive : 0 < n) (q : Rat) :
    (fixedPlaces n q).length = n := by
  have short : (Nat.toDigits 10 (scaled n q % 10 ^ n)).length ≤ n :=
    (Nat.length_toDigits_le_iff (by decide) positive).mpr (Nat.mod_lt _ (Nat.pow_pos (by decide)))
  rw [fixedPlaces, List.length_append, List.length_replicate, Nat.sub_add_cancel short]

theorem roundHalfEven_le {q : Rat} (nonneg : 0 ≤ q) {bound : Nat} (below : q < bound) :
    roundHalfEven q ≤ bound := by
  have floor : q.floor.toNat < bound := by
    have low : 0 ≤ q.floor := Rat.le_floor_iff.mpr (by exact_mod_cast nonneg)
    have high : q.floor < bound := Rat.floor_lt_iff.mpr (by exact_mod_cast below)
    omega
  unfold roundHalfEven
  dsimp only
  split
  · omega
  · split
    · omega
    · split <;> omega

/-- How long a printed number gets. -/
theorem length_fixed_le {n k : Nat} (positive : 0 < n) {q : Rat} (nonneg : 0 ≤ q)
    (bound : q < 10 ^ k) : (fixed n q).length ≤ k + n + 2 := by
  have unsigned : ¬ q < 0 := not_lt.mpr nonneg
  have scaled_le : scaled n q ≤ 10 ^ k * 10 ^ n := by
    have power : (0 : Rat) < 10 ^ n := pow_pos (by norm_num) n
    rw [scaled, if_neg unsigned]
    refine roundHalfEven_le (mul_nonneg nonneg (le_of_lt power)) ?_
    push_cast
    exact mul_lt_mul_of_pos_right bound power
  have whole : (Nat.toDigits 10 (scaled n q / 10 ^ n)).length ≤ k + 1 := by
    refine (Nat.length_toDigits_le_iff (by decide) (Nat.succ_pos k)).mpr ?_
    refine Nat.lt_of_le_of_lt ?_ (Nat.pow_lt_pow_right (by decide) (Nat.lt_succ_self k))
    exact Nat.div_le_of_le_mul (by rw [Nat.mul_comm]; exact scaled_le)
  rw [← text_ofFixed]
  simp only [text, signText, fractionText, ofFixed, if_neg unsigned, List.length_append,
    List.length_cons, length_fixedPlaces positive, List.length_nil]
  omega

/-- What is printed is the number, rounded to its places. -/
theorem value_ofFixed {n : Nat} (positive : 0 < n) (q : Rat) :
    (ofFixed n q).value = rounded n q := by
  have places : Nat.ofDigitChars 10 (fixedPlaces n q) 0 = scaled n q % 10 ^ n := by
    rw [fixedPlaces, Nat.ofDigitChars_append, Nat.ofDigitChars_replicate_zero, Nat.mul_zero,
      Nat.ofDigitChars_ten_toDigits]
  have split : (scaled n q : Rat) = (scaled n q / 10 ^ n : Nat) * 10 ^ n +
      (scaled n q % 10 ^ n : Nat) := by
    exact_mod_cast (Nat.div_add_mod' (scaled n q) (10 ^ n)).symm
  have magnitude : (ofFixed n q).magnitude = scaled n q / 10 ^ n := by
    have power : (10 : Rat) ^ n ≠ 0 := pow_ne_zero n (by norm_num)
    rw [Decimal.magnitude, Decimal.places, ofFixed]
    dsimp only [Option.getD_some]
    rw [places, length_fixedPlaces positive, Nat.ofDigitChars_ten_toDigits, eq_div_iff power, split,
      add_mul, div_mul_cancel₀ _ power]
  rw [value, magnitude, rounded]
  by_cases negative : q < 0 <;> simp [ofFixed, negative]

end Decimal

end PhantomMonitor
