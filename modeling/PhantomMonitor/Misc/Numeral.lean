import Mathlib.Algebra.Group.Int.Defs
import Mathlib.Algebra.Group.Nat.Defs
import Mathlib.Data.Rat.Defs
import PhantomMonitor.Misc.CText

/-!
# Numerals

Decimal numbers in C text: the digits that `sprintf` writes and the number that `strtol` reads.
-/

namespace PhantomMonitor

namespace CText

/-- `isspace` in the C locale. -/
def isSpace (c : Char) : Bool := c == ' ' || (9 ≤ c.toNat && c.toNat ≤ 13)

/-- The number that a text starts with; 0 when it does not start with a digit. -/
def digitsValue (text : CText) : Nat := Nat.ofDigitChars 10 (text.takeWhile Char.isDigit) 0

/-- `LONG_MAX`. -/
def longMax : Int := 2 ^ 63 - 1

/-- `LONG_MIN`. -/
def longMin : Int := -2 ^ 63

/-- `strtol (text, &ptr, 10)`: white space, a sign, digits. A number that is no `long` gives the
nearest one. -/
def strtol (text : CText) : Int :=
  match text.dropWhile isSpace with
  | '-' :: digits => max longMin (-(digitsValue digits : Int))
  | '+' :: digits => min longMax (digitsValue digits)
  | digits => min longMax (digitsValue digits)

/-- `atoi`: the `long` that `strtol` reads, cut down to an `int`. -/
def atoi (text : CText) : Int := (BitVec.ofInt 32 (strtol text)).toInt

/-- `isdigit (text[0])`. -/
def startsWithDigit (text : CText) : Bool := text.head?.any Char.isDigit

/-- The nearest integer to a rational that is not negative; the even one of two. -/
def roundHalfEven (q : Rat) : Nat :=
  let below := q.floor.toNat
  if q - below < 1 / 2 then below
  else if 1 / 2 < q - below then below + 1
  else if below % 2 = 0 then below else below + 1

/-- The conversion `%.nf` of `printf` for an exact value and `n > 0`. -/
def fixed (n : Nat) (q : Rat) : CText :=
  let scaled := roundHalfEven ((if q < 0 then -q else q) * 10 ^ n)
  let fraction := Nat.toDigits 10 (scaled % 10 ^ n)
  (if q < 0 then ['-'] else []) ++ Nat.toDigits 10 (scaled / 10 ^ n) ++ '.' ::
    (List.replicate (n - fraction.length) '0' ++ fraction)

theorem toDigits_ten_ne_nil (n : Nat) : Nat.toDigits 10 n ≠ [] := Nat.toDigits_ne_nil

theorem isDigit_of_mem_toDigits {n : Nat} {c : Char} (h : c ∈ Nat.toDigits 10 n) :
    c.isDigit = true :=
  Nat.isDigit_of_mem_toDigits (b := 10) (by decide) (by decide) h

/-- A number of 64 bits has at most twenty digits. -/
theorem length_toDigits_toNat_le (value : BitVec 64) : (Nat.toDigits 10 value.toNat).length ≤ 20 :=
  (Nat.length_toDigits_le_iff (by decide) (by decide)).mpr (value.isLt.trans (by decide))

theorem notMem_toDigits (n : Nat) {c : Char} (hc : c.isDigit = false) : c ∉ Nat.toDigits 10 n := by
  intro member
  have digit := isDigit_of_mem_toDigits member
  rw [hc] at digit
  cases digit

/-- The characters of a number with a point. -/
theorem notMem_fixed (n : Nat) (q : Rat) {c : Char} (hc : c.isDigit = false) (hminus : c ≠ '-')
    (hpoint : c ≠ '.') : c ∉ fixed n q := by
  have hzero : c ≠ '0' := by
    rintro rfl
    cases hc
  unfold fixed
  simp only [List.mem_append, List.mem_cons, List.mem_replicate, not_or]
  refine ⟨⟨?_, notMem_toDigits _ hc⟩, hpoint, fun padding => hzero padding.2, notMem_toDigits _ hc⟩
  split <;> simp [hminus]

theorem toDigits_inj {m n : Nat} (h : Nat.toDigits 10 m = Nat.toDigits 10 n) : m = n := by
  calc
    m = Nat.ofDigitChars 10 (Nat.toDigits 10 m) 0 := Nat.ofDigitChars_ten_toDigits.symm
    _ = Nat.ofDigitChars 10 (Nat.toDigits 10 n) 0 := by rw [h]
    _ = n := Nat.ofDigitChars_ten_toDigits

/-- No zero stands before another digit. -/
theorem toDigits_lead (n : Nat) :
    Nat.toDigits 10 n = ['0'] ∨ (Nat.toDigits 10 n).head? ≠ some '0' := by
  induction n using Nat.strong_induction_on with
  | _ n ih =>
      by_cases small : n < 10
      · clear ih
        rw [Nat.toDigits_of_lt_base small]
        decide +revert
      · have split : Nat.toDigits 10 n = Nat.toDigits 10 (n / 10) ++ Nat.toDigits 10 (n % 10) := by
          rw [Nat.toDigits_append_toDigits (by decide) (by omega) (by omega), Nat.div_add_mod]
        rw [split, List.head?_append_of_ne_nil _ (toDigits_ten_ne_nil _)]
        refine Or.inr ?_
        rcases ih (n / 10) (by omega) with zero | lead
        · have none := congrArg (Nat.ofDigitChars 10 · 0) zero
          simp only [Nat.ofDigitChars_ten_toDigits] at none
          rw [show Nat.ofDigitChars 10 ['0'] 0 = 0 from rfl] at none
          omega
        · exact lead

theorem digitsValue_toDigits (n : Nat) : digitsValue (Nat.toDigits 10 n) = n := by
  have whole : (Nat.toDigits 10 n).takeWhile Char.isDigit = Nat.toDigits 10 n := by
    apply List.takeWhile_eq_self_iff.mpr
    intro c member
    exact isDigit_of_mem_toDigits member
  rw [digitsValue, whole, Nat.ofDigitChars_ten_toDigits]

theorem isSpace_eq_false_of_isDigit {c : Char} (h : c.isDigit = true) : isSpace c = false := by
  have range : 48 ≤ c.toNat ∧ c.toNat ≤ 57 := by
    simp only [Char.isDigit, Bool.and_eq_true, decide_eq_true_eq] at h
    exact h
  have other : c ≠ ' ' := by
    rintro rfl
    exact absurd h (by decide)
  have above : ¬ c.toNat ≤ 13 := by omega
  rw [isSpace, beq_eq_false_iff_ne.mpr other, decide_eq_false above, Bool.and_false, Bool.or_false]

/-- The digits of a number that is a `long` are read back. -/
theorem strtol_toDigits {n : Nat} (h : (n : Int) ≤ longMax) : strtol (Nat.toDigits 10 n) = n := by
  cases hdigits : Nat.toDigits 10 n with
  | nil => exact absurd hdigits Nat.toDigits_ne_nil
  | cons c digits =>
      have first : c.isDigit = true := by
        apply isDigit_of_mem_toDigits (n := n)
        rw [hdigits]
        exact List.mem_cons_self
      have value : digitsValue (c :: digits) = n := by
        rw [← hdigits, digitsValue_toDigits]
      have kept : (c :: digits).dropWhile isSpace = c :: digits := by
        rw [List.dropWhile_cons_of_neg]
        rw [isSpace_eq_false_of_isDigit first]
        exact Bool.false_ne_true
      unfold strtol
      rw [kept]
      split
      · rename_i heq
        cases heq
        exact absurd first (by decide)
      · rename_i heq
        cases heq
        exact absurd first (by decide)
      · rw [value, Int.min_eq_right h]

end CText

end PhantomMonitor
