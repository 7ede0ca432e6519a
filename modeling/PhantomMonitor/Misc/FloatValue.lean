import Mathlib.Algebra.Order.Ring.Unbundled.Rat
import PhantomMonitor.Misc.Numeral

/-!
# Floating-point values

Numbers are exact, and a quotient by zero is an infinity or no number.
-/

namespace PhantomMonitor

/-- The value of a `float` or a `double`: a number, an infinity with its sign, or no number. -/
inductive FloatValue where
  | num (q : Rat)
  | inf (negative : Bool)
  | nan
  deriving DecidableEq

namespace FloatValue

/-- The quotient of two numbers. A divisor of zero is the positive zero. -/
def quotient (x y : Rat) : FloatValue :=
  if y ≠ 0 then .num (x / y)
  else if x = 0 then .nan
  else .inf (decide (x < 0))

/-- `v >= 0.0`, which is false for what is no number. -/
def isNonneg : FloatValue → Bool
  | num q => decide (0 ≤ q)
  | inf negative => !negative
  | nan => false

/-- The conversion `%.nf` of `printf` for `n > 0`. What is no number is written without a sign. -/
def fixed (n : Nat) : FloatValue → CText
  | num q => CText.fixed n q
  | inf negative => (if negative then ['-'] else []) ++ "inf".toList
  | nan => "nan".toList

/-- The quotient where only a number counts: an infinity is `none`, as what is no number. -/
def ratio (x y : Rat) : Option Rat := if y ≠ 0 then some (x / y) else none

theorem ratio_of_ne {y : Rat} (h : y ≠ 0) (x : Rat) : ratio x y = some (x / y) := if_pos h

theorem quotient_of_ne {y : Rat} (h : y ≠ 0) (x : Rat) : quotient x y = .num (x / y) := if_pos h

end FloatValue

end PhantomMonitor
