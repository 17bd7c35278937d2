import Mathlib.Algebra.Order.Field.Rat
import Mathlib.Data.Int.Log
import Mathlib.Data.Rat.Floor
import Mathlib.Tactic.Linarith
import Mathlib.Tactic.Ring

/-!
# Decimal Arithmetic

A decimal number is a rational. An operation of a decimal context computes the exact result
and rounds it, half to even, to a number of significant digits; quantizing rounds it to a
multiple of a power of ten.

## Main results

- `roundTo_of_multiple`: what is a multiple of the power already is kept
- `roundDigits_of_lt`: a result that fits the context's digits is exact
-/

namespace AyushOms.Lib.Decimal

/-! ## Section 1: Rounding -/

/-- The nearest integer; of two, the even one. -/
def roundHalfEven (x : ℚ) : ℤ :=
  if Int.fract x < 1 / 2 then ⌊x⌋
  else if 1 / 2 < Int.fract x then ⌊x⌋ + 1
  else ⌊x⌋ + ⌊x⌋ % 2

/-- The nearest multiple of `10 ^ exponent`. -/
def roundTo (exponent : ℤ) (x : ℚ) : ℚ := roundHalfEven (x / 10 ^ exponent) * 10 ^ exponent

/-- The nearest decimal number of so many significant digits. -/
def roundDigits (digits : ℕ) (x : ℚ) : ℚ := roundTo (Int.log 10 |x| + 1 - digits) x

/-! ## Section 2: Exact results -/

private theorem ten_zpow_pos (exponent : ℤ) : (0 : ℚ) < 10 ^ exponent :=
  zpow_pos (by norm_num) exponent

@[simp] theorem roundHalfEven_intCast (k : ℤ) : roundHalfEven k = k := by
  simp [roundHalfEven]

/-- A multiple of the power of ten is not rounded. -/
theorem roundTo_of_multiple {exponent k : ℤ} {x : ℚ} (h : x = k * 10 ^ exponent) :
    roundTo exponent x = x := by
  unfold roundTo
  rw [h, mul_div_cancel_right₀ _ (ten_zpow_pos exponent).ne', roundHalfEven_intCast]

/-- A multiple of a higher power of ten is not rounded either. -/
theorem roundTo_of_le {exponent exponent' k : ℤ} {x : ℚ} (hle : exponent ≤ exponent')
    (h : x = k * 10 ^ exponent') : roundTo exponent x = x := by
  obtain ⟨n, hn⟩ := Int.eq_ofNat_of_zero_le (sub_nonneg.mpr hle)
  have hpower : (10 : ℚ) ^ exponent' = (10 ^ n : ℤ) * 10 ^ exponent := by
    have hsum : exponent' = n + exponent := by omega
    rw [hsum, zpow_add₀ (by norm_num)]
    simp
  refine roundTo_of_multiple (k := k * 10 ^ n) ?_
  rw [h, hpower]
  push_cast
  ring

/-- A number that fits the digits of the context is not rounded. -/
theorem roundDigits_of_lt {digits : ℕ} {exponent k : ℤ} {x : ℚ} (h : x = k * 10 ^ exponent)
    (hk : |k| < 10 ^ digits) : roundDigits digits x = x := by
  rcases eq_or_ne k 0 with rfl | hk0
  · exact roundTo_of_multiple (k := 0) (by simp [h])
  · have hx : 0 < |x| := by
      rw [h, abs_pos]
      exact mul_ne_zero (Int.cast_ne_zero.mpr hk0) (ten_zpow_pos exponent).ne'
    -- the leading digit of `x` is at most `digits` places above its last one
    have habs : |x| < (10 : ℕ) ^ (digits + exponent) := by
      have hk' : |(k : ℚ)| < 10 ^ digits := by exact_mod_cast hk
      rw [h, abs_mul, abs_of_pos (ten_zpow_pos exponent)]
      push_cast
      rw [zpow_add₀ (by norm_num), zpow_natCast]
      exact mul_lt_mul_of_pos_right hk' (ten_zpow_pos exponent)
    have hlog : Int.log 10 |x| < digits + exponent :=
      (Int.lt_zpow_iff_log_lt (by norm_num) hx).mp habs
    exact roundTo_of_le (by omega) h

end AyushOms.Lib.Decimal
