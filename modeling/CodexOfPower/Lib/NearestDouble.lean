/-
# `CodexOfPower.Lib.NearestDouble` — the double that is nearest to a number

An operation of a script gives the double nearest to the exact result, and of two that
are as near the one with the even mantissa.  For a number of the normal range that is a
whole number of units, the unit being 2^-52 of the power of two that is next below it
(`nearestDouble`).

Two things are used of it.  The error is at most half a unit, 2^-53 of the number
(`abs_nearestDouble_sub_le`); and whole numbers below 2^53 are doubles
(`nearestDouble_natCast`), so that sums and products of such numbers are exact.  A
quotient is not, but what is lost by a division comes back with a multiplication by the
same number and a rounding to a whole number (`floor_scaled_quotient`).

Subnormal numbers, infinities and the sign of zero are not here: the definition is that
of the format only for numbers between 2^-1022 and 2^1024, and for zero.
-/
import Mathlib.Data.Int.Log
import Mathlib.Tactic

namespace CodexOfPower

/-- The whole number nearest to `x`, the even one of two. -/
def roundHalfEven (x : ℚ) : Int :=
  if x - ⌊x⌋ < 1 / 2 then ⌊x⌋
  else if 1 / 2 < x - ⌊x⌋ then ⌊x⌋ + 1
  else if ⌊x⌋ % 2 = 0 then ⌊x⌋ else ⌊x⌋ + 1

/-- What a unit of the mantissa of `x` is worth. -/
def doubleUnit (x : ℚ) : ℚ := 2 ^ (Int.log 2 |x| - 52)

/-- The double nearest to `x`. -/
def nearestDouble (x : ℚ) : ℚ := roundHalfEven (x / doubleUnit x) * doubleUnit x

section Rounding

variable {x y : ℚ} {n k : Nat}

theorem roundHalfEven_intCast (n : Int) : roundHalfEven n = n := by
  unfold roundHalfEven
  simp

theorem abs_roundHalfEven_sub_le (x : ℚ) : |(roundHalfEven x : ℚ) - x| ≤ 1 / 2 := by
  have hlow := Int.floor_le x
  have hhigh := Int.lt_floor_add_one x
  unfold roundHalfEven
  rw [abs_le]
  split_ifs with hbelow habove heven
  · constructor <;> linarith
  · push_cast
    constructor <;> linarith
  · constructor <;> linarith
  · push_cast
    constructor <;> linarith

theorem doubleUnit_pos (x : ℚ) : 0 < doubleUnit x := zpow_pos (by norm_num) _

/-- Where `x` is not zero, its mantissa has 53 bits. -/
theorem doubleUnit_le (hx : x ≠ 0) : doubleUnit x ≤ |x| / 2 ^ 52 := by
  have hpow : (2 : ℚ) ^ Int.log 2 |x| ≤ |x| := Int.zpow_log_le_self (by norm_num) (abs_pos.mpr hx)
  unfold doubleUnit
  rw [zpow_sub₀ (by norm_num)]
  exact div_le_div_of_nonneg_right hpow (by norm_num)

@[simp] theorem nearestDouble_zero : nearestDouble 0 = 0 := by
  have hround : roundHalfEven 0 = 0 := roundHalfEven_intCast 0
  unfold nearestDouble
  rw [zero_div, hround, Int.cast_zero, zero_mul]

/-- Rounding to a double loses half a unit at most. -/
theorem abs_nearestDouble_sub_le (x : ℚ) : |nearestDouble x - x| ≤ |x| / 2 ^ 53 := by
  by_cases hx : x = 0
  · rw [hx, nearestDouble_zero]
    norm_num
  · have hunit := doubleUnit_pos x
    have hround := abs_roundHalfEven_sub_le (x / doubleUnit x)
    have hscale : nearestDouble x - x =
        (roundHalfEven (x / doubleUnit x) - x / doubleUnit x) * doubleUnit x := by
      unfold nearestDouble
      rw [sub_mul, div_mul_cancel₀ x hunit.ne']
    calc |nearestDouble x - x|
        = |(roundHalfEven (x / doubleUnit x) : ℚ) - x / doubleUnit x| * doubleUnit x := by
          rw [hscale, abs_mul, abs_of_pos hunit]
      _ ≤ 1 / 2 * doubleUnit x := mul_le_mul_of_nonneg_right hround hunit.le
      _ ≤ 1 / 2 * (|x| / 2 ^ 52) := mul_le_mul_of_nonneg_left (doubleUnit_le hx) (by norm_num)
      _ = |x| / 2 ^ 53 := by ring

/-- A whole number of at most 53 bits is a double. -/
theorem nearestDouble_natCast (h : n < 2 ^ 53) : nearestDouble n = n := by
  by_cases hn : n = 0
  · rw [hn, Nat.cast_zero, nearestDouble_zero]
  · have hlog : Nat.log 2 n ≤ 52 := Nat.lt_succ_iff.mp (Nat.log_lt_of_lt_pow hn h)
    have hunit : doubleUnit (n : ℚ) = ((2 : ℚ) ^ (52 - Nat.log 2 n))⁻¹ := by
      unfold doubleUnit
      rw [Nat.abs_cast, Int.log_natCast, ← zpow_natCast, ← zpow_neg]
      congr 1
      omega
    have hwhole : (n : ℚ) / doubleUnit n = ((n * 2 ^ (52 - Nat.log 2 n) : Nat) : Int) := by
      rw [hunit, div_inv_eq_mul]
      push_cast
      ring
    have hunit0 := (doubleUnit_pos (n : ℚ)).ne'
    unfold nearestDouble
    rw [hwhole, roundHalfEven_intCast, ← hwhole, div_mul_cancel₀ _ hunit0]

/-- Divided and multiplied by the same number, with both results rounded to doubles, a
number that is not too large comes back as the nearest whole number. -/
theorem floor_scaled_quotient (hk : 0 < k) (hn : n < 2 ^ 50) :
    ⌊nearestDouble (nearestDouble ((n : ℚ) / k) * k) + 1 / 2⌋ = n := by
  have hkpos : (0 : ℚ) < k := by exact_mod_cast hk
  have hnnonneg : (0 : ℚ) ≤ n := Nat.cast_nonneg n
  have hbound : (n : ℚ) < 2 ^ 50 := by exact_mod_cast hn
  set quotient := nearestDouble ((n : ℚ) / k) with hquotient
  have hfirst : |quotient * k - n| ≤ n / 2 ^ 53 := by
    have herror := abs_nearestDouble_sub_le ((n : ℚ) / k)
    rw [abs_of_nonneg (div_nonneg hnnonneg hkpos.le), ← hquotient] at herror
    have hscaled : quotient * k - n = (quotient - n / k) * k := by
      rw [sub_mul, div_mul_cancel₀ _ hkpos.ne']
    calc |quotient * k - n| = |quotient - n / k| * k := by
          rw [hscaled, abs_mul, abs_of_pos hkpos]
      _ ≤ (n / k / 2 ^ 53) * k := mul_le_mul_of_nonneg_right herror hkpos.le
      _ = n / 2 ^ 53 := by field_simp
  have hsecond := abs_nearestDouble_sub_le (quotient * k)
  rw [abs_le] at hfirst
  have hproduct : |quotient * k| ≤ 2 * n := by
    rw [abs_le]
    constructor <;> linarith
  have hclose : |nearestDouble (quotient * k) - quotient * k| ≤ 1 / 4 := by
    refine hsecond.trans ?_
    rw [div_le_iff₀ (by norm_num)]
    linarith
  rw [abs_le] at hclose
  rw [Int.floor_eq_iff]
  push_cast
  constructor <;> linarith

end Rounding

/-- 0.28 is no double, and 28 does not come back from the one next to it. -/
example : nearestDouble (nearestDouble (28 / 100) * 100) ≠ 28 := by
  decide +kernel

end CodexOfPower
