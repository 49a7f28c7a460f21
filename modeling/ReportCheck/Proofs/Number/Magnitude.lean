import ReportCheck.Number.Binary64
import Mathlib.Algebra.Order.Field.Power
import Mathlib.Algebra.Order.Ring.Rat
import Mathlib.Data.Nat.Cast.Order.Field
import Mathlib.Tactic.Linarith
import Mathlib.Tactic.NormNum
import Mathlib.Tactic.Positivity
import Mathlib.Tactic.Ring

/-! # Magnitudes

  The size of a number as an exact rational number, whatever its sign and its form.

  - `shift_div_shift`: the two natural powers by which the library scales a quotient are
    one power with an integer exponent.
  - `pow_le_scaled` and `scaled_lt_pow` place a value between the powers of ten that its
    leading digit stands for.
  - `roundDiv_le_add_half` and `sub_half_le_roundDiv`: rounding moves a quotient by at
    most a half.
  - `Decimal.magnitude` and `Binary64.Finite.magnitude` are the sizes themselves.
-/

namespace ReportCheck

/-! ### Scaling -/

theorem zpow_mul_pow_neg (base : ℕ) (positive : 0 < base) (e : Int) :
    (base : ℚ) ^ e * base ^ (-e).toNat = base ^ e.toNat := by
  have nonzero : (base : ℚ) ≠ 0 := by positivity
  rw [← zpow_natCast, ← zpow_natCast, ← zpow_add₀ nonzero]
  congr 1
  omega

/-- Scaling up by one and down by the other natural power is scaling by an integer
    power. -/
theorem shift_div_shift (base : ℕ) (positive : 0 < base) (x y : ℚ) (e : Int) :
    x * base ^ e.toNat / (y * base ^ (-e).toNat) = x / y * (base : ℚ) ^ e := by
  have down : (0 : ℚ) < base ^ (-e).toNat := by positivity
  rw [← zpow_mul_pow_neg base positive e, ← mul_assoc, mul_div_mul_right _ _ (ne_of_gt down),
    mul_div_right_comm]

theorem scaled_eq_div (base : ℕ) (positive : 0 < base) (c : ℕ) (e : Int) :
    (c : ℚ) * (base : ℚ) ^ e = ((c * base ^ e.toNat : ℕ) : ℚ) / ((base ^ (-e).toNat : ℕ) : ℚ) := by
  have shift := shift_div_shift base positive c 1 e
  rw [one_mul, div_one] at shift
  push_cast
  exact shift.symm

theorem quotient_in_units (base : ℕ) (positive : 0 < base) (num den : Nat) (e : Int) :
    ((num * base ^ (-e).toNat : ℕ) : ℚ) / ((den * base ^ e.toNat : ℕ) : ℚ) =
      num / den / (base : ℚ) ^ e := by
  have h := shift_div_shift base positive num den (-e)
  rw [neg_neg] at h
  push_cast
  rw [h, zpow_neg, ← div_eq_mul_inv]

/-! ### Digits -/

theorem digitCount_pos (n : Nat) : 0 < digitCount n := Nat.length_toDigits_pos

theorem lt_pow_digitCount (n : Nat) : n < 10 ^ digitCount n :=
  (Nat.length_toDigits_le_iff (by decide) (digitCount_pos n)).1 le_rfl

theorem pow_le_of_pos {n : Nat} (positive : 0 < n) : 10 ^ (digitCount n - 1) ≤ n := by
  by_cases single : digitCount n = 1
  · rw [single]
    exact positive
  · -- A smaller number would do with fewer digits.
    have several := digitCount_pos n
    by_contra below
    have fewer := (Nat.length_toDigits_le_iff (k := digitCount n - 1) (by decide) (by omega)).2
      (not_le.1 below)
    change digitCount n ≤ digitCount n - 1 at fewer
    omega

/-- The power of ten of the leading digit bounds a value from below. -/
theorem pow_le_scaled {c : Nat} (positive : 0 < c) (e : Int) :
    (10 : ℚ) ^ (e + digitCount c - 1) ≤ c * 10 ^ e := by
  have hc : ((10 ^ (digitCount c - 1) : ℕ) : ℚ) ≤ c := Nat.cast_le.2 (pow_le_of_pos positive)
  have several := digitCount_pos c
  -- The exponent splits into the digits of the coefficient and the scale.
  have split : e + digitCount c - 1 = ((digitCount c - 1 : ℕ) : Int) + e := by omega
  rw [split, zpow_add₀ (by norm_num), zpow_natCast]
  push_cast at hc
  exact mul_le_mul_of_nonneg_right hc (by positivity)

/-- The next power of ten bounds a value from above. -/
theorem scaled_lt_pow (c : Nat) (e : Int) : (c : ℚ) * 10 ^ e < 10 ^ (e + digitCount c) := by
  have hc : (c : ℚ) < ((10 ^ digitCount c : ℕ) : ℚ) := Nat.cast_lt.2 (lt_pow_digitCount c)
  rw [add_comm, zpow_add₀ (by norm_num), zpow_natCast]
  push_cast at hc
  exact mul_lt_mul_of_pos_right hc (by positivity)

theorem ten_zpow_eq_mul {low e : Int} (h : low ≤ e) :
    (10 : ℚ) ^ e = ((10 ^ (e - low).toNat : ℕ) : ℚ) * 10 ^ low := by
  rw [Nat.cast_pow, Nat.cast_ofNat, ← zpow_natCast, ← zpow_add₀ (by norm_num)]
  congr 1
  omega

theorem ten_zpow_lt_iff {a b : Int} : (10 : ℚ) ^ a < 10 ^ b ↔ a < b :=
  zpow_lt_zpow_iff_right₀ (by norm_num)

theorem ten_zpow_le {a b : Int} (h : a ≤ b) : (10 : ℚ) ^ a ≤ 10 ^ b :=
  zpow_le_zpow_right₀ (by norm_num) h

/-! ### Rounding -/

/-- Rounding moves a quotient up by at most a half. -/
theorem roundDiv_le_add_half (num : Nat) {den : Nat} (tie : Tie) (positive : 0 < den) :
    (roundDiv num den tie : ℚ) ≤ num / den + 1 / 2 := by
  have h : ((2 * (den * roundDiv num den tie) : ℕ) : ℚ) ≤ ((2 * num + den : ℕ) : ℚ) :=
    Nat.cast_le.2 (roundDiv_le num den tie)
  have hden : (0 : ℚ) < den := Nat.cast_pos.2 positive
  push_cast at h
  rw [div_add_div _ _ (ne_of_gt hden) (by norm_num), le_div_iff₀ (by positivity)]
  linarith

/-- Rounding moves a quotient down by at most a half. -/
theorem sub_half_le_roundDiv (num : Nat) {den : Nat} (tie : Tie) (positive : 0 < den) :
    (num / den : ℚ) - 1 / 2 ≤ roundDiv num den tie := by
  have h : ((2 * num : ℕ) : ℚ) ≤ ((2 * (den * roundDiv num den tie) + den : ℕ) : ℚ) :=
    Nat.cast_le.2 (le_roundDiv num den tie positive)
  have hden : (0 : ℚ) < den := Nat.cast_pos.2 positive
  push_cast at h
  rw [div_sub_div _ _ (ne_of_gt hden) (by norm_num), div_le_iff₀ (by positivity)]
  linarith

/-- Besides a whole number that is at most half a unit away from a value, every other one is at
    least that far away. -/
theorem half_le_abs_sub_of_ne {u : ℚ} {n m : ℤ} (near : |u - n| ≤ 1 / 2) (ne : m ≠ n) :
    1 / 2 ≤ |u - m| := by
  have apart : (1 : ℚ) ≤ |(n : ℚ) - m| := by
    exact_mod_cast Int.one_le_abs (sub_ne_zero.2 ne.symm)
  have split := abs_sub_le (n : ℚ) u m
  rw [abs_sub_comm (n : ℚ) u] at split
  linarith

/-- Rounding half to even does not reach past an odd number unless the quotient is past
    the middle above it. -/
theorem lt_of_roundDiv_even_le {num den m : Nat} (odd : m % 2 = 1)
    (h : roundDiv num den .even ≤ m) (positive : 0 < den) : 2 * num < (2 * m + 1) * den := by
  have split := Nat.div_add_mod num den
  have small := Nat.mod_lt num positive
  simp only [roundDiv] at h
  generalize num / den = q at *
  generalize num % den = r at *
  -- Up to `m` the quotient is at most the product, and a half more is not reached.
  have below : ∀ k, q + k ≤ m → den * q + den * k ≤ m * den := by
    intro k hk
    have := Nat.mul_le_mul_left den hk
    rw [Nat.mul_add] at this
    linarith
  have goal : (2 * m + 1) * den = 2 * (m * den) + den := by ring
  rw [goal]
  split at h
  · have := below 0 (by omega)
    omega
  · split at h
    · have := below 1 (by omega)
      omega
    · -- A tie goes up from an odd number, and therefore starts below `m`.
      have := below 1 (by omega)
      omega

/-! ### Magnitudes -/

/-- **Magnitude** of a decimal number; zero where the number is not finite. -/
def Decimal.magnitude : Decimal → ℚ
  | finite _ coefficient exponent => coefficient * 10 ^ exponent
  | infinite _ => 0
  | nan .. => 0

/-- **Magnitude** of a double-precision number. -/
def Binary64.Finite.magnitude (x : Binary64.Finite) : ℚ := x.mantissa * 2 ^ x.exponent

@[simp] theorem Decimal.magnitude_finite (negative : Bool) (c : Nat) (e : Int) :
    (finite negative c e).magnitude = c * 10 ^ e := rfl

theorem Binary64.Finite.magnitude_lt (x : Binary64.Finite) : x.magnitude < 2 ^ 1024 := by
  have hmantissa : (x.mantissa : ℚ) < ((2 ^ 53 : ℕ) : ℚ) := Nat.cast_lt.2 x.mantissa_lt
  have hexponent : (2 : ℚ) ^ x.exponent ≤ 2 ^ (971 : Int) :=
    zpow_le_zpow_right₀ (by norm_num) x.exponent_le
  have positive : (0 : ℚ) < 2 ^ x.exponent := by positivity
  calc x.magnitude
      < ((2 ^ 53 : ℕ) : ℚ) * 2 ^ x.exponent := mul_lt_mul_of_pos_right hmantissa positive
    _ ≤ ((2 ^ 53 : ℕ) : ℚ) * 2 ^ (971 : Int) := mul_le_mul_of_nonneg_left hexponent (by positivity)
    _ = 2 ^ 1024 := by rw [Nat.cast_pow, Nat.cast_ofNat, zpow_ofNat, ← pow_add]

end ReportCheck
