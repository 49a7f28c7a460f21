import Mathlib.Data.Rat.Floor
import ReportCheck.Predicate.Eval
import ReportCheck.Proofs.Number.Nearest
import ReportCheck.Proofs.Number.Value

/-! # Values of double-precision numbers

  The value of a finite double-precision number as a rational number, and the few things
  that checks ask of it.

  - `Binary64.Finite.toRat` is the value. The exact decimal form has the same value:
    `value?_toDecimal`. It is zero for a zero mantissa only: `Finite.toRat_eq_zero_iff`.
  - `isPositive_iff`: a number is positive if its value is.
  - `truncate_eq_floor`: dropping the fraction of a number that is not negative leaves the
    whole part of its value.
  - `ofInt?_exact`: whole numbers of up to 53 bits are converted without rounding.
    `ofInt?_of_toRat`: so are all others with a double-precision form.
-/

namespace ReportCheck

namespace Binary64

/-- **Value** of a finite number. -/
def Finite.toRat (x : Finite) : ℚ := Decimal.signed x.negative x.magnitude

theorem five_pow_mul_ten_zpow {e : Int} (h : e < 0) : (5 : ℚ) ^ (-e).toNat * 10 ^ e = 2 ^ e := by
  have cancel : (5 : ℚ) ^ (-e).toNat * 5 ^ e = 1 := by
    rw [← zpow_natCast, ← zpow_add₀ (by norm_num)]
    have : ((-e).toNat : Int) + e = 0 := by omega
    rw [this, zpow_zero]
  rw [show (10 : ℚ) = 5 * 2 by norm_num, mul_zpow, ← mul_assoc, cancel, one_mul]

/-- **Exact value.** The decimal form of a finite number has its value. -/
theorem value?_toDecimal (x : Finite) :
    (finite x).toDecimal.value? = some ((x.toRat : WithTop ℚ) : ExtendedRat) := by
  have value : ∃ (c : Nat) (e : Int), (finite x).toDecimal = .finite x.negative c e ∧
      (c : ℚ) * 10 ^ e = x.magnitude := by
    simp only [toDecimal]
    unfold Finite.magnitude
    by_cases whole : 0 ≤ x.exponent
    · rw [if_pos whole]
      refine ⟨_, _, rfl, ?_⟩
      rw [zpow_zero, mul_one, Nat.cast_mul, Nat.cast_pow, ← zpow_natCast, Int.toNat_of_nonneg whole]
      norm_num
    · rw [if_neg whole]
      refine ⟨_, _, rfl, ?_⟩
      rw [Nat.cast_mul, Nat.cast_pow, mul_assoc, Nat.cast_ofNat,
        five_pow_mul_ten_zpow (by omega)]
  obtain ⟨c, e, form, hvalue⟩ := value
  rw [form]
  unfold Decimal.value? Finite.toRat
  rw [← hvalue]

theorem Finite.magnitude_nonneg (x : Finite) : 0 ≤ x.magnitude := by
  unfold magnitude
  positivity

theorem Finite.abs_toRat (x : Finite) : |x.toRat| = x.magnitude :=
  Decimal.abs_signed _ x.magnitude_nonneg

/-- Both zeros have the value zero. -/
theorem Finite.toRat_eq_zero_iff {x : Finite} : x.toRat = 0 ↔ x.mantissa = 0 := by
  have unit : (2 : ℚ) ^ x.exponent ≠ 0 := by positivity
  rw [← abs_eq_zero, abs_toRat, magnitude, mul_eq_zero, Nat.cast_eq_zero]
  exact or_iff_left unit

theorem Finite.toRat_pos_iff {x : Finite} :
    0 < x.toRat ↔ x.negative = false ∧ x.mantissa ≠ 0 := by
  have nonneg := x.magnitude_nonneg
  have unit : (0 : ℚ) < 2 ^ x.exponent := by positivity
  unfold toRat
  cases x.negative with
  | true =>
    rw [Decimal.signed_true]
    simp only [Bool.true_eq_false, false_and, iff_false, not_lt]
    linarith
  | false =>
    rw [Decimal.signed_false]
    unfold magnitude
    rw [mul_pos_iff_of_pos_right unit, Nat.cast_pos]
    simp only [true_and]
    omega

/-- **Positive numbers.** -/
theorem isPositive_iff {x : Binary64} :
    x.isPositive = true ↔ ∃ v, x.toDecimal.value? = some v ∧ 0 < v := by
  cases x with
  | nan => simp [isPositive, toDecimal, Decimal.value?]
  | infinite negative =>
    cases negative with
    | true => simp [isPositive, toDecimal, Decimal.value?]
    | false =>
      have top : (0 : ExtendedRat) < ⊤ := WithBot.coe_lt_coe.2 (WithTop.coe_lt_top 0)
      exact ⟨fun _ => ⟨⊤, rfl, top⟩, fun _ => rfl⟩
  | finite x =>
    have value : ((0 : ExtendedRat) < ((x.toRat : WithTop ℚ) : ExtendedRat)) ↔ 0 < x.toRat :=
      WithBot.coe_lt_coe.trans WithTop.coe_lt_coe
    simp only [value?_toDecimal, Option.some.injEq, exists_eq_left', value, Finite.toRat_pos_iff]
    simp [isPositive]

/-! ### Whole parts -/

theorem Finite.magnitude_eq_div (x : Finite) : x.magnitude =
    ((x.mantissa * 2 ^ x.exponent.toNat : ℕ) : ℚ) / ((2 ^ (-x.exponent).toNat : ℕ) : ℚ) :=
  scaled_eq_div 2 (by decide) x.mantissa x.exponent

/-- **Whole part.** Dropping the fraction of a number that is not negative rounds it down. -/
theorem Finite.truncate_eq_floor {x : Finite} (h : x.negative = false) :
    x.truncate = ⌊x.toRat⌋ := by
  unfold toRat truncate
  rw [h, Decimal.signed_false, magnitude_eq_div, Rat.floor_natCast_div_natCast]
  push_cast
  rfl

theorem Finite.truncate_of_between {x : Finite} {n : Nat} (positive : 0 < n)
    (low : (n : ℚ) ≤ x.toRat) (high : x.toRat < n + 1) : x.truncate = n := by
  have hn : (0 : ℚ) < n := Nat.cast_pos.2 positive
  have sign : x.negative = false := (toRat_pos_iff.1 (lt_of_lt_of_le hn low)).1
  rw [truncate_eq_floor sign, Int.floor_eq_iff]
  push_cast
  exact ⟨low, high⟩

/-! ### Exact conversions -/

/-- At its exponent the size of a number fits 53 bits, and fills them unless the exponent is the
    least one. -/
theorem Finite.magnitude_between (x : Finite) : x.magnitude < 2 ^ (x.exponent + 53) ∧
    (x.exponent = -1074 ∨ 2 ^ (x.exponent + 52) ≤ x.magnitude) := by
  have short : (x.mantissa : ℚ) < 2 ^ (53 : Int) := by exact_mod_cast x.mantissa_lt
  unfold magnitude
  rw [add_comm x.exponent, add_comm x.exponent, zpow_add₀ (by norm_num), zpow_add₀ (by norm_num)]
  refine ⟨by gcongr, x.normal.symm.imp_right fun full => ?_⟩
  have long : (2 : ℚ) ^ (52 : Int) ≤ x.mantissa := by exact_mod_cast full
  gcongr

theorem exponent_le_of_fills {v : ℚ} {e e' : Int} (fills : e = -1074 ∨ 2 ^ (e + 52) ≤ v)
    (least : -1074 ≤ e') (fits : v < 2 ^ (e' + 53)) : e ≤ e' := by
  rcases fills with rfl | fills
  · exact least
  · have := (zpow_lt_zpow_iff_right₀ (by norm_num)).1 (fills.trans_lt fits)
    omega

/-- **Exact quotients.** A quotient that has a mantissa at the exponent that is picked is not
    rounded. -/
theorem nearest_eq_pack (negative : Bool) {num den m : Nat} (hnum : 0 < num) (hden : 0 < den)
    (value : (num / den : ℚ) = m * 2 ^ exponentOf num den) (short : m < 2 ^ 53) :
    nearest negative num den = pack negative m (exponentOf num den) := by
  obtain ⟨under, above⟩ := mantissa_between num hden (exponentOf num den)
  rw [value, mul_div_cancel_right₀ _ (by positivity)] at under above
  unfold nearest
  rw [if_neg (by simpa using hnum.ne')]
  simp only
  generalize exponentOf num den = e at *
  generalize roundDiv (num * 2 ^ (-e).toNat) (den * 2 ^ e.toNat) .even = rounded at *
  have low : (m : ℚ) < rounded + 1 := by linarith
  have high : (rounded : ℚ) < m + 1 := by linarith
  have same : rounded = m := by
    norm_cast at low high
    omega
  rw [same, if_neg (by simpa using short.ne)]

theorem nearest_whole {n : Nat} (h : n < 2 ^ 53) :
    ∃ x, nearest false n 1 = .finite x ∧ x.toRat = n := by
  by_cases zero : n = 0
  · subst zero
    refine ⟨_, rfl, ?_⟩
    simp [Finite.toRat, Finite.magnitude]
  have positive := Nat.pos_of_ne_zero zero
  have exactly := fun m => @nearest_eq_pack false n 1 m positive Nat.one_pos
  obtain ⟨least, fits, fills⟩ := exponentOf_spec positive Nat.one_pos
  rw [Nat.cast_one, div_one] at exactly fits fills
  generalize exponentOf n 1 = e at *
  have down : e ≤ 0 := by
    have small : (n : ℚ) < 2 ^ ((0 : Int) + 53) := by exact_mod_cast h
    exact exponent_le_of_fills fills (by decide) small
  -- The mantissa is the number, shifted to the left.
  have value : (n : ℚ) = ((n * 2 ^ (-e).toNat : ℕ) : ℚ) * 2 ^ e := by
    have cancel : (2 : ℚ) ^ (-e).toNat * 2 ^ e = 1 := by
      rw [← zpow_natCast, Int.toNat_of_nonneg (by omega), ← zpow_add₀ (by norm_num),
        neg_add_cancel, zpow_zero]
    push_cast
    rw [mul_assoc, cancel, mul_one]
  have unit : (0 : ℚ) < 2 ^ e := by positivity
  have short : n * 2 ^ (-e).toNat < 2 ^ 53 := by
    rw [zpow_add₀ (by norm_num), mul_comm, value] at fits
    exact_mod_cast lt_of_mul_lt_mul_right fits unit.le
  have full : 2 ^ 52 ≤ n * 2 ^ (-e).toNat ∨ e = -1074 := by
    refine fills.symm.imp_left ?_
    intro fills
    rw [zpow_add₀ (by norm_num), mul_comm, value] at fills
    exact_mod_cast le_of_mul_le_mul_right fills unit
  rw [exactly _ value short]
  unfold pack
  rw [dif_pos ⟨short, least, by omega, full⟩]
  exact ⟨_, rfl, value.symm⟩

/-- **The nearest number** to the size of a number is the number, with its sign. -/
theorem Finite.nearest_eq (x : Finite) {num den : Nat} (hnum : 0 < num) (hden : 0 < den)
    (value : (num / den : ℚ) = x.magnitude) : nearest x.negative num den = .finite x := by
  obtain ⟨least, fits, fills⟩ := exponentOf_spec hnum hden
  obtain ⟨fits', fills'⟩ := x.magnitude_between
  rw [value] at fits fills
  have exponent : exponentOf num den = x.exponent := le_antisymm
    (exponent_le_of_fills fills x.exponent_ge fits') (exponent_le_of_fills fills' least fits)
  have units : (num / den : ℚ) = x.mantissa * 2 ^ exponentOf num den := by
    rw [value, exponent]
    rfl
  rw [nearest_eq_pack x.negative hnum hden units x.mantissa_lt, exponent]
  unfold pack
  rw [dif_pos ⟨x.mantissa_lt, x.exponent_ge, x.exponent_le, x.normal⟩]

/-- Whole numbers with a double-precision form are converted to it. -/
theorem ofInt?_of_toRat {x : Finite} {n : Int} (value : x.toRat = n) (nonzero : n ≠ 0) :
    ofInt? n = some (.finite x) := by
  have size : (n.natAbs : ℚ) = x.magnitude := by
    rw [Nat.cast_natAbs, Int.cast_abs, ← value, x.abs_toRat]
  have sign : decide (n < 0) = x.negative := by
    have nonneg := x.magnitude_nonneg
    unfold Finite.toRat at value
    cases negative : x.negative with
    | true =>
      rw [negative, Decimal.signed_true] at value
      have below : (n : ℚ) ≤ 0 := by linarith
      have := Int.cast_nonpos.1 below
      exact decide_eq_true (by omega)
    | false =>
      rw [negative, Decimal.signed_false] at value
      have above : (0 : ℚ) ≤ n := by linarith
      have := Int.cast_nonneg_iff.1 above
      exact decide_eq_false (by omega)
  unfold ofInt?
  rw [sign, x.nearest_eq (Int.natAbs_pos.2 nonzero) Nat.one_pos (by rw [Nat.cast_one, div_one, size])]

/-- **Exact conversions.** Whole numbers of up to 53 bits are not rounded. -/
theorem ofInt?_exact {n : Nat} (h : n < 2 ^ 53) :
    ∃ x, ofInt? n = some (.finite x) ∧ x.toRat = n := by
  obtain ⟨x, hx, value⟩ := nearest_whole h
  refine ⟨x, ?_, value⟩
  unfold ofInt?
  rw [Int.natAbs_natCast, decide_eq_false (by omega), hx]

end Binary64

end ReportCheck
