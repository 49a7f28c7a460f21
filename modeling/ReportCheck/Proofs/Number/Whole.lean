import ReportCheck.Proofs.Number.Double

/-! # Whole numbers among all

  Dropping the fraction of a number leaves its whole part, the nearest whole number on the side
  of zero.

  - `wholePart` is the whole part of a value. It is the value itself if that is whole:
    `wholePart_eq_iff`.
  - `wholePart_quotient`: the whole part of a quotient is a division without the rest.
  - `Binary64.Finite.truncate_eq_wholePart` and `isWhole_iff` are about double-precision numbers,
    and `eq_of_magnitude_eq` says that a value has one form in double precision for each sign.
-/

namespace ReportCheck

open Decimal

/-! ### Whole parts -/

/-- **Whole part** of a value, the fraction dropped. -/
def wholePart (q : ℚ) : ℤ := if 0 ≤ q then ⌊q⌋ else ⌈q⌉

/-- **Whole values** are their own whole parts. -/
theorem wholePart_eq_iff {q : ℚ} : (wholePart q : ℚ) = q ↔ ∃ n : ℤ, q = n := by
  constructor
  · intro h
    exact ⟨_, h.symm⟩
  · rintro ⟨n, rfl⟩
    unfold wholePart
    rw [Int.floor_intCast, Int.ceil_intCast, ite_self]

theorem wholePart_intCast (n : ℤ) : wholePart n = n :=
  Rat.intCast_inj.1 (wholePart_eq_iff.2 ⟨n, rfl⟩)

theorem wholePart_signed (negative : Bool) {x : ℚ} (nonneg : 0 ≤ x) :
    wholePart (signed negative x) = if negative then -⌊x⌋ else ⌊x⌋ := by
  unfold wholePart
  cases negative with
  | false => rw [signed_false, if_pos nonneg, if_neg Bool.false_ne_true]
  | true =>
    rw [signed_true, if_pos rfl]
    split
    · have zero : x = 0 := by linarith
      rw [zero, neg_zero, Int.floor_zero, neg_zero]
    · exact Int.ceil_neg

/-- **Quotients.** The whole part of a quotient comes from a division with rest. -/
theorem wholePart_quotient (negative : Bool) (num den : ℕ) :
    wholePart (signed negative ((num : ℚ) / den)) = signedCoefficient negative (num / den) := by
  rw [wholePart_signed negative (by positivity), Rat.floor_natCast_div_natCast]
  rfl

namespace Decimal

theorem signed_inj {negative : Bool} {x y : ℚ} : signed negative x = signed negative y ↔ x = y := by
  cases negative with
  | false => rfl
  | true => exact neg_inj

theorem sign_eq_of_signed_eq {negative negative' : Bool} {x : ℚ} (nonzero : x ≠ 0)
    (h : signed negative x = signed negative' x) : negative = negative' := by
  cases negative with
  | false =>
    cases negative' with
    | false => rfl
    | true => exact absurd (self_eq_neg.1 h) nonzero
  | true =>
    cases negative' with
    | false => exact absurd (self_eq_neg.1 h.symm) nonzero
    | true => rfl

end Decimal

theorem quotient_whole_iff (negative : Bool) (num : ℕ) {den : ℕ} (positive : 0 < den) :
    (∃ n : ℤ, signed negative ((num : ℚ) / den) = n) ↔ num % den = 0 := by
  have nonzero : (den : ℚ) ≠ 0 := by positivity
  rw [← wholePart_eq_iff, wholePart_quotient, signedCoefficient_cast, signed_inj, eq_div_iff nonzero,
    ← Nat.cast_mul, Nat.cast_inj]
  have division := Nat.div_add_mod' num den
  omega

/-! ### Double-precision numbers -/

namespace Binary64.Finite

/-- **Dropping the fraction** leaves the whole part. -/
theorem truncate_eq_wholePart (x : Finite) : x.truncate = wholePart x.toRat := by
  unfold toRat
  rw [magnitude_eq_div, wholePart_quotient]
  unfold truncate signedCoefficient
  push_cast
  rfl

/-- **Whole numbers** are those of which the value is whole. -/
theorem isWhole_iff {x : Finite} : x.isWhole = true ↔ ∃ n : ℤ, x.toRat = n := by
  unfold isWhole toRat
  rw [magnitude_eq_div, quotient_whole_iff x.negative _ (by positivity), beq_iff_eq]

/-- **One form.** A number is given by its sign and its size. -/
theorem eq_of_magnitude_eq {x y : Finite} (sign : x.negative = y.negative)
    (size : x.magnitude = y.magnitude) : x = y := by
  have exponent : x.exponent = y.exponent := by
    obtain ⟨fits, fills⟩ := x.magnitude_between
    obtain ⟨fits', fills'⟩ := y.magnitude_between
    rw [← size] at fits' fills'
    exact le_antisymm (exponent_le_of_fills fills y.exponent_ge fits')
      (exponent_le_of_fills fills' x.exponent_ge fits)
  have mantissa : x.mantissa = y.mantissa := by
    have unit : (2 : ℚ) ^ y.exponent ≠ 0 := by positivity
    unfold magnitude at size
    rw [exponent] at size
    exact Nat.cast_injective (mul_right_cancel₀ unit size)
  cases x
  cases y
  simp only at exponent mantissa sign
  subst exponent mantissa sign
  rfl

theorem eq_of_toRat_eq {x y : Finite} (h : x.toRat = y.toRat) (nonzero : x.toRat ≠ 0) : x = y := by
  have size : x.magnitude = y.magnitude := by rw [← x.abs_toRat, ← y.abs_toRat, h]
  refine eq_of_magnitude_eq ?_ size
  unfold toRat at h nonzero
  rw [← size] at h
  refine sign_eq_of_signed_eq ?_ h
  rintro zero
  rw [zero, signed_zero] at nonzero
  exact nonzero rfl

end Binary64.Finite

end ReportCheck
