import ReportCheck.Number.Amount
import ReportCheck.Proofs.Number.Order

/-! # Values of finite numbers

  The value of a finite decimal number as a rational number, with its sign.

  - `Decimal.toRat` is the value; `abs_toRat` is its size.
  - `signed_natAbs` and `signedCoefficient_cast` lead from the coefficients with a sign, by
    which the library adds, to values.
  - `compare?_eq_iff`: finite numbers compare as equal exactly if their values are.
-/

namespace ReportCheck

namespace Decimal

/-- **Value** of a finite number; zero where the number is not finite. -/
def toRat : Decimal → ℚ
  | finite negative coefficient exponent => signed negative (coefficient * 10 ^ exponent)
  | infinite _ => 0
  | nan .. => 0

@[simp] theorem toRat_finite (negative : Bool) (c : Nat) (e : Int) :
    (finite negative c e).toRat = signed negative (c * 10 ^ e) := rfl

theorem exists_of_isFinite {d : Decimal} (h : d.isFinite = true) :
    ∃ negative c e, d = finite negative c e := by
  cases d with
  | finite negative c e => exact ⟨negative, c, e, rfl⟩
  | infinite negative => cases h
  | nan negative signaling payload => cases h

/-! ### Signs -/

@[simp] theorem signed_false (x : ℚ) : signed false x = x := rfl

@[simp] theorem signed_true (x : ℚ) : signed true x = -x := rfl

@[simp] theorem signed_zero (negative : Bool) : signed negative 0 = 0 := by
  cases negative <;> simp

@[simp] theorem toRat_zero : zero.toRat = 0 := by
  unfold zero
  simp

theorem abs_signed (negative : Bool) {x : ℚ} (h : 0 ≤ x) : |signed negative x| = x := by
  cases negative with
  | true => simp [abs_of_nonneg h]
  | false => simp [abs_of_nonneg h]

theorem abs_signed_sub_signed (negative : Bool) (x y : ℚ) :
    |signed negative x - signed negative y| = |x - y| := by
  cases negative with
  | true =>
    rw [signed_true, signed_true, show -x - -y = -(x - y) by ring, abs_neg]
  | false => rfl

/-- A whole number is its size with its sign. -/
theorem signed_natAbs (z : Int) : signed (z < 0) z.natAbs = z := by
  have cast : ((z.natAbs : Int) : ℚ) = (z.natAbs : ℚ) := Int.cast_natCast _
  by_cases h : z < 0
  · have size : (z.natAbs : Int) = -z := by omega
    rw [decide_eq_true h, signed_true, ← cast, size, Int.cast_neg, neg_neg]
  · have size : (z.natAbs : Int) = z := by omega
    rw [decide_eq_false h, signed_false, ← cast, size]

/-- The coefficient with its sign, as a rational number. -/
theorem signedCoefficient_cast (negative : Bool) (c : Nat) :
    (signedCoefficient negative c : ℚ) = signed negative c := by
  cases negative with
  | true => simp [signedCoefficient]
  | false => simp [signedCoefficient]

theorem signed_mul (negative : Bool) (x y : ℚ) : signed negative (x * y) = signed negative x * y := by
  cases negative with
  | true => simp
  | false => simp

/-- The size of a value. -/
theorem abs_toRat (d : Decimal) : |d.toRat| = d.magnitude := by
  cases d with
  | finite negative c e =>
    have nonneg : (0 : ℚ) ≤ c * 10 ^ e := by positivity
    exact abs_signed negative nonneg
  | infinite negative => exact abs_zero
  | nan negative signaling payload => exact abs_zero

/-! ### Comparing -/

/-- **Equal values.** -/
theorem compare?_eq_iff {a b : Decimal} (ha : a.isFinite = true) (hb : b.isFinite = true) :
    a.compare? b = some .eq ↔ a.toRat = b.toRat := by
  obtain ⟨n, c, e, rfl⟩ := exists_of_isFinite ha
  obtain ⟨n', c', e', rfl⟩ := exists_of_isFinite hb
  have compares := compareFinite_compares n c e n' c' e'
  show some (compareFinite n c e n' c' e') = some .eq ↔ _
  rw [toRat_finite, toRat_finite, Option.some_inj]
  -- Whatever order comes out, it is the order of the two values.
  cases horder : compareFinite n c e n' c' e' with
  | lt =>
    rw [horder] at compares
    constructor
    · intro h
      cases h
    · intro h
      exact absurd h (ne_of_lt compares)
  | eq =>
    rw [horder] at compares
    exact ⟨fun _ => compares, fun _ => rfl⟩
  | gt =>
    rw [horder] at compares
    constructor
    · intro h
      cases h
    · intro h
      exact absurd h (ne_of_gt compares)

end Decimal

end ReportCheck
