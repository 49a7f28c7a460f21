import ReportCheck.Proofs.Number.Double

/-! # Closest numbers

  Rounding a quotient to double precision gives a number that no other one is closer to.

  - `nearest_spec`: a finite result is the rounded mantissa at the exponent of the quotient.
  - `Finite.IsNearest` says that no finite number is closer to a value, and
    `isNearest_of_nearest` that rounding gives such a number. So rounding passes no number:
    `IsNearest.le` and `IsNearest.ge`.
  - `abs_nearest_sub_le` and `nearest_onGrid` bound the error and place the result on a grid,
    both by the size of the quotient.
-/

namespace ReportCheck

namespace Binary64

/-! ### Form of the result -/

/-- The rounded mantissa of a quotient at its exponent. -/
def mantissaOf (num den : Nat) : Nat :=
  roundDiv (num * 2 ^ (-exponentOf num den).toNat) (den * 2 ^ (exponentOf num den).toNat) .even

theorem mantissaOf_zero {den : Nat} (hden : 0 < den) : mantissaOf 0 den = 0 := by
  have positive : 0 < den * 2 ^ (exponentOf 0 den).toNat := by positivity
  unfold mantissaOf roundDiv
  simp [positive]

theorem eq_of_pack {negative : Bool} {mantissa : Nat} {exponent : Int} {x : Finite}
    (h : pack negative mantissa exponent = .finite x) :
    x.negative = negative ∧ x.magnitude = mantissa * 2 ^ exponent := by
  unfold pack at h
  split at h
  · cases h
    exact ⟨rfl, rfl⟩
  · cases h

/-- **Form of the result.** A carry into the next exponent does not change the value. -/
theorem nearest_spec {negative : Bool} {num den : Nat} {x : Finite} (hden : 0 < den)
    (h : nearest negative num den = .finite x) :
    x.negative = negative ∧ x.magnitude = mantissaOf num den * 2 ^ exponentOf num den := by
  unfold nearest at h
  split at h
  · next zero =>
    cases h
    rw [beq_iff_eq.1 zero, mantissaOf_zero hden, Nat.cast_zero, zero_mul]
    simp [Finite.magnitude]
  · unfold mantissaOf
    simp only at h
    generalize exponentOf num den = e at *
    generalize roundDiv (num * 2 ^ (-e).toNat) (den * 2 ^ e.toNat) .even = m at *
    split at h
    · next carry =>
      obtain ⟨sign, size⟩ := eq_of_pack h
      refine ⟨sign, ?_⟩
      rw [size, beq_iff_eq.1 carry, zpow_add_one₀ (by norm_num)]
      norm_num
      ring
    · exact eq_of_pack h

theorem mul_two_zpow_eq (m : ℕ) {e e' : ℤ} (finer : e ≤ e') :
    (m : ℚ) * 2 ^ e' = ((m * 2 ^ (e' - e).toNat : ℕ) : ℚ) * 2 ^ e := by
  have shift : (2 : ℚ) ^ e' = 2 ^ (e' - e).toNat * 2 ^ e := by
    rw [← zpow_natCast, ← zpow_add₀ (by norm_num)]
    congr 1
    omega
  rw [shift]
  push_cast
  ring

/-! ### Distance -/

theorem abs_mul_two_zpow_sub (y v : ℚ) (e : ℤ) : |y * 2 ^ e - v| = |y - v / 2 ^ e| * 2 ^ e := by
  have unit : (0 : ℚ) < 2 ^ e := by positivity
  have split : y * 2 ^ e - v = (y - v / 2 ^ e) * 2 ^ e := by field_simp
  rw [split, abs_mul, abs_of_pos unit]

theorem abs_sub_mantissaOf_le_half (num : Nat) {den : Nat} (hden : 0 < den) :
    |num / den / 2 ^ exponentOf num den - (mantissaOf num den : ℚ)| ≤ 1 / 2 := by
  obtain ⟨under, above⟩ := mantissa_between num hden (exponentOf num den)
  change _ ≤ (mantissaOf num den : ℚ) at under
  change (mantissaOf num den : ℚ) ≤ _ at above
  exact abs_le.2 ⟨by linarith, by linarith⟩

theorem abs_mantissaOf_sub_le (num : Nat) {den : Nat} (hden : 0 < den) (k : ℤ) :
    |(mantissaOf num den * 2 ^ exponentOf num den : ℚ) - num / den| ≤
      |(k : ℚ) * 2 ^ exponentOf num den - num / den| := by
  have half := abs_sub_mantissaOf_le_half num hden
  rw [abs_mul_two_zpow_sub, abs_mul_two_zpow_sub, abs_sub_comm, abs_sub_comm (k : ℚ)]
  generalize mantissaOf num den = m at *
  refine mul_le_mul_of_nonneg_right ?_ (by positivity)
  by_cases same : k = m
  · rw [same, Int.cast_natCast]
  · exact half.trans (half_le_abs_sub_of_ne (by exact_mod_cast half) same)

/-- **Nearest numbers.** No finite number is closer to the value. -/
def Finite.IsNearest (x : Finite) (v : ℚ) : Prop := ∀ z : Finite, |x.toRat - v| ≤ |z.toRat - v|

/-- The number with the other sign. -/
def Finite.neg (x : Finite) : Finite := { x with negative := !x.negative }

@[simp] theorem Finite.toRat_neg (x : Finite) : x.neg.toRat = -x.toRat := by
  show Decimal.signed (!x.negative) x.magnitude = -Decimal.signed x.negative x.magnitude
  cases x.negative with
  | true => simp
  | false => simp

theorem abs_mantissaOf_sub_le_magnitude (num : Nat) {den : Nat} (hden : 0 < den) (z : Finite) :
    |(mantissaOf num den * 2 ^ exponentOf num den : ℚ) - num / den| ≤ |z.magnitude - num / den| := by
  rcases Nat.eq_zero_or_pos num with rfl | hnum
  · simp [mantissaOf_zero hden]
  have closest := abs_mantissaOf_sub_le num hden
  obtain ⟨-, -, fills⟩ := exponentOf_spec hnum hden
  generalize exponentOf num den = e at *
  rcases le_or_gt e z.exponent with coarse | fine
  · -- The number is a whole multiple of the unit.
    have multiple := mul_two_zpow_eq z.mantissa coarse
    unfold Finite.magnitude
    rw [multiple]
    exact_mod_cast closest _
  · -- The number is below the power of two that the quotient reaches.
    have reached : (2 : ℚ) ^ (e + 52) ≤ num / den :=
      fills.resolve_left fun least => absurd z.exponent_ge (by omega)
    have below : z.magnitude < 2 ^ (e + 52) :=
      z.magnitude_between.1.trans_le (zpow_le_zpow_right₀ (by norm_num) (by omega))
    have power : (2 : ℚ) ^ (e + 52) = ((2 ^ 52 : ℤ) : ℚ) * 2 ^ e := by
      rw [add_comm, zpow_add₀ (by norm_num)]
      norm_num
    refine (closest (2 ^ 52)).trans ?_
    rw [← power, abs_of_nonpos (by linarith), abs_of_nonpos (by linarith)]
    linarith

/-- **Rounding gives a nearest number.** -/
theorem isNearest_of_nearest {negative : Bool} {num den : Nat} {x : Finite} (hden : 0 < den)
    (h : nearest negative num den = .finite x) :
    x.IsNearest (Decimal.signed negative (num / den)) := by
  intro z
  obtain ⟨sign, size⟩ := nearest_spec hden h
  have nonneg : (0 : ℚ) ≤ num / den := by positivity
  -- The distance of the sizes is the least one that the signs allow.
  have distance := abs_abs_sub_abs_le z.toRat (Decimal.signed negative (num / den))
  rw [z.abs_toRat, Decimal.abs_signed _ nonneg] at distance
  refine le_trans ?_ distance
  unfold Finite.toRat
  rw [sign, Decimal.abs_signed_sub_signed, size]
  exact abs_mantissaOf_sub_le_magnitude num hden z

section Bounds

variable {x : Finite} {v : ℚ}

/-- Rounding does not pass a number from below. -/
theorem Finite.IsNearest.le (h : x.IsNearest v) {z : Finite} (above : v ≤ z.toRat) :
    x.toRat ≤ z.toRat := by
  by_contra beyond
  have closer := h z
  rw [abs_of_nonneg (by linarith), abs_of_nonneg (by linarith)] at closer
  linarith

/-- Rounding does not pass a number from above. -/
theorem Finite.IsNearest.ge (h : x.IsNearest v) {z : Finite} (below : z.toRat ≤ v) :
    z.toRat ≤ x.toRat := by
  by_contra beyond
  have closer := h z
  rw [abs_of_nonpos (by linarith), abs_of_nonpos (by linarith)] at closer
  linarith

theorem Finite.IsNearest.abs_toRat_le (h : x.IsNearest v) {z : Finite} (above : |v| ≤ z.toRat) :
    |x.toRat| ≤ z.toRat := by
  obtain ⟨low, high⟩ := abs_le.1 above
  rw [← z.toRat_neg] at low
  rw [abs_le, ← z.toRat_neg]
  exact ⟨h.ge low, h.le high⟩

theorem Finite.IsNearest.le_abs_toRat (h : x.IsNearest v) {z : Finite} (below : z.toRat ≤ |v|) :
    z.toRat ≤ |x.toRat| := by
  rcases le_abs.1 below with below | below
  · exact (h.ge below).trans (le_abs_self _)
  · have above : v ≤ z.neg.toRat := by
      rw [z.toRat_neg]
      linarith
    have passed := h.le above
    rw [z.toRat_neg] at passed
    exact (le_neg_of_le_neg passed).trans (neg_le_abs _)

end Bounds

/-! ### Error and grid -/

/-- **The error** is at most half a unit of any exponent at which the quotient fits 53 bits. -/
theorem abs_nearest_sub_le {negative : Bool} {num den : Nat} {x : Finite} (hden : 0 < den)
    (h : nearest negative num den = .finite x) {e : ℤ} (least : -1074 ≤ e)
    (fits : (num / den : ℚ) < 2 ^ (e + 53)) :
    |x.toRat - Decimal.signed negative (num / den)| ≤ 2 ^ e / 2 := by
  obtain ⟨sign, size⟩ := nearest_spec hden h
  unfold Finite.toRat
  rw [sign, Decimal.abs_signed_sub_signed, size]
  rcases Nat.eq_zero_or_pos num with rfl | hnum
  · rw [mantissaOf_zero hden, Nat.cast_zero, zero_mul, zero_div, sub_zero, abs_zero]
    positivity
  obtain ⟨-, -, fills⟩ := exponentOf_spec hnum hden
  have finer : (2 : ℚ) ^ exponentOf num den ≤ 2 ^ e :=
    zpow_le_zpow_right₀ (by norm_num) (exponent_le_of_fills fills least fits)
  have half := mul_le_mul_of_nonneg_right (abs_sub_mantissaOf_le_half num hden)
    (zpow_nonneg (by norm_num : (0 : ℚ) ≤ 2) (exponentOf num den))
  rw [abs_mul_two_zpow_sub, abs_sub_comm]
  linarith

/-- **The grid.** A quotient that fills 53 bits at an exponent is rounded to a multiple of its
    unit. -/
theorem nearest_onGrid {negative : Bool} {num den : Nat} {x : Finite} (hden : 0 < den)
    (h : nearest negative num den = .finite x) {e : ℤ}
    (fills : (2 : ℚ) ^ (e + 52) ≤ num / den) : ∃ k : ℤ, x.toRat = k * 2 ^ e := by
  have positive : (0 : ℚ) < num / den := lt_of_lt_of_le (by positivity) fills
  have hnum : 0 < num := by
    rw [Nat.pos_iff_ne_zero]
    rintro rfl
    simp at positive
  obtain ⟨sign, size⟩ := nearest_spec hden h
  obtain ⟨least, fits, -⟩ := exponentOf_spec hnum hden
  have finer := exponent_le_of_fills (.inr fills) least fits
  refine ⟨Decimal.signedCoefficient negative
    (mantissaOf num den * 2 ^ (exponentOf num den - e).toNat), ?_⟩
  rw [Decimal.signedCoefficient_cast, ← Decimal.signed_mul, ← mul_two_zpow_eq _ finer, ← size, ← sign]
  rfl

end Binary64

end ReportCheck
