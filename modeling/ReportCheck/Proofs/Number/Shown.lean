import ReportCheck.Number.Shortest
import ReportCheck.Proofs.Number.Magnitude

/-! # Shown values

  How far the shown value of a double-precision number may lie from the number itself.

  - `digitsOf_le`: the digits that are searched denote at most twice the number, because
    every grid that is tried is finer than the number's leading digit.
  - `shown_le`: so does the shown value, in both of its forms.
-/

namespace ReportCheck

namespace Shortest

/-- The value that an interval is about. -/
def Interval.ratio (i : Interval) : ℚ := i.value / i.scale

theorem ratio_intervalOf (mantissa : Nat) (exponent : Int) :
    (intervalOf mantissa exponent).ratio = mantissa * 2 ^ exponent := by
  have h := shift_div_shift 2 (by decide) (4 * mantissa) 1 (exponent - 2)
  rw [one_mul, div_one, neg_sub] at h
  unfold Interval.ratio intervalOf
  push_cast at h ⊢
  rw [h, zpow_sub₀ (by norm_num)]
  norm_num
  ring

theorem pow_leadingPlace_le {i : Interval} (hvalue : 0 < i.value) (hscale : 0 < i.scale) :
    (10 : ℚ) ^ (leadingPlace i - 1) ≤ i.ratio := by
  have positive : (0 : ℚ) < i.scale := Nat.cast_pos.2 hscale
  unfold leadingPlace Interval.ratio
  simp only
  generalize hshift : (digitCount i.scale : Int) - digitCount i.value = shift
  split
  · next reached =>
    have h : ((i.scale * 10 ^ (-shift).toNat : ℕ) : ℚ) ≤ ((i.value * 10 ^ shift.toNat : ℕ) : ℚ) :=
      Nat.cast_le.2 reached
    have up : (0 : ℚ) < 10 ^ shift.toNat := by positivity
    have split := zpow_mul_pow_neg 10 (by decide) (-shift)
    rw [neg_neg] at split
    push_cast at h split
    rw [← split, ← mul_assoc, mul_le_mul_iff_left₀ up] at h
    rw [show 1 - shift - 1 = -shift by ring, le_div_iff₀ positive, mul_comm]
    exact h
  · -- The lengths alone place the value below the next power of ten.
    have hlow := pow_le_scaled hvalue 0
    have hhigh := scaled_lt_pow i.scale 0
    rw [zpow_zero, mul_one, zero_add] at hlow hhigh
    rw [le_div_iff₀ positive, show -shift - 1 = (digitCount i.value - 1 : Int) - digitCount i.scale by
      omega, zpow_sub₀ (by norm_num), div_mul_eq_mul_div, div_le_iff₀ (by positivity)]
    exact mul_le_mul hlow hhigh.le positive.le (by positivity)

/-- A number on a grid that is found to read back is at most one unit of the grid past
    the value. -/
theorem onGrid?_le {i : Interval} (hscale : 0 < i.scale) {place : Int} {digits : Nat} {p : Int}
    (found : onGrid? i place = some (digits, p)) :
    p = place ∧ (digits : ℚ) * 10 ^ p ≤ i.ratio + 10 ^ p := by
  have hden : 0 < i.scale * 10 ^ place.toNat := by positivity
  have units := quotient_in_units 10 (by decide) i.value i.scale place
  change _ = i.ratio / _ at units
  rw [Nat.cast_ofNat] at units
  have grid : (0 : ℚ) < 10 ^ place := by positivity
  have floor : ((i.value * 10 ^ (-place).toNat / (i.scale * 10 ^ place.toNat) : ℕ) : ℚ) ≤
      i.ratio / 10 ^ place := by
    rw [← units]
    exact Nat.cast_div_le
  have rounded := roundDiv_le_add_half (i.value * 10 ^ (-place).toNat) .even hden
  rw [units] at rounded
  -- All three candidates are at most one unit past the value.
  have bound : (digits : ℚ) ≤ i.ratio / 10 ^ place + 1 → (digits : ℚ) * 10 ^ place ≤
      i.ratio + 10 ^ place := by
    intro h
    have hmul := mul_le_mul_of_nonneg_right h grid.le
    rw [add_mul, one_mul, div_mul_cancel₀ _ grid.ne'] at hmul
    exact hmul
  unfold onGrid? at found
  simp only at found
  split at found
  · cases found
    exact ⟨rfl, bound (by linarith)⟩
  · cases found
    exact ⟨rfl, bound (by linarith)⟩
  · cases found
    refine ⟨rfl, bound ?_⟩
    push_cast
    linarith
  · exact nomatch found

theorem search_le {i : Interval} (hvalue : 0 < i.value) (hscale : 0 < i.scale) {count : Nat}
    (hcount : 1 ≤ count) (fuel : Nat) {digits : Nat} {place : Int}
    (found : search i (leadingPlace i) count fuel = (digits, place)) :
    (digits : ℚ) * 10 ^ place ≤ 2 * i.ratio := by
  have leading := pow_leadingPlace_le hvalue hscale
  induction fuel generalizing count with
  | zero =>
    -- A search that gives up returns zero.
    cases found
    have positive : (0 : ℚ) < 10 ^ (leadingPlace i - 1) := by positivity
    rw [Nat.cast_zero, zero_mul]
    linarith
  | succ fuel ih =>
    unfold search at found
    split at found
    · next h =>
      cases found
      obtain ⟨rfl, hle⟩ := onGrid?_le hscale h
      -- With at least one digit, a unit of the grid is no more than the leading digit's.
      have finer : (10 : ℚ) ^ (leadingPlace i - count) ≤ 10 ^ (leadingPlace i - 1) :=
        zpow_le_zpow_right₀ (by norm_num) (by omega)
      linarith
    · exact ih (by omega) found

theorem dropZeros_eq {digits : Nat} {place : Int} (fuel : Nat) {d : Nat} {p : Int}
    (dropped : dropZeros digits place fuel = (d, p)) :
    (d : ℚ) * 10 ^ p = digits * 10 ^ place := by
  induction fuel generalizing digits place with
  | zero =>
    cases dropped
    rfl
  | succ fuel ih =>
    unfold dropZeros at dropped
    split at dropped
    · next h =>
      rw [Bool.and_eq_true, beq_iff_eq] at h
      have hdigits : ((digits / 10 * 10 : ℕ) : ℚ) = digits :=
        congrArg Nat.cast (Nat.div_mul_cancel (Nat.dvd_of_mod_eq_zero h.2))
      rw [ih dropped, zpow_add_one₀ (by norm_num), ← hdigits]
      push_cast
      ring
    · cases dropped
      rfl

/-- **Digits** of a number: what they denote is at most twice the number. -/
theorem digitsOf_le {mantissa : Nat} {exponent : Int} {digits : Nat} {place : Int}
    (h : digitsOf mantissa exponent = (digits, place)) :
    (digits : ℚ) * 10 ^ place ≤ 2 * (mantissa * 2 ^ exponent) := by
  unfold digitsOf at h
  by_cases hzero : mantissa = 0
  · rw [if_pos (by simpa using hzero)] at h
    cases h
    rw [hzero, Nat.cast_zero, zero_mul, zero_mul, mul_zero]
  · rw [if_neg (by simpa using hzero)] at h
    have hvalue : 0 < (intervalOf mantissa exponent).value := by
      have := Nat.pos_of_ne_zero hzero
      unfold intervalOf
      positivity
    have hscale : 0 < (intervalOf mantissa exponent).scale := by
      unfold intervalOf
      positivity
    rw [dropZeros_eq 17 h, ← ratio_intervalOf]
    exact search_le hvalue hscale le_rfl 17 rfl

end Shortest

/-- **Shown values** are at most twice the number. -/
theorem Binary64.shown_le (x : Binary64.Finite) :
    (Binary64.finite x).shown.magnitude ≤ 2 * x.magnitude := by
  unfold shown
  simp only
  generalize hdigits : Shortest.digitsOf x.mantissa x.exponent = found
  obtain ⟨digits, place⟩ := found
  have hle := Shortest.digitsOf_le hdigits
  split
  · next h =>
    rw [Bool.and_eq_true, decide_eq_true_iff] at h
    -- The zero after the point makes up for the place.
    have hplace : (10 : ℚ) ^ (place + 1).toNat * 10 ^ (-1 : Int) = 10 ^ place := by
      rw [← zpow_natCast, ← zpow_add₀ (by norm_num)]
      congr 1
      omega
    rw [Decimal.magnitude_finite]
    push_cast
    rw [mul_assoc, hplace]
    exact hle
  · exact hle

theorem Binary64.shown_lt (x : Binary64) : x.shown.magnitude < 10 ^ 309 := by
  have positive : (0 : ℚ) < 10 ^ 309 := by positivity
  cases x with
  | finite x =>
    have h : 2 * 2 ^ 1024 < 10 ^ 309 := by decide +kernel
    have hcast := (Nat.cast_lt (α := ℚ)).2 h
    rw [Nat.cast_mul, Nat.cast_pow, Nat.cast_pow, Nat.cast_ofNat, Nat.cast_ofNat] at hcast
    have hle := shown_le x
    have hlt := x.magnitude_lt
    generalize (2 : ℚ) ^ 1024 = bound at *
    generalize (10 : ℚ) ^ 309 = ten at *
    linarith
  | infinite negative => exact positive
  | nan => exact positive

end ReportCheck
