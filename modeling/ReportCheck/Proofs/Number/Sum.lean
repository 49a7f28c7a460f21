import ReportCheck.Number.Amount
import ReportCheck.Proofs.Number.Magnitude

/-! # Sums do not overflow

  A sum of amounts with bounded magnitudes stays within the range of exponents, no
  matter how many amounts there are: with a working precision of 400 digits, a total 401
  places above all amounts is not moved by any of them.

  - `limit` is where totals saturate, for amounts of up to a power of ten.
  - `fit_le`: bringing a result to the precision does not cross the limit.
  - `add_le` is the step and `addAll_ne_overflow` the run over a list of amounts.
-/

namespace ReportCheck

namespace Decimal

/-- **Limit** of the totals of amounts of magnitude at most `10 ^ k`. -/
def limit (k : Nat) : ℚ := 10 ^ (k + 401 : Int)

/-- An addition that returns, with a result up to the limit. -/
def Returns (k : Nat) (outcome : Except SumFault Decimal) : Prop :=
  ∃ d, outcome = .ok d ∧ d.magnitude ≤ limit k

section Limit

variable {k : Nat}

/-- A value past the limit has so many digits that an amount is less than a hundredth of
    the last digit kept. -/
theorem lt_limit_add_half {c : Nat} {e low : Int}
    (h : (c : ℚ) * 10 ^ e ≤ limit k + 10 ^ (k : Int)) (hlow : e + digitCount c - precision ≤ low) :
    (c : ℚ) * 10 ^ e < limit k + 10 ^ low / 2 := by
  have positive : (0 : ℚ) < 10 ^ low := by positivity
  -- Up to the limit there is nothing to show; past it the unit is large.
  by_cases small : (c : ℚ) * 10 ^ e ≤ limit k
  · linarith
  · have past : (k + 401 : Int) < e + digitCount c := by
      rw [← ten_zpow_lt_iff]
      exact lt_trans (not_le.1 small) (scaled_lt_pow c e)
    have unit : (10 : ℚ) ^ (k + 2 : Int) ≤ 10 ^ low := by
      refine zpow_le_zpow_right₀ (by norm_num) ?_
      unfold precision at hlow
      omega
    have amount : (0 : ℚ) < 10 ^ (k : Int) := by positivity
    rw [zpow_add₀ (by norm_num)] at unit
    norm_num at unit amount h ⊢
    linarith

/-- The limit lies on every grid up to it, so that no multiple of a unit crosses it
    within less than a unit. -/
theorem multiple_le_limit {n : Nat} {low : Int} (hlow : low ≤ k + 401)
    (h : (n : ℚ) * 10 ^ low < limit k + 10 ^ low) : (n : ℚ) * 10 ^ low ≤ limit k := by
  have unit : (0 : ℚ) < 10 ^ low := by positivity
  have grid : limit k = ((10 ^ (k + 401 - low).toNat : ℕ) : ℚ) * 10 ^ low := ten_zpow_eq_mul hlow
  rw [grid, ← add_one_mul, mul_lt_mul_iff_left₀ unit] at h
  -- Both sides are whole multiples of the unit, so less than one more is none more.
  have hn : n < 10 ^ (k + 401 - low).toNat + 1 := by exact_mod_cast h
  rw [grid]
  exact mul_le_mul_of_nonneg_right (Nat.cast_le.2 (by omega)) unit.le

theorem leading_le {c : Nat} {e : Int} (positive : 0 < c)
    (h : (c : ℚ) * 10 ^ e ≤ limit k + 10 ^ (k : Int)) : e + digitCount c ≤ k + 402 := by
  have hlt : (10 : ℚ) ^ (e + digitCount c - 1) < 10 ^ (k + 402 : Int) := by
    refine lt_of_le_of_lt (le_trans (pow_le_scaled positive e) h) ?_
    have amount : (10 : ℚ) ^ (k : Int) ≤ limit k :=
      zpow_le_zpow_right₀ (by norm_num) (by omega)
    have hlimit : (0 : ℚ) < limit k := by unfold limit; positivity
    have next : (10 : ℚ) ^ (k + 402 : Int) = 10 * limit k := by
      unfold limit
      rw [show (k + 402 : Int) = 1 + (k + 401) by ring, zpow_add₀ (by norm_num), zpow_one]
    linarith
  have := ten_zpow_lt_iff.1 hlt
  omega

theorem rounded_le {c : Nat} {e low : Int} (h : e ≤ low) :
    (roundDiv c (10 ^ (low - e).toNat) .even : ℚ) * 10 ^ low ≤ c * 10 ^ e + 10 ^ low / 2 := by
  have shift : (0 : ℚ) < ((10 ^ (low - e).toNat : ℕ) : ℚ) := by positivity
  have unit : (0 : ℚ) < 10 ^ low := by positivity
  have hround := roundDiv_le_add_half c .even (show 0 < 10 ^ (low - e).toNat by positivity)
  calc (roundDiv c (10 ^ (low - e).toNat) .even : ℚ) * 10 ^ low
      ≤ (c / ((10 ^ (low - e).toNat : ℕ) : ℚ) + 1 / 2) * 10 ^ low :=
        mul_le_mul_of_nonneg_right hround unit.le
    _ = c / ((10 ^ (low - e).toNat : ℕ) : ℚ) * 10 ^ low + 10 ^ low / 2 := by ring
    _ = c * 10 ^ e + 10 ^ low / 2 := by
        congr 1
        rw [ten_zpow_eq_mul h, ← mul_assoc, div_mul_cancel₀ _ shift.ne']

/-- **Fitting** a nonzero result to the precision. -/
theorem fitNonzero_le (hk : k ≤ 999597) (negative : Bool) {c : Nat} (positive : 0 < c) {e : Int}
    (h : (c : ℚ) * 10 ^ e ≤ limit k + 10 ^ (k : Int)) : Returns k (fitNonzero negative c e) := by
  have leading := leading_le positive h
  unfold fitNonzero
  rw [if_neg (by unfold maxExponent; omega)]
  generalize hlow : max (e + (digitCount c : Int) - precision) minExponent = low
  have half := lt_limit_add_half h (show e + (digitCount c : Int) - precision ≤ low by omega)
  have top : low ≤ k + 2 := by
    unfold precision minExponent at hlow
    omega
  have unit : (0 : ℚ) < 10 ^ low := by positivity
  simp only
  by_cases fine : low ≤ e
  · -- Nothing is rounded, and the value is a multiple of the unit already.
    rw [if_pos fine]
    have multiple : (c : ℚ) * 10 ^ e = ((c * 10 ^ (e - low).toNat : ℕ) : ℚ) * 10 ^ low := by
      rw [ten_zpow_eq_mul fine, Nat.cast_mul, mul_assoc]
    refine ⟨_, rfl, ?_⟩
    rw [magnitude_finite, multiple]
    refine multiple_le_limit (by omega) ?_
    rw [← multiple]
    linarith
  · rw [if_neg fine]
    generalize hrounded : (if digitCount c + 1 < (low - e).toNat then 0
      else roundDiv c (10 ^ (low - e).toNat) .even) = rounded
    have above : (rounded : ℚ) * 10 ^ low ≤ c * 10 ^ e + 10 ^ low / 2 := by
      subst hrounded
      split
      · rw [Nat.cast_zero, zero_mul]
        positivity
      · exact rounded_le (by omega)
    have below : (rounded : ℚ) * 10 ^ low ≤ limit k := multiple_le_limit (by omega) (by linarith)
    by_cases short : digitCount rounded ≤ precision
    · rw [if_pos short]
      exact ⟨_, rfl, below⟩
    · -- Rounding up gave one more digit, a zero, which is dropped.
      rw [if_neg short, if_neg (by unfold maxExponent precision; omega)]
      refine ⟨_, rfl, le_trans ?_ below⟩
      have hdrop : ((rounded / 10 * 10 : ℕ) : ℚ) ≤ rounded :=
        Nat.cast_le.2 (Nat.div_mul_le_self _ _)
      rw [Nat.cast_mul, Nat.cast_ofNat] at hdrop
      have hmul := mul_le_mul_of_nonneg_right hdrop unit.le
      rw [magnitude_finite, zpow_add_one₀ (by norm_num)]
      linarith

/-- **Fitting** a result to the precision. -/
theorem fit_le (hk : k ≤ 999597) (negative : Bool) {c : Nat} {e : Int}
    (h : (c : ℚ) * 10 ^ e ≤ limit k + 10 ^ (k : Int)) : Returns k (fit negative c e) := by
  unfold fit
  by_cases hzero : c = 0
  · rw [if_pos (by simpa using hzero)]
    refine ⟨_, rfl, ?_⟩
    rw [magnitude_finite, Nat.cast_zero, zero_mul]
    unfold limit
    positivity
  · rw [if_neg (by simpa using hzero)]
    exact fitNonzero_le hk negative (Nat.pos_of_ne_zero hzero) h

/-! ### Additions -/

theorem natAbs_total_le (n n' : Bool) (c c' : Nat) :
    (signedCoefficient n c + signedCoefficient n' c').natAbs ≤ c + c' := by
  unfold signedCoefficient
  split <;> split <;> omega

theorem fit_total_le (hk : k ≤ 999597) (n n' : Bool) {c c' : Nat} {e e' : Int} (aligned : e' ≤ e)
    (h : (c : ℚ) * 10 ^ e + c' * 10 ^ e' ≤ limit k + 10 ^ (k : Int)) (negative : Bool) :
    Returns k (fit negative
      (signedCoefficient n (c * 10 ^ (e - e').toNat) + signedCoefficient n' c').natAbs e') := by
  have unit : (0 : ℚ) < 10 ^ e' := by positivity
  refine fit_le hk negative (le_trans ?_ h)
  -- Opposite signs only make the total smaller.
  have htotal := (Nat.cast_le (α := ℚ)).2 (natAbs_total_le n n' (c * 10 ^ (e - e').toNat) c')
  rw [Nat.cast_add, Nat.cast_mul] at htotal
  rw [ten_zpow_eq_mul aligned, ← mul_assoc, ← add_mul]
  exact mul_le_mul_of_nonneg_right htotal unit.le

/-- **Aligned addition.** The larger exponent may belong to the total or to the amount. -/
theorem addAligned_le (hk : k ≤ 999597) (n n' : Bool) {c c' : Nat} (positive : 0 < c) {e e' : Int}
    (aligned : e' ≤ e) (hlimit : (c : ℚ) * 10 ^ e ≤ limit k)
    (h : (c : ℚ) * 10 ^ e + c' * 10 ^ e' ≤ limit k + 10 ^ (k : Int)) :
    Returns k (addAligned n c e n' c' e') := by
  unfold addAligned
  generalize hreach : e + min (-1) ((digitCount c : Int) - precision - 2) = reach
  simp only
  split
  · -- The unit in the place of a tiny value is no larger than an amount.
    have hleading : (10 : ℚ) ^ (e + digitCount c - 1) ≤ 10 ^ (k + 401 : Int) :=
      le_trans (pow_le_scaled positive e) hlimit
    have hexponent := (zpow_le_zpow_iff_right₀ (by norm_num)).1 hleading
    unfold precision at hreach
    have hunit : (10 : ℚ) ^ reach ≤ 10 ^ (k : Int) :=
      zpow_le_zpow_right₀ (by norm_num) (by omega)
    refine fit_total_le hk n n' (by omega) ?_ _
    rw [Nat.cast_one, one_mul]
    exact add_le_add hlimit hunit
  · exact fit_total_le hk n n' aligned h _

theorem addZero_le (hk : k ≤ 999597) (e : Int) (n : Bool) {c : Nat} {e' : Int}
    (h : (c : ℚ) * 10 ^ e' ≤ limit k + 10 ^ (k : Int)) : Returns k (addZero e n c e') := by
  unfold addZero
  simp only
  refine fit_le hk n (le_of_eq_of_le ?_ h)
  generalize hlow : max (min e e') (e' - (precision : Int) - 1) = low
  rw [Nat.cast_mul, mul_assoc, ← ten_zpow_eq_mul (show low ≤ e' by omega)]

theorem pow_le_limit : (10 : ℚ) ^ (k : Int) ≤ limit k :=
  zpow_le_zpow_right₀ (by norm_num) (by omega)

/-- **Addition** of finite values. -/
theorem addFinite_le (hk : k ≤ 999597) (n n' : Bool) {c c' : Nat} {e e' : Int}
    (htotal : (c : ℚ) * 10 ^ e ≤ limit k) (hamount : (c' : ℚ) * 10 ^ e' ≤ 10 ^ (k : Int)) :
    Returns k (addFinite n c e n' c' e') := by
  have amount : (0 : ℚ) < 10 ^ (k : Int) := by positivity
  have hzero : ∀ low : Int, ((0 : ℕ) : ℚ) * 10 ^ low ≤ limit k + 10 ^ (k : Int) := by
    intro low
    have := pow_le_limit (k := k)
    rw [Nat.cast_zero, zero_mul]
    linarith
  unfold addFinite
  simp only [Bool.and_eq_true, beq_iff_eq]
  -- Two zeros, one zero on either side, opposite values, and the general case.
  split
  · exact fit_le hk _ (hzero _)
  split
  · exact addZero_le hk e n' (by linarith [pow_le_limit (k := k)])
  split
  · exact addZero_le hk e' n (by linarith)
  split
  · exact fit_le hk _ (hzero _)
  next nonzero nonzero' _ =>
  split
  · next aligned =>
    exact addAligned_le hk n n' (Nat.pos_of_ne_zero nonzero) aligned htotal (by linarith)
  · next aligned =>
    exact addAligned_le hk n' n (Nat.pos_of_ne_zero nonzero') (by omega)
      (le_trans hamount pow_le_limit) (by linarith)

/-- Two values have a sum, unless the operation is invalid. -/
theorem add_le (hk : k ≤ 999597) {total amount : Decimal} (htotal : total.magnitude ≤ limit k)
    (hamount : amount.magnitude ≤ 10 ^ (k : Int)) :
    add total amount = .error .invalid ∨ Returns k (add total amount) := by
  have hzero : (0 : ℚ) ≤ limit k := by
    unfold limit
    positivity
  unfold add
  split
  · exact .inl rfl
  · exact .inl rfl
  · exact .inr ⟨_, rfl, hzero⟩
  · exact .inr ⟨_, rfl, hzero⟩
  · split
    · exact .inr ⟨_, rfl, hzero⟩
    · exact .inl rfl
  · exact .inr ⟨_, rfl, hzero⟩
  · exact .inr ⟨_, rfl, hzero⟩
  · exact .inr (addFinite_le hk _ _ htotal hamount)

/-! ### Lists -/

/-- **Running totals** never reach the end of the range of exponents. -/
theorem addAll_ne_overflow (hk : k ≤ 999597) {total : Decimal} (htotal : total.magnitude ≤ limit k)
    {amounts : List Decimal} (hamounts : ∀ a ∈ amounts, a.magnitude ≤ 10 ^ (k : Int)) :
    addAll total amounts ≠ .error .overflow := by
  induction amounts generalizing total with
  | nil => exact fun h => nomatch h
  | cons amount rest ih =>
    rw [addAll_cons]
    -- The next total is within the limit again, or the sum ends without a result.
    rcases add_le hk htotal (hamounts amount (.head _)) with hinvalid | ⟨d, hd, hlimit⟩
    · rw [hinvalid]
      exact fun h => nomatch h
    · rw [hd]
      exact ih hlimit fun a ha => hamounts a (.tail _ ha)

/-- **Sums** of amounts of bounded magnitude do not overflow. -/
theorem sum?_eq_ok (hk : k ≤ 999597) {amounts : List Decimal}
    (hamounts : ∀ a ∈ amounts, a.magnitude ≤ 10 ^ (k : Int)) :
    ∃ total, sum? amounts = .ok total := by
  have hzero : zero.magnitude ≤ limit k := by
    unfold zero limit
    rw [magnitude_finite, Nat.cast_zero, zero_mul]
    positivity
  have never := addAll_ne_overflow hk hzero hamounts
  unfold sum?
  cases hrun : addAll zero amounts with
  | ok total => exact ⟨_, rfl⟩
  | error fault =>
    cases fault with
    | invalid => exact ⟨_, rfl⟩
    | overflow => exact absurd hrun never

end Limit

end Decimal

end ReportCheck
