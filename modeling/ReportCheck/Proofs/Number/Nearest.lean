import ReportCheck.Proofs.Number.Magnitude

/-! # Conversions to double precision

  Which numbers have a nearest double-precision number that is finite.

  - `exponentOf_spec`: at the exponent that `Binary64.nearest` picks, the mantissa of the
    quotient fits 53 bits, and it fills them unless the exponent is the least one.
  - `nearest_eq_finite` and `nearest_eq_infinite`: quotients below half a unit past the
    largest number are rounded to finite ones, all others to infinity.
  - `ofInt?_cases` and `ofScaled_cases` follow for whole and decimal numbers.
-/

namespace ReportCheck

namespace Binary64

/-! ### The exponent of a quotient -/

/-- The test by which the exponent is corrected compares the quotient with a power of
    two. -/
theorem pow_le_quotient_iff (bits num : Nat) {den : Nat} (positive : 0 < den) (g : Int) :
    2 ^ bits * (den * 2 ^ g.toNat) ≤ num * 2 ^ (-g).toNat ↔
      (2 : ℚ) ^ (g + bits) ≤ num / den := by
  have hden : (0 : ℚ) < den := Nat.cast_pos.2 positive
  have down : (0 : ℚ) < ((2 : ℕ) : ℚ) ^ (-g).toNat := by positivity
  have up := zpow_mul_pow_neg 2 (by decide) g
  -- One of the two natural powers is one; multiplying by it on both sides removes it.
  rw [← Nat.cast_le (α := ℚ), le_div_iff₀ hden, zpow_add₀ (by norm_num), zpow_natCast]
  rw [Nat.cast_mul, Nat.cast_mul, Nat.cast_mul, Nat.cast_pow, Nat.cast_pow, Nat.cast_pow, ← up,
    show ((2 : ℕ) : ℚ) ^ bits * (den * (((2 : ℕ) : ℚ) ^ g * ((2 : ℕ) : ℚ) ^ (-g).toNat)) =
      ((2 : ℕ) : ℚ) ^ g * ((2 : ℕ) : ℚ) ^ bits * den * ((2 : ℕ) : ℚ) ^ (-g).toNat by ring]
  exact mul_le_mul_iff_left₀ down

theorem quotient_between {num den : Nat} (hnum : 0 < num) (hden : 0 < den) :
    (2 : ℚ) ^ ((num.log2 : Int) - den.log2 - 1) ≤ num / den ∧
      (num / den : ℚ) < 2 ^ ((num.log2 : Int) - den.log2 + 1) := by
  have numLow : ((2 ^ num.log2 : ℕ) : ℚ) ≤ num := Nat.cast_le.2 (Nat.log2_self_le hnum.ne')
  have numHigh : (num : ℚ) < ((2 ^ (num.log2 + 1) : ℕ) : ℚ) := Nat.cast_lt.2 Nat.lt_log2_self
  have denLow : ((2 ^ den.log2 : ℕ) : ℚ) ≤ den := Nat.cast_le.2 (Nat.log2_self_le hden.ne')
  have denHigh : (den : ℚ) < ((2 ^ (den.log2 + 1) : ℕ) : ℚ) := Nat.cast_lt.2 Nat.lt_log2_self
  have positive : (0 : ℚ) < den := Nat.cast_pos.2 hden
  push_cast at numLow numHigh denLow denHigh
  -- The least quotient has the least numerator and the largest denominator.
  constructor
  · rw [show (num.log2 : Int) - den.log2 - 1 = (num.log2 : Int) - ((den.log2 + 1 : ℕ) : Int) by
      push_cast; ring, zpow_sub₀ (by norm_num), zpow_natCast, zpow_natCast]
    exact div_le_div₀ (by positivity) numLow positive denHigh.le
  · rw [show (num.log2 : Int) - den.log2 + 1 = ((num.log2 + 1 : ℕ) : Int) - (den.log2 : Int) by
      push_cast; ring, zpow_sub₀ (by norm_num), zpow_natCast, zpow_natCast]
    exact div_lt_div₀ numHigh denLow (by positivity) (by positivity)

/-- **Exponent** of a quotient. -/
theorem exponentOf_spec {num den : Nat} (hnum : 0 < num) (hden : 0 < den) :
    -1074 ≤ exponentOf num den ∧ (num / den : ℚ) < 2 ^ (exponentOf num den + 53) ∧
      (exponentOf num den = -1074 ∨ (2 : ℚ) ^ (exponentOf num den + 52) ≤ num / den) := by
  obtain ⟨low, high⟩ := quotient_between hnum hden
  unfold exponentOf
  generalize hguess : max ((num.log2 : Int) - den.log2 - 53) (-1074) = guess
  have hbelow : (2 : ℚ) ^ ((num.log2 : Int) - den.log2 + 1) ≤ 2 ^ (guess + 54) :=
    zpow_le_zpow_right₀ (by norm_num) (by omega)
  simp only
  split
  · next large =>
    -- The quotient has a bit more than the guess allows for.
    have hlarge := (pow_le_quotient_iff 53 num hden guess).1 large
    refine ⟨by omega, ?_, .inr ?_⟩
    · rw [show guess + 1 + 53 = guess + 54 by ring]
      exact lt_of_lt_of_le high hbelow
    · rw [show guess + 1 + 52 = guess + (53 : ℕ) by push_cast; ring]
      exact hlarge
  · next small =>
    have hsmall := mt (pow_le_quotient_iff 53 num hden guess).2 small
    refine ⟨by omega, not_le.1 hsmall, ?_⟩
    -- The guess is the least exponent, or it comes from the lengths.
    by_cases least : guess = -1074
    · exact .inl least
    · refine .inr (le_trans ?_ low)
      exact zpow_le_zpow_right₀ (by norm_num) (by omega)

/-! ### The mantissa of a quotient -/

theorem mantissa_between (num : Nat) {den : Nat} (hden : 0 < den) (e : Int) :
    (num / den : ℚ) / 2 ^ e - 1 / 2 ≤
        roundDiv (num * 2 ^ (-e).toNat) (den * 2 ^ e.toNat) .even ∧
      (roundDiv (num * 2 ^ (-e).toNat) (den * 2 ^ e.toNat) .even : ℚ) ≤
        (num / den : ℚ) / 2 ^ e + 1 / 2 := by
  have positive : 0 < den * 2 ^ e.toNat := by positivity
  have units := quotient_in_units 2 (by decide) num den e
  rw [Nat.cast_ofNat] at units
  rw [← units]
  exact ⟨sub_half_le_roundDiv _ _ positive, roundDiv_le_add_half _ _ positive⟩

/-- A quotient with at most 53 bits before the point has no longer mantissa, but may be
    rounded up to the next power of two. -/
theorem mantissa_le {m : Nat} {u : ℚ} (fits : u < 2 ^ 53) (above : (m : ℚ) ≤ u + 1 / 2) :
    m ≤ 2 ^ 53 := by
  have h : (m : ℚ) < 2 ^ 53 + 1 := by linarith
  have hcast : m < 2 ^ 53 + 1 := by exact_mod_cast h
  omega

theorem le_mantissa {m : Nat} {u : ℚ} (fills : 2 ^ 52 ≤ u) (under : u - 1 / 2 ≤ m) :
    2 ^ 52 ≤ m := by
  have h : (2 ^ 52 : ℚ) < m + 1 := by linarith
  have hcast : 2 ^ 52 < m + 1 := by exact_mod_cast h
  omega

/-! ### Finite results -/

/-- Half a unit past the largest number; from here on quotients are rounded to
    infinity. -/
def overflowBound : ℚ := (2 ^ 53 - 1 / 2) * 2 ^ (971 : Int)

theorem overflowBound_between : (2 : ℚ) ^ (1023 : Int) ≤ overflowBound ∧ overflowBound < 2 ^ (1024 : Int) := by
  have unit : (0 : ℚ) < 2 ^ (971 : Int) := by positivity
  unfold overflowBound
  constructor
  · rw [show (1023 : Int) = 52 + 971 by rfl, zpow_add₀ (by norm_num)]
    exact mul_le_mul_of_nonneg_right (by norm_num) unit.le
  · rw [show (1024 : Int) = 53 + 971 by rfl, zpow_add₀ (by norm_num)]
    exact mul_lt_mul_of_pos_right (by norm_num) unit

/-- A quotient that fills its mantissa at an exponent past the largest one is past the
    bound. -/
theorem exponent_le {e : Int} {v : ℚ} (below : v < overflowBound) (fills : 2 ^ (e + 52) ≤ v) :
    e ≤ 971 := by
  have h : (2 : ℚ) ^ (e + 52) < 2 ^ (1024 : Int) := by linarith [overflowBound_between.2]
  have hlt := (zpow_lt_zpow_iff_right₀ (by norm_num)).1 h
  omega

/-- A quotient that is rounded up to a power of two at the largest exponent is past the
    bound. -/
theorem exponent_lt {e : Int} {v : ℚ} (below : v < overflowBound)
    (carry : (2 ^ 53 : ℚ) ≤ v / 2 ^ e + 1 / 2) : e < 971 := by
  by_contra large
  have unit : (0 : ℚ) < 2 ^ e := by positivity
  have hpow : (2 : ℚ) ^ (971 : Int) ≤ 2 ^ e := zpow_le_zpow_right₀ (by norm_num) (by omega)
  -- Half a bit short of the power of two, in units of at least the largest exponent.
  have hv : ((2 : ℚ) ^ 53 - 1 / 2) * 2 ^ e ≤ v := by
    rw [← le_div_iff₀ unit]
    linarith
  have hle : overflowBound ≤ ((2 : ℚ) ^ 53 - 1 / 2) * 2 ^ e :=
    mul_le_mul_of_nonneg_left hpow (by norm_num)
  linarith

theorem pack_eq_finite (negative : Bool) {mantissa : Nat} {exponent : Int}
    (hmantissa : mantissa < 2 ^ 53) (hge : -1074 ≤ exponent) (hle : exponent ≤ 971)
    (normal : 2 ^ 52 ≤ mantissa ∨ exponent = -1074) :
    ∃ x, pack negative mantissa exponent = .finite x := by
  unfold pack
  rw [dif_pos ⟨hmantissa, hge, hle, normal⟩]
  exact ⟨_, rfl⟩

/-- **Rounding does not overflow** below the bound. -/
theorem nearest_eq_finite (negative : Bool) (num : Nat) {den : Nat} (hden : 0 < den)
    (below : (num / den : ℚ) < overflowBound) : ∃ x, nearest negative num den = .finite x := by
  unfold nearest
  by_cases hzero : num = 0
  · rw [if_pos (by simpa using hzero)]
    exact ⟨_, rfl⟩
  rw [if_neg (by simpa using hzero)]
  obtain ⟨least, fits, fills⟩ := exponentOf_spec (Nat.pos_of_ne_zero hzero) hden
  obtain ⟨under, above⟩ := mantissa_between num hden (exponentOf num den)
  simp only
  generalize exponentOf num den = e at *
  generalize roundDiv (num * 2 ^ (-e).toNat) (den * 2 ^ e.toNat) .even = m at *
  have unit : (0 : ℚ) < 2 ^ e := by positivity
  have fitsUnits : (num / den : ℚ) / 2 ^ e < 2 ^ 53 := by
    rw [zpow_add₀ (by norm_num)] at fits
    rw [div_lt_iff₀ unit, mul_comm]
    exact fits
  have hm := mantissa_le fitsUnits above
  by_cases carry : m = 2 ^ 53
  · -- The mantissa is rounded up to a power of two, which shifts the exponent by one.
    rw [if_pos (by simpa using carry)]
    subst carry
    push_cast at above
    have := exponent_lt below above
    exact pack_eq_finite negative (by decide) (by omega) (by omega) (.inl le_rfl)
  · rw [if_neg (by simpa using carry)]
    -- Below the normal range the mantissa may be short; otherwise it is full.
    rcases fills with hleast | fills
    · exact pack_eq_finite negative (by omega) least (by omega) (.inr hleast)
    · have fillsUnits : (2 : ℚ) ^ 52 ≤ (num / den : ℚ) / 2 ^ e := by
        rw [zpow_add₀ (by norm_num)] at fills
        rw [le_div_iff₀ unit, mul_comm]
        exact fills
      exact pack_eq_finite negative (by omega) least (exponent_le below fills)
        (.inl (le_mantissa fillsUnits under))

/-! ### Infinite results -/

theorem pack_eq_infinite (negative : Bool) (mantissa : Nat) {exponent : Int} (h : 971 < exponent) :
    pack negative mantissa exponent = .infinite negative := by
  unfold pack
  rw [dif_neg (by omega)]

theorem le_mantissa_of_overflow (num : Nat) {den : Nat} (hden : 0 < den)
    (above : overflowBound ≤ (num / den : ℚ)) :
    2 ^ 53 ≤ roundDiv (num * 2 ^ (-971 : Int).toNat) (den * 2 ^ (971 : Int).toNat) .even := by
  have positive : 0 < den * 2 ^ (971 : Int).toNat := by positivity
  have units := quotient_in_units 2 (by decide) num den 971
  rw [Nat.cast_ofNat] at units
  generalize num * 2 ^ (-971 : Int).toNat = n at *
  generalize den * 2 ^ (971 : Int).toNat = d at *
  by_contra below
  -- The largest mantissa is odd, so half a bit above it goes up already.
  have short : 2 * n < (2 ^ 54 - 1) * d :=
    lt_of_roundDiv_even_le (m := 2 ^ 53 - 1) (by norm_num) (by omega) positive
  have hd : (0 : ℚ) < d := Nat.cast_pos.2 positive
  have quotient : (n / d : ℚ) < 2 ^ 53 - 1 / 2 := by
    have reduced : 2 * n < 18014398509481983 * d := by simpa using short
    have cast : (2 : ℚ) * n < 18014398509481983 * d := by exact_mod_cast reduced
    rw [div_lt_iff₀ hd]
    linarith
  rw [units, div_lt_iff₀ (by positivity)] at quotient
  exact absurd above (not_le.2 quotient)

/-- **Rounding overflows** from the bound on. -/
theorem nearest_eq_infinite (negative : Bool) {num den : Nat} (hden : 0 < den)
    (above : overflowBound ≤ (num / den : ℚ)) : nearest negative num den = .infinite negative := by
  have bound := overflowBound_between.1
  have hnum : 0 < num := by
    rw [Nat.pos_iff_ne_zero]
    rintro rfl
    rw [Nat.cast_zero, zero_div] at above
    have positive : (0 : ℚ) < 2 ^ (1023 : Int) := by positivity
    exact absurd (bound.trans above) (not_le.2 positive)
  unfold nearest
  rw [if_neg (by simpa using hnum.ne')]
  obtain ⟨-, fits, -⟩ := exponentOf_spec hnum hden
  have carries := le_mantissa_of_overflow num hden above
  generalize exponentOf num den = e at *
  have large : 970 < e := by
    have := (zpow_lt_zpow_iff_right₀ (by norm_num)).1 (lt_of_le_of_lt (bound.trans above) fits)
    omega
  have fitsUnits : (num / den : ℚ) / 2 ^ e < 2 ^ 53 := by
    rw [zpow_add₀ (by norm_num)] at fits
    rw [div_lt_iff₀ (by positivity), mul_comm]
    exact fits
  have full := mantissa_le fitsUnits (mantissa_between num hden e).2
  simp only
  by_cases top : e = 971
  · -- At the largest exponent the mantissa carries.
    subst top
    generalize roundDiv (num * 2 ^ (-971 : Int).toNat) (den * 2 ^ (971 : Int).toNat) .even = m at *
    rw [if_pos (by simpa using le_antisymm full carries)]
    exact pack_eq_infinite negative _ (by omega)
  · split
    · exact pack_eq_infinite negative _ (by omega)
    · exact pack_eq_infinite negative _ (by omega)

/-! ### Numbers of many digits -/

theorem ten_pow_lt_overflowBound : (10 : ℚ) ^ 308 < overflowBound := by
  have h : 2 * 10 ^ 308 < (2 ^ 54 - 1) * 2 ^ 971 := by decide +kernel
  -- The large powers stay folded, so that only their relation is used.
  have hcast := (Nat.cast_lt (α := ℚ)).2 h
  rw [Nat.cast_mul, Nat.cast_mul, Nat.cast_pow, Nat.cast_pow, Nat.cast_ofNat, Nat.cast_ofNat,
    Nat.cast_sub (by norm_num), Nat.cast_pow, Nat.cast_ofNat, Nat.cast_one] at hcast
  unfold overflowBound
  rw [zpow_ofNat]
  generalize (2 : ℚ) ^ 971 = unit at *
  generalize (10 : ℚ) ^ 308 = ten at *
  linarith

theorem overflowBound_lt_ten_zpow : overflowBound < 10 ^ (310 : Int) := by
  have h : 2 ^ 1024 < 10 ^ 310 := by decide +kernel
  have hcast := (Nat.cast_lt (α := ℚ)).2 h
  rw [Nat.cast_pow, Nat.cast_pow, Nat.cast_ofNat, Nat.cast_ofNat] at hcast
  refine lt_trans overflowBound_between.2 ?_
  rw [zpow_ofNat, zpow_ofNat]
  exact hcast

/-! ### Conversions -/

/-- **Whole numbers** are converted to finite numbers up to the bound, and not at all from the
    bound on. -/
theorem ofInt?_cases (n : Int) :
    ((n.natAbs : ℚ) < overflowBound ∧ ∃ x, ofInt? n = some (.finite x)) ∨
      (overflowBound ≤ n.natAbs ∧ ofInt? n = none) := by
  have quotient : ((n.natAbs : ℚ) / (1 : ℕ)) = n.natAbs := by rw [Nat.cast_one, div_one]
  unfold ofInt?
  rcases lt_or_ge (n.natAbs : ℚ) overflowBound with below | above
  · obtain ⟨x, hx⟩ := nearest_eq_finite (n < 0) n.natAbs Nat.one_pos (by rwa [quotient])
    rw [hx]
    exact .inl ⟨below, x, rfl⟩
  · rw [nearest_eq_infinite (n < 0) Nat.one_pos (by rwa [quotient])]
    exact .inr ⟨above, rfl⟩

theorem ofInt?_eq_none_iff {n : Int} : ofInt? n = none ↔ overflowBound ≤ n.natAbs := by
  rcases ofInt?_cases n with ⟨below, x, hx⟩ | ⟨above, hx⟩
  · rw [hx]
    exact iff_of_false (Option.some_ne_none _) (not_le.2 below)
  · exact iff_of_true hx above

/-- **Decimal numbers** are converted to infinity exactly from the bound on. -/
theorem ofScaled_cases (negative : Bool) (c : Nat) (e : Int) :
    ((c : ℚ) * 10 ^ e < overflowBound ∧ ∃ x, ofScaled negative c e = .finite x) ∨
      (overflowBound ≤ (c : ℚ) * 10 ^ e ∧ ofScaled negative c e = .infinite negative) := by
  have bound : 0 < overflowBound := lt_of_lt_of_le (by positivity) overflowBound_between.1
  unfold ofScaled
  by_cases zero : c = 0
  · subst zero
    rw [Nat.cast_zero, zero_mul]
    exact .inl ⟨bound, _, rfl⟩
  rw [if_neg (by simpa using zero)]
  have leading := pow_le_scaled (Nat.pos_of_ne_zero zero) e
  split
  · -- The shortcut to infinity is taken past the bound only.
    next many =>
    refine .inr ⟨le_trans overflowBound_lt_ten_zpow.le (le_trans ?_ leading), rfl⟩
    exact ten_zpow_le (by omega)
  · split
    · next few =>
      refine .inl ⟨lt_trans (scaled_lt_pow c e) (lt_of_lt_of_le ?_ overflowBound_between.1), _, rfl⟩
      have small : (10 : ℚ) ^ (e + digitCount c) ≤ 10 ^ (0 : Int) := ten_zpow_le (by omega)
      rw [zpow_zero] at small
      exact lt_of_le_of_lt small (one_lt_zpow₀ (by norm_num) (by norm_num))
    · have value := shift_div_shift 10 (by decide) c 1 e
      rw [one_mul, div_one] at value
      have quotient : (((c * 10 ^ e.toNat : ℕ) : ℚ) / ((10 ^ (-e).toNat : ℕ) : ℚ)) = c * 10 ^ e := by
        push_cast at value ⊢
        exact value
      rw [← quotient]
      by_cases above : overflowBound ≤ ((c * 10 ^ e.toNat : ℕ) : ℚ) / ((10 ^ (-e).toNat : ℕ) : ℚ)
      · exact .inr ⟨above, nearest_eq_infinite negative (by positivity) above⟩
      · exact .inl ⟨not_le.1 above, nearest_eq_finite negative _ (by positivity) (not_le.1 above)⟩

theorem ofInt?_eq_some {n : Int} (h : n.natAbs < 10 ^ 308) : ∃ x, ofInt? n = some (.finite x) := by
  have hcast : (n.natAbs : ℚ) < 10 ^ 308 := by exact_mod_cast h
  rcases ofInt?_cases n with ⟨-, finite⟩ | ⟨above, -⟩
  · exact finite
  · exact absurd (lt_trans hcast ten_pow_lt_overflowBound) (not_lt.2 above)

theorem ofScaled_eq_finite (negative : Bool) {c : Nat} {e : Int} (h : (c : ℚ) * 10 ^ e < 10 ^ 308) :
    ∃ x, ofScaled negative c e = .finite x := by
  rcases ofScaled_cases negative c e with ⟨-, finite⟩ | ⟨above, -⟩
  · exact finite
  · exact absurd (lt_trans h ten_pow_lt_overflowBound) (not_lt.2 above)

end Binary64

end ReportCheck
