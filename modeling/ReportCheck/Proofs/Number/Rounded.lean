import ReportCheck.Proofs.Number.Closest
import ReportCheck.Proofs.Number.Literal
import ReportCheck.Proofs.Number.Whole

/-! # Correct rounding

  Decimal numbers are converted to the nearest double-precision number, and of two that are as
  near to the one with the even mantissa.

  - `Finite.IsRounded` is the rule for finite numbers, and `isRounded_of_nearest` says that rounding
    a quotient follows it. A tie can only be between neighbours at the exponent of the quotient:
    `mantissaOf_even_of_tie`. There is one result: `Finite.IsRounded.unique`.
  - `Binary64.IsRounded` adds the numbers that are too large. `ofScaled_isRounded`: the shortcuts
    for very large and very small numbers do not change the result.
  - `Literal.size` is the value of a literal without its sign; `Literal.isRounded_ofNumeral` is what
    all this comes to for literals.
-/

namespace ReportCheck

open Text

/-- **A half** goes to the even neighbour. -/
theorem roundDiv_even_of_tie {num den : Nat} (positive : 0 < den)
    (tie : |(num / den : ℚ) - roundDiv num den .even| = 1 / 2) :
    roundDiv num den .even % 2 = 0 := by
  have hden : (0 : ℚ) < den := Nat.cast_pos.2 positive
  have halves : 2 * num = 2 * (den * roundDiv num den .even) + den ∨
      2 * (den * roundDiv num den .even) = 2 * num + den := by
    rcases (abs_eq (by norm_num)).1 tie with above | below
    · left
      rw [sub_eq_iff_eq_add, div_eq_iff hden.ne'] at above
      have cast : (2 * num : ℚ) = 2 * (den * roundDiv num den .even) + den := by linarith
      exact_mod_cast cast
    · right
      rw [sub_eq_iff_eq_add, div_eq_iff hden.ne'] at below
      have cast : (2 * (den * roundDiv num den .even) : ℚ) = 2 * num + den := by linarith
      exact_mod_cast cast
  have split := Nat.div_add_mod num den
  have small := Nat.mod_lt num positive
  have up := Nat.mul_add den (num / den) 1
  simp only [roundDiv] at halves ⊢
  split
  · next less =>
    rw [if_pos less] at halves
    omega
  · next notLess =>
    rw [if_neg notLess] at halves
    split
    · next more =>
      rw [if_pos more] at halves
      omega
    · omega

namespace Binary64

/-! ### Ties -/

/-- **Ties.** If another number is as near to the quotient as the mantissa, the mantissa is even. -/
theorem mantissaOf_even_of_tie (num : Nat) {den : Nat} (hden : 0 < den) {z : Finite}
    (tie : |z.magnitude - num / den| =
      |(mantissaOf num den * 2 ^ exponentOf num den : ℚ) - num / den|)
    (other : z.magnitude ≠ mantissaOf num den * 2 ^ exponentOf num den) :
    mantissaOf num den % 2 = 0 := by
  rcases Nat.eq_zero_or_pos num with rfl | hnum
  · rw [mantissaOf_zero hden]
  have closest := abs_mantissaOf_sub_le num hden
  have half := abs_sub_mantissaOf_le_half num hden
  obtain ⟨-, -, fills⟩ := exponentOf_spec hnum hden
  have even : |(num / den : ℚ) / 2 ^ exponentOf num den - mantissaOf num den| = 1 / 2 →
      mantissaOf num den % 2 = 0 := by
    intro tie
    have positive : 0 < den * 2 ^ (exponentOf num den).toNat := by positivity
    have units := quotient_in_units 2 (by decide) num den (exponentOf num den)
    rw [Nat.cast_ofNat] at units
    rw [← units] at tie
    exact roundDiv_even_of_tie positive tie
  generalize mantissaOf num den = m at *
  generalize exponentOf num den = e at *
  have unit : (0 : ℚ) < 2 ^ e := by positivity
  rcases le_or_gt e z.exponent with coarse | fine
  · -- The other number is a whole multiple of the unit, so both are half a unit away.
    have multiple : z.magnitude = ((z.mantissa * 2 ^ (z.exponent - e).toNat : ℕ) : ℚ) * 2 ^ e :=
      mul_two_zpow_eq z.mantissa coarse
    generalize z.mantissa * 2 ^ (z.exponent - e).toNat = k at multiple
    rw [multiple, abs_mul_two_zpow_sub, abs_mul_two_zpow_sub] at tie
    have same := mul_right_cancel₀ unit.ne' tie
    have differ : (k : ℤ) ≠ m := by
      rintro equal
      refine other ?_
      rw [multiple, show k = m by exact_mod_cast equal]
    have far := half_le_abs_sub_of_ne (n := m) (by exact_mod_cast half) differ
    rw [abs_sub_comm, Int.cast_natCast, same, abs_sub_comm] at far
    exact even (le_antisymm half far)
  · -- A number below the binade of the quotient is not as near as the start of the binade.
    have reached : (2 : ℚ) ^ (e + 52) ≤ num / den :=
      fills.resolve_left fun least => absurd z.exponent_ge (by omega)
    have below : z.magnitude < 2 ^ (e + 52) :=
      z.magnitude_between.1.trans_le (zpow_le_zpow_right₀ (by norm_num) (by omega))
    have power : (2 : ℚ) ^ (e + 52) = ((2 ^ 52 : ℤ) : ℚ) * 2 ^ e := by
      rw [add_comm, zpow_add₀ (by norm_num)]
      norm_num
    have start := closest (2 ^ 52)
    rw [← power, ← tie, abs_of_nonpos (by linarith), abs_of_nonpos (by linarith)] at start
    linarith

/-- **Correct rounding.** No finite number is closer to the value, and if another one is as close
    the mantissa is even. -/
structure Finite.IsRounded (x : Finite) (v : ℚ) : Prop where
  nearest : x.IsNearest v
  even (z : Finite) (tie : |z.toRat - v| = |x.toRat - v|) (other : z.toRat ≠ x.toRat) :
    x.mantissa % 2 = 0

theorem mantissa_of_pack {negative : Bool} {mantissa : Nat} {exponent : Int} {x : Finite}
    (h : pack negative mantissa exponent = .finite x) : x.mantissa = mantissa := by
  unfold pack at h
  split at h
  · cases h
    rfl
  · cases h

theorem mantissa_of_nearest {negative : Bool} {num den : Nat} {x : Finite} (hden : 0 < den)
    (h : nearest negative num den = .finite x) :
    x.mantissa = mantissaOf num den ∨ x.mantissa = 2 ^ 52 := by
  unfold nearest at h
  split at h
  · next zero =>
    cases h
    rw [beq_iff_eq.1 zero, mantissaOf_zero hden]
    exact .inl rfl
  · simp only at h
    split at h
    · exact .inr (mantissa_of_pack h)
    · exact .inl (mantissa_of_pack h)

theorem Finite.toRat_eq_or_eq_neg {x z : Finite} (same : z.magnitude = x.magnitude) :
    z.toRat = x.toRat ∨ z.toRat = -x.toRat := by
  rw [← abs_eq_abs, z.abs_toRat, x.abs_toRat, same]

/-- **Rounding a quotient** is correct. -/
theorem isRounded_of_nearest {negative : Bool} {num den : Nat} {x : Finite} (hden : 0 < den)
    (h : nearest negative num den = .finite x) :
    x.IsRounded (Decimal.signed negative (num / den)) := by
  refine ⟨isNearest_of_nearest hden h, fun z tie other => ?_⟩
  have nonneg : (0 : ℚ) ≤ num / den := by positivity
  have even : mantissaOf num den % 2 = 0 := by
    obtain ⟨sign, size⟩ := nearest_spec hden h
    by_cases same : z.magnitude = x.magnitude
    · -- Opposite numbers are as near to zero only.
      have opposite := (Finite.toRat_eq_or_eq_neg same).resolve_left other
      have squares := sq_eq_sq_iff_abs_eq_abs _ _ |>.2 tie
      rw [opposite] at squares other
      rcases mul_eq_zero.1 (by linarith : x.toRat * Decimal.signed negative (num / den) = 0) with
        zero | zero
      · exact absurd (by rw [zero, neg_zero]) other
      · have size := congrArg (|·|) zero
        rw [Decimal.abs_signed _ nonneg, abs_zero, div_eq_zero_iff, Nat.cast_eq_zero,
          Nat.cast_eq_zero] at size
        rw [size.resolve_right hden.ne', mantissaOf_zero hden]
    · have distance := abs_abs_sub_abs_le z.toRat (Decimal.signed negative (num / den))
      have closest := abs_mantissaOf_sub_le_magnitude num hden z
      rw [tie, z.abs_toRat, Decimal.abs_signed _ nonneg, Finite.toRat, sign,
        Decimal.abs_signed_sub_signed, size] at distance
      rw [size] at same
      exact mantissaOf_even_of_tie num hden (le_antisymm distance closest) same
  rcases mantissa_of_nearest hden h with rounded | carried
  · rw [rounded, even]
  · rw [carried]
    decide

/-! ### One result -/

theorem Finite.exists_next {x : Finite} (even : x.mantissa % 2 = 0) :
    ∃ z : Finite, z.negative = x.negative ∧ z.exponent = x.exponent ∧
      z.mantissa = x.mantissa + 1 := by
  have short := x.mantissa_lt
  exact ⟨{ x with
    mantissa := x.mantissa + 1
    mantissa_lt := by omega
    normal := x.normal.imp_left fun full => by omega }, rfl, rfl, rfl⟩

theorem Finite.exists_between {x y : Finite} (less : x.magnitude < y.magnitude)
    (even : x.mantissa % 2 = 0) (even' : y.mantissa % 2 = 0) :
    ∃ z : Finite, z.negative = x.negative ∧ x.magnitude < z.magnitude ∧
      z.magnitude < y.magnitude := by
  obtain ⟨z, sign, exponent, mantissa⟩ := exists_next even
  have unit : (0 : ℚ) < 2 ^ x.exponent := by positivity
  refine ⟨z, sign, ?_, ?_⟩
  · unfold magnitude
    rw [exponent, mantissa]
    refine mul_lt_mul_of_pos_right ?_ unit
    exact_mod_cast x.mantissa.lt_succ_self
  · obtain ⟨fits, fills⟩ := y.magnitude_between
    have ordered : x.exponent ≤ y.exponent :=
      exponent_le_of_fills x.magnitude_between.2 y.exponent_ge (less.trans fits)
    rcases ordered.eq_or_lt with same | higher
    · -- At one exponent two even mantissas are two apart.
      unfold magnitude at less ⊢
      rw [← same] at less ⊢
      rw [exponent, mantissa]
      refine mul_lt_mul_of_pos_right ?_ unit
      have apart : x.mantissa < y.mantissa := by
        exact_mod_cast lt_of_mul_lt_mul_right less unit.le
      exact_mod_cast (by omega : x.mantissa + 1 < y.mantissa)
    · -- A higher exponent starts behind all mantissas of the lower one.
      have least := x.exponent_ge
      calc z.magnitude
          < 2 ^ (z.exponent + 53) := z.magnitude_between.1
        _ ≤ 2 ^ (y.exponent + 52) := zpow_le_zpow_right₀ (by norm_num) (by omega)
        _ ≤ y.magnitude := fills.resolve_left (by omega)

/-- **One result.** Of one sign there is no other correct result. -/
theorem Finite.IsRounded.unique {x y : Finite} {v : ℚ} (hx : x.IsRounded v) (hy : y.IsRounded v)
    (sign : x.negative = y.negative) : x = y := by
  by_contra other
  wlog less : x.magnitude < y.magnitude generalizing x y
  · refine this hy hx sign.symm (Ne.symm other) (lt_of_le_of_ne (not_lt.1 less) fun size => ?_)
    exact other (eq_of_magnitude_eq sign size.symm)
  have differ : y.toRat ≠ x.toRat := by
    unfold toRat
    rw [sign, Ne, Decimal.signed_inj]
    exact less.ne'
  have tie : |y.toRat - v| = |x.toRat - v| := le_antisymm (hy.nearest x) (hx.nearest y)
  obtain ⟨z, hz, low, high⟩ := exists_between less (hx.even y tie differ)
    (hy.even x tie.symm differ.symm)
  -- The value is the middle of the two, and what lies between them is nearer.
  have middle : y.toRat - v = -(x.toRat - v) := (abs_eq_abs.1 tie).resolve_left fun same =>
    differ (sub_left_injective same)
  refine absurd (hx.nearest z) (not_le.2 ?_)
  unfold toRat at middle ⊢
  rw [← sign] at middle
  rw [hz]
  generalize x.negative = negative at middle ⊢
  cases negative with
  | false =>
    rw [Decimal.signed_false, Decimal.signed_false] at middle ⊢
    rw [abs_of_neg (by linarith : x.magnitude - v < 0), abs_lt]
    exact ⟨by linarith, by linarith⟩
  | true =>
    rw [Decimal.signed_true, Decimal.signed_true] at middle ⊢
    rw [abs_of_pos (by linarith : 0 < -x.magnitude - v), abs_lt]
    exact ⟨by linarith, by linarith⟩

/-! ### Large and small numbers -/

theorem Finite.least_le_abs_toRat {x : Finite} (nonzero : x.mantissa ≠ 0) :
    (2 : ℚ) ^ (-1074 : ℤ) ≤ |x.toRat| := by
  have one : (1 : ℚ) ≤ x.mantissa := Nat.one_le_cast.2 (Nat.pos_of_ne_zero nonzero)
  rw [x.abs_toRat]
  calc (2 : ℚ) ^ (-1074 : ℤ)
      ≤ 2 ^ x.exponent := zpow_le_zpow_right₀ (by norm_num) x.exponent_ge
    _ ≤ x.mantissa * 2 ^ x.exponent := le_mul_of_one_le_left (by positivity) one

theorem Finite.isRounded_zero {x : Finite} (zero : x.mantissa = 0) {v : ℚ}
    (small : |v| ≤ 2 ^ (-1075 : ℤ)) : x.IsRounded v := by
  refine ⟨fun z => ?_, fun _ _ _ => by rw [zero]⟩
  rw [toRat_eq_zero_iff.2 zero, zero_sub, abs_neg]
  by_cases hz : z.mantissa = 0
  · rw [toRat_eq_zero_iff.2 hz, zero_sub, abs_neg]
  · have least := least_le_abs_toRat hz
    have far := abs_sub_abs_le_abs_sub z.toRat v
    have double : (2 : ℚ) ^ (-1074 : ℤ) = 2 ^ (-1075 : ℤ) + 2 ^ (-1075 : ℤ) := by
      rw [show (-1074 : ℤ) = -1075 + 1 by rfl, zpow_add_one₀ (by norm_num), mul_two]
    linarith

theorem ten_zpow_le_half_least : (10 : ℚ) ^ (-330 : ℤ) ≤ 2 ^ (-1075 : ℤ) := by
  have h : 2 ^ 1075 ≤ 10 ^ 330 := by decide +kernel
  have hcast := (Nat.cast_le (α := ℚ)).2 h
  rw [Nat.cast_pow, Nat.cast_pow, Nat.cast_ofNat, Nat.cast_ofNat] at hcast
  rw [zpow_neg, zpow_neg, zpow_ofNat, zpow_ofNat]
  exact inv_anti₀ (by positivity) hcast

/-- **Conversions** of decimal numbers are correct. -/
theorem isRounded_of_ofScaled {negative : Bool} {c : Nat} {e : Int} {x : Finite}
    (h : ofScaled negative c e = .finite x) :
    x.negative = negative ∧ x.IsRounded (Decimal.signed negative (c * 10 ^ e)) := by
  have nonneg : (0 : ℚ) ≤ c * 10 ^ e := by positivity
  unfold ofScaled at h
  simp only at h
  split at h
  · next zero =>
    cases h
    refine ⟨rfl, Finite.isRounded_zero rfl ?_⟩
    rw [beq_iff_eq.1 zero, Nat.cast_zero, zero_mul, Decimal.signed_zero, abs_zero]
    positivity
  · split at h
    · cases h
    · split at h
      · next few =>
        cases h
        refine ⟨rfl, Finite.isRounded_zero rfl ?_⟩
        rw [Decimal.abs_signed _ nonneg]
        exact (scaled_lt_pow c e).le.trans ((ten_zpow_le (by omega)).trans ten_zpow_le_half_least)
      · have value := scaled_eq_div 10 (by decide) c e
        rw [Nat.cast_ofNat] at value
        have positive : 0 < 10 ^ (-e).toNat := by positivity
        rw [value]
        exact ⟨(nearest_spec positive h).1, isRounded_of_nearest positive h⟩

/-- **The double-precision form** of a value with its sign: the nearest number, an even one of two,
    and an infinity from half a unit past the largest number on. -/
structure IsRounded (x : Binary64) (negative : Bool) (size : ℚ) : Prop where
  finite (below : size < overflowBound) :
    ∃ y, x = .finite y ∧ y.negative = negative ∧ y.IsRounded (Decimal.signed negative size)
  infinite (above : overflowBound ≤ size) : x = .infinite negative

/-- A value has no other such form. -/
theorem IsRounded.unique {x y : Binary64} {negative : Bool} {size : ℚ}
    (hx : x.IsRounded negative size) (hy : y.IsRounded negative size) : x = y := by
  rcases lt_or_ge size overflowBound with below | above
  · obtain ⟨x, rfl, sign, rounded⟩ := hx.finite below
    obtain ⟨y, rfl, sign', rounded'⟩ := hy.finite below
    rw [rounded.unique rounded' (sign.trans sign'.symm)]
  · rw [hx.infinite above, hy.infinite above]

theorem ofScaled_isRounded (negative : Bool) (c : Nat) (e : Int) :
    (ofScaled negative c e).IsRounded negative (c * 10 ^ e) := by
  rcases ofScaled_cases negative c e with ⟨below, y, hy⟩ | ⟨above, infinite⟩
  · exact ⟨fun _ => ⟨y, hy, isRounded_of_ofScaled hy⟩, fun above => absurd below (not_lt.2 above)⟩
  · exact ⟨fun below => absurd below (not_lt.2 above), fun _ => infinite⟩

end Binary64

/-! ### Literals -/

namespace Literal

/-- **The size** of a literal: what its digits count, by the place at which they stand. -/
def size (l : Literal) : ℚ :=
  (numeralValue l.whole + numeralValue (l.fraction.getD []) / 10 ^ (l.fraction.getD []).length) *
    10 ^ l.exponentValue

theorem scaled_numeral (l : Literal) :
    (l.numeral.coefficient : ℚ) * 10 ^ l.numeral.exponent = l.size := by
  have places : (10 : ℚ) ^ (l.fraction.getD []).length ≠ 0 := by positivity
  unfold numeral digits size
  simp only
  rw [numeralValue_append, zpow_sub₀ (by norm_num), zpow_natCast]
  push_cast
  field_simp

/-- **The number of a literal** is its size with its sign, rounded once. -/
theorem isRounded_ofNumeral (l : Literal) :
    (Binary64.ofNumeral l.numeral).IsRounded l.sign.negative l.size := by
  rw [← l.scaled_numeral]
  exact Binary64.ofScaled_isRounded _ _ _

end Literal

end ReportCheck
