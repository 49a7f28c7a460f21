import ReportCheck.Proofs.Number.Value
import Mathlib.Algebra.Group.Subgroup.ZPowers.Basic

/-! # Addition is correctly rounded

  The sum of two finite amounts is the exact sum, brought to the 400 digits that are kept.

  - `LastPlace v low`: the last digit kept of a value of size `v` stands for `10 ^ low`.
    `RoundsTo x y`: `y` has no digits past that place, and is at most half a unit away.
  - `overflowBound` is the size from which on a result exceeds the range of exponents.
  - `fit_isRounded` is the step that brings a coefficient to the precision. `InCell` tells
    why a value that is too small to be seen may be replaced by another one.
  - `add_isRounded`: an addition overflows or rounds the exact sum, whichever the bound
    says.
-/

namespace ReportCheck

namespace Decimal

/-! ### Grids -/

/-- **Grids.** The numbers without digits past the place `k`. -/
def grid (k : Int) : AddSubgroup ℚ := AddSubgroup.zmultiples (10 ^ k)

/-- The grid with the points half way in between. -/
def halfGrid (k : Int) : AddSubgroup ℚ := AddSubgroup.zmultiples (10 ^ k / 2)

theorem mem_zmultiples_iff_mul {unit x : ℚ} :
    x ∈ AddSubgroup.zmultiples unit ↔ ∃ z : ℤ, x = z * unit := by
  rw [AddSubgroup.mem_zmultiples_iff]
  constructor
  · rintro ⟨z, rfl⟩
    exact ⟨z, zsmul_eq_mul unit z⟩
  · rintro ⟨z, rfl⟩
    exact ⟨z, zsmul_eq_mul unit z⟩

theorem mem_grid_iff {k : Int} {x : ℚ} : x ∈ grid k ↔ ∃ z : ℤ, x = z * 10 ^ k :=
  mem_zmultiples_iff_mul

theorem mem_halfGrid_iff {k : Int} {x : ℚ} : x ∈ halfGrid k ↔ ∃ z : ℤ, x = z * (10 ^ k / 2) :=
  mem_zmultiples_iff_mul

theorem grid_le {k l : Int} (h : k ≤ l) : grid l ≤ grid k := by
  intro x hx
  obtain ⟨z, rfl⟩ := mem_grid_iff.1 hx
  rw [mem_grid_iff]
  refine ⟨z * (10 ^ (l - k).toNat : ℕ), ?_⟩
  rw [ten_zpow_eq_mul h]
  push_cast
  ring

theorem signed_mem_grid (negative : Bool) (c : Nat) (e : Int) : signed negative (c * 10 ^ e) ∈ grid e :=
  mem_grid_iff.2 ⟨signedCoefficient negative c, by rw [signedCoefficient_cast, signed_mul]⟩

theorem half_mem_halfGrid {k l : Int} (h : k ≤ l) : (10 : ℚ) ^ l / 2 ∈ halfGrid k := by
  rw [mem_halfGrid_iff]
  refine ⟨(10 ^ (l - k).toNat : ℕ), ?_⟩
  rw [ten_zpow_eq_mul h]
  push_cast
  ring

theorem grid_le_halfGrid {k l : Int} (h : k ≤ l) : grid l ≤ halfGrid k := by
  intro x hx
  obtain ⟨z, rfl⟩ := mem_grid_iff.1 hx
  have halves : (z : ℚ) * 10 ^ l = (2 * z : ℤ) • ((10 : ℚ) ^ l / 2) := by
    rw [zsmul_eq_mul]
    push_cast
    ring
  rw [halves]
  exact AddSubgroup.zsmul_mem _ (half_mem_halfGrid h) _

/-! ### Rounding to the precision -/

/-- **Last place** of the digits kept of a value of size `v`: 400 digits end there, or it
    is the least one of all. -/
structure LastPlace (v : ℚ) (low : Int) : Prop where
  least : minExponent ≤ low
  covers : v < 10 ^ (low + 400)
  full : low = minExponent ∨ (10 : ℚ) ^ (low + 399) ≤ v

/-- **Rounding** to the precision. -/
def RoundsTo (x y : ℚ) : Prop :=
  ∃ low, LastPlace |x| low ∧ y ∈ grid low ∧ |y - x| ≤ 10 ^ low / 2

/-- Half a unit past the largest number; from here on a result overflows. -/
def overflowBound : ℚ := (10 ^ (400 : Int) - 1 / 2) * 10 ^ (maxExponent - 399)

/-- **Rounded results.** The outcome of an operation with exact result `x`. -/
def IsRounded (x : ℚ) (outcome : Except SumFault Decimal) : Prop :=
  (overflowBound ≤ |x| ∧ outcome = .error .overflow) ∨
    (|x| < overflowBound ∧ ∃ d, outcome = .ok d ∧ d.isFinite = true ∧ RoundsTo x d.toRat)

/-! ### The end of the range -/

theorem overflowBound_le : overflowBound ≤ 10 ^ (maxExponent + 1) := by
  have unit : (0 : ℚ) < 10 ^ (maxExponent - 399) := by positivity
  have split : (10 : ℚ) ^ (maxExponent + 1) = 10 ^ (400 : Int) * 10 ^ (maxExponent - 399) := by
    rw [← zpow_add₀ (by norm_num)]
    congr 1
  unfold overflowBound
  rw [split]
  generalize (10 : ℚ) ^ (400 : Int) = ten
  nlinarith

theorem lt_overflowBound {m : Nat} {low : Int} (hm : m < 10 ^ 400) (hlow : low ≤ maxExponent - 399) :
    ((m : ℚ) + 1 / 2) * 10 ^ low ≤ overflowBound := by
  have hcast : ((m + 1 : ℕ) : ℚ) ≤ ((10 ^ 400 : ℕ) : ℚ) := Nat.cast_le.2 hm
  rw [Nat.cast_pow, Nat.cast_ofNat, Nat.cast_add, Nat.cast_one] at hcast
  have hpow : (10 : ℚ) ^ low ≤ 10 ^ (maxExponent - 399) := ten_zpow_le hlow
  have positive : (0 : ℚ) ≤ 10 ^ low := by positivity
  unfold overflowBound
  rw [zpow_ofNat]
  generalize (10 : ℚ) ^ 400 = ten at *
  refine mul_le_mul (by linarith) hpow positive ?_
  have nonneg : (0 : ℚ) ≤ m := Nat.cast_nonneg m
  linarith

theorem ten_zpow_lt_overflowBound {k : Int} (h : k ≤ maxExponent) : (10 : ℚ) ^ k < overflowBound := by
  have fewer : 10 ^ 399 < 10 ^ 400 := pow_lt_pow_right₀ (by norm_num) (by norm_num)
  have bound := lt_overflowBound fewer (show k - 399 ≤ maxExponent - 399 by omega)
  have unit : (0 : ℚ) < 10 ^ (k - 399) := by positivity
  have split : (10 : ℚ) ^ k = 10 ^ 399 * 10 ^ (k - 399) := by
    rw [← zpow_ofNat, ← zpow_add₀ (by norm_num)]
    congr 1
    omega
  rw [Nat.cast_pow, Nat.cast_ofNat] at bound
  rw [split]
  generalize (10 : ℚ) ^ 399 = ten at *
  nlinarith

/-! ### Fitting a result -/

/-- A coefficient brought to a larger exponent: it is moved by at most half a unit, and
    past an odd number only by a value past the middle above it. -/
theorem rounded_near {c : Nat} {e low : Int} (h : e < low) {rounded : Nat}
    (hrounded : (if digitCount c + 1 < (low - e).toNat then 0
      else roundDiv c (10 ^ (low - e).toNat) .even) = rounded) :
    |(rounded : ℚ) * 10 ^ low - c * 10 ^ e| ≤ 10 ^ low / 2 ∧
      ∀ m : ℕ, m % 2 = 1 → rounded ≤ m → (c : ℚ) * 10 ^ e < (m + 1 / 2) * 10 ^ low := by
  have unit : (0 : ℚ) < 10 ^ low := by positivity
  have nonneg : (0 : ℚ) ≤ c * 10 ^ e := by positivity
  subst hrounded
  by_cases tiny : digitCount c + 1 < (low - e).toNat
  · rw [if_pos tiny]
    -- The value is less than a hundredth of the unit.
    have hsmall : (c : ℚ) * 10 ^ e < 10 ^ (low - 2) :=
      lt_of_lt_of_le (scaled_lt_pow c e) (ten_zpow_le (by omega))
    rw [zpow_sub₀ (by norm_num)] at hsmall
    norm_num at hsmall
    constructor
    · rw [Nat.cast_zero, zero_mul, zero_sub, abs_neg, abs_of_nonneg nonneg]
      linarith
    · intro m odd _
      have hm : (1 : ℚ) ≤ m := by
        have : 1 ≤ m := by omega
        exact_mod_cast this
      nlinarith
  · rw [if_neg tiny]
    have positive : 0 < 10 ^ (low - e).toNat := by positivity
    have shift : (0 : ℚ) < ((10 ^ (low - e).toNat : ℕ) : ℚ) := by positivity
    -- In units of the place, the value is the quotient that is rounded.
    have inUnits : (c : ℚ) * 10 ^ e = c / ((10 ^ (low - e).toNat : ℕ) : ℚ) * 10 ^ low := by
      rw [ten_zpow_eq_mul h.le, ← mul_assoc, div_mul_cancel₀ _ shift.ne']
    have above := roundDiv_le_add_half c .even positive
    have under := sub_half_le_roundDiv c .even positive
    rw [inUnits]
    constructor
    · rw [← sub_mul, abs_mul, abs_of_pos unit]
      have near : |(roundDiv c (10 ^ (low - e).toNat) .even : ℚ) -
          c / ((10 ^ (low - e).toNat : ℕ) : ℚ)| ≤ 1 / 2 := by
        rw [abs_le]
        constructor
        · linarith
        · linarith
      have hmul := mul_le_mul_of_nonneg_right near unit.le
      linarith
    · intro m odd hm
      have hlt : ((2 * c : ℕ) : ℚ) < (((2 * m + 1) * 10 ^ (low - e).toNat : ℕ) : ℚ) :=
        Nat.cast_lt.2 (lt_of_roundDiv_even_le odd hm positive)
      rw [Nat.cast_mul, Nat.cast_mul, Nat.cast_add, Nat.cast_mul, Nat.cast_ofNat,
        Nat.cast_one] at hlt
      refine mul_lt_mul_of_pos_right ?_ unit
      rw [div_lt_iff₀ shift]
      linarith

theorem lastPlace_of_digits {c : Nat} (positive : 0 < c) (e : Int) :
    LastPlace ((c : ℚ) * 10 ^ e) (max (e + digitCount c - precision) minExponent) := by
  have upper := scaled_lt_pow c e
  have lower := pow_le_scaled positive e
  unfold precision
  constructor
  · exact le_max_right _ _
  · exact lt_of_lt_of_le upper (ten_zpow_le (by omega))
  · -- Either the digits decide the place, or it is the least one.
    by_cases small : e + digitCount c - (400 : ℕ) ≤ minExponent
    · exact .inl (max_eq_right small)
    · refine .inr (le_trans ?_ lower)
      exact ten_zpow_le (by omega)

/-- A value that a coefficient is rounded to with a digit more than are kept is the power
    of ten past them. -/
theorem rounded_eq_pow {rounded : Nat} {low : Int} {v : ℚ} (covers : v < 10 ^ (low + 400))
    (near : |(rounded : ℚ) * 10 ^ low - v| ≤ 10 ^ low / 2) (long : precision < digitCount rounded) :
    rounded = 10 ^ 400 := by
  have unit : (0 : ℚ) < 10 ^ low := by positivity
  have nonzero : 0 < rounded := by
    by_contra zero
    have hzero : rounded = 0 := by omega
    subst hzero
    exact absurd long (by decide)
  have least : 10 ^ 400 ≤ rounded := by
    have digits : 10 ^ 400 ≤ 10 ^ (digitCount rounded - 1) :=
      pow_le_pow_right₀ (by norm_num) (by unfold precision at long; omega)
    exact le_trans digits (pow_le_of_pos nonzero)
  -- It cannot be past the power either, because the value is below it.
  have hmost : (rounded : ℚ) < 10 ^ 400 + 1 := by
    rw [zpow_add₀ (by norm_num), zpow_ofNat] at covers
    have := (abs_le.1 near).2
    have : (rounded : ℚ) * 10 ^ low < (10 ^ 400 + 1) * 10 ^ low := by
      generalize (10 : ℚ) ^ 400 = ten at *
      linarith
    exact lt_of_mul_lt_mul_right this unit.le
  have most : rounded < 10 ^ 400 + 1 := by
    have hcast : (rounded : ℚ) < ((10 ^ 400 + 1 : ℕ) : ℚ) := by
      rw [Nat.cast_add, Nat.cast_pow, Nat.cast_ofNat, Nat.cast_one]
      exact hmost
    exact Nat.cast_lt.1 hcast
  omega

section Fit

variable {v : ℚ} {low : Int} (place : LastPlace v low)

include place

theorem isRounded_ok (negative : Bool) (nonneg : 0 ≤ v) (below : v < overflowBound) {m c : Nat}
    {e : Int} (value : (c : ℚ) * 10 ^ e = m * 10 ^ low) (near : |(m : ℚ) * 10 ^ low - v| ≤ 10 ^ low / 2) :
    IsRounded (signed negative v) (.ok (finite negative c e)) := by
  unfold IsRounded RoundsTo
  rw [abs_signed negative nonneg]
  refine .inr ⟨below, _, rfl, rfl, low, place, ?_, ?_⟩
  · rw [toRat_finite, value]
    exact signed_mem_grid negative m low
  · rw [toRat_finite, value, abs_signed_sub_signed]
    exact near

theorem lt_overflowBound_of_multiple (top : low ≤ maxExponent - 399) {m : Nat}
    (h : v = m * 10 ^ low) : v < overflowBound := by
  have unit : (0 : ℚ) < 10 ^ low := by positivity
  have covers := place.covers
  rw [h, zpow_add₀ (by norm_num), mul_comm ((10 : ℚ) ^ low), mul_lt_mul_iff_left₀ unit,
    zpow_ofNat] at covers
  have short : m < 10 ^ 400 := by
    rw [← Nat.cast_lt (α := ℚ), Nat.cast_pow, Nat.cast_ofNat]
    exact covers
  have bound := lt_overflowBound short top
  rw [h]
  linarith

theorem carry_isRounded (negative : Bool) (nonneg : 0 ≤ v) (top : low ≤ maxExponent - 399)
    {rounded : Nat} (near : |(rounded : ℚ) * 10 ^ low - v| ≤ 10 ^ low / 2)
    (long : precision < digitCount rounded) :
    IsRounded (signed negative v)
      (if maxExponent < low + precision then .error .overflow
        else .ok (finite negative (rounded / 10) (low + 1))) := by
  have hpow := rounded_eq_pow place.covers near long
  by_cases last : maxExponent < low + precision
  · rw [if_pos last]
    unfold IsRounded
    rw [abs_signed negative nonneg]
    refine .inl ⟨?_, rfl⟩
    have hlast : low = maxExponent - 399 := by
      unfold precision at last
      omega
    have above := (abs_le.1 near).2
    unfold overflowBound
    rw [hpow, Nat.cast_pow, Nat.cast_ofNat] at above
    rw [← hlast, zpow_ofNat]
    generalize (10 : ℚ) ^ 400 = ten at *
    linarith
  · rw [if_neg last]
    have below : v < overflowBound := by
      refine lt_trans place.covers (ten_zpow_lt_overflowBound ?_)
      unfold precision at last
      omega
    refine isRounded_ok place negative nonneg below ?_ near
    -- The last digit of the power is a zero.
    have hdiv : rounded / 10 * 10 = rounded := by
      rw [hpow]
      decide +kernel
    have hcast : ((rounded / 10 : ℕ) : ℚ) * 10 = rounded := by exact_mod_cast hdiv
    rw [zpow_add_one₀ (by norm_num), ← hcast]
    ring

end Fit

/-- **Fitting** a nonzero result to the precision and the range. -/
theorem fitNonzero_isRounded (negative : Bool) {c : Nat} (positive : 0 < c) (e : Int) :
    IsRounded (signed negative (c * 10 ^ e)) (fitNonzero negative c e) := by
  have place := lastPlace_of_digits positive e
  have nonneg : (0 : ℚ) ≤ c * 10 ^ e := by positivity
  unfold fitNonzero
  by_cases out : maxExponent < e + digitCount c - 1
  · -- The leading digit is out of range already.
    rw [if_pos out]
    unfold IsRounded
    rw [abs_signed negative nonneg]
    refine .inl ⟨le_trans overflowBound_le (le_trans ?_ (pow_le_scaled positive e)), rfl⟩
    exact ten_zpow_le (by omega)
  · rw [if_neg out]
    generalize hlow : max (e + (digitCount c : Int) - precision) minExponent = low at place ⊢
    have top : low ≤ maxExponent - 399 := by
      unfold precision minExponent at hlow
      unfold maxExponent at *
      omega
    have unit : (0 : ℚ) < 10 ^ low := by positivity
    simp only
    by_cases fine : low ≤ e
    · -- Nothing is rounded.
      rw [if_pos fine]
      have inUnits : (c : ℚ) * 10 ^ e = ((c * 10 ^ (e - low).toNat : ℕ) : ℚ) * 10 ^ low := by
        rw [ten_zpow_eq_mul fine, Nat.cast_mul, mul_assoc]
      refine isRounded_ok place negative nonneg
        (lt_overflowBound_of_multiple place top inUnits) inUnits ?_
      rw [← inUnits, sub_self, abs_zero]
      positivity
    · rw [if_neg fine]
      generalize hrounded : (if digitCount c + 1 < (low - e).toNat then 0
        else roundDiv c (10 ^ (low - e).toNat) .even) = rounded
      obtain ⟨near, beyond⟩ := rounded_near (not_le.1 fine) hrounded
      by_cases short : digitCount rounded ≤ precision
      · -- The rounded coefficient is no more than the largest one of 400 digits, an odd number.
        rw [if_pos short]
        have digits : 10 ^ digitCount rounded ≤ 10 ^ 400 := pow_le_pow_right₀ (by norm_num) short
        have hlt : rounded < 10 ^ 400 := lt_of_lt_of_le (lt_pow_digitCount rounded) digits
        have odd : (10 ^ 400 - 1) % 2 = 1 := by decide +kernel
        have largest : 10 ^ 400 - 1 < 10 ^ 400 := by decide +kernel
        have below := lt_of_lt_of_le (beyond (10 ^ 400 - 1) odd (by omega))
          (lt_overflowBound largest top)
        exact isRounded_ok place negative nonneg below rfl near
      · rw [if_neg short]
        exact carry_isRounded place negative nonneg top near (not_le.1 short)

theorem zero_isRounded (negative : Bool) (e : Int) : IsRounded 0 (.ok (finite negative 0 e)) := by
  have unit : (0 : ℚ) < 10 ^ minExponent := by positivity
  have value : (finite negative 0 e).toRat = 0 := by simp
  unfold IsRounded RoundsTo
  rw [abs_zero]
  refine .inr ⟨?_, _, rfl, rfl, minExponent, ⟨le_rfl, by positivity, .inl rfl⟩, ?_, ?_⟩
  · exact lt_trans (by positivity) (ten_zpow_lt_overflowBound le_rfl)
  · rw [value]
    exact AddSubgroup.zero_mem _
  · rw [value, sub_self, abs_zero]
    positivity

/-- **Fitting** a result to the precision and the range. -/
theorem fit_isRounded (negative : Bool) (c : Nat) (e : Int) :
    IsRounded (signed negative (c * 10 ^ e)) (fit negative c e) := by
  unfold fit
  by_cases zero : c = 0
  · rw [if_pos (by simpa using zero), zero, Nat.cast_zero, zero_mul, signed_zero]
    exact zero_isRounded negative _
  · rw [if_neg (by simpa using zero)]
    exact fitNonzero_isRounded negative (Nat.pos_of_ne_zero zero) e

/-! ### Values too small to be seen -/

/-- **Cells.** Two values strictly between the same neighbours on a grid of halves. -/
structure InCell (k : Int) (x x' : ℚ) where
  cell : ℤ
  low : (cell : ℚ) * (10 ^ k / 2) < x
  high : x < (cell + 1) * (10 ^ k / 2)
  low' : (cell : ℚ) * (10 ^ k / 2) < x'
  high' : x' < (cell + 1) * (10 ^ k / 2)

namespace InCell

variable {k : Int} {x x' : ℚ}

theorem le_iff (h : InCell k x x') {w : ℚ} (hw : w ∈ halfGrid k) : w ≤ x ↔ w ≤ x' := by
  obtain ⟨z, rfl⟩ := mem_halfGrid_iff.1 hw
  have unit : (0 : ℚ) < 10 ^ k / 2 := by positivity
  -- A point up to either value is a multiple up to the lower neighbour.
  have reach : ∀ y : ℚ, (h.cell : ℚ) * (10 ^ k / 2) < y → y < (h.cell + 1) * (10 ^ k / 2) →
      (z * (10 ^ k / 2) ≤ y ↔ z ≤ h.cell) := by
    intro y low high
    constructor
    · intro hle
      have hlt : (z : ℚ) < ((h.cell + 1 : ℤ) : ℚ) := by
        push_cast
        exact lt_of_mul_lt_mul_right (lt_of_le_of_lt hle high) unit.le
      have := Int.cast_lt.1 hlt
      omega
    · intro hle
      have hcast : (z : ℚ) ≤ h.cell := Int.cast_le.2 hle
      exact le_trans (mul_le_mul_of_nonneg_right hcast unit.le) low.le
  rw [reach x h.low h.high, reach x' h.low' h.high']

theorem le_iff' (h : InCell k x x') {w : ℚ} (hw : w ∈ halfGrid k) : x ≤ w ↔ x' ≤ w := by
  have negated : InCell k (-x) (-x') := by
    have turn : ((-h.cell - 1 : ℤ) : ℚ) * (10 ^ k / 2) = -((h.cell + 1) * (10 ^ k / 2)) := by
      push_cast
      ring
    have turn' : (((-h.cell - 1 : ℤ) : ℚ) + 1) * (10 ^ k / 2) = -(h.cell * (10 ^ k / 2)) := by
      push_cast
      ring
    refine ⟨-h.cell - 1, ?_, ?_, ?_, ?_⟩
    · rw [turn]
      exact neg_lt_neg h.high
    · rw [turn']
      exact neg_lt_neg h.low
    · rw [turn]
      exact neg_lt_neg h.high'
    · rw [turn']
      exact neg_lt_neg h.low'
  have := negated.le_iff (AddSubgroup.neg_mem _ hw)
  rwa [neg_le_neg_iff, neg_le_neg_iff] at this

theorem le_abs_iff (h : InCell k x x') {w : ℚ} (hw : w ∈ halfGrid k) : w ≤ |x| ↔ w ≤ |x'| := by
  rw [le_abs, le_abs, h.le_iff hw, le_neg (a := w) (b := x), le_neg (a := w) (b := x'),
    h.le_iff' (AddSubgroup.neg_mem _ hw)]

/-- **Rounding** does not tell the two values apart. -/
theorem roundsTo (h : InCell k x x') (large : (10 : ℚ) ^ (k + 399) ≤ |x'|) {y : ℚ}
    (rounds : RoundsTo x' y) : RoundsTo x y := by
  obtain ⟨low, place, onGrid, near⟩ := rounds
  have fine : k ≤ low := by
    have := ten_zpow_lt_iff.1 (lt_of_le_of_lt large place.covers)
    omega
  have hpow : ∀ j : Int, k ≤ j → (10 : ℚ) ^ j ∈ halfGrid k := by
    intro j hj
    exact grid_le_halfGrid hj (mem_grid_iff.2 ⟨1, by rw [Int.cast_one, one_mul]⟩)
  refine ⟨low, ?_, onGrid, ?_⟩
  · constructor
    · exact place.least
    · rw [← not_le, h.le_abs_iff (hpow _ (by omega)), not_le]
      exact place.covers
    · rcases place.full with least | full
      · exact .inl least
      · exact .inr ((h.le_abs_iff (hpow _ (by omega))).2 full)
  · -- The points half a unit away from the result are on the grid of halves.
    have half := half_mem_halfGrid fine
    have result := grid_le_halfGrid fine onGrid
    rw [abs_le] at near ⊢
    have above : y - 10 ^ low / 2 ≤ x' := by linarith
    have below : x' ≤ y + 10 ^ low / 2 := by linarith
    rw [← h.le_iff (AddSubgroup.sub_mem _ result half)] at above
    rw [← h.le_iff' (AddSubgroup.add_mem _ result half)] at below
    constructor
    · linarith
    · linarith

theorem overflowBound_mem (h : k ≤ maxExponent - 399) : overflowBound ∈ halfGrid k := by
  have split : overflowBound =
      (2 * 10 ^ 400 - 1 : ℤ) • ((10 : ℚ) ^ (maxExponent - 399) / 2) := by
    unfold overflowBound
    rw [zsmul_eq_mul, Int.cast_sub, Int.cast_mul, Int.cast_pow, Int.cast_ofNat, Int.cast_ofNat,
      Int.cast_one, zpow_ofNat]
    generalize (10 : ℚ) ^ 400 = ten
    ring
  rw [split]
  exact AddSubgroup.zsmul_mem _ (half_mem_halfGrid h) _

/-- **Results** are the same for both values. -/
theorem isRounded (h : InCell k x x') (large : (10 : ℚ) ^ (k + 399) ≤ |x|)
    (large' : (10 : ℚ) ^ (k + 399) ≤ |x'|) {outcome : Except SumFault Decimal}
    (rounded : IsRounded x' outcome) : IsRounded x outcome := by
  by_cases inRange : k ≤ maxExponent - 399
  · have bound := h.le_abs_iff (overflowBound_mem inRange)
    rcases rounded with ⟨beyond, failed⟩ | ⟨below, d, hd, finite, rounds⟩
    · exact .inl ⟨bound.2 beyond, failed⟩
    · refine .inr ⟨?_, d, hd, finite, h.roundsTo large' rounds⟩
      rw [← not_le] at below ⊢
      rwa [bound]
  · -- So far out both values overflow.
    have out : overflowBound ≤ 10 ^ (k + 399) :=
      le_trans overflowBound_le (ten_zpow_le (by omega))
    rcases rounded with ⟨-, failed⟩ | ⟨below, -⟩
    · exact .inl ⟨le_trans out large, failed⟩
    · exact absurd below (not_lt.2 (le_trans out large'))

end InCell

/-! ### Additions -/

theorem addZero_isRounded (e : Int) (n : Bool) (c : Nat) (e' : Int) :
    IsRounded (signed n (c * 10 ^ e')) (addZero e n c e') := by
  unfold addZero
  simp only
  generalize hlow : max (min e e') (e' - (precision : Int) - 1) = low
  have rounded := fit_isRounded n (c * 10 ^ (e' - low).toNat) low
  rwa [Nat.cast_mul, mul_assoc, ← ten_zpow_eq_mul (show low ≤ e' by omega)] at rounded

theorem fit_total_isRounded (n n' : Bool) (c c' : Nat) {e e' : Int} (aligned : e' ≤ e) {total : Int}
    (h : signedCoefficient n (c * 10 ^ (e - e').toNat) + signedCoefficient n' c' = total) :
    IsRounded (signed n (c * 10 ^ e) + signed n' (c' * 10 ^ e')) (fit (total < 0) total.natAbs e') := by
  have rounded := fit_isRounded (total < 0) total.natAbs e'
  rw [signed_mul, signed_natAbs] at rounded
  -- On the common grid the total is the sum of the two coefficients.
  have sum : (total : ℚ) * 10 ^ e' = signed n (c * 10 ^ e) + signed n' (c' * 10 ^ e') := by
    rw [← h, Int.cast_add, signedCoefficient_cast, signedCoefficient_cast, add_mul, ← signed_mul,
      ← signed_mul, Nat.cast_mul, mul_assoc, ← ten_zpow_eq_mul aligned]
  rwa [sum] at rounded

/-- A value of two hundredths of a unit more or less is next to a point of the grid of
    halves, on one side of it. -/
theorem cell_of_small (n n' : Bool) (c : Nat) {e k : Int} (h : k ≤ e) :
    ∃ cell : ℤ, ∀ x : ℚ, 0 < x → x < 10 ^ k / 2 →
      (cell : ℚ) * (10 ^ k / 2) < signed n (c * 10 ^ e) + signed n' x ∧
        signed n (c * 10 ^ e) + signed n' x < (cell + 1) * (10 ^ k / 2) := by
  obtain ⟨z, hz⟩ := mem_halfGrid_iff.1 (grid_le_halfGrid h (signed_mem_grid n c e))
  rw [hz]
  cases n' with
  | false =>
    refine ⟨z, ?_⟩
    intro x positive small
    rw [signed_false]
    constructor
    · linarith
    · rw [add_mul, one_mul]
      linarith
  | true =>
    refine ⟨z - 1, ?_⟩
    intro x positive small
    rw [signed_true]
    push_cast
    constructor
    · rw [sub_mul, one_mul]
      linarith
    · rw [sub_add_cancel]
      linarith

theorem le_abs_add {x y : ℚ} {k : Int} (large : (10 : ℚ) ^ (k + 400) ≤ |x|) (small : |y| ≤ 10 ^ k) :
    (10 : ℚ) ^ (k + 399) ≤ |x + y| := by
  have triangle : |x| ≤ |x + y| + |y| := by
    have := abs_sub (x + y) y
    rwa [add_sub_cancel_right] at this
  have unit : (0 : ℚ) < 10 ^ k := by positivity
  have next : (10 : ℚ) ^ (k + 400) = 10 * 10 ^ (k + 399) := by
    rw [← zpow_one_add₀ (by norm_num)]
    congr 1
    omega
  have less : (10 : ℚ) ^ k ≤ 10 ^ (k + 399) := ten_zpow_le (by omega)
  linarith

/-- **Aligned addition**, the first value with the larger exponent. -/
theorem addAligned_isRounded (n n' : Bool) {c c' : Nat} (positive : 0 < c) (positive' : 0 < c')
    {e e' : Int} (aligned : e' ≤ e) :
    IsRounded (signed n (c * 10 ^ e) + signed n' (c' * 10 ^ e')) (addAligned n c e n' c' e') := by
  unfold addAligned
  generalize hreach : e + min (-1) ((digitCount c : Int) - precision - 2) = reach
  simp only
  by_cases tiny : e' + digitCount c' - 1 < reach
  · rw [if_pos tiny]
    -- The unit below the digits kept is in the same cell as the tiny value.
    have instead := fit_total_isRounded n n' c 1 (show reach ≤ e by omega) rfl
    rw [Nat.cast_one, one_mul] at instead
    have next : (10 : ℚ) ^ (reach + 1) / 2 = 5 * 10 ^ reach := by
      rw [zpow_add_one₀ (by norm_num)]
      ring
    have unit : (0 : ℚ) < 10 ^ reach := by positivity
    have hsmall : (c' : ℚ) * 10 ^ e' < 10 ^ reach :=
      lt_of_lt_of_le (scaled_lt_pow c' e') (ten_zpow_le (by omega))
    have hpositive : (0 : ℚ) < c' * 10 ^ e' := by positivity
    obtain ⟨cell, within⟩ := cell_of_small n n' c (show reach + 1 ≤ e by omega)
    rw [next] at within
    obtain ⟨low, high⟩ := within _ hpositive (by linarith)
    obtain ⟨low', high'⟩ := within _ unit (by linarith)
    rw [← next] at low high low' high'
    have sameCell : InCell (reach + 1) _ _ := ⟨cell, low, high, low', high'⟩
    -- The first value is so large that its last digit kept is past the cell.
    have large : (10 : ℚ) ^ (reach + 1 + 400) ≤ |signed n (c * 10 ^ e)| := by
      rw [abs_signed n (by positivity)]
      refine le_trans (ten_zpow_le ?_) (pow_le_scaled positive e)
      unfold precision at hreach
      omega
    have bound : ∀ x : ℚ, 0 ≤ x → x ≤ 10 ^ reach → |signed n' x| ≤ 10 ^ (reach + 1) := by
      intro x nonneg hx
      rw [abs_signed n' nonneg]
      refine le_trans hx (ten_zpow_le ?_)
      omega
    exact sameCell.isRounded (le_abs_add large (bound _ hpositive.le hsmall.le))
      (le_abs_add large (bound _ unit.le le_rfl)) instead
  · rw [if_neg tiny]
    exact fit_total_isRounded n n' c c' aligned rfl

theorem opposite_sum {n n' : Bool} {c c' : Nat} {e e' : Int}
    (h : (n != n' && compareMagnitude c e c' e' == .eq) = true) :
    signed n (c * 10 ^ e) + signed n' (c' * 10 ^ e') = 0 := by
  rw [Bool.and_eq_true, bne_iff_ne, beq_iff_eq] at h
  obtain ⟨signs, same⟩ := h
  have compares := compareMagnitude_compares c e c' e'
  rw [same] at compares
  have sizes : (c : ℚ) * 10 ^ e = c' * 10 ^ e' := compares
  rw [sizes]
  cases n <;> cases n'
  · exact absurd rfl signs
  · rw [signed_false, signed_true, add_neg_cancel]
  · rw [signed_true, signed_false, neg_add_cancel]
  · exact absurd rfl signs

/-- **Addition** of finite values. -/
theorem addFinite_isRounded (n : Bool) (c : Nat) (e : Int) (n' : Bool) (c' : Nat) (e' : Int) :
    IsRounded (signed n (c * 10 ^ e) + signed n' (c' * 10 ^ e')) (addFinite n c e n' c' e') := by
  have zeros : ∀ (negative : Bool) (low : Int), IsRounded 0 (fit negative 0 low) := by
    intro negative low
    have rounded := fit_isRounded negative 0 low
    rwa [Nat.cast_zero, zero_mul, signed_zero] at rounded
  unfold addFinite
  by_cases zero : c = 0
  · by_cases zero' : c' = 0
    · rw [if_pos (by simp [zero, zero']), zero, zero', Nat.cast_zero, zero_mul, zero_mul, signed_zero,
        signed_zero, add_zero]
      exact zeros _ _
    · rw [if_neg (by simp [zero']), if_pos (by simpa using zero), zero, Nat.cast_zero, zero_mul,
        signed_zero, zero_add]
      exact addZero_isRounded e n' c' e'
  · rw [if_neg (by simp [zero]), if_neg (by simpa using zero)]
    by_cases zero' : c' = 0
    · rw [if_pos (by simpa using zero'), zero', Nat.cast_zero, zero_mul, signed_zero, add_zero]
      exact addZero_isRounded e' n c e
    · rw [if_neg (by simpa using zero')]
      have positive : 0 < c := Nat.pos_of_ne_zero zero
      have positive' : 0 < c' := Nat.pos_of_ne_zero zero'
      by_cases opposite : (n != n' && compareMagnitude c e c' e' == .eq) = true
      · rw [if_pos opposite, opposite_sum opposite]
        exact zeros _ _
      · rw [if_neg opposite]
        -- The value with the larger exponent comes first.
        by_cases aligned : e' ≤ e
        · rw [if_pos aligned]
          exact addAligned_isRounded n n' positive positive' aligned
        · rw [if_neg aligned, add_comm]
          exact addAligned_isRounded n' n positive' positive (by omega)

/-- **Sums are correctly rounded.** -/
theorem add_isRounded {a b : Decimal} (ha : a.isFinite = true) (hb : b.isFinite = true) :
    IsRounded (a.toRat + b.toRat) (add a b) := by
  obtain ⟨n, c, e, rfl⟩ := exists_of_isFinite ha
  obtain ⟨n', c', e', rfl⟩ := exists_of_isFinite hb
  exact addFinite_isRounded n c e n' c' e'

end Decimal

end ReportCheck
