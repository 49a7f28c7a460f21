import Mathlib.Data.Rat.Floor
import ReportCheck.Proofs.Number.Value

/-! # Cents

  What rounding to cents makes of a finite number.

  - `nearestCents` is the whole number of cents nearest to a value, a half away from zero.
  - `IsCents`: rounding gives that many cents, or nothing where they take more than 400
    digits. `roundToCents?_isCents` proves it of every finite number.
  - `nearestCents_eq_of_near`: values that are no further apart than the first is from every
    half cent have the same cents. `abs_nearestCents_sub_le`: values less than a cent apart
    differ by one cent at most.
-/

namespace ReportCheck

/-! ### Rounding a half up -/

theorem roundDiv_away_eq_floor (num : Nat) {den : Nat} (positive : 0 < den) :
    (roundDiv num den .away : Int) = ⌊(num / den : ℚ) + 1 / 2⌋ := by
  have hden : (0 : ℚ) < den := Nat.cast_pos.2 positive
  have low := roundDiv_le_add_half num .away positive
  -- The next number would need another half, since a half itself goes up already.
  have high : (num : ℚ) / den + 1 / 2 < roundDiv num den .away + 1 := by
    have split := Nat.div_add_mod num den
    have small := Nat.mod_lt num positive
    have next : 2 * num < 2 * (den * roundDiv num den .away) + den := by
      have up := Nat.mul_add den (num / den) 1
      simp only [roundDiv]
      split
      · omega
      · split <;> omega
    have cast : ((2 * num : ℕ) : ℚ) < ((2 * (den * roundDiv num den .away) + den : ℕ) : ℚ) :=
      Nat.cast_lt.2 next
    push_cast at cast
    rw [div_add_div _ _ (ne_of_gt hden) (by norm_num), div_lt_iff₀ (by positivity)]
    linarith
  symm
  rw [Int.floor_eq_iff]
  exact ⟨by exact_mod_cast low, by exact_mod_cast high⟩

namespace Decimal

/-! ### Nearest cents -/

/-- **Nearest cent.** The whole number of cents nearest to a value, a half away from zero. -/
def nearestCents (x : ℚ) : ℤ :=
  if 0 ≤ x then ⌊x * 100 + 1 / 2⌋ else -⌊-x * 100 + 1 / 2⌋

theorem nearestCents_signed (negative : Bool) {v : ℚ} (nonneg : 0 ≤ v) :
    (nearestCents (signed negative v) : ℚ) = signed negative ⌊v * 100 + 1 / 2⌋ := by
  cases negative with
  | false =>
    rw [signed_false, signed_false, nearestCents, if_pos nonneg]
  | true =>
    rw [signed_true, signed_true, nearestCents]
    split_ifs with h
    · -- Only zero is nonnegative with either sign.
      have zero : v = 0 := le_antisymm (by linarith) nonneg
      rw [zero]
      norm_num
    · rw [neg_neg, Int.cast_neg]

theorem abs_sub_nearestCents_le (x : ℚ) : |x * 100 - nearestCents x| ≤ 1 / 2 := by
  unfold nearestCents
  split_ifs with h
  · have low := Int.floor_le (x * 100 + 1 / 2)
    have high := Int.lt_floor_add_one (x * 100 + 1 / 2)
    exact abs_le.2 ⟨by linarith, by linarith⟩
  · have low := Int.floor_le (-x * 100 + 1 / 2)
    have high := Int.lt_floor_add_one (-x * 100 + 1 / 2)
    push_cast
    exact abs_le.2 ⟨by linarith, by linarith⟩

theorem abs_nearestCents_le (x : ℚ) : |(nearestCents x : ℚ)| ≤ |x| * 100 + 1 / 2 := by
  have near := abs_sub_nearestCents_le x
  have split := abs_sub_abs_le_abs_sub (nearestCents x : ℚ) (x * 100)
  rw [abs_sub_comm, abs_mul, abs_of_pos (show (0 : ℚ) < 100 by norm_num)] at split
  linarith

theorem abs_le_nearestCents (x : ℚ) : |x| * 100 ≤ |(nearestCents x : ℚ)| + 1 / 2 := by
  have near := abs_sub_nearestCents_le x
  have split := abs_sub_abs_le_abs_sub (x * 100) (nearestCents x : ℚ)
  rw [abs_mul, abs_of_pos (show (0 : ℚ) < 100 by norm_num)] at split
  linarith

theorem le_abs_nearestCents {x : ℚ} {m : ℤ} (h : (m : ℚ) ≤ |x| * 100) : m ≤ |nearestCents x| := by
  have below := le_trans h (abs_le_nearestCents x)
  have next : (m : ℚ) < ((|nearestCents x| + 1 : ℤ) : ℚ) := by
    push_cast
    linarith
  exact Int.lt_add_one_iff.1 (by exact_mod_cast next)

theorem exists_tie_between {x y : ℚ} (h : nearestCents x < nearestCents y) :
    ∃ n : ℤ, x ≤ (2 * n + 1) / 200 ∧ (2 * n + 1 : ℚ) / 200 ≤ y := by
  refine ⟨nearestCents x, ?_, ?_⟩
  · have near := (abs_le.1 (abs_sub_nearestCents_le x)).2
    linarith
  · have near := (abs_le.1 (abs_sub_nearestCents_le y)).1
    have more : (nearestCents x : ℚ) + 1 ≤ nearestCents y := by exact_mod_cast h
    linarith

/-- **Values on one side** of every half cent have the same cents. -/
theorem nearestCents_eq_of_near {x y error : ℚ} (near : |y - x| ≤ error)
    (clear : ∀ n : ℤ, error < |x - (2 * n + 1) / 200|) : nearestCents y = nearestCents x := by
  have bounds := abs_le.1 near
  rcases lt_trichotomy (nearestCents y) (nearestCents x) with h | h | h
  · obtain ⟨n, below, above⟩ := exists_tie_between h
    have := clear n
    rw [abs_of_nonneg (by linarith)] at this
    linarith
  · exact h
  · obtain ⟨n, below, above⟩ := exists_tie_between h
    have := clear n
    rw [abs_of_nonpos (by linarith)] at this
    linarith

/-- **Values less than a cent apart** differ by one cent at most. -/
theorem abs_nearestCents_sub_le {x y : ℚ} (near : |y - x| < 1 / 100) :
    |nearestCents y - nearestCents x| ≤ 1 := by
  have hx := abs_le.1 (abs_sub_nearestCents_le x)
  have hy := abs_le.1 (abs_sub_nearestCents_le y)
  have bounds := abs_lt.1 near
  have apart : |((nearestCents y - nearestCents x : ℤ) : ℚ)| < 2 := by
    push_cast
    exact abs_lt.2 ⟨by linarith [hx.1, hx.2, hy.1, hy.2], by linarith [hx.1, hx.2, hy.1, hy.2]⟩
  have whole : |nearestCents y - nearestCents x| < 2 := by exact_mod_cast apart
  omega

/-! ### Rounding to cents -/

/-- **Whole cents.** An amount of `n` cents; none where they take more than 400 digits. -/
def IsCents (n : ℤ) : Option Decimal → Prop
  | some cents => cents.isFinite = true ∧ cents.toRat = n / 100 ∧ |n| < 10 ^ 400
  | none => 10 ^ 400 ≤ |n|

theorem digitCount_le_iff {n k : Nat} (positive : 0 < k) : digitCount n ≤ k ↔ n < 10 ^ k :=
  Nat.length_toDigits_le_iff (by decide) positive

theorem whole_eq_floor (c : Nat) (e : Int) :
    ((if -2 ≤ e then c * 10 ^ (e + 2).toNat else roundDiv c (10 ^ (-2 - e).toNat) .away : ℕ) : ℤ) =
      ⌊(c * 10 ^ (e + 2) : ℚ) + 1 / 2⌋ := by
  split_ifs with h
  · -- No digit is dropped.
    have cast : (c : ℚ) * 10 ^ (e + 2) = ((c * 10 ^ (e + 2).toNat : ℤ) : ℚ) := by
      push_cast
      rw [← zpow_natCast, Int.toNat_of_nonneg (by omega)]
    rw [cast]
    symm
    rw [Int.floor_eq_iff]
    push_cast
    exact ⟨by linarith, by linarith⟩
  · have cast : (c : ℚ) * 10 ^ (e + 2) = (c : ℚ) / ((10 ^ (-2 - e).toNat : ℕ) : ℚ) := by
      rw [div_eq_mul_inv]
      push_cast
      rw [← zpow_natCast, ← zpow_neg]
      congr 2
      omega
    rw [cast]
    exact roundDiv_away_eq_floor c (by positivity)

theorem roundToCents?_of_not_finite {d : Decimal} (h : d.isFinite = false) :
    d.roundToCents? = none := by
  cases d with
  | finite negative c e => cases h
  | infinite negative => rfl
  | nan negative signaling payload => rfl

theorem cents?_cases (c : Nat) (e : Int) :
    (∃ m, cents? c e = some m ∧ (m : ℤ) = ⌊(c * 10 ^ e : ℚ) * 100 + 1 / 2⌋ ∧ m < 10 ^ 400) ∨
      (cents? c e = none ∧ 10 ^ 400 ≤ ⌊(c * 10 ^ e : ℚ) * 100 + 1 / 2⌋) := by
  have hundred : (10 : ℚ) ^ e * 100 = 10 ^ (e + 2) := by
    rw [zpow_add₀ (by norm_num)]
    norm_num
  rw [mul_assoc, hundred]
  unfold cents?
  simp only [Bool.or_eq_true, beq_iff_eq, decide_eq_true_eq]
  by_cases small : c = 0 ∨ e + digitCount c ≤ -3
  · -- Less than a tenth of a cent is no cent.
    left
    rw [if_pos small]
    refine ⟨0, rfl, ?_, by positivity⟩
    have tiny : (c : ℚ) * 10 ^ (e + 2) ≤ 1 / 10 := by
      rcases small with rfl | below
      · norm_num
      · have bound := scaled_lt_pow c (e + 2)
        have : (10 : ℚ) ^ (e + 2 + digitCount c) ≤ 10 ^ (-1 : Int) :=
          ten_zpow_le (by omega)
        rw [zpow_neg_one] at this
        linarith
    have nonneg : (0 : ℚ) ≤ c * 10 ^ (e + 2) := by positivity
    symm
    rw [Nat.cast_zero, Int.floor_eq_zero_iff]
    exact ⟨by linarith, by linarith⟩
  rw [if_neg small]
  by_cases large : precision < e + 2 + digitCount c
  · right
    rw [if_pos large]
    refine ⟨rfl, ?_⟩
    have positive : 0 < c := Nat.pos_of_ne_zero fun h => small (.inl h)
    have bound := pow_le_scaled positive (e + 2)
    have more : (10 : ℚ) ^ (400 : Int) ≤ 10 ^ (e + 2 + digitCount c - 1) :=
      ten_zpow_le (by unfold precision at large; omega)
    have same : (10 : ℚ) ^ (400 : Int) = ((10 ^ 400 : ℤ) : ℚ) := by
      rw [Int.cast_pow]
      exact zpow_natCast 10 400
    rw [Int.le_floor, ← same]
    exact le_trans (le_trans more bound) (le_add_of_nonneg_right (by norm_num))
  rw [if_neg large]
  -- Written out, the cents are kept if they have no more digits than the precision.
  have whole := whole_eq_floor c e
  generalize (if -2 ≤ e then c * 10 ^ (e + 2).toNat
    else roundDiv c (10 ^ (-2 - e).toNat) .away) = m at whole ⊢
  have fits : digitCount m ≤ precision ↔ m < 10 ^ 400 := by
    unfold precision
    exact digitCount_le_iff (by decide)
  rw [← whole]
  by_cases short : digitCount m ≤ precision
  · rw [if_pos short]
    exact .inl ⟨m, rfl, rfl, fits.1 short⟩
  · rw [if_neg short]
    exact .inr ⟨rfl, by exact_mod_cast not_lt.1 fun h => short (fits.2 h)⟩

theorem abs_nearestCents_signed (negative : Bool) {v : ℚ} (nonneg : 0 ≤ v) :
    |nearestCents (signed negative v)| = ⌊v * 100 + 1 / 2⌋ := by
  have least : (0 : ℤ) ≤ ⌊v * 100 + 1 / 2⌋ := Int.floor_nonneg.2 (by linarith)
  have cast : |(nearestCents (signed negative v) : ℚ)| = (⌊v * 100 + 1 / 2⌋ : ℤ) := by
    rw [nearestCents_signed negative nonneg]
    exact abs_signed negative (by exact_mod_cast least)
  exact_mod_cast cast

/-- **Form of the cents.** A number keeps its sign, and its cents become the coefficient; none
    where they take more than 400 digits. -/
theorem roundToCents?_finite (negative : Bool) (c : Nat) (e : Int) :
    (|nearestCents (finite negative c e).toRat| < 10 ^ 400 ∧
      (finite negative c e).roundToCents? =
        some (finite negative (nearestCents (finite negative c e).toRat).natAbs (-2))) ∨
    (10 ^ 400 ≤ |nearestCents (finite negative c e).toRat| ∧
      (finite negative c e).roundToCents? = none) := by
  have nonneg : (0 : ℚ) ≤ c * 10 ^ e := by positivity
  have size := abs_nearestCents_signed negative nonneg
  rw [← toRat_finite] at size
  generalize nearestCents (finite negative c e).toRat = n at size ⊢
  have form : (finite negative c e).roundToCents? =
      (cents? c e).map fun whole => finite negative whole (-2) := rfl
  rcases cents?_cases c e with ⟨m, hm, whole, short⟩ | ⟨hnone, long⟩
  · left
    rw [← whole] at size
    have same : n.natAbs = m := Int.natCast_inj.1 (by rw [Int.natCast_natAbs, size])
    rw [form, hm, size, same]
    exact ⟨by exact_mod_cast short, rfl⟩
  · right
    rw [form, hnone, size]
    exact ⟨long, rfl⟩

theorem toRat_cents (negative : Bool) (c : Nat) (e : Int) :
    (finite negative (nearestCents (finite negative c e).toRat).natAbs (-2)).toRat =
      nearestCents (finite negative c e).toRat / 100 := by
  have nonneg : (0 : ℚ) ≤ c * 10 ^ e := by positivity
  have value := nearestCents_signed negative nonneg
  have size := abs_nearestCents_signed negative nonneg
  rw [← toRat_finite] at value size
  generalize nearestCents (finite negative c e).toRat = n at value size ⊢
  rw [toRat_finite, signed_mul, Nat.cast_natAbs, size, ← value, div_eq_mul_inv]
  norm_num

/-- **Rounding to cents.** -/
theorem roundToCents?_isCents {d : Decimal} (h : d.isFinite = true) :
    IsCents (nearestCents d.toRat) d.roundToCents? := by
  obtain ⟨negative, c, e, rfl⟩ := exists_of_isFinite h
  rcases roundToCents?_finite negative c e with ⟨short, rounded⟩ | ⟨long, rounded⟩
  · rw [rounded]
    exact ⟨rfl, toRat_cents negative c e, short⟩
  · rw [rounded]
    exact long

end Decimal

end ReportCheck
