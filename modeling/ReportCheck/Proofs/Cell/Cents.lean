import ReportCheck.Cell.Number
import ReportCheck.Proofs.Number.Cents

/-! # Amounts in cents

  A decimal amount is rounded to the nearest cent, a half away from zero, and the result is
  written with two places. An amount of more than 398 digits before the point has no cents.

  - `IsNearestCent` says what the nearest cent of a value is, without a way to compute it.
    `isNearestCent_iff`: it is the one that `nearestCents` computes.
  - `nearestCents_mono`, `nearestCents_neg` and `nearestCents_whole`: rounding keeps the order,
    the sign, and whole cents.
  - `Cell.cents_exact` is the statement about amounts in cells.
-/

namespace ReportCheck

namespace Decimal

/-! ### The nearest cent -/

/-- **Nearest cent** of a value, as a number of cents. -/
structure IsNearestCent (v : ℚ) (n : ℤ) : Prop where
  /-- No number of cents is nearer. -/
  nearest (m : ℤ) : |v - n / 100| ≤ |v - m / 100|
  /-- Of two that are as near, it is the one further from zero. -/
  away (m : ℤ) (tie : |v - m / 100| = |v - n / 100|) : |m| ≤ |n|

theorem abs_sub_cents (v : ℚ) (n : ℤ) : |v - n / 100| = |v * 100 - n| / 100 := by
  rw [show v - n / 100 = (v * 100 - n) / 100 by ring, abs_div,
    abs_of_pos (show (0 : ℚ) < 100 by norm_num)]

/-- **Signs** stay. -/
theorem nearestCents_neg (v : ℚ) : nearestCents (-v) = -nearestCents v := by
  unfold nearestCents
  rcases lt_trichotomy v 0 with below | rfl | above
  · rw [if_pos (by linarith), if_neg (not_le.2 below), neg_neg]
  · norm_num
  · rw [if_neg (by linarith), if_pos above.le, neg_neg]

theorem sub_nearestCents_lt {v : ℚ} (nonneg : 0 ≤ v) : v * 100 - nearestCents v < 1 / 2 := by
  have high := Int.lt_floor_add_one (v * 100 + 1 / 2)
  rw [nearestCents, if_pos nonneg]
  linarith

theorem abs_le_of_tie {v : ℚ} {m : ℤ} (tie : |v * 100 - m| = |v * 100 - nearestCents v|) :
    |m| ≤ |nearestCents v| := by
  -- Positive values are enough, since everything changes its sign together.
  wlog nonneg : 0 ≤ v generalizing v m
  · have mirror := @this (-v) (-m) (by
      rw [nearestCents_neg]
      push_cast
      rw [show -v * 100 - -(m : ℚ) = -(v * 100 - m) by ring,
        show -v * 100 - -(nearestCents v : ℚ) = -(v * 100 - nearestCents v) by ring, abs_neg,
        abs_neg, tie]) (by linarith)
    rwa [nearestCents_neg, abs_neg, abs_neg] at mirror
  by_cases same : m = nearestCents v
  · rw [same]
  have near := abs_sub_nearestCents_le v
  have far := half_le_abs_sub_of_ne near same
  -- Both are half a cent away, and the nearest cent is the upper one.
  have half : |v * 100 - nearestCents v| = 1 / 2 := le_antisymm near (tie ▸ far)
  have above : v * 100 - nearestCents v = -(1 / 2) := by
    rcases abs_eq (show (0 : ℚ) ≤ 1 / 2 by norm_num) |>.1 half with up | down
    · exact absurd up (ne_of_lt (sub_nearestCents_lt nonneg))
    · exact down
  have below : v * 100 - m = 1 / 2 := by
    rcases abs_eq (show (0 : ℚ) ≤ 1 / 2 by norm_num) |>.1 (tie.trans half) with up | down
    · exact up
    · refine absurd ?_ same
      have equal : (m : ℚ) = nearestCents v := by linarith
      exact_mod_cast equal
  have step : (nearestCents v : ℚ) = m + 1 := by linarith
  have next : nearestCents v = m + 1 := by exact_mod_cast step
  have positive : 0 < nearestCents v := by
    have : (0 : ℚ) < nearestCents v := by linarith
    exact_mod_cast this
  rw [abs_of_nonneg (show 0 ≤ m by omega), abs_of_pos positive]
  omega

theorem isNearestCent_nearestCents (v : ℚ) : IsNearestCent v (nearestCents v) := by
  have near := abs_sub_nearestCents_le v
  constructor
  · intro m
    rw [abs_sub_cents, abs_sub_cents]
    by_cases same : m = nearestCents v
    · rw [same]
    · linarith [half_le_abs_sub_of_ne near same]
  · intro m tie
    rw [abs_sub_cents, abs_sub_cents] at tie
    exact abs_le_of_tie (by linarith)

/-- **Two nearest cents** of a value are the same. -/
theorem IsNearestCent.unique {v : ℚ} {n m : ℤ} (hn : IsNearestCent v n) (hm : IsNearestCent v m) :
    n = m := by
  have tie : |v - n / 100| = |v - m / 100| := le_antisymm (hn.nearest m) (hm.nearest n)
  rcases abs_eq_abs.1 (le_antisymm (hm.away n tie) (hn.away m tie.symm)) with same | mirrored
  · exact same
  · -- Cents of opposite signs are as near to zero only, which has a nearer one.
    have zero : v * n = 0 := by
      rw [show (m : ℚ) = -n by rw [mirrored]; push_cast; ring] at tie
      have squares := sq_eq_sq_iff_abs_eq_abs _ _ |>.2 tie
      linarith
    rcases mul_eq_zero.1 zero with hv | hzero
    · have least := hn.nearest 0
      rw [hv, Int.cast_zero, zero_div, sub_zero, abs_zero, zero_sub, abs_neg] at least
      have none : (n : ℚ) / 100 = 0 := abs_nonpos_iff.1 least
      have : (n : ℚ) = 0 := by linarith
      have : n = 0 := by exact_mod_cast this
      omega
    · have : n = 0 := by exact_mod_cast hzero
      omega

/-- **The nearest cent** is the one that is computed. -/
theorem isNearestCent_iff {v : ℚ} {n : ℤ} : IsNearestCent v n ↔ n = nearestCents v := by
  constructor
  · intro h
    exact h.unique (isNearestCent_nearestCents v)
  · rintro rfl
    exact isNearestCent_nearestCents v

/-- **Order** stays. -/
theorem nearestCents_mono {v w : ℚ} (h : v ≤ w) : nearestCents v ≤ nearestCents w := by
  by_contra more
  obtain ⟨n, low, high⟩ := exists_tie_between (not_le.1 more)
  -- Both values would be the half cent between their cents.
  have same : v = w := le_antisymm h (low.trans high)
  rw [same] at more
  exact more le_rfl

/-- **Whole cents** are not rounded. -/
theorem nearestCents_whole (n : ℤ) : nearestCents (n / 100) = n := by
  symm
  rw [← isNearestCent_iff]
  constructor
  · intro m
    rw [sub_self, abs_zero]
    exact abs_nonneg _
  · intro m tie
    rw [sub_self, abs_zero, abs_eq_zero, sub_eq_zero] at tie
    have equal : (m : ℚ) = n := by linarith
    rw [show m = n by exact_mod_cast equal]

/-! ### Rounded amounts -/

theorem abs_cents_lt_iff {n : ℤ} : |(n : ℚ) / 100| < 10 ^ 398 ↔ |n| < 10 ^ 400 := by
  have scale : (10 : ℚ) ^ 398 * 100 = ((10 ^ 400 : ℤ) : ℚ) := by
    rw [Int.cast_pow, show 400 = 398 + 2 by rfl, pow_add]
    norm_num
  rw [abs_div, abs_of_pos (show (0 : ℚ) < 100 by norm_num), div_lt_iff₀ (by norm_num), scale,
    ← Int.cast_abs, Int.cast_lt]

theorem toRat_of_roundToCents? {d r : Decimal} (h : d.roundToCents? = some r) :
    r.toRat = nearestCents d.toRat / 100 := by
  cases d with
  | finite negative c e =>
    rcases roundToCents?_finite negative c e with ⟨-, rounded⟩ | ⟨-, none⟩
    · rw [rounded] at h
      cases h
      exact toRat_cents negative c e
    · rw [none] at h
      cases h
  | infinite negative => cases h
  | nan negative signaling payload => cases h

theorem roundToCents?_of_roundToCents? {d r : Decimal} (h : d.roundToCents? = some r) :
    r.roundToCents? = some r := by
  have value := toRat_of_roundToCents? h
  cases d with
  | finite negative c e =>
    rcases roundToCents?_finite negative c e with ⟨short, rounded⟩ | ⟨-, none⟩
    · rw [rounded] at h
      cases h
      generalize nearestCents (finite negative c e).toRat = n at *
      have again := roundToCents?_finite negative n.natAbs (-2)
      rw [value, nearestCents_whole] at again
      rcases again with ⟨-, same⟩ | ⟨long, -⟩
      · exact same
      · exact absurd short (not_lt.2 long)
    · rw [none] at h
      cases h
  | infinite negative => cases h
  | nan negative signaling payload => cases h

theorem roundToCents?_of_opposite {d d' : Decimal} (hd : d.isFinite = true)
    (hd' : d'.isFinite = true) (opposite : d'.toRat = -d.toRat) :
    d'.roundToCents?.map toRat = d.roundToCents?.map fun r => -r.toRat := by
  obtain ⟨negative, c, e, rfl⟩ := exists_of_isFinite hd
  obtain ⟨negative', c', e', rfl⟩ := exists_of_isFinite hd'
  have cents : nearestCents (finite negative' c' e').toRat =
      -nearestCents (finite negative c e).toRat := by rw [opposite, nearestCents_neg]
  have size : |nearestCents (finite negative' c' e').toRat| =
      |nearestCents (finite negative c e).toRat| := by rw [cents, abs_neg]
  rcases roundToCents?_finite negative c e with ⟨short, rounded⟩ | ⟨long, none⟩
  · rcases roundToCents?_finite negative' c' e' with ⟨-, rounded'⟩ | ⟨long', -⟩
    · rw [rounded, rounded', Option.map_some, Option.map_some, toRat_cents, toRat_cents, cents]
      push_cast
      rw [neg_div]
    · exact absurd short (not_lt.2 (size ▸ long'))
  · rcases roundToCents?_finite negative' c' e' with ⟨short', -⟩ | ⟨-, none'⟩
    · exact absurd (size ▸ short') (not_lt.2 long)
    · rw [none, none']
      rfl

end Decimal

open Decimal

/-- **Amounts in cents.** A finite amount is rounded to the nearest cent, a half away from zero.
    The result has two places and the sign of the amount; there is none from `10 ^ 398` on, and
    none for amounts that are not finite. So rounding twice is rounding once, larger amounts do
    not have fewer cents, and opposite amounts have opposite cents. -/
theorem Cell.cents_exact :
    (∀ d : Decimal, d.isFinite = false → (Cell.decimal d).cents? = none) ∧
    (∀ negative c e, ∃ n : ℤ,
      (∀ m, IsNearestCent (finite negative c e).toRat m ↔ m = n) ∧
      (|(n : ℚ) / 100| < 10 ^ 398 →
        (Cell.decimal (finite negative c e)).cents? = some (finite negative n.natAbs (-2)) ∧
        (finite negative n.natAbs (-2)).toRat = n / 100) ∧
      (10 ^ 398 ≤ |(n : ℚ) / 100| → (Cell.decimal (finite negative c e)).cents? = none)) ∧
    (∀ d r : Decimal, (Cell.decimal d).cents? = some r → (Cell.decimal r).cents? = some r) ∧
    (∀ d d' r r' : Decimal, (Cell.decimal d).cents? = some r → (Cell.decimal d').cents? = some r' →
      d.toRat ≤ d'.toRat → r.toRat ≤ r'.toRat) ∧
    ∀ d d' : Decimal, d.isFinite = true → d'.isFinite = true → d'.toRat = -d.toRat →
      (Cell.decimal d').cents?.map toRat = (Cell.decimal d).cents?.map fun r => -r.toRat := by
  refine ⟨fun d => roundToCents?_of_not_finite, ?_, fun d r => roundToCents?_of_roundToCents?, ?_,
    fun d d' => roundToCents?_of_opposite⟩
  · intro negative c e
    refine ⟨nearestCents (finite negative c e).toRat, fun m => isNearestCent_iff, ?_, ?_⟩
    · intro short
      rcases roundToCents?_finite negative c e with ⟨-, rounded⟩ | ⟨long, -⟩
      · exact ⟨rounded, toRat_cents negative c e⟩
      · exact absurd (abs_cents_lt_iff.1 short) (not_lt.2 long)
    · intro long
      rcases roundToCents?_finite negative c e with ⟨short, -⟩ | ⟨-, none⟩
      · exact absurd (abs_cents_lt_iff.2 short) (not_lt.2 long)
      · exact none
  · intro d d' r r' hr hr' le
    have mono : (nearestCents d.toRat : ℚ) ≤ nearestCents d'.toRat :=
      Int.cast_le.2 (nearestCents_mono le)
    rw [toRat_of_roundToCents? hr, toRat_of_roundToCents? hr']
    linarith

namespace Cents

/-- A debt with half a cent. -/
def debt : Decimal := .finite true 1005 (-3)

/-- A debt with less than half a cent. -/
def smallerDebt : Decimal := .finite true 10049 (-4)

/-- The credit of the same size as the debt, with more places. -/
def credit : Decimal := .finite false 10050 (-4)

end Cents

open Cents in
/-- A half goes away from zero on both sides. -/
theorem Cell.cents_exact_of_halves :
    (Cell.decimal (.infinite true)).cents? = none ∧
      (Cell.decimal debt).cents? = some (.finite true 101 (-2)) ∧
      (Cell.decimal (.finite true 101 (-2))).cents? = some (.finite true 101 (-2)) ∧
      (finite true 101 (-2)).toRat ≤ (finite true 100 (-2)).toRat ∧
      (Cell.decimal credit).cents?.map toRat = some (-(finite true 101 (-2)).toRat) := by
  obtain ⟨infinite, rounded, again, order, opposite⟩ := cents_exact
  have value : debt.toRat = -(1005 / 1000) := by norm_num [debt, toRat, signed]
  have smaller : smallerDebt.toRat = -(10049 / 10000) := by norm_num [smallerDebt, toRat, signed]
  have hdebt : (Cell.decimal debt).cents? = some (.finite true 101 (-2)) := by
    obtain ⟨n, unique, short, -⟩ := rounded true 1005 (-3)
    have cents : nearestCents debt.toRat = -101 := by
      rw [value]
      norm_num [nearestCents]
    have hn : -101 = n := (unique (-101)).1 (isNearestCent_iff.2 cents.symm)
    subst hn
    refine (short (abs_cents_lt_iff.2 ?_)).1
    exact lt_of_lt_of_le (by decide) (pow_le_pow_right₀ (by decide) (show 3 ≤ 400 by decide))
  refine ⟨infinite _ rfl, hdebt, again debt _ hdebt, ?_, ?_⟩
  · refine order debt smallerDebt _ _ hdebt (by decide +kernel) ?_
    rw [value, smaller]
    norm_num
  · have credited : credit.toRat = -debt.toRat := by
      rw [value]
      norm_num [credit, toRat, signed]
    rw [opposite debt credit rfl rfl credited, hdebt]
    rfl

end ReportCheck
