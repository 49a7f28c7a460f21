import ReportCheck.Proofs.Number.Sum
import ReportCheck.Proofs.Predicate.SumChecks
import ReportCheck.Proofs.Sample

/-! # Limits of sum checks

  What the checks for sums do with amounts that are out of their range.

  - `Amount.matchesTotal_cases`: a check that can read its cell stops exactly if a running
    total overflows, and it returns otherwise.
  - `Amount.not_overflows_of_le`: amounts of up to a million digits do not overflow.
  - `Amount.matchesTotal_ne_true_of_infinite` and `Amount.matchesTotal_ne_true_of_huge`:
    neither an amount that is not finite nor a total of more than 400 digits in cents is
    matched.
  - `Amount.matchesTotal_limits` puts them together.
-/

namespace ReportCheck

open Decimal

namespace Amount

variable {value : Cell} {number : Option Binary64} {amounts : List Decimal}

/-! ### Returning -/

theorem total?_of_overflows (h : Overflows amounts) : total? amounts = .error .amountOverflow := by
  unfold total?
  rw [sum?_eq_overflow_iff.2 h]

theorem exists_total?_of_not_overflows (h : ¬ Overflows amounts) :
    ∃ total, total? amounts = .ok total := by
  rcases sum?_cases amounts with ⟨overflows, -⟩ | ⟨-, sum, hsum⟩
  · exact absurd overflows h
  · unfold total?
    rw [hsum]
    exact ⟨_, rfl⟩

theorem exists_verdict_of_total? (hnumber : value.strictNumber = .ok number)
    {total : Option Decimal} (htotal : total? amounts = .ok total) :
    ∃ verdict, matchesTotal value amounts = .ok verdict := by
  unfold matchesTotal
  simp only [htotal, hnumber, bind, Except.bind]
  cases (ofNumber? number).roundToCents? with
  | none => exact ⟨false, rfl⟩
  | some a =>
    cases total with
    | none => exact ⟨false, rfl⟩
    | some b => exact ⟨_, rfl⟩

/-- **Stopping.** A check whose cell can be read stops exactly if the sum overflows. -/
theorem matchesTotal_cases (hnumber : value.strictNumber = .ok number) (amounts : List Decimal) :
    (Overflows amounts ∧ matchesTotal value amounts = .error .amountOverflow) ∨
      (¬ Overflows amounts ∧ ∃ verdict, matchesTotal value amounts = .ok verdict) := by
  by_cases overflows : Overflows amounts
  · left
    refine ⟨overflows, ?_⟩
    unfold matchesTotal
    rw [total?_of_overflows overflows]
    rfl
  · obtain ⟨total, htotal⟩ := exists_total?_of_not_overflows overflows
    exact .inr ⟨overflows, exists_verdict_of_total? hnumber htotal⟩

/-- Amounts below the end of the range do not overflow, however many they are. -/
theorem not_overflows_of_le (small : ∀ a ∈ amounts, |a.toRat| ≤ 10 ^ (999597 : Int)) :
    ¬ Overflows amounts := by
  intro overflows
  have fails := sum?_eq_overflow_iff.2 overflows
  obtain ⟨total, hsum⟩ := sum?_eq_ok (k := 999597) le_rfl fun a ha => by
    rw [← abs_toRat]
    exact small a ha
  rw [hsum] at fails
  cases fails

/-! ### Bad verdicts -/

theorem exists_cents_of_matchesTotal (h : matchesTotal value amounts = .ok true) :
    ∃ number t, value.strictNumber = .ok number ∧ sum? amounts = .ok (some t) ∧
      (ofNumber? number).isFinite = true ∧
      nearestCents (ofNumber? number).toRat = nearestCents t.toRat := by
  obtain ⟨number, t, hnumber, hsum⟩ := exists_sum?_of_matchesTotal h
  refine ⟨number, t, hnumber, hsum, ?_⟩
  obtain ⟨-, finite, -⟩ := finite_of_sum? hsum
  obtain ⟨verdict, hverdict, hiff⟩ :=
    matchesTotal_of_isCents hnumber (total?_of_sum? hsum) (roundToCents?_isCents finite)
  rw [h] at hverdict
  cases hverdict
  exact hiff.1 rfl

/-- **Infinite amounts** are never matched. -/
theorem matchesTotal_ne_true_of_infinite {a : Decimal} (ha : a ∈ amounts)
    (infinite : a.isFinite = false) : matchesTotal value amounts ≠ .ok true := by
  intro h
  obtain ⟨-, t, -, hsum, -, -⟩ := exists_cents_of_matchesTotal h
  obtain ⟨-, -, finites⟩ := finite_of_sum? hsum
  have finite := finites a ha
  rw [infinite] at finite
  cases finite

theorem le_abs_of_huge {x : ℚ} (huge : 10 ^ 400 ≤ |nearestCents x|) :
    1000 * 10 ^ (397 : Int) ≤ |x| * 100 + 1 / 2 := by
  have cents := abs_nearestCents_le x
  rw [← Int.cast_le (R := ℚ), Int.cast_abs, Int.cast_pow, Int.cast_ofNat] at huge
  have split : (10 : ℚ) ^ 400 = 1000 * 10 ^ (397 : Int) := by
    rw [zpow_ofNat, show (400 : ℕ) = 3 + 397 from rfl, pow_add]
    norm_num only
  rw [split] at huge
  exact le_trans huge cents

theorem huge_of_le {x : ℚ} (large : 10 ^ (398 : Int) ≤ |x|) : 10 ^ 400 ≤ |nearestCents x| := by
  refine le_abs_nearestCents ?_
  have split : (10 : ℚ) ^ 400 = 10 ^ (398 : Int) * 100 := by
    rw [zpow_ofNat, show (400 : ℕ) = 398 + 2 from rfl, pow_add]
    norm_num only
  rw [Int.cast_pow, Int.cast_ofNat, split]
  exact mul_le_mul_of_nonneg_right large (by norm_num)

/-- **Huge totals** are never matched, where the digits that are dropped do not matter. -/
theorem matchesTotal_ne_true_of_huge (drifts : drift amounts < 10 ^ (397 : Int))
    (huge : 10 ^ 400 ≤ |nearestCents (exactTotal amounts)|) :
    matchesTotal value amounts ≠ .ok true := by
  intro h
  obtain ⟨number, t, -, hsum, -, hcents⟩ := exists_cents_of_matchesTotal h
  have large := le_abs_of_huge huge
  have unit : (1 : ℚ) ≤ 10 ^ (397 : Int) := one_le_zpow₀ (by norm_num) (by norm_num)
  -- The drift bounds the number of amounts as well, since their sizes are large.
  have short : (amounts.length : ℚ) ≤ 10 ^ (399 : Int) := by
    have size := abs_exactTotal_le amounts
    have bound := drifts
    rw [drift, div_lt_iff₀ (by positivity)] at bound
    generalize (10 : ℚ) ^ (397 : Int) = ten at *
    generalize (10 : ℚ) ^ (399 : Int) = top at *
    have each := mul_le_mul_of_nonneg_left (show ten ≤ 1 + absTotal amounts by linarith)
      (Nat.cast_nonneg (α := ℚ) amounts.length)
    exact le_of_mul_le_mul_right (by linarith) (show 0 < ten by linarith)
  have near := sum?_near short hsum
  have few := abs_nearestCents_ofNumber?_lt number
  rw [hcents] at few
  have small := abs_le_nearestCents t.toRat
  have less : (10 : ℚ) ^ 312 ≤ 10 ^ (397 : Int) := by
    rw [zpow_ofNat]
    exact pow_le_pow_right₀ (by norm_num) (by norm_num)
  have apart := abs_sub_abs_le_abs_sub (exactTotal amounts) t.toRat
  rw [abs_sub_comm] at apart
  generalize (10 : ℚ) ^ (397 : Int) = ten at *
  generalize (10 : ℚ) ^ 312 = few' at *
  linarith

/-- **Limits of sum checks.** A check whose cell can be read stops exactly if a running
    total overflows, which it takes amounts of about a million digits for. It matches no
    amount that is not finite, and no total of more than 400 digits in cents unless the
    amounts have so many digits more that some are dropped. -/
theorem matchesTotal_limits (hnumber : value.strictNumber = .ok number) (amounts : List Decimal) :
    ((Overflows amounts ∧ matchesTotal value amounts = .error .amountOverflow) ∨
      (¬ Overflows amounts ∧ ∃ verdict, matchesTotal value amounts = .ok verdict)) ∧
    ((∀ a ∈ amounts, |a.toRat| ≤ 10 ^ (999597 : Int)) → ¬ Overflows amounts) ∧
    ((∃ a ∈ amounts, a.isFinite = false) → matchesTotal value amounts ≠ .ok true) ∧
    (drift amounts < 10 ^ (397 : Int) → 10 ^ 400 ≤ |nearestCents (exactTotal amounts)| →
      matchesTotal value amounts ≠ .ok true) := by
  refine ⟨matchesTotal_cases hnumber amounts, not_overflows_of_le, ?_, matchesTotal_ne_true_of_huge⟩
  rintro ⟨a, ha, infinite⟩
  exact matchesTotal_ne_true_of_infinite ha infinite

theorem eq_ok_false {outcome : Except Fault Bool} (returns : ∃ verdict, outcome = .ok verdict)
    (bad : outcome ≠ .ok true) : outcome = .ok false := by
  obtain ⟨verdict, rfl⟩ := returns
  cases verdict with
  | false => rfl
  | true => exact absurd rfl bad

/-- An infinite amount and a total of 401 digits in cents are not matched. -/
theorem matchesTotal_limits_of_large_amounts :
    (Cell.int 50).strictNumber = .ok (some (.nearest false 50 1)) ∧
      matchesTotal (.int 50) [.finite false 50 0, .infinite false] = .ok false ∧
      matchesTotal (.int 50) [.finite false 1 398] = .ok false := by
  have hnumber : (Cell.int 50).strictNumber = .ok (some (.nearest false 50 1)) := rfl
  have returns : ∀ amounts : List Decimal, (∀ a ∈ amounts, |a.toRat| ≤ 10 ^ (398 : Int)) →
      ∃ verdict, matchesTotal (.int 50) amounts = .ok verdict := by
    intro amounts small
    obtain ⟨outcome, inRange, -⟩ := matchesTotal_limits hnumber amounts
    have more : (10 : ℚ) ^ (398 : Int) ≤ 10 ^ (999597 : Int) :=
      ten_zpow_le (by norm_num)
    rcases outcome with ⟨overflows, -⟩ | ⟨-, verdict⟩
    · exact absurd overflows (inRange fun a ha => le_trans (small a ha) more)
    · exact verdict
  have unit : (50 : ℚ) ≤ 10 ^ (398 : Int) := by
    have more : (10 : ℚ) ^ (2 : Int) ≤ 10 ^ (398 : Int) :=
      ten_zpow_le (by norm_num)
    exact le_trans (by norm_num) more
  have large : |(Decimal.finite false 1 398).toRat| = 10 ^ (398 : Int) := by
    rw [toRat_finite, signed_false, Nat.cast_one, one_mul, abs_of_pos (by positivity)]
  refine ⟨hnumber, eq_ok_false (returns _ ?_) ?_, eq_ok_false (returns _ ?_) ?_⟩
  · simpa [toRat] using unit
  · obtain ⟨-, -, infinite, -⟩ := matchesTotal_limits hnumber [.finite false 50 0, .infinite false]
    exact infinite ⟨.infinite false, by simp, rfl⟩
  · intro a ha
    rw [List.mem_singleton.1 ha, large]
  · obtain ⟨-, -, -, huge⟩ := matchesTotal_limits hnumber [.finite false 1 398]
    refine huge ?_ (huge_of_le ?_)
    · rw [drift, absTotal_cons, absTotal_nil, large, div_lt_iff₀ (by positivity)]
      have top : (10 : ℚ) ^ (398 : Int) ≤ 10 ^ (399 : Int) :=
        ten_zpow_le (by norm_num)
      have two : (2 : ℚ) ≤ 10 ^ (397 : Int) := by
        have more : (10 : ℚ) ^ (1 : Int) ≤ 10 ^ (397 : Int) :=
          ten_zpow_le (by norm_num)
        exact le_trans (by norm_num) more
      simp only [List.length_singleton, Nat.cast_one, one_mul, add_zero]
      generalize (10 : ℚ) ^ (397 : Int) = ten at *
      generalize (10 : ℚ) ^ (398 : Int) = x at *
      generalize (10 : ℚ) ^ (399 : Int) = y at *
      have product := mul_le_mul_of_nonneg_right two (show 0 ≤ y by linarith)
      linarith
    · rw [exactTotal_cons, exactTotal_nil, add_zero, large]

end Amount

namespace SumLimits

/-- The amount in all periods. -/
def cumulative : Check := .cumulativeAmountIsEqual "amount" [] []

/-- A record with an amount. -/
def record : Record := ⟨"sums", [("amount", .int 50)], some 2⟩

/-- A context with an earlier period, whose amount has a million digits. -/
def context : Context := { Sample.context with
  summaries := [.ofFlat [("current_amount", .text "1E+1000000")]] }

/-- Amounts with a huge total, which is lost where the first one has more digits. -/
def cancelling : List Decimal := [.finite false 1 800, .finite false 1 398, .finite true 1 800]

end SumLimits

open SumLimits in
/-- **Limits that are reached.** A finite amount of an earlier period can stop a check, and a
    huge total can be matched by zero. -/
theorem Check.sum_limits_reached :
    (cumulative.eval (.int 50) record context).outcome = .error .amountOverflow ∧
      Amount.matchesTotal (.int 0) cancelling = .ok true ∧
      10 ^ 400 ≤ |nearestCents (exactTotal cancelling)| := by
  have total : exactTotal cancelling = 10 ^ (398 : Int) := by
    simp only [cancelling, exactTotal_cons, exactTotal_nil, toRat_finite, signed_false, signed_true]
    generalize (10 : ℚ) ^ (800 : Int) = huge
    generalize (10 : ℚ) ^ (398 : Int) = large
    ring
  refine ⟨by decide +kernel, by decide +kernel, Amount.huge_of_le ?_⟩
  rw [total, abs_of_pos (by positivity)]

end ReportCheck
