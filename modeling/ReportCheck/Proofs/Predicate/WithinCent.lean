import ReportCheck.Proofs.Calendar.Digits
import ReportCheck.Proofs.Number.Closest
import ReportCheck.Proofs.Number.Render
import ReportCheck.Proofs.Sample

/-! # Amounts a cent apart

  Two cells are taken as equal if the numbers they show are less than a cent apart. Amounts with
  two decimals have no exact double-precision form, so what counts is how far the nearest
  numbers are apart.

  - `Binary64.isBelowCent_sub_iff`: for numbers on the grid of the last bit of a cent, neither the
    rounding of the difference nor that of the bound changes the verdict.
  - `Amount.nearest_amount`: the numbers nearest to amounts in cents are on this grid, and closer
    to them than a thousandth of a cent.
  - `Check.amounts_within_cent` is what follows for the check. Equal amounts are accepted and those
    two cents apart are not. Of two amounts one cent apart, `Check.cent_apart_accepted` is a pair
    that is.
-/

namespace ReportCheck

open Text

namespace Binary64

/-! ### Differences -/

theorem Finite.units_cast (x : Finite) : (x.units : ℚ) = x.toRat * 2 ^ 1074 := by
  have least := x.exponent_ge
  have power : (2 : ℚ) ^ (x.exponent + 1074).toNat = 2 ^ x.exponent * 2 ^ 1074 := by
    rw [← zpow_natCast, ← zpow_natCast, ← zpow_add₀ (by norm_num)]
    congr 1
    omega
  have form : x.units = Decimal.signedCoefficient x.negative
      (x.mantissa * 2 ^ (x.exponent + 1074).toNat) := by
    unfold Finite.units Decimal.signedCoefficient
    push_cast
    rfl
  rw [form, Decimal.signedCoefficient_cast, Finite.toRat, ← Decimal.signed_mul, Finite.magnitude,
    mul_assoc, ← power]
  push_cast
  rfl

theorem signed_difference (x y : Finite) :
    Decimal.signed (x.units - y.units < 0) ((x.units - y.units).natAbs / ((2 ^ 1074 : ℕ) : ℚ)) =
      x.toRat - y.toRat := by
  have nonzero : (2 : ℚ) ^ 1074 ≠ 0 := by positivity
  rw [div_eq_mul_inv, Decimal.signed_mul, Decimal.signed_natAbs, Int.cast_sub, x.units_cast,
    y.units_cast, Nat.cast_pow, Nat.cast_ofNat, ← sub_mul, mul_assoc, mul_inv_cancel₀ nonzero, mul_one]

/-- **Differences** below the bound are finite, and nearest to the exact ones. -/
theorem sub_isNearest {x y : Finite} (below : |x.toRat - y.toRat| < overflowBound) :
    ∃ s, (finite x).sub (finite y) = .finite s ∧ s.IsNearest (x.toRat - y.toRat) := by
  have positive : 0 < 2 ^ 1074 := by positivity
  have quotient := signed_difference x y
  have size := congrArg (|·|) quotient
  rw [Decimal.abs_signed _ (div_nonneg (Nat.cast_nonneg _) (Nat.cast_nonneg _))] at size
  rw [← size] at below
  obtain ⟨s, hs⟩ := nearest_eq_finite (x.units - y.units < 0) _ positive below
  refine ⟨s, by simp only [sub, hs], ?_⟩
  rw [← quotient]
  exact isNearest_of_nearest positive hs

theorem isBelowCent_iff (x : Finite) :
    isBelowCent (.finite x) = true ↔ |x.toRat| < cent.toRat := by
  have unit : (0 : ℚ) < 2 ^ 1074 := by positivity
  have size : ∀ y : Finite, (y.units.natAbs : ℚ) = |y.toRat| * 2 ^ 1074 := by
    intro y
    rw [Nat.cast_natAbs, Int.cast_abs, y.units_cast, abs_mul, abs_of_pos unit]
  have nonneg : |cent.toRat| = cent.toRat := abs_of_nonneg cent.magnitude_nonneg
  show decide (x.units.natAbs < cent.units.natAbs) = true ↔ _
  rw [decide_eq_true_iff, ← Nat.cast_lt (α := ℚ), size, size, nonneg]
  exact mul_lt_mul_iff_left₀ unit

/-! ### The grid of a cent -/

/-- The number before one cent. -/
def belowCent : Finite :=
  { cent with mantissa := 5764607523034234, mantissa_lt := by decide, normal := by decide }

/-- **The grid of a cent**: the multiples of its last bit. -/
def CentGrid (v : ℚ) : Prop := ∃ k : ℤ, v = k * 2 ^ (-59 : ℤ)

theorem CentGrid.zero : CentGrid 0 := ⟨0, by simp⟩

theorem CentGrid.sub {v w : ℚ} (hv : CentGrid v) (hw : CentGrid w) : CentGrid (v - w) := by
  obtain ⟨k, rfl⟩ := hv
  obtain ⟨l, rfl⟩ := hw
  exact ⟨k - l, by push_cast; ring⟩

theorem CentGrid.cases {v : ℚ} (h : CentGrid v) :
    (|v| < 1 / 100 ∧ |v| ≤ belowCent.toRat) ∨ (1 / 100 ≤ |v| ∧ cent.toRat ≤ |v|) := by
  obtain ⟨k, rfl⟩ := h
  have unit : (0 : ℚ) < 2 ^ (-59 : ℤ) := by positivity
  have low : belowCent.toRat = ((5764607523034234 : ℤ) : ℚ) * 2 ^ (-59 : ℤ) := rfl
  have high : cent.toRat = ((5764607523034235 : ℤ) : ℚ) * 2 ^ (-59 : ℤ) := rfl
  rw [abs_mul, abs_of_pos unit, ← Int.cast_abs, low, high, mul_le_mul_iff_left₀ unit,
    mul_le_mul_iff_left₀ unit, Int.cast_le, Int.cast_le]
  rcases le_or_gt |k| 5764607523034234 with few | many
  · have few' : (|k| : ℚ) ≤ 5764607523034234 := by exact_mod_cast few
    refine .inl ⟨?_, few⟩
    push_cast
    norm_num
    linarith
  · have many' : (5764607523034235 : ℚ) ≤ (|k| : ℚ) := by exact_mod_cast many
    refine .inr ⟨?_, many⟩
    push_cast
    norm_num
    linarith

/-- **Comparing with a cent** is exact for numbers on its grid. -/
theorem isBelowCent_sub_iff {x y : Finite} (hx : CentGrid x.toRat) (hy : CentGrid y.toRat)
    (below : |x.toRat - y.toRat| < overflowBound) :
    ((finite x).sub (finite y)).isBelowCent = true ↔ |x.toRat - y.toRat| < 1 / 100 := by
  obtain ⟨s, difference, nearest⟩ := sub_isNearest below
  have gap : belowCent.toRat < cent.toRat :=
    mul_lt_mul_of_pos_right (by norm_num [belowCent, cent]) (by positivity)
  rw [difference, isBelowCent_iff]
  rcases (hx.sub hy).cases with ⟨less, low⟩ | ⟨more, high⟩
  · exact iff_of_true ((nearest.abs_toRat_le low).trans_lt gap) less
  · exact iff_of_false (not_lt.2 (nearest.le_abs_toRat high)) (not_lt.2 more)

end Binary64

namespace Amount

open Binary64

/-! ### Amounts in cents -/

section Cents

variable {m : ℤ}

theorem signed_hundredths (m : ℤ) :
    Decimal.signed (m < 0) (m.natAbs / ((100 : ℕ) : ℚ)) = m / 100 := by
  rw [div_eq_mul_inv, Decimal.signed_mul, Decimal.signed_natAbs, Nat.cast_ofNat, ← div_eq_mul_inv]

/-- **Nearest to an amount.** The number nearest to an amount in cents is finite, less than a
    thousandth of a cent away, and on the grid of a cent. -/
theorem nearest_amount (moderate : |m| ≤ 10 ^ 12) :
    ∃ x, nearest (m < 0) m.natAbs 100 = .finite x ∧ x.IsNearest (m / 100) ∧
      |x.toRat - m / 100| ≤ 1 / 10 ^ 6 ∧ CentGrid x.toRat := by
  have hundred : 0 < 100 := by decide
  have quotient : (m.natAbs / (100 : ℕ) : ℚ) = |(m : ℚ)| / 100 := by
    rw [Nat.cast_natAbs, Int.cast_abs, Nat.cast_ofNat]
  have size : |(m : ℚ)| ≤ 10 ^ 12 := by exact_mod_cast moderate
  have fits : (m.natAbs / (100 : ℕ) : ℚ) < 2 ^ ((-19 : ℤ) + 53) := by
    rw [quotient]
    norm_num
    linarith
  have below : (m.natAbs / (100 : ℕ) : ℚ) < overflowBound :=
    fits.trans_le ((zpow_le_zpow_right₀ (by norm_num) (by decide)).trans overflowBound_between.1)
  obtain ⟨x, hx⟩ := nearest_eq_finite (m < 0) m.natAbs hundred below
  have near := isNearest_of_nearest hundred hx
  have error := abs_nearest_sub_le hundred hx (by decide) fits
  rw [signed_hundredths] at near error
  refine ⟨x, hx, near, error.trans (by norm_num), ?_⟩
  by_cases zero : m = 0
  · subst zero
    cases hx
    convert CentGrid.zero
    simp [Finite.toRat, Finite.magnitude]
  · -- A cent fills 53 bits at the exponent of the grid.
    refine nearest_onGrid hundred hx ?_
    have one : (1 : ℚ) ≤ |(m : ℚ)| := by exact_mod_cast Int.one_le_abs zero
    rw [quotient]
    norm_num
    linarith

theorem abs_distance_sub_le {x y : ℚ} {n : ℤ} (hx : |x - m / 100| ≤ 1 / 10 ^ 6)
    (hy : |y - n / 100| ≤ 1 / 10 ^ 6) : |(|x - y| - |(m : ℚ) - n| / 100)| ≤ 2 / 10 ^ 6 := by
  have scaled : |(m : ℚ) - n| / 100 = |(m / 100 : ℚ) - n / 100| := by
    rw [← sub_div, abs_div, abs_of_pos (by norm_num : (0 : ℚ) < 100)]
  rw [scaled]
  calc |(|x - y| - |(m / 100 : ℚ) - n / 100|)|
      ≤ |(x - y) - (m / 100 - n / 100)| := abs_abs_sub_abs_le _ _
    _ = |(x - m / 100) - (y - n / 100)| := by ring_nf
    _ ≤ |x - m / 100| + |y - n / 100| := abs_sub _ _
    _ ≤ 2 / 10 ^ 6 := by linarith

theorem distance_lt_overflowBound {x y : ℚ} {n : ℤ} (ours : |m| ≤ 10 ^ 12) (theirs : |n| ≤ 10 ^ 12)
    (near : |(|x - y| - |(m : ℚ) - n| / 100)| ≤ 2 / 10 ^ 6) : |x - y| < overflowBound := by
  have far : |(m : ℚ) - n| ≤ 2 * 10 ^ 12 := by
    have moderate := (abs_sub m n).trans (add_le_add ours theirs)
    exact_mod_cast moderate
  have high := (abs_le.1 near).2
  have small : |x - y| < 2 ^ (35 : ℤ) := by
    norm_num
    linarith
  exact small.trans_le ((zpow_le_zpow_right₀ (by norm_num) (by decide)).trans overflowBound_between.1)

theorem distance_lt_cent_iff {x y : ℚ} {n : ℤ}
    (near : |(|x - y| - |(m : ℚ) - n| / 100)| ≤ 2 / 10 ^ 6) :
    |x - y| < 1 / 100 ↔ m = n ∨ |m - n| = 1 ∧ |x - y| < 1 / 100 := by
  obtain ⟨low, high⟩ := abs_le.1 near
  rcases eq_or_ne m n with same | differ
  · rw [same, sub_self, abs_zero] at high
    exact iff_of_true (by linarith) (.inl same)
  · have apart : 1 ≤ |m - n| := Int.one_le_abs (sub_ne_zero.2 differ)
    by_cases one : |m - n| = 1
    · simp only [differ, one, true_and, false_or]
    · have two : (2 : ℚ) ≤ |(m : ℚ) - n| := by
        have whole : 2 ≤ |m - n| := by omega
        exact_mod_cast whole
      simp only [differ, one, false_and, or_self, iff_false, not_lt]
      linarith

/-! ### Texts of amounts -/

/-- The text of an amount in cents, with two decimals. -/
def centsText (m : ℤ) : String :=
  String.ofList (Decimal.signText (m < 0) ++
    (Nat.toDigits 10 (m.natAbs / 100) ++ '.' :: Date.padded 2 (m.natAbs % 100)))

theorem centsText_starts (m : ℤ) : Starts (centsText m).toList := by
  have digits : Starts (Nat.toDigits 10 (m.natAbs / 100)) :=
    (starts_and_ends Nat.toDigits_ne_nil fun c hc =>
      not_isBlank_of_isAsciiDigit (isAsciiDigit_of_mem_toDigits hc)).1
  unfold centsText
  rw [String.toList_ofList]
  by_cases negative : m < 0
  · rw [decide_eq_true negative]
    exact ⟨'-', _, rfl, by decide⟩
  · rw [decide_eq_false negative]
    exact digits.append _

theorem read?_centsText (m : ℤ) :
    Numeral.read? (centsText m).toList = some (⟨m < 0, m.natAbs, -2⟩, []) := by
  have two : (Date.padded 2 (m.natAbs % 100)).length = 2 :=
    length_padded (by decide) (Nat.mod_lt _ (by decide))
  have all : ∀ c ∈ Nat.toDigits 10 (m.natAbs / 100) ++ Date.padded 2 (m.natAbs % 100),
      isDigit c = true := by
    intro c hc
    rcases List.mem_append.1 hc with whole | fraction
    · exact isDigit_of_mem_toDigits whole
    · exact isDigit_of_isAsciiDigit (isAsciiDigit_of_mem_padded fraction)
  have read := Numeral.read?_fraction (m < 0) Nat.toDigits_ne_nil all Numeral.Power.none
  have value : m.natAbs / 100 * 10 ^ 2 + m.natAbs % 100 = m.natAbs := by omega
  rw [List.append_nil, numeralValue_append, numeralValue_toDigits, numeralValue_padded, two,
    value] at read
  unfold centsText
  rw [String.toList_ofList]
  exact read

theorem ofScaled_hundredths (negative : Bool) {c : Nat} (moderate : c ≤ 10 ^ 12) :
    ofScaled negative c (-2) = nearest negative c 100 := by
  have several := digitCount_pos c
  have few : digitCount c ≤ 13 :=
    (Nat.length_toDigits_le_iff (by decide) (by decide)).2 (moderate.trans_lt (by decide))
  unfold ofScaled
  by_cases zero : c = 0
  · subst zero
    rfl
  rw [if_neg (by simpa using zero), if_neg (by omega), if_neg (by omega)]
  show nearest negative (c * 1) 100 = _
  rw [Nat.mul_one]

/-- **The text of an amount** is read as the number nearest to it. -/
theorem leadingNumber_centsText (moderate : |m| ≤ 10 ^ 12) :
    (Cell.text (centsText m)).leadingNumber =
      .ok (some (nearest (m < 0) m.natAbs 100)) := by
  have size : m.natAbs ≤ 10 ^ 12 := by
    rw [Int.abs_eq_natAbs] at moderate
    omega
  show Except.ok ((Numeral.read? (trimLeft (centsText m).toList)).map _) = _
  rw [(centsText_starts m).trimLeft, read?_centsText]
  show Except.ok (some (ofScaled (m < 0) m.natAbs (-2))) = _
  rw [ofScaled_hundredths _ size]

end Cents

end Amount

/-! ### The check -/

open Amount Binary64 in
/-- **Comparing amounts to the cent.** The check always returns. It reads two amounts in cents as
    the numbers nearest to them, and accepts them if they are the same, or if they are a cent
    apart and these numbers are less than that apart. Amounts further apart are never accepted. -/
theorem Check.amounts_within_cent {m n : ℤ} (ours : |m| ≤ 10 ^ 12) (theirs : |n| ≤ 10 ^ 12)
    {record : Record} {key : String} (holds : record.value key = .text (centsText n))
    (ctx : Context) :
    ∃ accepted x y,
      (isEqual key).eval (.text (centsText m)) record ctx = pure accepted ∧
      (Cell.text (centsText m)).leadingNumber = .ok (some (.finite x)) ∧ x.IsNearest (m / 100) ∧
      (Cell.text (centsText n)).leadingNumber = .ok (some (.finite y)) ∧ y.IsNearest (n / 100) ∧
      (accepted = true ↔ m = n ∨ |m - n| = 1 ∧ |x.toRat - y.toRat| < 1 / 100) := by
  obtain ⟨x, hx, nearX, errorX, gridX⟩ := nearest_amount ours
  obtain ⟨y, hy, nearY, errorY, gridY⟩ := nearest_amount theirs
  have readX := leadingNumber_centsText ours
  have readY := leadingNumber_centsText theirs
  rw [hx] at readX
  rw [hy] at readY
  have verdict : (isEqual key).eval (.text (centsText m)) record ctx =
      pure ((finite x).sub (finite y)).isBelowCent := by
    show Traced.ofExcept (isWithinCent _ (record.value key)) = _
    unfold isWithinCent
    rw [holds, readX, readY]
    rfl
  refine ⟨_, x, y, verdict, readX, nearX, readY, nearY, ?_⟩
  -- The distance of the numbers is the one of the amounts up to a small part of a cent.
  have near := abs_distance_sub_le errorX errorY
  rw [isBelowCent_sub_iff gridX gridY (distance_lt_overflowBound ours theirs near)]
  exact distance_lt_cent_iff near

namespace CentApart

/-- A record with a total in cents. -/
def record (n : ℤ) : Record := ⟨"cover", [("total", .text (Amount.centsText n))], some 2⟩

end CentApart

open CentApart Amount in
/-- The amounts `0.04` and `0.02` are not taken as equal. -/
theorem Check.amounts_within_cent_of_two :
    |(4 : ℤ)| ≤ 10 ^ 12 ∧ |(2 : ℤ)| ≤ 10 ^ 12 ∧
      (record 2).value "total" = .text (centsText 2) ∧
      (isEqual "total").eval (.text (centsText 4)) (record 2) Sample.context = pure false := by
  have ours : |(4 : ℤ)| ≤ 10 ^ 12 := by decide
  have theirs : |(2 : ℤ)| ≤ 10 ^ 12 := by decide
  have holds : (record 2).value "total" = .text (centsText 2) := rfl
  refine ⟨ours, theirs, holds, ?_⟩
  obtain ⟨accepted, x, y, verdict, -, -, -, -, exact⟩ :=
    amounts_within_cent ours theirs holds Sample.context
  have refused : accepted = false := by
    rw [Bool.eq_false_iff, Ne, exact]
    simp
  rw [verdict, refused]

open CentApart Amount in
/-- **A cent apart.** The amounts `0.03` and `0.02` are taken as equal, while `0.02` and `0.01` are
    not. -/
theorem Check.cent_apart_accepted :
    (centsText 3 = "0.03" ∧ centsText 2 = "0.02" ∧ centsText 1 = "0.01") ∧
      ((isEqual "total").eval (.text (centsText 3)) (record 2) Sample.context).outcome = .ok true ∧
      ((isEqual "total").eval (.text (centsText 2)) (record 1) Sample.context).outcome = .ok false :=
  ⟨⟨rfl, rfl, rfl⟩, by decide +kernel, by decide +kernel⟩

end ReportCheck
