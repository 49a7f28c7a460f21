import ReportCheck.Proofs.Number.Magnitude
import Mathlib.Order.Compare
import Mathlib.Order.WithBot
import Mathlib.Algebra.Order.Ring.Unbundled.Basic

/-! # The order of decimal numbers

  Comparing two decimal numbers compares their values, infinities among them.

  - `Decimal.value?` is the signed value, in the rational numbers with two ends.
  - `compareMagnitude_compares`: the comparison by the leading digits and then by
    coefficients is the one of the magnitudes.
  - `compare?_compares`: whatever `Decimal.compare?` answers is true of the values.
-/

namespace ReportCheck

/-- The rational numbers with an infinity at both ends. -/
abbrev ExtendedRat := WithBot (WithTop ℚ)

namespace Decimal

/-- A magnitude with its sign. -/
def signed (negative : Bool) (magnitude : ℚ) : ℚ := if negative then -magnitude else magnitude

/-- **Value** of a decimal number, unless it is not a number. -/
def value? : Decimal → Option ExtendedRat
  | finite negative coefficient exponent =>
    some ((signed negative (coefficient * 10 ^ exponent) : WithTop ℚ) : ExtendedRat)
  | infinite true => some ⊥
  | infinite false => some ⊤
  | nan .. => none

/-! ### Magnitudes -/

theorem scaled_lt_of_leading {c c' : Nat} {e e' : Int} (positive : 0 < c')
    (h : e + digitCount c < e' + digitCount c') : (c : ℚ) * 10 ^ e < c' * 10 ^ e' := by
  calc (c : ℚ) * 10 ^ e
      < 10 ^ (e + digitCount c) := scaled_lt_pow c e
    _ ≤ 10 ^ (e' + digitCount c' - 1) := zpow_le_zpow_right₀ (by norm_num) (by omega)
    _ ≤ c' * 10 ^ e' := pow_le_scaled positive e'

/-- Values with the same number of digits before the point compare by their coefficients
    on a common grid. -/
theorem compare_aligned_compares (c : Nat) (e : Int) (c' : Nat) (e' : Int) :
    (compare (c * 10 ^ (e - min e e').toNat) (c' * 10 ^ (e' - min e e').toNat)).Compares
      ((c : ℚ) * 10 ^ e) (c' * 10 ^ e') := by
  have unit : (0 : ℚ) < 10 ^ min e e' := by positivity
  have ours : (c : ℚ) * 10 ^ e = ((c * 10 ^ (e - min e e').toNat : ℕ) : ℚ) * 10 ^ min e e' := by
    rw [Nat.cast_mul, mul_assoc, ← ten_zpow_eq_mul (min_le_left e e')]
  have theirs : (c' : ℚ) * 10 ^ e' =
      ((c' * 10 ^ (e' - min e e').toNat : ℕ) : ℚ) * 10 ^ min e e' := by
    rw [Nat.cast_mul, mul_assoc, ← ten_zpow_eq_mul (min_le_right e e')]
  rw [ours, theirs]
  -- On the common grid only the two coefficients are left to compare.
  generalize c * 10 ^ (e - min e e').toNat = n
  generalize c' * 10 ^ (e' - min e e').toNat = n'
  cases horder : compare n n' with
  | lt => exact mul_lt_mul_of_pos_right (Nat.cast_lt.2 (Nat.compare_eq_lt.1 horder)) unit
  | eq => exact congrArg (fun k : ℕ => (k : ℚ) * 10 ^ min e e') (Nat.compare_eq_eq.1 horder)
  | gt => exact mul_lt_mul_of_pos_right (Nat.cast_lt.2 (Nat.compare_eq_gt.1 horder)) unit

/-- **Comparing magnitudes.** -/
theorem compareMagnitude_compares (c : Nat) (e : Int) (c' : Nat) (e' : Int) :
    (compareMagnitude c e c' e').Compares ((c : ℚ) * 10 ^ e) (c' * 10 ^ e') := by
  unfold compareMagnitude
  by_cases hzero : c = 0
  · rw [if_pos (by simpa using hzero), hzero, Nat.cast_zero, zero_mul]
    by_cases hzero' : c' = 0
    · rw [if_pos (by simpa using hzero'), hzero', Nat.cast_zero, zero_mul]
      rfl
    · rw [if_neg (by simpa using hzero')]
      have positive : 0 < c' := Nat.pos_of_ne_zero hzero'
      show (0 : ℚ) < c' * 10 ^ e'
      positivity
  · rw [if_neg (by simpa using hzero)]
    have positive : 0 < c := Nat.pos_of_ne_zero hzero
    by_cases hzero' : c' = 0
    · rw [if_pos (by simpa using hzero'), hzero', Nat.cast_zero, zero_mul]
      show (0 : ℚ) < c * 10 ^ e
      positivity
    · rw [if_neg (by simpa using hzero')]
      -- Different leading digits decide; otherwise the coefficients do.
      cases hleading : compare (e + digitCount c : Int) (e' + digitCount c') with
      | lt =>
        rw [compare_lt_iff_lt] at hleading
        exact scaled_lt_of_leading (Nat.pos_of_ne_zero hzero') hleading
      | eq => exact compare_aligned_compares c e c' e'
      | gt =>
        rw [compare_gt_iff_gt] at hleading
        exact scaled_lt_of_leading positive hleading

/-! ### Signed values -/

theorem signed_of_not_negative {negative : Bool} {c : Nat} (e : Int)
    (h : (negative && c != 0) = false) : signed negative (c * 10 ^ e) = c * 10 ^ e := by
  cases negative with
  | false => rfl
  | true =>
    have hzero : c = 0 := by simpa using h
    rw [hzero, Nat.cast_zero, zero_mul]
    exact neg_zero

theorem signed_of_negative {negative : Bool} {c : Nat} (e : Int)
    (h : (negative && c != 0) = true) :
    signed negative (c * 10 ^ e) = -(c * 10 ^ e) ∧ (0 : ℚ) < c * 10 ^ e := by
  rw [Bool.and_eq_true, bne_iff_ne] at h
  obtain ⟨rfl, hnonzero⟩ := h
  have positive : 0 < c := Nat.pos_of_ne_zero hnonzero
  exact ⟨rfl, by positivity⟩

/-- **Comparing finite values.** -/
theorem compareFinite_compares (negative : Bool) (c : Nat) (e : Int) (negative' : Bool) (c' : Nat)
    (e' : Int) :
    (compareFinite negative c e negative' c' e').Compares (signed negative (c * 10 ^ e))
      (signed negative' (c' * 10 ^ e')) := by
  have nonneg : (0 : ℚ) ≤ c * 10 ^ e := by positivity
  have nonneg' : (0 : ℚ) ≤ c' * 10 ^ e' := by positivity
  unfold compareFinite
  cases hsign : negative && c != 0 with
  | false =>
    rw [signed_of_not_negative e hsign]
    cases hsign' : negative' && c' != 0 with
    | false =>
      rw [signed_of_not_negative e' hsign']
      exact compareMagnitude_compares c e c' e'
    | true =>
      -- Values of different signs need no comparison of magnitudes.
      obtain ⟨hvalue', positive'⟩ := signed_of_negative e' hsign'
      rw [hvalue']
      show -(c' * 10 ^ e' : ℚ) < c * 10 ^ e
      linarith
  | true =>
    obtain ⟨hvalue, positive⟩ := signed_of_negative e hsign
    rw [hvalue]
    cases hsign' : negative' && c' != 0 with
    | false =>
      rw [signed_of_not_negative e' hsign']
      show -(c * 10 ^ e : ℚ) < c' * 10 ^ e'
      linarith
    | true =>
      rw [(signed_of_negative e' hsign').1]
      -- Below zero the larger magnitude is the smaller value.
      have reversed := compareMagnitude_compares c' e' c e
      cases horder : compareMagnitude c' e' c e with
      | lt =>
        rw [horder] at reversed
        exact neg_lt_neg reversed
      | eq =>
        rw [horder] at reversed
        exact congrArg Neg.neg reversed.symm
      | gt =>
        rw [horder] at reversed
        exact neg_lt_neg reversed

theorem compares_coe {order : Ordering} {x y : ℚ} (h : order.Compares x y) :
    order.Compares ((x : WithTop ℚ) : ExtendedRat) ((y : WithTop ℚ) : ExtendedRat) := by
  cases order with
  | lt => exact WithBot.coe_lt_coe.2 (WithTop.coe_lt_coe.2 h)
  | eq => exact congrArg (fun q : ℚ => ((q : WithTop ℚ) : ExtendedRat)) h
  | gt => exact WithBot.coe_lt_coe.2 (WithTop.coe_lt_coe.2 h)

/-- **Comparing** decimal numbers. -/
theorem compare?_compares {a b : Decimal} {order : Ordering} (h : a.compare? b = some order) :
    ∃ x y, a.value? = some x ∧ b.value? = some y ∧ order.Compares x y := by
  have below (q : ℚ) : (⊥ : ExtendedRat) < ((q : WithTop ℚ) : ExtendedRat) := WithBot.bot_lt_coe _
  have above (q : ℚ) : ((q : WithTop ℚ) : ExtendedRat) < ⊤ :=
    WithBot.coe_lt_coe.2 (WithTop.coe_lt_top q)
  have ends : (⊥ : ExtendedRat) < ⊤ := WithBot.bot_lt_coe _
  unfold compare? at h
  split at h
  · exact nomatch h
  · exact nomatch h
  · next negative negative' =>
    cases h
    cases negative <;> cases negative'
    · exact ⟨_, _, rfl, rfl, rfl⟩
    · exact ⟨_, _, rfl, rfl, ends⟩
    · exact ⟨_, _, rfl, rfl, ends⟩
    · exact ⟨_, _, rfl, rfl, rfl⟩
  · next negative _ _ _ =>
    cases h
    cases negative
    · exact ⟨_, _, rfl, rfl, above _⟩
    · exact ⟨_, _, rfl, rfl, below _⟩
  · next negative =>
    cases h
    cases negative
    · exact ⟨_, _, rfl, rfl, above _⟩
    · exact ⟨_, _, rfl, rfl, below _⟩
  · next n c e n' c' e' =>
    cases h
    exact ⟨_, _, rfl, rfl, compares_coe (compareFinite_compares n c e n' c' e')⟩

/-- **Numbers are comparable**, infinities among them. -/
theorem exists_compare? {a b : Decimal} {x y : ExtendedRat} (ha : a.value? = some x)
    (hb : b.value? = some y) : ∃ order, a.compare? b = some order ∧ order.Compares x y := by
  have comparable : ∃ order, a.compare? b = some order := by
    cases a with
    | nan => exact nomatch ha
    | finite =>
      cases b with
      | nan => exact nomatch hb
      | _ => exact ⟨_, rfl⟩
    | infinite =>
      cases b with
      | nan => exact nomatch hb
      | _ => exact ⟨_, rfl⟩
  obtain ⟨order, horder⟩ := comparable
  obtain ⟨x', y', hx, hy, compares⟩ := compare?_compares horder
  cases hx.symm.trans ha
  cases hy.symm.trans hb
  exact ⟨order, horder, compares⟩

theorem isNaN_of_value? {d : Decimal} {x : ExtendedRat} (h : d.value? = some x) :
    d.isNaN = false := by
  cases d with
  | nan => exact nomatch h
  | _ => rfl

theorem exists_value? {d : Decimal} (h : d.isNaN = false) : ∃ x, d.value? = some x := by
  cases d with
  | nan => exact nomatch h
  | finite => exact ⟨_, rfl⟩
  | infinite negative =>
    cases negative with
    | true => exact ⟨⊥, rfl⟩
    | false => exact ⟨⊤, rfl⟩

theorem compare?_of_isNaN {a b : Decimal} (h : (a.isNaN || b.isNaN) = true) :
    a.compare? b = none := by
  cases a with
  | nan => rfl
  | _ =>
    cases b with
    | nan => rfl
    | _ => exact nomatch h

end Decimal

end ReportCheck
