import ReportCheck.Proofs.Number.Double
import ReportCheck.Proofs.Predicate.Verdict
import ReportCheck.Proofs.Sample

/-! # The order of numbers in cells

  Numbers come in three forms, and the comparison checks put all of them in one order, that of
  their values. A double-precision value that is not a number is taken for one, and has no place in
  the order.

  - `Cell.Holds` says which value a cell holds; it is the one that comparisons are about:
    `Cell.holds_iff`.
  - `Check.comparesWith_eq_true_iff` is the step from a comparison to values, and
    `Check.comparesWith_of_unordered` says what becomes of values that are not numbers.
  - `Check.comparisons_order_numbers` is the statement about the two checks.
-/

namespace ReportCheck

namespace Cell

/-- **Numbers in cells.** The value that a cell holds, in any of the three forms. -/
inductive Holds : Cell → ExtendedRat → Prop
  | int (n : WholeNumber) : Holds (.int n) (((n : ℚ) : WithTop ℚ) : ExtendedRat)
  | float (x : Binary64.Finite) :
      Holds (.float (.finite x)) ((x.toRat : WithTop ℚ) : ExtendedRat)
  | negativeInfinity : Holds (.float (.infinite true)) ⊥
  | infinity : Holds (.float (.infinite false)) ⊤
  | decimal {d : Decimal} {x : ExtendedRat} (h : d.value? = some x) : Holds (.decimal d) x

variable {c v w : Cell} {x y : ExtendedRat}

theorem value?_ofInt (n : Int) :
    (Decimal.ofInt n).value? = some (((n : ℚ) : WithTop ℚ) : ExtendedRat) := by
  show some ((Decimal.signed (n < 0) (n.natAbs * 10 ^ (0 : Int)) : WithTop ℚ) : ExtendedRat) = _
  rw [zpow_zero, mul_one, Decimal.signed_natAbs]

/-- The value is the one of the decimal number to which a cell is converted. -/
theorem holds_iff : c.Holds x ↔ c.value? = some x := by
  constructor
  · intro h
    cases h with
    | int n => exact value?_ofInt n
    | float x => exact Binary64.value?_toDecimal x
    | negativeInfinity => rfl
    | infinity => rfl
    | decimal h => exact h
  · intro h
    cases c with
    | int n =>
      cases (value?_ofInt n).symm.trans h
      exact .int n
    | float b =>
      cases b with
      | nan => cases h
      | finite b =>
        cases (Binary64.value?_toDecimal b).symm.trans h
        exact .float b
      | infinite negative =>
        cases negative with
        | true =>
          cases h
          exact .negativeInfinity
        | false =>
          cases h
          exact .infinity
    | decimal d => exact .decimal h
    | _ => cases h

theorem Holds.unique (hx : c.Holds x) (hy : c.Holds y) : x = y := by
  exact Option.some.inj ((holds_iff.1 hx).symm.trans (holds_iff.1 hy))

/-- **Accepted numbers.** All that is accepted as a number holds a value, with one exception. -/
theorem exists_holds (h : c.isNumber = true) (number : c ≠ .float .nan) : ∃ x, c.Holds x := by
  cases c with
  | int n => exact ⟨_, .int n⟩
  | float b =>
    cases b with
    | nan => exact absurd rfl number
    | finite b => exact ⟨_, .float b⟩
    | infinite negative =>
      cases negative with
      | true => exact ⟨_, .negativeInfinity⟩
      | false => exact ⟨_, .infinity⟩
  | decimal d =>
    have : d.isNaN = false := by simpa [isNumber] using h
    obtain ⟨x, hx⟩ := Decimal.exists_value? this
    exact ⟨x, .decimal hx⟩
  | _ => cases h

theorem Holds.isNumber (h : c.Holds x) : c.isNumber = true := by
  cases h with
  | decimal h => exact congrArg not (Decimal.isNaN_of_value? h)
  | _ => rfl

theorem exists_compareNumbers (hv : v.Holds x) (hw : w.Holds y) :
    ∃ order, v.compareNumbers w = .ok (some order) ∧ order.Compares x y := by
  obtain ⟨a, ha, hx⟩ := Option.bind_eq_some_iff.1 (holds_iff.1 hv)
  obtain ⟨b, hb, hy⟩ := Option.bind_eq_some_iff.1 (holds_iff.1 hw)
  obtain ⟨order, horder, compares⟩ := Decimal.exists_compare? hx hy
  refine ⟨order, ?_, compares⟩
  unfold compareNumbers
  simp only [ha, hb, Decimal.isNaN_of_value? hx, Decimal.isNaN_of_value? hy, horder]
  rfl

theorem exists_numericValue? (h : c.isNumber = true) : ∃ d, c.numericValue? = some d := by
  cases c with
  | int n => exact ⟨_, rfl⟩
  | float b => exact ⟨_, rfl⟩
  | decimal d => exact ⟨_, rfl⟩
  | _ => cases h

theorem compareNumbers_of_unordered (hv : v.isNumber = true) (hw : w.isNumber = true)
    (h : v = .float .nan ∨ w = .float .nan) :
    v.compareNumbers w = if v.isDecimal || w.isDecimal then .error .unordered else .ok none := by
  obtain ⟨a, ha⟩ := exists_numericValue? hv
  obtain ⟨b, hb⟩ := exists_numericValue? hw
  have unordered : (a.isNaN || b.isNaN) = true := by
    rcases h with rfl | rfl
    · cases ha
      rfl
    · cases hb
      exact Bool.or_true _
  unfold compareNumbers
  simp only [ha, hb, unordered, Bool.true_and, Decimal.compare?_of_isNaN unordered]

end Cell

namespace Check

variable {v w : Cell} {x y : ExtendedRat}

theorem exists_comparesWith (accepts : Ordering → Bool) (hv : v.Holds x) (hw : w.Holds y) :
    ∃ order, order.Compares x y ∧ comparesWith accepts v w = .ok (accepts order) := by
  obtain ⟨order, horder, compares⟩ := Cell.exists_compareNumbers hv hw
  refine ⟨order, compares, ?_⟩
  unfold comparesWith
  rw [hv.isNumber, hw.isNumber, horder]
  rfl

/-- A comparison is accepted exactly if the values are in the relation that the accepted orders
    stand for. -/
theorem comparesWith_eq_true_iff {accepts : Ordering → Bool}
    {related : ExtendedRat → ExtendedRat → Prop}
    (means : ∀ {order x y}, Ordering.Compares order x y → (accepts order = true ↔ related x y)) :
    comparesWith accepts v w = .ok true ↔ ∃ x y, v.Holds x ∧ w.Holds y ∧ related x y := by
  constructor
  · intro h
    obtain ⟨x, y, order, hx, hy, compares, accepted⟩ := exists_of_comparesWith h
    exact ⟨x, y, Cell.holds_iff.2 hx, Cell.holds_iff.2 hy, (means compares).1 accepted⟩
  · rintro ⟨x, y, hv, hw, hrelated⟩
    obtain ⟨order, compares, verdict⟩ := exists_comparesWith accepts hv hw
    rw [verdict, (means compares).2 hrelated]

/-- Comparing with a value that is not a number is a fault if the other one is a decimal amount,
    and otherwise the verdict is bad, whichever orders are accepted. -/
theorem comparesWith_of_unordered (accepts : Ordering → Bool) (hv : v.isNumber = true)
    (hw : w.isNumber = true) (h : v = .float .nan ∨ w = .float .nan) :
    comparesWith accepts v w =
      if v.isDecimal || w.isDecimal then .error .unordered else .ok false := by
  unfold comparesWith
  rw [hv, hw, Cell.compareNumbers_of_unordered hv hw h]
  by_cases amount : (v.isDecimal || w.isDecimal) = true
  · rw [if_pos amount, if_pos amount]
    rfl
  · rw [if_neg amount, if_neg amount]
    rfl

/-! ### The two checks -/

variable {record : Record} {key : String} {ctx : Context}

theorem ofExcept_eq_pure_iff {outcome : Except Fault Bool} {verdict : Bool} :
    Traced.ofExcept outcome = pure verdict ↔ outcome = .ok verdict := by
  constructor
  · intro h
    exact congrArg Traced.outcome h
  · intro h
    rw [h]
    rfl

theorem bne_gt_iff {order : Ordering} (h : order.Compares x y) :
    (order != .gt) = true ↔ x ≤ y :=
  bne_iff_ne.trans h.ne_gt

theorem bne_lt_iff {order : Ordering} (h : order.Compares x y) :
    (order != .lt) = true ↔ y ≤ x :=
  bne_iff_ne.trans h.ne_lt

/-- **At most.** -/
theorem atMost_iff :
    (numberIsLessThanOrEqual key).eval v record ctx = pure true ↔
      ∃ x y, v.Holds x ∧ (record.value key).Holds y ∧ x ≤ y :=
  ofExcept_eq_pure_iff.trans (comparesWith_eq_true_iff bne_gt_iff)

/-- **At least.** -/
theorem atLeast_iff :
    (numberIsGreaterThanOrEqual key).eval v record ctx = pure true ↔
      ∃ x y, v.Holds x ∧ (record.value key).Holds y ∧ y ≤ x :=
  ofExcept_eq_pure_iff.trans (comparesWith_eq_true_iff bne_lt_iff)

/-- **Comparisons.** Two cells that are accepted as numbers are compared by their values, in any
    forms: at least one of the two checks accepts, both do exactly if the values are the same, and
    each is transitive. The only exception is the double-precision value that is not a number. It
    is accepted as a number, and both checks reject it, or stop if the other is a decimal amount. -/
theorem comparisons_order_numbers (hv : v.isNumber = true)
    (hw : (record.value key).isNumber = true) (ctx : Context) :
    (v ≠ .float .nan → record.value key ≠ .float .nan →
      ∃ x y atMost atLeast, v.Holds x ∧ (record.value key).Holds y ∧
        (numberIsLessThanOrEqual key).eval v record ctx = pure atMost ∧
        (numberIsGreaterThanOrEqual key).eval v record ctx = pure atLeast ∧
        (atMost = true ↔ x ≤ y) ∧ (atLeast = true ↔ y ≤ x) ∧
        (atMost || atLeast) = true ∧ ((atMost && atLeast) = true ↔ x = y)) ∧
    (∀ (next : Record) (third : String),
      (numberIsLessThanOrEqual key).eval v record ctx = pure true →
      (numberIsLessThanOrEqual third).eval (record.value key) next ctx = pure true →
      (numberIsLessThanOrEqual third).eval v next ctx = pure true) ∧
    (∀ (next : Record) (third : String),
      (numberIsGreaterThanOrEqual key).eval v record ctx = pure true →
      (numberIsGreaterThanOrEqual third).eval (record.value key) next ctx = pure true →
      (numberIsGreaterThanOrEqual third).eval v next ctx = pure true) ∧
    (v = .float .nan ∨ record.value key = .float .nan →
      ∀ check ∈ [numberIsLessThanOrEqual key, numberIsGreaterThanOrEqual key],
        check.eval v record ctx =
          if v.isDecimal || (record.value key).isDecimal then .ofExcept (.error .unordered)
          else pure false) := by
  refine ⟨?_, ?_, ?_, ?_⟩
  · intro number number'
    obtain ⟨x, hx⟩ := Cell.exists_holds hv number
    obtain ⟨y, hy⟩ := Cell.exists_holds hw number'
    obtain ⟨order, compares, atMost⟩ := exists_comparesWith (· != .gt) hx hy
    obtain ⟨order', compares', atLeast⟩ := exists_comparesWith (· != .lt) hx hy
    cases compares.inj compares'
    have le := bne_gt_iff compares
    have ge := bne_lt_iff compares
    refine ⟨x, y, _, _, hx, hy, ofExcept_eq_pure_iff.2 atMost, ofExcept_eq_pure_iff.2 atLeast,
      le, ge, ?_, ?_⟩
    · rw [Bool.or_eq_true, le, ge]
      exact le_total x y
    · rw [Bool.and_eq_true, le, ge]
      exact le_antisymm_iff.symm
  · intro next third first second
    obtain ⟨x, y, hx, hy, le⟩ := atMost_iff.1 first
    obtain ⟨y', z, hy', hz, le'⟩ := atMost_iff.1 second
    cases hy.unique hy'
    exact atMost_iff.2 ⟨x, z, hx, hz, le.trans le'⟩
  · intro next third first second
    obtain ⟨x, y, hx, hy, le⟩ := atLeast_iff.1 first
    obtain ⟨y', z, hy', hz, le'⟩ := atLeast_iff.1 second
    cases hy.unique hy'
    exact atLeast_iff.2 ⟨x, z, hx, hz, le'.trans le⟩
  · intro unordered check checked
    have verdict (accepts : Ordering → Bool) :
        Traced.ofExcept (comparesWith accepts v (record.value key)) =
          if v.isDecimal || (record.value key).isDecimal then .ofExcept (.error .unordered)
          else pure false := by
      rw [comparesWith_of_unordered accepts hv hw unordered]
      exact apply_ite Traced.ofExcept _ _ _
    rcases List.mem_pair.1 checked with rfl | rfl
    · exact verdict _
    · exact verdict _

end Check

namespace NumberOrder

/-- Half, in double precision. -/
def half : Binary64.Finite :=
  ⟨false, 4503599627370496, -53, by decide, by decide, by decide, by decide⟩

/-- Half as a decimal amount, and a rate that is not a number. -/
def record : Record where
  tab := "grants"
  fields := [("share", .decimal (.finite false 50 (-2))), ("rate", .float .nan)]
  row := some 2

end NumberOrder

open NumberOrder in
/-- Half is one number in both forms. -/
theorem Check.comparisons_order_numbers_of_halves :
    (Cell.float (.finite half)).isNumber = true ∧ (record.value "share").isNumber = true ∧
      (numberIsLessThanOrEqual "share").eval (.float (.finite half)) record Sample.context =
        pure true ∧
      (numberIsGreaterThanOrEqual "share").eval (.float (.finite half)) record Sample.context =
        pure true ∧
      ∃ x, (Cell.float (.finite half)).Holds x ∧ (record.value "share").Holds x := by
  obtain ⟨ordered, -, -, -⟩ :=
    @comparisons_order_numbers (.float (.finite half)) record "share" rfl rfl Sample.context
  obtain ⟨x, y, atMost, atLeast, hx, hy, below, above, -, -, -, same⟩ := ordered nofun nofun
  have both : atMost = true ∧ atLeast = true := by
    exact ⟨Except.ok.inj (congrArg Traced.outcome below).symm,
      Except.ok.inj (congrArg Traced.outcome above).symm⟩
  rw [both.1, both.2] at same
  exact ⟨rfl, rfl, rfl, rfl, x, hx, same.1 rfl ▸ hy⟩

open NumberOrder in
/-- **No place in the order.** The rate is accepted as a number. A number is neither at most the
    rate nor at least, and comparing the share with the rate stops the evaluation. -/
theorem Check.comparisons_leave_out_nan :
    (record.value "rate").isNumber = true ∧
      (numberIsLessThanOrEqual "rate").eval (.int 1) record Sample.context = pure false ∧
      (numberIsGreaterThanOrEqual "rate").eval (.int 1) record Sample.context = pure false ∧
      (numberIsLessThanOrEqual "rate").eval (record.value "share") record Sample.context =
        .ofExcept (.error .unordered) := by
  exact ⟨rfl, rfl, rfl, rfl⟩

end ReportCheck
