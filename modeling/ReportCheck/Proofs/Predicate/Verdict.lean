import ReportCheck.Predicate.Eval
import ReportCheck.Proofs.Trace
import ReportCheck.Proofs.Number.Order

/-! # What a good verdict says

  The meaning of the checks in terms of values and days, for cells that pass them.

  - `Cell.value?` is the exact value of a cell that holds a number.
  - Checks of amounts and days speak about these values and about `Cell.day`.
  - `Amount.exists_sum?_of_matchesTotal`: a total that is matched is a sum.
-/

namespace ReportCheck

/-- **Exact value** of a cell, if it holds a number. -/
def Cell.value? (c : Cell) : Option ExtendedRat := c.numericValue?.bind Decimal.value?

/-! ### Amounts -/

/-- **Positive numbers.** -/
theorem Cell.pos_of_isPositive {c : Cell} (h : c.isPositive = true) :
    ∃ x, c.value? = some x ∧ 0 < x := by
  unfold Cell.isPositive at h
  rw [Bool.and_eq_true, beq_iff_eq, Option.bind_eq_some_iff] at h
  obtain ⟨-, d, hd, horder⟩ := h
  obtain ⟨x, y, hx, hy, hgt⟩ := Decimal.compare?_compares horder
  -- The comparison was with the number zero.
  have hzero : y = 0 := by
    have : Decimal.zero.value? = some 0 := by
      unfold Decimal.zero Decimal.value? Decimal.signed
      simp
    exact Option.some.inj (hy.symm.trans this)
  refine ⟨x, ?_, hzero ▸ hgt⟩
  unfold value?
  rw [hd]
  exact hx

theorem Cell.compareNumbers_compares {v w : Cell} {order : Ordering}
    (h : v.compareNumbers w = .ok (some order)) :
    ∃ x y, v.value? = some x ∧ w.value? = some y ∧ order.Compares x y := by
  unfold compareNumbers at h
  split at h
  · next a b ha hb =>
    split at h
    · exact nomatch h
    · obtain ⟨x, y, hx, hy, hcompares⟩ := Decimal.compare?_compares (Except.ok.inj h)
      refine ⟨x, y, ?_, ?_, hcompares⟩
      · unfold value?
        rw [ha]
        exact hx
      · unfold value?
        rw [hb]
        exact hy
  · exact nomatch h

/-- **Numbers in a relation.** The verdict is good if the order of the values is accepted. -/
theorem Check.exists_of_comparesWith {accepts : Ordering → Bool} {value other : Cell}
    (h : Check.comparesWith accepts value other = .ok true) :
    ∃ x y order, value.value? = some x ∧ other.value? = some y ∧
      Ordering.Compares order x y ∧ accepts order = true := by
  unfold Check.comparesWith at h
  split at h
  · obtain ⟨outcome, hcompare, hverdict⟩ := Outcome.bind_eq_ok_iff.1 h
    cases outcome with
    | none => exact nomatch hverdict
    | some order =>
      obtain ⟨x, y, hx, hy, hcompares⟩ := Cell.compareNumbers_compares hcompare
      exact ⟨x, y, order, hx, hy, hcompares, Except.ok.inj hverdict⟩
  · exact nomatch h

/-- **Numbers up to another one.** -/
theorem Check.le_of_comparesWith {value other : Cell}
    (h : Check.comparesWith (· != .gt) value other = .ok true) :
    ∃ x y, value.value? = some x ∧ other.value? = some y ∧ x ≤ y := by
  obtain ⟨x, y, order, hx, hy, compares, accepted⟩ := exists_of_comparesWith h
  exact ⟨x, y, hx, hy, compares.ne_gt.1 (bne_iff_ne.1 accepted)⟩

namespace Amount

theorem sum_of_total? {amounts : List Decimal} {cents : Decimal}
    (h : total? amounts = .ok (some cents)) :
    ∃ total, Decimal.sum? amounts = .ok (some total) ∧ total.roundToCents? = some cents := by
  unfold total? at h
  cases hsum : Decimal.sum? amounts with
  | error fault =>
    rw [hsum] at h
    exact nomatch h
  | ok sum =>
    rw [hsum] at h
    obtain ⟨total, rfl, hcents⟩ := Option.bind_eq_some_iff.1 (Except.ok.inj h)
    exact ⟨total, rfl, hcents⟩

/-- **Matched totals** are sums, and what is compared with them is a number. -/
theorem exists_sum?_of_matchesTotal {value : Cell} {amounts : List Decimal}
    (h : matchesTotal value amounts = .ok true) :
    ∃ number total, value.strictNumber = .ok number ∧ Decimal.sum? amounts = .ok (some total) := by
  unfold matchesTotal at h
  obtain ⟨rounded, htotal, h⟩ := Outcome.bind_eq_ok_iff.1 h
  obtain ⟨number, hnumber, h⟩ := Outcome.bind_eq_ok_iff.1 h
  simp only at h
  cases rounded with
  | none =>
    -- Without a total the verdict is bad.
    split at h
    · next absent => cases absent
    · exact nomatch h
  | some cents =>
    obtain ⟨total, hsum, -⟩ := sum_of_total? htotal
    exact ⟨number, total, hnumber, hsum⟩

end Amount

/-! ### Days -/

namespace Check

/-- **Days** that meet a condition. -/
theorem exists_day_of_dayMeets {accepts : Date → Bool} {value : Cell}
    (h : dayMeets accepts value = .ok true) :
    ∃ d, value.day = .ok (some d) ∧ accepts d = true := by
  unfold dayMeets at h
  obtain ⟨day, hday, hverdict⟩ := Outcome.bind_eq_ok_iff.1 h
  cases day with
  | some d => exact ⟨d, hday, Except.ok.inj hverdict⟩
  | none => exact nomatch hverdict

/-- **Days** that stand in a relation. -/
theorem exists_days_of_daysMeet {accepts : Date → Date → Bool} {value other : Cell}
    (h : daysMeet accepts value other = .ok true) :
    ∃ d d', value.day = .ok (some d) ∧ other.day = .ok (some d') ∧ accepts d d' = true := by
  unfold daysMeet at h
  obtain ⟨ours, hours, h⟩ := Outcome.bind_eq_ok_iff.1 h
  obtain ⟨theirs, htheirs, h⟩ := Outcome.bind_eq_ok_iff.1 h
  split at h
  · exact ⟨_, _, hours, htheirs, Except.ok.inj h⟩
  · exact nomatch h

/-! ### Texts -/

/-- **Parts of the file's name** have to be known. -/
theorem exists_part_of_evalFilePart {key : String} {value : Cell} {ctx : Context}
    (h : (evalFilePart key value ctx).outcome = .ok true) :
    ∃ part, ctx.filePart? key = some part ∧
      dropLeadingZeros value.display = dropLeadingZeros part := by
  unfold evalFilePart at h
  split at h
  · exact nomatch h
  · next part hpart =>
    refine ⟨part, hpart, ?_⟩
    have hverdict := Except.ok.inj h
    rwa [beq_iff_eq] at hverdict

theorem not_blank_of_isNotBlank {value : Cell} {record : Record} {ctx : Context}
    (h : (isNotBlank.eval value record ctx).outcome = .ok true) : value.isBlank = false := by
  have hverdict : (value.isNumber || !value.isBlank) = true := Except.ok.inj h
  cases hblank : value.isBlank with
  | false => rfl
  | true =>
    -- A blank cell is no number either.
    rw [Cell.isNumber_eq_false_of_isBlank hblank, hblank] at hverdict
    exact nomatch hverdict

theorem exists_field_of_key? {fields : Members} (h : (Subrecipient.key? fields).isSome = true) :
    ∃ name ∈ Subrecipient.keyFields, (fields.getD name).isBlank = false := by
  unfold Subrecipient.key? at h
  rw [Option.isSome_map] at h
  obtain ⟨name, hfound⟩ := Option.isSome_iff_exists.1 h
  refine ⟨name, List.mem_of_find?_eq_some hfound, ?_⟩
  simpa using List.find?_some hfound

end Check

/-! ### Guards -/

theorem Predicate.eval_of_holds {guard : Guard} {inner : Predicate} {value : Cell} {record : Record}
    {ctx : Context} (holds : guard.holds record = .ok true) {verdict : Bool}
    (h : ((Predicate.guarded guard inner).eval value record ctx).outcome = .ok verdict) :
    (inner.eval value record ctx).outcome = .ok verdict := by
  unfold Predicate.eval at h
  obtain ⟨held, hheld, hinner⟩ := Traced.bind_eq_ok_iff.1 h
  rw [Traced.outcome_ofExcept, holds] at hheld
  cases hheld
  exact hinner

end ReportCheck
