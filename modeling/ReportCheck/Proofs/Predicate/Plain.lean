import ReportCheck.Proofs.Cell.Plain
import ReportCheck.Proofs.Number.Shown
import ReportCheck.Proofs.Number.Sum
import ReportCheck.Proofs.Run.Blocks

/-! # Rules on plain records

  On records with plain cells every rule comes to a verdict and every message can be
  rendered.

  - `PeriodSummary.Moderate` is what the amounts of earlier periods have to satisfy.
  - `Amount.matchesTotal_returns`: the sums of the amounts that checks collect do not
    overflow. Texts may bring infinities into them, which is no failure.
  - `Check.eval_returns` goes through the checks, `Predicate.eval_returns` by induction
    through the guards around them.
  - `Rule.completes_of_plain`: a rule completes on a plain record.
-/

namespace ReportCheck

open Outcome

/-- The amounts of a summary are finite and of up to 308 digits before the point. -/
def PeriodSummary.Moderate (s : PeriodSummary) : Prop :=
  ∀ entry ∈ s.current, Decimal.Moderate entry.2

/-- The amounts of all earlier periods are moderate. -/
def Context.Moderate (ctx : Context) : Prop := ∀ s ∈ ctx.summaries, s.Moderate

namespace Amount

/-! ### Amounts -/

/-- Amounts that cannot make a sum overflow. -/
def Bounded (amounts : List Decimal) : Prop := ∀ a ∈ amounts, a.magnitude ≤ 10 ^ ((309 : Nat) : Int)

theorem ofNumber?_le (x : Option Binary64) :
    (ofNumber? x).magnitude ≤ 10 ^ ((309 : Nat) : Int) := by
  rw [zpow_natCast]
  cases x with
  | some x => exact x.shown_lt.le
  | none =>
    unfold ofNumber? Decimal.zero
    rw [Decimal.magnitude_finite, Nat.cast_zero, zero_mul]
    positivity

theorem currentAmount_le {s : PeriodSummary} (h : s.Moderate) (field : String) :
    (s.currentAmount field).magnitude ≤ 10 ^ ((309 : Nat) : Int) := by
  unfold PeriodSummary.currentAmount
  cases hfound : s.current.lookup field with
  | none => exact ofNumber?_le none
  | some amount =>
    -- Amounts of earlier periods are not doubled by a written form.
    have moderate := h _ (mem_of_lookup_eq_some hfound)
    have wider : (10 : ℚ) ^ 308 ≤ 10 ^ ((309 : Nat) : Int) := by
      rw [zpow_natCast]
      exact pow_le_pow_right₀ (by norm_num) (by norm_num)
    exact le_trans moderate.2.le wider

theorem total?_returns {amounts : List Decimal} (bounded : Bounded amounts) :
    Returns (total? amounts) := by
  obtain ⟨total, htotal⟩ := Decimal.sum?_eq_ok (k := 309) (by norm_num) bounded
  unfold total?
  rw [htotal]
  exact ⟨_, rfl⟩

/-- **Sum checks** return. -/
theorem matchesTotal_returns {value : Cell} (hvalue : value.Plain) {amounts : List Decimal}
    (bounded : Bounded amounts) : Returns (matchesTotal value amounts) := by
  unfold matchesTotal
  refine (total?_returns bounded).bind fun total _ => ?_
  refine (Cell.strictNumber_returns hvalue).bind fun number _ => ?_
  simp only
  split
  · exact ⟨_, rfl⟩
  · exact ⟨_, rfl⟩

theorem ofFields_eq_ok {record : Record} (hrecord : record.Plain) (keys : List String) :
    ∃ amounts, ofFields record keys = .ok amounts ∧ Bounded amounts := by
  unfold ofFields
  induction keys.filter (· != "") with
  | nil => exact ⟨[], rfl, fun a ha => nomatch ha⟩
  | cons key rest ih =>
    obtain ⟨amounts, hamounts, bounded⟩ := ih
    obtain ⟨number, hnumber⟩ := Cell.leadingNumber_returns (hrecord.value key)
    refine ⟨ofNumber? number :: amounts, ?_, ?_⟩
    · rw [List.mapM_cons, hnumber, hamounts]
      rfl
    · exact List.forall_mem_cons.2 ⟨ofNumber?_le number, bounded⟩

theorem cumulative_eq_ok {record : Record} (hrecord : record.Plain) {summaries : List PeriodSummary}
    (hsummaries : ∀ s ∈ summaries, s.Moderate) (key : String) (values : Members)
    (fields : List (String × String)) :
    ∃ amounts, cumulative key values fields record summaries = .ok amounts ∧ Bounded amounts := by
  obtain ⟨number, hnumber⟩ := Cell.strictNumber_returns (hrecord.value key)
  unfold cumulative
  rw [hnumber]
  -- The record's own amount is a shown number, the others come from the summaries.
  refine ⟨_, rfl, List.forall_mem_cons.2 ⟨ofNumber?_le number, ?_⟩⟩
  intro a ha
  obtain ⟨s, hs, rfl⟩ := List.mem_map.1 ha
  exact currentAmount_le (hsummaries s (List.mem_filter.1 hs).1) key

end Amount

/-! ### Checks -/

namespace Check

variable {value other : Cell}

theorem comparesWith_returns (accepts : Ordering → Bool) (hvalue : value.Plain)
    (hother : other.Plain) : Returns (comparesWith accepts value other) := by
  unfold comparesWith
  split
  · refine (Cell.compareNumbers_returns hvalue hother).bind fun order _ => ?_
    split
    · exact ⟨_, rfl⟩
    · exact ⟨_, rfl⟩
  · exact ⟨_, rfl⟩

theorem dayMeets_returns (accepts : Date → Bool) (hvalue : value.Plain) :
    Returns (dayMeets accepts value) := by
  unfold dayMeets
  refine (Cell.day_returns hvalue).bind fun day _ => ?_
  split
  · exact ⟨_, rfl⟩
  · exact ⟨_, rfl⟩

theorem daysMeet_returns (accepts : Date → Date → Bool) (hvalue : value.Plain)
    (hother : other.Plain) : Returns (daysMeet accepts value other) := by
  unfold daysMeet
  refine (Cell.day_returns hvalue).bind fun ours _ => ?_
  refine (Cell.day_returns hother).bind fun theirs _ => ?_
  split
  · exact ⟨_, rfl⟩
  · exact ⟨_, rfl⟩

theorem isWithinCent_returns (hvalue : value.Plain) (hother : other.Plain) :
    Returns (isWithinCent value other) := by
  unfold isWithinCent
  refine (Cell.leadingNumber_returns hvalue).bind fun ours _ => ?_
  exact (Cell.leadingNumber_returns hother).bind fun theirs _ => ⟨_, rfl⟩

variable {record : Record} {ctx : Context}

theorem evalDropdown_returns (listName : String) :
    Returns (evalDropdown listName value ctx).outcome := by
  unfold evalDropdown
  split
  · exact ⟨_, rfl⟩
  · exact ⟨_, rfl⟩

theorem evalFilePart_returns (key : String) : Returns (evalFilePart key value ctx).outcome := by
  unfold evalFilePart
  split
  · exact ⟨_, rfl⟩
  · exact ⟨_, rfl⟩

/-- **Checks** return on plain records. -/
theorem eval_returns (hvalue : value.Plain) (hrecord : record.Plain) (hctx : ctx.Moderate)
    (c : Check) : Returns (c.eval value record ctx).outcome := by
  cases c with
  | isEqual key => exact isWithinCent_returns hvalue (hrecord.value key)
  | isSum keys =>
    obtain ⟨amounts, hamounts, bounded⟩ := Amount.ofFields_eq_ok hrecord keys
    show Returns (Amount.ofFields record keys >>= Amount.matchesTotal value)
    rw [hamounts]
    exact Amount.matchesTotal_returns hvalue bounded
  | cumulativeAmountIsEqual key values fields =>
    obtain ⟨amounts, hamounts, bounded⟩ := Amount.cumulative_eq_ok hrecord hctx key values fields
    show Returns (Amount.cumulative key values fields record ctx.summaries >>=
      Amount.matchesTotal value)
    rw [hamounts]
    exact Amount.matchesTotal_returns hvalue bounded
  | isValidDate => exact Cell.isDay_returns hvalue
  | numberIsLessThanOrEqual key => exact comparesWith_returns _ hvalue (hrecord.value key)
  | numberIsGreaterThanOrEqual key => exact comparesWith_returns _ hvalue (hrecord.value key)
  | dateIsOnOrBefore key => exact daysMeet_returns _ hvalue (hrecord.value key)
  | dateIsOnOrAfter key => exact daysMeet_returns _ hvalue (hrecord.value key)
  | dateIsInReportingPeriod => exact dayMeets_returns _ hvalue
  | dateIsInPeriodOfPerformance => exact dayMeets_returns _ hvalue
  | dateIsOnOrAfterProgramStart => exact dayMeets_returns _ hvalue
  | matchesFilePart key => exact evalFilePart_returns key
  | dropdownIncludes listName => exact evalDropdown_returns listName
  | isValidState => exact evalDropdown_returns stateList
  -- The others are decided without a conversion.
  | _ => exact ⟨_, rfl⟩

end Check

/-! ### Guards and predicates -/

/-- **Guards** return on plain records. -/
theorem Guard.holds_returns {record : Record} (hrecord : record.Plain) (g : Guard) :
    Returns (g.holds record) := by
  unfold Guard.holds
  split
  · exact ⟨_, rfl⟩
  · exact ⟨_, rfl⟩
  · exact ⟨_, rfl⟩
  · refine (Cell.strictNumber_returns (Members.Plain.getD hrecord g.key)).bind fun number _ => ?_
    split
    · exact ⟨_, rfl⟩
    · exact ⟨_, rfl⟩

/-- **Predicates** return on plain records, however many guards there are. -/
theorem Predicate.eval_returns {value : Cell} (hvalue : value.Plain) {record : Record}
    (hrecord : record.Plain) {ctx : Context} (hctx : ctx.Moderate) (p : Predicate) :
    Returns (p.eval value record ctx).outcome := by
  induction p with
  | check c => exact Check.eval_returns hvalue hrecord hctx c
  | guarded guard inner ih =>
    unfold Predicate.eval
    rw [Traced.outcome_bind]
    refine (Guard.holds_returns hrecord guard).bind fun holds _ => ?_
    -- A guard that does not hold ends the evaluation with a good verdict.
    split
    · exact ih
    · exact ⟨_, rfl⟩

/-! ### Rules -/

theorem Rule.messageFor_returns {value : Cell} (hvalue : value.Plain) (rule : Rule) :
    Returns (rule.messageFor value) := by
  unfold Rule.messageFor Rule.Options.shownValue
  refine Returns.bind ?_ fun shown _ => ⟨_, rfl⟩
  split
  · exact ⟨_, rfl⟩
  · refine (Cell.day_returns hvalue).bind fun day _ => ?_
    split
    · exact ⟨_, rfl⟩
    · exact ⟨_, rfl⟩

/-- **Rules** complete on plain records. -/
theorem Rule.completes_of_plain {record : Record} (hrecord : record.Plain) {ctx : Context}
    (hctx : ctx.Moderate) (rule : Rule) : rule.Completes ctx record := by
  intro _
  obtain ⟨verdict, hverdict⟩ :=
    Predicate.eval_returns (hrecord.value rule.field) hrecord hctx rule.predicate
  exact ⟨verdict, hverdict, fun _ => rule.messageFor_returns (hrecord.value rule.field)⟩

end ReportCheck
