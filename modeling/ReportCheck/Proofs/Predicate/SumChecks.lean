import ReportCheck.Proofs.Number.Cents
import ReportCheck.Proofs.Number.Shown
import ReportCheck.Proofs.Number.Total
import ReportCheck.Proofs.Predicate.Verdict
import ReportCheck.Proofs.Sample

/-! # Exact sum checks

  The two checks that add amounts compare cents with cents: those of the number in the
  cell with those of the exact total of the amounts, for amounts of up to 90 digits after
  the point that together stay below `10 ^ 310`.

  - `Check.Adds` says which amounts a check adds, and `PeriodSummary.Belongs` which earlier
    periods count.
  - `Amount.matchesTotal_of_isCents` is the verdict for a total in cents.
  - `Check.Rearranged` lists what may change without a change of the total: the order of
    fields or of periods, a period that does not count, and one that is split in two.
    `Totals.of_rearranged` is one such step, `Totals.of_steps` any number of them.
  - `Check.eval_of_adds_exact` puts them together.
-/

namespace ReportCheck

open Decimal

/-! ### Verdicts -/

namespace Amount

theorem abs_ofNumber?_lt (number : Option Binary64) : |(ofNumber? number).toRat| < 10 ^ 309 := by
  cases number with
  | none =>
    show |zero.toRat| < 10 ^ 309
    rw [toRat_zero, abs_zero]
    positivity
  | some x =>
    rw [abs_toRat]
    exact Binary64.shown_lt x

theorem abs_nearestCents_ofNumber?_lt (number : Option Binary64) :
    |(nearestCents (ofNumber? number).toRat : ℚ)| < 10 ^ 312 := by
  have shown := abs_ofNumber?_lt number
  have cents := abs_nearestCents_le (ofNumber? number).toRat
  have unit : (1 : ℚ) ≤ 10 ^ 309 := one_le_pow₀ (by norm_num)
  rw [show (312 : ℕ) = 309 + 3 from rfl, pow_add]
  generalize (10 : ℚ) ^ 309 = ten at *
  linarith

theorem abs_nearestCents_ofNumber?_lt_limit (number : Option Binary64) :
    |nearestCents (ofNumber? number).toRat| < 10 ^ 400 := by
  rw [← Int.cast_lt (R := ℚ), Int.cast_abs, Int.cast_pow, Int.cast_ofNat]
  exact lt_trans (abs_nearestCents_ofNumber?_lt number)
    (pow_lt_pow_right₀ (by norm_num) (by norm_num))

/-- **Verdict of a sum check.** The cell shows a finite number with the cents of the
    total. -/
theorem matchesTotal_of_isCents {value : Cell} {number : Option Binary64}
    (hnumber : value.strictNumber = .ok number) {amounts : List Decimal} {total : Option Decimal}
    (htotal : total? amounts = .ok total) {n : ℤ} (cents : IsCents n total) :
    ∃ verdict, matchesTotal value amounts = .ok verdict ∧
      (verdict = true ↔ (ofNumber? number).isFinite = true ∧
        nearestCents (ofNumber? number).toRat = n) := by
  unfold matchesTotal
  simp only [htotal, hnumber, bind, Except.bind]
  cases hfinite : (ofNumber? number).isFinite with
  | false =>
    rw [roundToCents?_of_not_finite hfinite]
    exact ⟨false, rfl, by simp⟩
  | true =>
    have ours := roundToCents?_isCents hfinite
    have short := abs_nearestCents_ofNumber?_lt_limit number
    generalize nearestCents (ofNumber? number).toRat = m at ours short ⊢
    cases hours : (ofNumber? number).roundToCents? with
    | none =>
      rw [hours] at ours
      exact absurd short (not_lt.2 ours)
    | some a =>
      rw [hours] at ours
      obtain ⟨haFinite, ha, -⟩ := ours
      cases total with
      | none =>
        -- The total has more digits than the cents of any number.
        refine ⟨false, rfl, ?_⟩
        constructor
        · intro h
          cases h
        · rintro ⟨-, rfl⟩
          exact absurd short (not_lt.2 cents)
      | some b =>
        obtain ⟨hbFinite, hb, -⟩ := cents
        refine ⟨a.compare? b == some .eq, rfl, ?_⟩
        rw [beq_iff_eq, compare?_eq_iff haFinite hbFinite, ha, hb]
        constructor
        · intro h
          have same : (m : ℚ) = n := by linarith
          exact ⟨rfl, by exact_mod_cast same⟩
        · rintro ⟨-, rfl⟩
          rfl

theorem total?_of_sum? {amounts : List Decimal} {t : Decimal}
    (h : Decimal.sum? amounts = .ok (some t)) : total? amounts = .ok t.roundToCents? := by
  unfold total?
  rw [h]
  rfl

/-- **Exact totals** in cents. -/
theorem total?_of_fits {k : Int} (least : minExponent ≤ k) (inRange : k ≤ maxExponent - 400)
    {amounts : List Decimal} (fits : FitsDigits k amounts) :
    ∃ total, total? amounts = .ok total ∧ IsCents (nearestCents (exactTotal amounts)) total := by
  obtain ⟨t, hsum, finite, value⟩ := sum?_exact least inRange fits
  rw [← value]
  exact ⟨_, total?_of_sum? hsum, roundToCents?_isCents finite⟩

end Amount

/-! ### Amounts of a check -/

/-- **Belonging.** An earlier period counts for a record if its attributes display as the
    values given and as the linked fields of the record. -/
structure PeriodSummary.Belongs (record : Record) (matchValues : Members)
    (matchFields : List (String × String)) (s : PeriodSummary) : Prop where
  values : ∀ entry ∈ matchValues, (s.attributes.getD entry.1).display = entry.2.display
  fields : ∀ link ∈ matchFields, (s.attributes.getD link.1).display = (record.value link.2).display

theorem PeriodSummary.belongs_iff {record : Record} {matchValues : Members}
    {matchFields : List (String × String)} {s : PeriodSummary} :
    s.Belongs record matchValues matchFields ↔ (s.agreesWith matchValues &&
      s.agreesWith (matchFields.map fun link => (link.1, record.value link.2))) = true := by
  unfold agreesWith
  rw [Bool.and_eq_true, List.all_map, List.all_eq_true, List.all_eq_true]
  simp only [beq_iff_eq, Function.comp_apply]
  exact ⟨fun h => ⟨h.values, h.fields⟩, fun h => ⟨h.1, h.2⟩⟩

theorem PeriodSummary.Belongs.of_attributes {record : Record} {matchValues : Members}
    {matchFields : List (String × String)} {s other : PeriodSummary}
    (h : s.Belongs record matchValues matchFields) (same : other.attributes = s.attributes) :
    other.Belongs record matchValues matchFields where
  values := by rw [same]; exact h.values
  fields := by rw [same]; exact h.fields

instance (record : Record) (matchValues : Members) (matchFields : List (String × String))
    (s : PeriodSummary) : Decidable (s.Belongs record matchValues matchFields) :=
  decidable_of_iff _ PeriodSummary.belongs_iff.symm

/-- **Amounts of a sum check.** The fields with a name, each as often as it is listed; or a
    field and what the earlier periods that belong to the record report under its name. A
    field that shows no number counts as zero. -/
inductive Check.Adds (record : Record) (summaries : List PeriodSummary) :
    Check → List Decimal → Prop where
  | isSum {keys : List String} {numbers : List (Option Binary64)} :
      List.Forall₂ (fun key number => (record.value key).leadingNumber = .ok number)
        (keys.filter (· != "")) numbers →
      Adds record summaries (.isSum keys) (numbers.map Amount.ofNumber?)
  | cumulative {key : String} {matchValues : Members} {matchFields : List (String × String)}
      {number : Option Binary64} :
      (record.value key).strictNumber = .ok number →
      Adds record summaries (.cumulativeAmountIsEqual key matchValues matchFields)
        (Amount.ofNumber? number ::
          (summaries.filter (·.Belongs record matchValues matchFields)).map (·.currentAmount key))

variable {record : Record} {summaries : List PeriodSummary} {c : Check} {amounts : List Decimal}

theorem Amount.ofFields_of_forall₂ {keys : List String} {numbers : List (Option Binary64)}
    (h : List.Forall₂ (fun key number => (record.value key).leadingNumber = .ok number)
      (keys.filter (· != "")) numbers) :
    ofFields record keys = .ok (numbers.map ofNumber?) := by
  unfold ofFields
  generalize keys.filter (· != "") = named at h ⊢
  induction h with
  | nil => rfl
  | cons hnumber _ ih =>
    rw [List.mapM_cons, hnumber, ih]
    rfl

theorem Amount.exists_numbers_of_ofFields {keys : List String} (h : ofFields record keys = .ok amounts) :
    ∃ numbers : List (Option Binary64),
      List.Forall₂ (fun key number => (record.value key).leadingNumber = .ok number)
        (keys.filter (· != "")) numbers ∧ amounts = numbers.map ofNumber? := by
  unfold ofFields at h
  generalize keys.filter (· != "") = named at h ⊢
  have read := Outcome.mapM_eq_ok_iff.1 h
  clear h
  induction read with
  | nil => exact ⟨[], .nil, rfl⟩
  | cons first _ ih =>
    obtain ⟨number, hnumber, hfirst⟩ := Outcome.bind_eq_ok_iff.1 first
    obtain ⟨numbers, others, rfl⟩ := ih
    cases hfirst
    exact ⟨number :: numbers, .cons hnumber others, rfl⟩

theorem Amount.earlier_eq_filter (matchValues : Members) (matchFields : List (String × String))
    (record : Record) (summaries : List PeriodSummary) :
    earlier matchValues matchFields record summaries =
      summaries.filter (·.Belongs record matchValues matchFields) := by
  unfold earlier
  refine List.filter_congr fun s _ => ?_
  rw [Bool.eq_iff_iff, decide_eq_true_iff]
  exact PeriodSummary.belongs_iff.symm

/-- **Sum checks** compare the cell with the total of the amounts they add. -/
theorem Check.eval_of_adds {ctx : Context} (adds : c.Adds record ctx.summaries amounts)
    (value : Cell) : c.eval value record ctx = .ofExcept (Amount.matchesTotal value amounts) := by
  cases adds with
  | isSum numbers =>
    show Traced.ofExcept (Amount.ofFields record _ >>= Amount.matchesTotal value) = _
    rw [Amount.ofFields_of_forall₂ numbers]
    rfl
  | cumulative own =>
    show Traced.ofExcept (Amount.cumulative _ _ _ record ctx.summaries >>=
      Amount.matchesTotal value) = _
    unfold Amount.cumulative
    rw [own, Amount.earlier_eq_filter]
    rfl

theorem Check.Adds.unique {others : List Decimal} (adds : c.Adds record summaries amounts)
    (addsOthers : c.Adds record summaries others) : amounts = others := by
  cases adds with
  | isSum numbers =>
    cases addsOthers with
    | isSum numbers' =>
      have same := (Amount.ofFields_of_forall₂ numbers).symm.trans (Amount.ofFields_of_forall₂ numbers')
      exact Except.ok.inj same
  | cumulative own =>
    cases addsOthers with
    | cumulative own' =>
      cases own.symm.trans own'
      rfl

/-- **Fields in another order** are added in another order. -/
theorem Check.Adds.exists_of_perm {keys others : List String}
    (adds : (Check.isSum keys).Adds record summaries amounts) (perm : keys.Perm others) :
    ∃ reordered, (Check.isSum others).Adds record summaries reordered ∧
      amounts.Perm reordered := by
  cases adds with
  | isSum numbers =>
    -- The numbers come in the order of the fields.
    obtain ⟨_, reordered, moved⟩ := List.perm_comp_forall₂ (perm.symm.filter _) numbers
    exact ⟨_, .isSum reordered, (moved.map Amount.ofNumber?).symm⟩

/-! ### Rearranging -/

/-- **Rearrangements** of what a check adds: the fields or the periods in another order, a
    period that does not count, and a period that counts split in two with the same
    attributes and together the same amount. -/
inductive Check.Rearranged (record : Record) :
    Check × List PeriodSummary → Check × List PeriodSummary → Prop where
  | fields {keys others : List String} {summaries : List PeriodSummary} :
      keys.Perm others → Rearranged record (.isSum keys, summaries) (.isSum others, summaries)
  | periods {c : Check} {summaries others : List PeriodSummary} :
      summaries.Perm others → Rearranged record (c, summaries) (c, others)
  | inserted {key : String} {matchValues : Members} {matchFields : List (String × String)}
      {before after : List PeriodSummary} {s : PeriodSummary} :
      ¬ s.Belongs record matchValues matchFields →
      Rearranged record (.cumulativeAmountIsEqual key matchValues matchFields, before ++ after)
        (.cumulativeAmountIsEqual key matchValues matchFields, before ++ s :: after)
  | split {key : String} {matchValues : Members} {matchFields : List (String × String)}
      {before after : List PeriodSummary} {s first second : PeriodSummary} :
      s.Belongs record matchValues matchFields →
      first.attributes = s.attributes → second.attributes = s.attributes →
      (s.currentAmount key).toRat = (first.currentAmount key).toRat + (second.currentAmount key).toRat →
      (∀ amounts, Adds record (before ++ first :: second :: after)
        (.cumulativeAmountIsEqual key matchValues matchFields) amounts → FitsDigits (-90) amounts) →
      Rearranged record (.cumulativeAmountIsEqual key matchValues matchFields, before ++ s :: after)
        (.cumulativeAmountIsEqual key matchValues matchFields, before ++ first :: second :: after)

/-- What a check adds is in range and has the exact total `x`. -/
def Check.Totals (record : Record) (state : Check × List PeriodSummary) (x : ℚ) : Prop :=
  ∃ amounts, state.1.Adds record state.2 amounts ∧ FitsDigits (-90) amounts ∧ exactTotal amounts = x

variable {state state' : Check × List PeriodSummary} {x : ℚ}

theorem Check.Totals.of_perm {others : List Decimal} (fits : FitsDigits (-90) amounts)
    (total : exactTotal amounts = x) (perm : amounts.Perm others)
    (adds : state.1.Adds record state.2 others) : Totals record state x :=
  ⟨others, adds, fits.of_perm perm, by rw [← exactTotal_of_perm perm, total]⟩

/-- **One rearrangement** keeps the exact total. -/
theorem Check.Totals.of_rearranged (h : Totals record state x) (step : Rearranged record state state') :
    Totals record state' x := by
  obtain ⟨amounts, adds, fits, total⟩ := h
  cases step with
  | fields perm =>
    obtain ⟨reordered, others, moved⟩ := adds.exists_of_perm perm
    exact .of_perm fits total moved others
  | periods perm =>
    cases adds with
    | isSum numbers => exact ⟨_, .isSum numbers, fits, total⟩
    | cumulative own =>
      exact .of_perm fits total (((perm.filter _).map _).cons _) (.cumulative own)
  | inserted other =>
    cases adds with
    | cumulative own =>
      refine ⟨_, .cumulative own, ?_⟩
      rw [List.filter_append, List.filter_cons_of_neg (by simpa using other), ← List.filter_append]
      exact ⟨fits, total⟩
  | split belongs hfirst hsecond hamount range =>
    cases adds with
    | cumulative own =>
      refine ⟨_, .cumulative own, range _ (.cumulative own), ?_⟩
      rw [List.filter_append, List.filter_cons_of_pos (by simpa using belongs)] at total
      rw [List.filter_append, List.filter_cons_of_pos (by simpa using belongs.of_attributes hfirst),
        List.filter_cons_of_pos (by simpa using belongs.of_attributes hsecond), ← total]
      simp only [List.map_append, List.map_cons, exactTotal_cons, exactTotal_append, hamount]
      ring

/-- **Any number of rearrangements** keeps the exact total. -/
theorem Check.Totals.of_steps (h : Totals record state x)
    (steps : Relation.ReflTransGen (Rearranged record) state state') : Totals record state' x := by
  induction steps with
  | refl => exact h
  | tail _ step ih => exact ih.of_rearranged step

/-! ### Exact checks -/

theorem Check.Totals.eval {value : Cell} {ctx : Context} {number : Option Binary64}
    (h : Totals record (c, ctx.summaries) x) (hnumber : value.strictNumber = .ok number) :
    ∃ verdict, c.eval value record ctx = Traced.pure verdict ∧
      (verdict = true ↔ (Amount.ofNumber? number).isFinite = true ∧
        nearestCents (Amount.ofNumber? number).toRat = nearestCents x) := by
  obtain ⟨amounts, adds, fits, rfl⟩ := h
  obtain ⟨total, hsum, cents⟩ := Amount.total?_of_fits (by decide) (by decide) fits
  obtain ⟨verdict, hverdict, hiff⟩ := Amount.matchesTotal_of_isCents hnumber hsum cents
  refine ⟨verdict, ?_, hiff⟩
  rw [eval_of_adds adds, hverdict]
  rfl

/-- **Exact sum checks.** For amounts in range the verdict compares the cents of the number
    in the cell with those of the exact total, so no rearrangement changes it. -/
theorem Check.eval_of_adds_exact {value : Cell} {ctx : Context} {number : Option Binary64}
    (adds : c.Adds record ctx.summaries amounts) (fits : FitsDigits (-90) amounts)
    (hnumber : value.strictNumber = .ok number) :
    (∃ verdict, c.eval value record ctx = Traced.pure verdict ∧
      (verdict = true ↔ (Amount.ofNumber? number).isFinite = true ∧
        nearestCents (Amount.ofNumber? number).toRat = nearestCents (exactTotal amounts))) ∧
    ∀ c' summaries', Relation.ReflTransGen (Rearranged record) (c, ctx.summaries) (c', summaries') →
      c'.eval value record { ctx with summaries := summaries' } = c.eval value record ctx := by
  have start : Totals record (c, ctx.summaries) (exactTotal amounts) := ⟨amounts, adds, fits, rfl⟩
  obtain ⟨verdict, hverdict, hiff⟩ := start.eval hnumber
  refine ⟨⟨verdict, hverdict, hiff⟩, ?_⟩
  intro c' summaries' steps
  obtain ⟨verdict', hverdict', hiff'⟩ :
      ∃ verdict', c'.eval value record { ctx with summaries := summaries' } = Traced.pure verdict' ∧
        _ := (start.of_steps steps).eval hnumber
  -- Two verdicts with the same condition are the same.
  rw [hverdict, hverdict', Bool.eq_iff_iff.2 (hiff'.trans hiff.symm)]

namespace SumChecks

/-- What was paid in all periods under one link. -/
def cumulative : Check := .cumulativeAmountIsEqual "paid" [("tab", .text "grants")] [("id", "link")]

/-- A record on the grants tab. -/
def grant : Record := ⟨"grants", [("paid", .int 10), ("link", .int 7)], some 4⟩

/-- An amount that an earlier period paid under a link. -/
def period (link : String) (paid : Decimal) : PeriodSummary :=
  ⟨[("tab", .text "grants"), ("id", .text link)], [("paid", paid)]⟩

/-- A context with one earlier period, that of the record. -/
def context : Context := { Sample.context with
  summaries := [period "7" (.finite false 15125 (-3))] }

/-- The period split in two, after one with another link. -/
def rearranged : List PeriodSummary :=
  [period "8" (.finite false 99 0), period "7" (.finite false 5 0),
    period "7" (.finite false 10125 (-3))]

/-- The amounts of the record and its period. -/
def paid : List Decimal := [.finite false 100 (-1), .finite false 15125 (-3)]

/-- The amounts of the record and the parts of its period. -/
def paidInParts : List Decimal :=
  [.finite false 100 (-1), .finite false 5 0, .finite false 10125 (-3)]

end SumChecks

open SumChecks in
/-- The total of 25.125 is 25.13 in cents, also when the period is split and another one is
    inserted. -/
theorem Check.eval_of_adds_exact_of_rearranged :
    cumulative.Adds grant context.summaries paid ∧ FitsDigits (-90) paid ∧
      (Cell.text "25.13").strictNumber = .ok (some (.nearest false 2513 100)) ∧
      cumulative.eval (.text "25.13") grant context = Traced.pure true ∧
      cumulative.eval (.text "25.13") grant { context with summaries := rearranged } =
        Traced.pure true := by
  have own : (grant.value "paid").strictNumber = .ok (some (.nearest false 10 1)) := rfl
  have adds : cumulative.Adds grant context.summaries paid := .cumulative own
  have huge : (1000 : ℚ) < 10 ^ (-90 + 400 : Int) := by
    rw [show (1000 : ℚ) = 10 ^ (3 : Int) by norm_num, ten_zpow_lt_iff]
    decide
  have fits : FitsDigits (-90) paid := by
    refine .of_forms ?_ (lt_trans ?_ huge)
    · simp [paid]
    · simp only [paid, absTotal_cons, absTotal_nil, toRat_finite, signed_false]
      norm_num [abs_of_pos]
  have fitsParts : FitsDigits (-90) paidInParts := by
    refine .of_forms ?_ (lt_trans ?_ huge)
    · simp [paidInParts]
    · simp only [paidInParts, absTotal_cons, absTotal_nil, toRat_finite, signed_false]
      norm_num [abs_of_pos]
  have hnumber : (Cell.text "25.13").strictNumber = .ok (some (.nearest false 2513 100)) := rfl
  have shown : Amount.ofNumber? (some (.nearest false 2513 100)) = .finite false 2513 (-2) := rfl
  obtain ⟨⟨verdict, hverdict, hiff⟩, unchanged⟩ := Check.eval_of_adds_exact adds fits hnumber
  have good : verdict = true := by
    refine hiff.2 ⟨rfl, ?_⟩
    rw [shown]
    simp only [paid, exactTotal_cons, exactTotal_nil, toRat_finite, signed_false]
    norm_num [nearestCents]
  subst good
  refine ⟨adds, fits, hnumber, hverdict, ?_⟩
  rw [← hverdict]
  refine unchanged cumulative rearranged ?_
  have inserted : Check.Rearranged grant (cumulative, [] ++ context.summaries)
      (cumulative, [] ++ period "8" (.finite false 99 0) :: context.summaries) :=
    .inserted (by decide)
  have amount : (Decimal.finite false 15125 (-3)).toRat =
      (Decimal.finite false 5 0).toRat + (Decimal.finite false 10125 (-3)).toRat := by
    simp only [toRat_finite, signed_false]
    norm_num
  have split : Check.Rearranged grant
      (cumulative, [period "8" (.finite false 99 0)] ++ period "7" (.finite false 15125 (-3)) :: [])
      (cumulative, [period "8" (.finite false 99 0)] ++ period "7" (.finite false 5 0) ::
        period "7" (.finite false 10125 (-3)) :: []) := by
    refine .split (by decide) rfl rfl amount ?_
    intro amounts addsParts
    rw [addsParts.unique (.cumulative own)]
    exact fitsParts
  exact .tail (.single inserted) split

end ReportCheck
