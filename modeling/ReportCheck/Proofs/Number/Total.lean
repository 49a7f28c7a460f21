import ReportCheck.Proofs.Number.Addition

/-! # Totals of amounts

  What many correctly rounded additions make of a list of amounts.

  - `exactTotal` is the sum without any rounding, `absTotal` the sum of the sizes.
  - `sum?_exact`: a list whose sizes together fit 400 digits on a common grid is summed
    without an error. This is the step `RoundsTo.eq_of_mem_grid`, repeated.
  - `sum?_near`: in any case the total is off by no more than `drift`, a unit of the last
    place of the sizes for each addition.
  - `sum?_eq_overflow_iff`: a sum overflows exactly if a running total does.
  - `finite_of_sum?`: an amount that is not finite leaves no total.
-/

namespace ReportCheck

namespace Decimal

/-- **Exact total** of some amounts. -/
def exactTotal (amounts : List Decimal) : ℚ := (amounts.map toRat).sum

/-- The sizes of some amounts together. -/
def absTotal (amounts : List Decimal) : ℚ := (amounts.map fun a => |a.toRat|).sum

@[simp] theorem exactTotal_nil : exactTotal [] = 0 := rfl

@[simp] theorem exactTotal_cons (a : Decimal) (rest : List Decimal) :
    exactTotal (a :: rest) = a.toRat + exactTotal rest := by
  simp [exactTotal]

@[simp] theorem absTotal_nil : absTotal [] = 0 := rfl

@[simp] theorem absTotal_cons (a : Decimal) (rest : List Decimal) :
    absTotal (a :: rest) = |a.toRat| + absTotal rest := by
  simp [absTotal]

theorem exactTotal_append (amounts others : List Decimal) :
    exactTotal (amounts ++ others) = exactTotal amounts + exactTotal others := by
  simp [exactTotal]

theorem absTotal_nonneg (amounts : List Decimal) : 0 ≤ absTotal amounts := by
  induction amounts with
  | nil => exact le_rfl
  | cons a rest ih =>
    have := abs_nonneg a.toRat
    rw [absTotal_cons]
    linarith

theorem abs_exactTotal_le (amounts : List Decimal) : |exactTotal amounts| ≤ absTotal amounts := by
  induction amounts with
  | nil => simp
  | cons a rest ih =>
    have := abs_add_le a.toRat (exactTotal rest)
    rw [exactTotal_cons, absTotal_cons]
    linarith

theorem exactTotal_of_perm {amounts others : List Decimal} (h : amounts.Perm others) :
    exactTotal amounts = exactTotal others := by
  unfold exactTotal
  exact (h.map toRat).sum_eq

theorem absTotal_of_perm {amounts others : List Decimal} (h : amounts.Perm others) :
    absTotal amounts = absTotal others := by
  unfold absTotal
  have sizes := h.map fun a : Decimal => |a.toRat|
  rw [sizes.sum_eq]

/-! ### One addition -/

/-- **Exact steps.** A result of up to 400 digits on a grid is not rounded. -/
theorem RoundsTo.eq_of_mem_grid {x y : ℚ} (h : RoundsTo x y) {k : Int} (onGrid : x ∈ grid k)
    (least : minExponent ≤ k) (short : |x| < 10 ^ (k + 400)) : y = x := by
  obtain ⟨low, place, hy, near⟩ := h
  have fine : low ≤ k := by
    rcases place.full with hleast | full
    · omega
    · have := ten_zpow_lt_iff.1 (lt_of_le_of_lt full short)
      omega
  -- The two values are on one grid, and less than a unit apart.
  obtain ⟨z, hz⟩ := mem_grid_iff.1 (AddSubgroup.sub_mem _ hy (grid_le fine onGrid))
  have unit : (0 : ℚ) < 10 ^ low := by positivity
  rw [hz, abs_mul, abs_of_pos unit] at near
  have less : |(z : ℚ)| < 1 := by
    by_contra large
    have := mul_le_mul_of_nonneg_right (not_lt.1 large) unit.le
    linarith
  have none : z = 0 := Int.abs_lt_one_iff.1 (by exact_mod_cast less)
  rw [none, Int.cast_zero, zero_mul] at hz
  linarith

/-- **Near steps.** A result is moved by at most half a unit of its last digit. -/
theorem RoundsTo.near {x y : ℚ} (h : RoundsTo x y) : |y - x| ≤ (|x| + 1) / (2 * 10 ^ (399 : Int)) := by
  obtain ⟨low, place, -, near⟩ := h
  have digits : (0 : ℚ) < 10 ^ (399 : Int) := by positivity
  have nonneg := abs_nonneg x
  have unit : (10 : ℚ) ^ low * 10 ^ (399 : Int) ≤ |x| + 1 := by
    rw [← zpow_add₀ (by norm_num)]
    rcases place.full with least | full
    · -- The least place of all is tiny.
      have tiny : (10 : ℚ) ^ (low + 399) ≤ 10 ^ (0 : Int) :=
        ten_zpow_le (by unfold minExponent precision at least; omega)
      rw [zpow_zero] at tiny
      linarith
    · linarith
  refine le_trans near ?_
  rw [le_div_iff₀ (by positivity)]
  linarith

theorem exists_of_isRounded {x : ℚ} {outcome : Except SumFault Decimal} (h : IsRounded x outcome)
    (below : |x| < overflowBound) :
    ∃ d, outcome = .ok d ∧ d.isFinite = true ∧ RoundsTo x d.toRat := by
  rcases h with ⟨beyond, -⟩ | ⟨-, result⟩
  · exact absurd below (not_lt.2 beyond)
  · exact result

theorem roundsTo_of_isRounded {x : ℚ} {d : Decimal} (h : IsRounded x (.ok d)) :
    d.isFinite = true ∧ RoundsTo x d.toRat := by
  rcases h with ⟨-, failed⟩ | ⟨-, d', hd, finite, rounds⟩
  · cases failed
  · cases hd
    exact ⟨finite, rounds⟩

/-! ### Exact totals -/

/-- **Amounts of 400 digits.** On a common grid, their sizes together have no more digits
    than are kept. -/
structure FitsDigits (k : Int) (amounts : List Decimal) : Prop where
  finite : ∀ a ∈ amounts, a.isFinite = true
  onGrid : ∀ a ∈ amounts, a.toRat ∈ grid k
  size : absTotal amounts < 10 ^ (k + 400)

theorem FitsDigits.of_forms {k : Int} {amounts : List Decimal}
    (forms : ∀ a ∈ amounts, ∃ negative c e, a = Decimal.finite negative c e ∧ k ≤ e)
    (size : absTotal amounts < 10 ^ (k + 400)) : FitsDigits k amounts where
  finite a ha := by
    obtain ⟨negative, c, e, rfl, -⟩ := forms a ha
    rfl
  onGrid a ha := by
    obtain ⟨negative, c, e, rfl, h⟩ := forms a ha
    exact grid_le h (signed_mem_grid negative c e)
  size := size

theorem FitsDigits.of_perm {k : Int} {amounts others : List Decimal} (h : FitsDigits k amounts)
    (perm : amounts.Perm others) : FitsDigits k others where
  finite a ha := h.finite a (perm.mem_iff.2 ha)
  onGrid a ha := h.onGrid a (perm.mem_iff.2 ha)
  size := by rw [← absTotal_of_perm perm]; exact h.size

/-- **Exact running totals.** -/
theorem addAll_exact {k : Int} (least : minExponent ≤ k) (inRange : k ≤ maxExponent - 400)
    {total : Decimal} (finite : total.isFinite = true) (onGrid : total.toRat ∈ grid k)
    {amounts : List Decimal} (finites : ∀ a ∈ amounts, a.isFinite = true)
    (onGrids : ∀ a ∈ amounts, a.toRat ∈ grid k)
    (size : |total.toRat| + absTotal amounts < 10 ^ (k + 400)) :
    ∃ d, addAll total amounts = .ok d ∧ d.isFinite = true ∧
      d.toRat = total.toRat + exactTotal amounts := by
  induction amounts generalizing total with
  | nil => exact ⟨total, rfl, finite, by simp⟩
  | cons a rest ih =>
    rw [absTotal_cons] at size
    have others := absTotal_nonneg rest
    have triangle := abs_add_le total.toRat a.toRat
    -- The next running total fits the digits again.
    have short : |total.toRat + a.toRat| < 10 ^ (k + 400) := by linarith
    have below : |total.toRat + a.toRat| < overflowBound :=
      lt_trans short (ten_zpow_lt_overflowBound (by omega))
    have sumOnGrid := AddSubgroup.add_mem _ onGrid (onGrids a (.head _))
    obtain ⟨next, hnext, hfinite, rounds⟩ :=
      exists_of_isRounded (add_isRounded finite (finites a (.head _))) below
    have exact := rounds.eq_of_mem_grid sumOnGrid least short
    obtain ⟨d, hd, hdFinite, hvalue⟩ := ih hfinite (by rw [exact]; exact sumOnGrid)
      (fun b hb => finites b (.tail _ hb)) (fun b hb => onGrids b (.tail _ hb))
      (by rw [exact]; linarith)
    refine ⟨d, ?_, hdFinite, ?_⟩
    · rw [addAll_cons, hnext]
      exact hd
    · rw [hvalue, exact, exactTotal_cons]
      ring

theorem sum?_of_addAll {amounts : List Decimal} {d : Decimal} (h : addAll zero amounts = .ok d)
    (finite : d.isFinite = true) : sum? amounts = .ok (some d) := by
  unfold sum?
  rw [h]
  simp only [finite, if_true]

/-- **Exact totals.** -/
theorem sum?_exact {k : Int} (least : minExponent ≤ k) (inRange : k ≤ maxExponent - 400)
    {amounts : List Decimal} (fits : FitsDigits k amounts) :
    ∃ t, sum? amounts = .ok (some t) ∧ t.isFinite = true ∧ t.toRat = exactTotal amounts := by
  have size : |zero.toRat| + absTotal amounts < 10 ^ (k + 400) := by
    rw [toRat_zero, abs_zero, zero_add]
    exact fits.size
  have start : zero.toRat ∈ grid k := by
    rw [toRat_zero]
    exact AddSubgroup.zero_mem _
  obtain ⟨d, hd, finite, value⟩ := addAll_exact least inRange rfl start fits.finite fits.onGrid size
  rw [toRat_zero, zero_add] at value
  exact ⟨d, sum?_of_addAll hd finite, finite, value⟩

/-! ### Totals with an error -/

/-- **Drift.** How far the total of a list may be off: a unit of the last digit kept of
    the sizes for each addition. -/
def drift (amounts : List Decimal) : ℚ := amounts.length * (1 + absTotal amounts) / 10 ^ (399 : Int)

theorem length_le_of_drift {amounts : List Decimal} (h : drift amounts < 1) :
    (amounts.length : ℚ) ≤ 10 ^ (399 : Int) := by
  have size := absTotal_nonneg amounts
  rw [drift, div_lt_one (by positivity)] at h
  have each := mul_le_mul_of_nonneg_left (show 1 ≤ 1 + absTotal amounts by linarith)
    (Nat.cast_nonneg (α := ℚ) amounts.length)
  generalize (10 : ℚ) ^ (399 : Int) = top at *
  linarith

theorem drift_of_perm {amounts others : List Decimal} (h : amounts.Perm others) :
    drift amounts = drift others := by
  unfold drift
  rw [absTotal_of_perm h, h.length_eq]

/-- **One step of the drift.** After `count` additions of amounts of size `size` the running
    total is off by `count` units; another addition makes it one more. -/
theorem drift_step {total next : Decimal} {a exact size : ℚ} {count : ℕ}
    (rounds : RoundsTo (total.toRat + a) next.toRat) (hexact : |exact| ≤ size)
    (short : (count : ℚ) ≤ 10 ^ (399 : Int))
    (near : |total.toRat - exact| ≤ count * (1 + size) / 10 ^ (399 : Int)) :
    |next.toRat - (exact + a)| ≤ (count + 1 : ℕ) * (1 + (size + |a|)) / 10 ^ (399 : Int) := by
  have digits : (0 : ℚ) < 10 ^ (399 : Int) := by positivity
  have rounded := rounds.near
  rw [le_div_iff₀ (by positivity)] at rounded near ⊢
  generalize (10 : ℚ) ^ (399 : Int) = ten at *
  have nonneg := abs_nonneg exact
  have hsize : 0 ≤ size := le_trans nonneg hexact
  have ha := abs_nonneg a
  have hcount : (0 : ℚ) ≤ count := Nat.cast_nonneg count
  -- The error so far is no more than a unit of the whole, so the running total is bounded.
  have error : |total.toRat - exact| ≤ 1 + size := by
    have := mul_le_mul_of_nonneg_right short (show 0 ≤ 1 + size by linarith)
    have : |total.toRat - exact| * ten ≤ (1 + size) * ten := by linarith
    exact le_of_mul_le_mul_right this digits
  have running : |total.toRat + a| ≤ 1 + 2 * size + |a| := by
    have split := abs_add_three (total.toRat - exact) exact a
    rw [sub_add_cancel] at split
    linarith
  have sum : |next.toRat - (exact + a)| ≤
      |next.toRat - (total.toRat + a)| + |total.toRat - exact| := by
    have := abs_add_le (next.toRat - (total.toRat + a)) (total.toRat - exact)
    rwa [show next.toRat - (total.toRat + a) + (total.toRat - exact) = next.toRat - (exact + a) by
      ring] at this
  have scaled := mul_le_mul_of_nonneg_right sum digits.le
  have more := mul_nonneg hcount ha
  push_cast
  linarith

/-- **Near running totals.** -/
theorem addAll_near {total : Decimal} (finite : total.isFinite = true) {amounts : List Decimal}
    (finites : ∀ a ∈ amounts, a.isFinite = true) {exact size : ℚ} {count : ℕ}
    (hexact : |exact| ≤ size) (short : ((count + amounts.length : ℕ) : ℚ) ≤ 10 ^ (399 : Int))
    (near : |total.toRat - exact| ≤ count * (1 + size) / 10 ^ (399 : Int)) {d : Decimal}
    (h : addAll total amounts = .ok d) :
    d.isFinite = true ∧ |d.toRat - (exact + exactTotal amounts)| ≤
      (count + amounts.length : ℕ) * (1 + (size + absTotal amounts)) / 10 ^ (399 : Int) := by
  induction amounts generalizing total exact size count with
  | nil =>
    cases h
    exact ⟨finite, by simpa using near⟩
  | cons a rest ih =>
    rw [addAll_cons] at h
    cases hnext : add total a with
    | error fault =>
      rw [hnext] at h
      cases h
    | ok next =>
      rw [hnext] at h
      have rounded := add_isRounded finite (finites a (.head _))
      rw [hnext] at rounded
      obtain ⟨hfinite, rounds⟩ := roundsTo_of_isRounded rounded
      have counted : count + (a :: rest).length = count + 1 + rest.length := by
        rw [List.length_cons]
        omega
      rw [counted] at short ⊢
      have shorter : (count : ℚ) ≤ 10 ^ (399 : Int) :=
        le_trans (Nat.cast_le.2 (by omega)) short
      have step := drift_step rounds hexact shorter near
      have hsum : |exact + a.toRat| ≤ size + |a.toRat| :=
        le_trans (abs_add_le exact a.toRat) (by linarith)
      obtain ⟨hd, hnear⟩ := ih hfinite (fun b hb => finites b (.tail _ hb)) hsum short step h
      rw [exactTotal_cons, absTotal_cons, ← add_assoc, ← add_assoc size]
      exact ⟨hd, hnear⟩

/-! ### Overflow -/

theorem addAll_append (total : Decimal) (first others : List Decimal) :
    addAll total (first ++ others) = (addAll total first).bind (addAll · others) := by
  induction first generalizing total with
  | nil => rfl
  | cons a rest ih =>
    rw [List.cons_append, addAll_cons, addAll_cons]
    cases hnext : add total a with
    | error fault => rfl
    | ok next => exact ih next

theorem add_of_not_finite {a b : Decimal} (h : ¬ (a.isFinite = true ∧ b.isFinite = true)) :
    add a b = .error .invalid ∨ ∃ d, add a b = .ok d ∧ d.isFinite = false := by
  unfold add
  split
  · exact .inl rfl
  · exact .inl rfl
  · exact .inr ⟨_, rfl, rfl⟩
  · exact .inr ⟨_, rfl, rfl⟩
  · -- Infinities of different signs have no sum, others are their sum.
    split
    · exact .inr ⟨_, rfl, rfl⟩
    · exact .inl rfl
  · exact .inr ⟨_, rfl, rfl⟩
  · exact .inr ⟨_, rfl, rfl⟩
  · exact absurd ⟨rfl, rfl⟩ h

theorem isFinite_of_add_overflow {a b : Decimal} (h : add a b = .error .overflow) :
    a.isFinite = true ∧ b.isFinite = true := by
  by_contra infinite
  rcases add_of_not_finite infinite with hinvalid | ⟨d, hd, -⟩
  · rw [hinvalid] at h
    cases h
  · rw [hd] at h
    cases h

theorem add_eq_overflow_iff {a b : Decimal} (ha : a.isFinite = true) (hb : b.isFinite = true) :
    add a b = .error .overflow ↔ overflowBound ≤ |a.toRat + b.toRat| := by
  rcases add_isRounded ha hb with ⟨beyond, failed⟩ | ⟨below, d, hd, -⟩
  · exact ⟨fun _ => beyond, fun _ => failed⟩
  · constructor
    · intro h
      rw [hd] at h
      cases h
    · intro beyond
      exact absurd below (not_lt.2 beyond)

/-- **Overflow.** On the way through some amounts, a running total and the next amount
    reach the end of the range. -/
def Overflows (amounts : List Decimal) : Prop :=
  ∃ before a after t, amounts = before ++ a :: after ∧ addAll zero before = .ok t ∧
    t.isFinite = true ∧ a.isFinite = true ∧ overflowBound ≤ |t.toRat + a.toRat|

theorem exists_of_addAll_overflow {total : Decimal} {amounts : List Decimal}
    (h : addAll total amounts = .error .overflow) :
    ∃ before a after t, amounts = before ++ a :: after ∧ addAll total before = .ok t ∧
      add t a = .error .overflow := by
  induction amounts generalizing total with
  | nil => cases h
  | cons a rest ih =>
    rw [addAll_cons] at h
    cases hnext : add total a with
    | error fault =>
      rw [hnext] at h
      cases h
      exact ⟨[], a, rest, total, rfl, rfl, hnext⟩
    | ok next =>
      rw [hnext] at h
      obtain ⟨before, b, after, t, rfl, ht, hover⟩ := ih h
      refine ⟨a :: before, b, after, t, rfl, ?_, hover⟩
      rw [addAll_cons, hnext]
      exact ht

/-- **Overflow of a sum.** -/
theorem sum?_eq_overflow_iff {amounts : List Decimal} :
    sum? amounts = .error .overflow ↔ Overflows amounts := by
  have run : sum? amounts = .error .overflow ↔ addAll zero amounts = .error .overflow := by
    unfold sum?
    cases addAll zero amounts with
    | ok d => simp
    | error fault => cases fault <;> simp
  rw [run]
  constructor
  · intro h
    obtain ⟨before, a, after, t, hsplit, ht, hover⟩ := exists_of_addAll_overflow h
    obtain ⟨hfinite, haFinite⟩ := isFinite_of_add_overflow hover
    exact ⟨before, a, after, t, hsplit, ht, hfinite, haFinite,
      (add_eq_overflow_iff hfinite haFinite).1 hover⟩
  · rintro ⟨before, a, after, t, rfl, ht, hfinite, haFinite, beyond⟩
    rw [addAll_append, ht]
    show addAll t (a :: after) = _
    rw [addAll_cons, (add_eq_overflow_iff hfinite haFinite).2 beyond]
    rfl

theorem sum?_cases (amounts : List Decimal) :
    (Overflows amounts ∧ sum? amounts = .error .overflow) ∨
      (¬ Overflows amounts ∧ ∃ total, sum? amounts = .ok total) := by
  rw [← sum?_eq_overflow_iff]
  unfold sum?
  cases addAll zero amounts with
  | ok d => exact .inr ⟨by simp, _, rfl⟩
  | error fault =>
    cases fault with
    | invalid => exact .inr ⟨by simp, _, rfl⟩
    | overflow => exact .inl ⟨rfl, rfl⟩

theorem addAll_of_finite {total : Decimal} (finite : total.isFinite = true) {amounts : List Decimal}
    (finites : ∀ a ∈ amounts, a.isFinite = true) :
    addAll total amounts = .error .overflow ∨
      ∃ d, addAll total amounts = .ok d ∧ d.isFinite = true := by
  induction amounts generalizing total with
  | nil => exact .inr ⟨total, rfl, finite⟩
  | cons a rest ih =>
    rw [addAll_cons]
    rcases add_isRounded finite (finites a (.head _)) with ⟨-, beyond⟩ | ⟨-, next, hnext, hfinite, -⟩
    · rw [beyond]
      exact .inl rfl
    · rw [hnext]
      exact ih hfinite fun b hb => finites b (.tail _ hb)

/-- **Totals of finite amounts** exist, unless the sum overflows. -/
theorem exists_sum?_of_finite {amounts : List Decimal} (finites : ∀ a ∈ amounts, a.isFinite = true)
    (inRange : ¬ Overflows amounts) : ∃ t, sum? amounts = .ok (some t) := by
  rw [← sum?_eq_overflow_iff] at inRange
  have start : zero.isFinite = true := rfl
  rcases addAll_of_finite start finites with beyond | ⟨d, hd, hfinite⟩
  · unfold sum? at inRange
    rw [beyond] at inRange
    exact absurd rfl inRange
  · exact ⟨d, sum?_of_addAll hd hfinite⟩

/-! ### Totals that are found -/

theorem finite_of_add {a b d : Decimal} (h : add a b = .ok d) (finite : d.isFinite = true) :
    a.isFinite = true ∧ b.isFinite = true := by
  by_contra infinite
  rcases add_of_not_finite infinite with hinvalid | ⟨d', hd', hinfinite⟩
  · rw [hinvalid] at h
    cases h
  · rw [hd'] at h
    cases h
    rw [hinfinite] at finite
    cases finite

theorem finite_of_addAll {total d : Decimal} {amounts : List Decimal}
    (h : addAll total amounts = .ok d) (finite : d.isFinite = true) :
    total.isFinite = true ∧ ∀ a ∈ amounts, a.isFinite = true := by
  induction amounts generalizing total with
  | nil =>
    cases h
    exact ⟨finite, fun a ha => absurd ha List.not_mem_nil⟩
  | cons a rest ih =>
    rw [addAll_cons] at h
    cases hnext : add total a with
    | error fault =>
      rw [hnext] at h
      cases h
    | ok next =>
      rw [hnext] at h
      obtain ⟨hfinite, others⟩ := ih h
      obtain ⟨htotal, ha⟩ := finite_of_add hnext hfinite
      exact ⟨htotal, List.forall_mem_cons.2 ⟨ha, others⟩⟩

/-- **Totals** that are found are finite, and so are the amounts. -/
theorem finite_of_sum? {amounts : List Decimal} {t : Decimal} (h : sum? amounts = .ok (some t)) :
    addAll zero amounts = .ok t ∧ t.isFinite = true ∧ ∀ a ∈ amounts, a.isFinite = true := by
  unfold sum? at h
  cases hrun : addAll zero amounts with
  | error fault =>
    rw [hrun] at h
    cases fault <;> cases h
  | ok d =>
    rw [hrun] at h
    cases hfinite : d.isFinite with
    | true =>
      simp only [hfinite, if_true] at h
      cases h
      exact ⟨rfl, hfinite, (finite_of_addAll hrun hfinite).2⟩
    | false =>
      simp only [hfinite] at h
      cases h

/-- **Near totals.** A total that is found is off by no more than the drift. -/
theorem sum?_near {amounts : List Decimal} (short : (amounts.length : ℚ) ≤ 10 ^ (399 : Int))
    {t : Decimal} (h : sum? amounts = .ok (some t)) : |t.toRat - exactTotal amounts| ≤ drift amounts := by
  obtain ⟨hrun, -, finites⟩ := finite_of_sum? h
  -- The start is exact, and of size zero.
  have start : |zero.toRat - 0| ≤ (0 : ℕ) * (1 + 0) / 10 ^ (399 : Int) := by simp
  have empty : |(0 : ℚ)| ≤ 0 := by rw [abs_zero]
  obtain ⟨-, near⟩ := addAll_near rfl finites empty (by rwa [Nat.zero_add]) start hrun
  rwa [zero_add, zero_add, zero_add] at near

end Decimal

end ReportCheck
