import ReportCheck.Cell.Day
import Mathlib.Data.List.Basic
import Mathlib.Tactic.IntervalCases

/-! # Day counts

  Counting the days from the first one of year 1 on, and finding the date of a count, are
  inverse to each other.

  - `daysBeforeYear_succ` and `daysBeforeMonth_add_le` are the lengths of the years.
  - `yearOf_eq`: the guess at the year of a count is the year or the one before it.
  - `monthAndDay_eq` goes through the months of a year, by induction on their lengths.
  - `ofOrdinal?_ordinal` puts a date together again.
  - `Date.serial` is the count of a date from 1900 on that spreadsheets use, and
    `ofWholeSerial?_serial` says that it is read as the date.
-/

namespace ReportCheck

namespace Date

/-! ### Years -/

theorem succ_div_eq (n k : Nat) : (n + 1) / k = n / k + if (n + 1) % k = 0 then 1 else 0 := by
  rw [Nat.succ_div]
  simp only [Nat.dvd_iff_mod_eq_zero]

/-- **Length of a year.** -/
theorem daysBeforeYear_succ {year : Nat} (h : 1 ≤ year) :
    daysBeforeYear (year + 1) = daysBeforeYear year + if isLeap year then 366 else 365 := by
  obtain ⟨past, rfl⟩ : ∃ past, year = past + 1 := ⟨year - 1, by omega⟩
  -- Every fourth century is one, and every century is a fourth year.
  have century : (past + 1) % 400 = 0 → (past + 1) % 100 = 0 := by omega
  have fourth : (past + 1) % 100 = 0 → (past + 1) % 4 = 0 := by omega
  have fewer : past / 100 ≤ past / 4 := Nat.div_le_div_left (by omega) (by omega)
  simp only [daysBeforeYear, isLeap, Nat.add_sub_cancel, succ_div_eq past, Bool.and_eq_true,
    Bool.or_eq_true, beq_iff_eq, bne_iff_ne, ne_eq]
  by_cases h400 : (past + 1) % 400 = 0
  · simp only [h400, century h400, fourth (century h400), if_true, or_true, and_self]
    omega
  · by_cases h100 : (past + 1) % 100 = 0
    · simp only [h400, h100, fourth h100, if_true, if_false, not_true, or_self, and_false]
      omega
    · by_cases h4 : (past + 1) % 4 = 0
      · simp only [h400, h100, h4, if_true, if_false, not_false_iff, or_false, and_self]
        omega
      · simp only [h400, h100, h4, if_false, false_and]
        omega

theorem daysBeforeYear_mono {year year' : Nat} (pos : 1 ≤ year) (h : year ≤ year') :
    daysBeforeYear year ≤ daysBeforeYear year' := by
  induction h with
  | refl => exact Nat.le_refl _
  | @step later le ih =>
    rw [Nat.succ_eq_add_one, daysBeforeYear_succ (Nat.le_trans pos le)]
    omega

/-- **The year of a day count** is found, whether the guess is the year or the one before. -/
theorem yearOf_eq {year n : Nat} (h : 1 ≤ year) (low : daysBeforeYear year < n)
    (high : n ≤ daysBeforeYear (year + 1)) : yearOf n = year := by
  obtain ⟨past, rfl⟩ : ∃ past, year = past + 1 := ⟨year - 1, by omega⟩
  have guess : (n - 1) * 400 / 146097 = past ∨ (n - 1) * 400 / 146097 + 1 = past := by
    simp only [daysBeforeYear, Nat.add_sub_cancel] at low high
    omega
  simp only [yearOf]
  rcases guess with exact | before
  · rw [exact, if_neg (by omega), if_neg (by omega)]
  · rw [before]
    have early : ¬ n ≤ daysBeforeYear past := by
      simp only [daysBeforeYear, Nat.add_sub_cancel] at low ⊢
      omega
    rw [if_neg early, if_pos low]

/-! ### Months -/

theorem foldl_add_cons (length : Nat) (lengths : List Nat) :
    (length :: lengths).foldl (· + ·) 0 = length + lengths.foldl (· + ·) 0 := by
  rw [← List.sum_eq_foldl, ← List.sum_eq_foldl, List.sum_cons]

/-- **The month and the day** of a day count within a year. -/
theorem monthAndDay_eq {lengths : List Nat} {k day : Nat} (first : Nat) (hday : 1 ≤ day)
    (exists_day : day ≤ lengths.getD k 0) :
    monthAndDay first ((lengths.take k).foldl (· + ·) 0 + day) lengths = (first + k, day) := by
  induction lengths generalizing first k with
  | nil =>
    rw [List.getD_nil] at exists_day
    omega
  | cons length rest ih =>
    cases k with
    | zero =>
      have fits : day ≤ length := exists_day
      simp [monthAndDay, fits]
    | succ k =>
      rw [List.take_succ_cons, foldl_add_cons, monthAndDay, if_neg (by omega),
        show length + (rest.take k).foldl (· + ·) 0 + day - length =
          (rest.take k).foldl (· + ·) 0 + day by omega, ih (first + 1) exists_day]
      simp only [Prod.mk.injEq, and_true]
      omega

/-- The days of a month lie within the year. -/
theorem daysBeforeMonth_add_le (d : Date) :
    daysBeforeMonth d.year d.month + d.day ≤ if isLeap d.year then 366 else 365 := by
  obtain ⟨year, month, day, -, ⟨low, high⟩, -, hday⟩ := d
  simp only [daysInMonth, monthLengths] at hday
  simp only [daysBeforeMonth, monthLengths]
  cases leap : isLeap year with
  | true =>
    rw [leap] at hday
    interval_cases month <;> simp at hday ⊢ <;> omega
  | false =>
    rw [leap] at hday
    interval_cases month <;> simp at hday ⊢ <;> omega

theorem ordinal_between (d : Date) :
    daysBeforeYear d.year < d.ordinal ∧ d.ordinal ≤ daysBeforeYear (d.year + 1) := by
  have within := d.daysBeforeMonth_add_le
  have length := daysBeforeYear_succ d.valid.1.1
  have hday := d.valid.2.2.1
  unfold ordinal
  omega

theorem daysBeforeYear_end : daysBeforeYear 10000 = 3652059 := rfl

theorem ordinal_le (d : Date) : d.ordinal ≤ 3652059 := by
  have within := d.ordinal_between.2
  have after := daysBeforeYear_mono (by omega) (show d.year + 1 ≤ 10000 by have := d.valid.1.2; omega)
  rw [daysBeforeYear_end] at after
  omega

/-- **Day counts** are read as their dates. -/
theorem ofOrdinal?_ordinal (d : Date) : ofOrdinal? d.ordinal = some d := by
  have hyear : yearOf d.ordinal = d.year :=
    yearOf_eq d.valid.1.1 d.ordinal_between.1 d.ordinal_between.2
  have hmonth : monthAndDay 1 (d.ordinal - daysBeforeYear d.year) (monthLengths d.year) =
      (d.month, d.day) := by
    have rest : d.ordinal - daysBeforeYear d.year = daysBeforeMonth d.year d.month + d.day := by
      unfold ordinal
      omega
    have monthEq : 1 + (d.month - 1) = d.month := by
      have := d.valid.2.1.1
      omega
    rw [rest, daysBeforeMonth, monthAndDay_eq 1 d.valid.2.2.1 d.valid.2.2.2, monthEq]
  simp only [ofOrdinal?, hyear, hmonth]
  rw [of?, dif_pos d.valid]

/-! ### Serial numbers -/

/-- **Serial number** of a date from 1900 on. From March 1900 on one more is counted, for the
    29th of February of that year, which spreadsheets take for a day. -/
def serial (d : Date) : Nat :=
  if d.ordinal < serialStart + 60 then d.ordinal - serialStart else d.ordinal - serialStart + 1

theorem serialStart_lt_ordinal {d : Date} (since1900 : 1900 ≤ d.year) :
    serialStart < d.ordinal := by
  have start : serialStart = daysBeforeYear 1900 := rfl
  have before := daysBeforeYear_mono (by omega) since1900
  have within := d.ordinal_between
  omega

theorem serial_lt (d : Date) : d.serial < 10000000 := by
  have last := d.ordinal_le
  unfold serial
  split <;> omega

theorem serial_pos {d : Date} (since1900 : 1900 ≤ d.year) : 0 < d.serial := by
  have := serialStart_lt_ordinal since1900
  unfold serial
  split <;> omega

/-- **Serial numbers** are read as their dates. -/
theorem ofWholeSerial?_serial {d : Date} (since1900 : 1900 ≤ d.year) :
    ofWholeSerial? d.serial = some d := by
  have positive := serial_pos since1900
  have start := serialStart_lt_ordinal since1900
  rw [ofWholeSerial?, if_neg (by omega), Int.toNat_natCast]
  unfold ofSerialNumber?
  by_cases early : d.ordinal < serialStart + 60
  · have count : d.serial = d.ordinal - serialStart := if_pos early
    have sum : serialStart + d.serial = d.ordinal := by omega
    have fewer : d.serial < 60 := by omega
    simp only [beq_iff_eq, fewer.ne, fewer, if_false, if_true, sum, ofOrdinal?_ordinal]
  · have count : d.serial = d.ordinal - serialStart + 1 := if_neg early
    have sum : serialStart + d.serial - 1 = d.ordinal := by omega
    have more : ¬ d.serial < 60 := by omega
    have notPhantom : d.serial ≠ 60 := by omega
    simp only [beq_iff_eq, notPhantom, more, if_false, sum, ofOrdinal?_ordinal]

end Date

end ReportCheck
