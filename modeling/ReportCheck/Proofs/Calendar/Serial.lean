import Mathlib.Data.Prod.Lex
import Mathlib.Order.Hom.Basic
import ReportCheck.Proofs.Calendar.Ordinal
import ReportCheck.Proofs.Number.Double

/-! # Serial numbers of days

  The serial numbers 1 to 2958465, without 60, are the days from 1900 to 9999 in their order.

  - `exists_ordinal`: every day count up to the last day of year 9999 is the one of a date. The
    year comes from `exists_year`, the month from `exists_month`, by induction on the lengths of
    the months.
  - `le_iff_parts_le`: the order by day counts is the order by year, month and day.
  - `IsSerial` are the serial numbers, and `Date.serialIso` is the isomorphism between them and the
    days from 1900 on.
  - `Date.serials_isomorphic` is the statement about double-precision numbers.
-/

namespace ReportCheck

namespace Date

/-! ### Dates of day counts -/

/-- Every day count lies within a year. -/
theorem exists_year {n : Nat} (h : 1 ≤ n) :
    ∃ year, 1 ≤ year ∧ daysBeforeYear year < n ∧ n ≤ daysBeforeYear (year + 1) := by
  induction n, h using Nat.le_induction with
  | base => exact ⟨1, le_rfl, by decide, by decide⟩
  | succ n h ih =>
    obtain ⟨year, pos, low, high⟩ := ih
    by_cases last : n + 1 ≤ daysBeforeYear (year + 1)
    · exact ⟨year, pos, by omega, last⟩
    · -- The next day is the first one of the next year.
      have length := @daysBeforeYear_succ (year + 1) (by omega)
      refine ⟨year + 1, by omega, by omega, ?_⟩
      split at length <;> omega

/-- Every day of a year lies within a month. -/
theorem exists_month {lengths : List Nat} {n : Nat} (h : 1 ≤ n)
    (within : n ≤ lengths.foldl (· + ·) 0) :
    ∃ k day, k < lengths.length ∧ 1 ≤ day ∧ day ≤ lengths.getD k 0 ∧
      (lengths.take k).foldl (· + ·) 0 + day = n := by
  induction lengths generalizing n with
  | nil =>
    rw [List.foldl_nil] at within
    omega
  | cons length rest ih =>
    rw [foldl_add_cons] at within
    by_cases first : n ≤ length
    · exact ⟨0, n, by simp, h, by simpa using first, by simp⟩
    · obtain ⟨k, day, hk, pos, fits, sum⟩ := @ih (n - length) (by omega) (by omega)
      refine ⟨k + 1, day, by simpa using hk, pos, by simpa using fits, ?_⟩
      rw [List.take_succ_cons, foldl_add_cons]
      omega

theorem foldl_monthLengths (year : Nat) :
    (monthLengths year).foldl (· + ·) 0 = if isLeap year then 366 else 365 := by
  unfold monthLengths
  cases isLeap year <;> rfl

/-- **Day counts** up to the last day are those of dates. -/
theorem exists_ordinal {n : Nat} (h : 1 ≤ n) (last : n ≤ 3652059) : ∃ d : Date, d.ordinal = n := by
  obtain ⟨year, pos, low, high⟩ := exists_year h
  have length := daysBeforeYear_succ pos
  obtain ⟨k, day, hk, hday, fits, sum⟩ :=
    @exists_month (monthLengths year) (n - daysBeforeYear year) (by omega) (by
      rw [foldl_monthLengths]
      omega)
  have inRange : year ≤ 9999 := by
    by_contra late
    have := daysBeforeYear_mono (by decide) (show 10000 ≤ year by omega)
    rw [daysBeforeYear_end] at this
    omega
  have months : (monthLengths year).length = 12 := rfl
  refine ⟨⟨year, k + 1, day, ⟨pos, inRange⟩, ⟨by omega, by omega⟩, hday, fits⟩, ?_⟩
  show daysBeforeYear year + ((monthLengths year).take k).foldl (· + ·) 0 + day = n
  omega

theorem ofOrdinal?_of_late {n : Nat} (late : 3652059 < n) : ofOrdinal? n = none := by
  obtain ⟨year, pos, low, high⟩ := @exists_year n (by omega)
  have after : 10000 ≤ year := by
    by_contra early
    have := daysBeforeYear_mono (by omega) (show year + 1 ≤ 10000 by omega)
    rw [daysBeforeYear_end] at this
    omega
  simp only [ofOrdinal?, yearOf_eq pos low high]
  rw [of?, dif_neg]
  rintro ⟨⟨-, inRange⟩, -⟩
  omega

/-! ### The order of dates -/

/-- Year, month and day of a date, the year first. -/
def parts (d : Date) : Nat ×ₗ Nat ×ₗ Nat := toLex (d.year, toLex (d.month, d.day))

theorem daysBeforeMonth_le {year month later : Nat} (pos : 1 ≤ month) (h : month < later) :
    daysBeforeMonth year month + daysInMonth year month ≤ daysBeforeMonth year later := by
  obtain ⟨k, rfl⟩ : ∃ k, month = k + 1 := ⟨month - 1, by omega⟩
  obtain ⟨j, rfl⟩ : ∃ j, later = k + 1 + j + 1 := ⟨later - k - 2, by omega⟩
  unfold daysBeforeMonth daysInMonth
  simp only [Nat.add_sub_cancel]
  generalize monthLengths year = lengths
  rw [← List.sum_eq_foldl, ← List.sum_eq_foldl]
  induction lengths generalizing k with
  | nil => simp
  | cons length rest ih =>
    cases k with
    | zero => simp [Nat.add_comm 1 j]
    | succ k =>
      have step := ih k (by omega) (by omega)
      rw [show k + 1 + 1 + j = k + 1 + j + 1 by omega, List.take_succ_cons, List.take_succ_cons,
        List.sum_cons, List.sum_cons, List.getD_cons_succ]
      omega

theorem ordinal_lt_of_parts_lt {d d' : Date} (h : d.parts < d'.parts) : d.ordinal < d'.ordinal := by
  unfold parts at h
  rw [Prod.Lex.toLex_lt_toLex] at h
  rcases h with year | ⟨year, h⟩
  · have within := d.ordinal_between.2
    have within' := d'.ordinal_between.1
    have := daysBeforeYear_mono (by omega) (show d.year + 1 ≤ d'.year from year)
    omega
  · simp only at year h
    rw [Prod.Lex.toLex_lt_toLex] at h
    unfold ordinal
    rw [year]
    rcases h with month | ⟨month, day⟩
    · have fits := d.valid.2.2.2
      have pos := d'.valid.2.2.1
      have before := @daysBeforeMonth_le d.year d.month d'.month d.valid.2.1.1 month
      rw [year] at fits before
      omega
    · simp only at month day
      rw [month]
      omega

/-- **Dates are ordered** by year, month and day. -/
theorem le_iff_parts_le {d d' : Date} : d ≤ d' ↔ d.parts ≤ d'.parts := by
  rw [le_iff_ordinal_le]
  constructor
  · intro h
    by_contra later
    have := ordinal_lt_of_parts_lt (not_le.1 later)
    omega
  · intro h
    rcases lt_or_eq_of_le h with before | same
    · exact (ordinal_lt_of_parts_lt before).le
    · have equal : d = d' := by
        unfold parts at same
        simp only [EmbeddingLike.apply_eq_iff_eq, Prod.mk.injEq] at same
        cases d
        cases d'
        simp_all
      rw [equal]

/-! ### Serial numbers -/

/-- **Serial numbers of days.** -/
def IsSerial (n : ℤ) : Prop := 1 ≤ n ∧ n ≤ 2958465 ∧ n ≠ 60

instance (n : ℤ) : Decidable (IsSerial n) := inferInstanceAs (Decidable (_ ∧ _))

theorem isSerial_serial {d : Date} (since1900 : 1900 ≤ d.year) : IsSerial d.serial := by
  have start := serialStart_lt_ordinal since1900
  have last := d.ordinal_le
  unfold serialStart at start
  unfold IsSerial serial serialStart
  split <;> omega

theorem exists_serial {n : ℤ} (h : IsSerial n) : ∃ d : Date, 1900 ≤ d.year ∧ (d.serial : ℤ) = n := by
  obtain ⟨first, last, notPhantom⟩ := h
  obtain ⟨d, hd⟩ := @exists_ordinal
    (if n < 60 then serialStart + n.toNat else serialStart + n.toNat - 1)
    (by unfold serialStart; split <;> omega) (by unfold serialStart; split <;> omega)
  have start : serialStart = daysBeforeYear 1900 := rfl
  refine ⟨d, ?_, ?_⟩
  · -- A day before 1900 would have a smaller day count.
    by_contra before
    have := daysBeforeYear_mono (by omega) (show d.year + 1 ≤ 1900 by omega)
    have := d.ordinal_between.2
    split at hd <;> omega
  · unfold serial
    split at hd
    · rw [if_pos (by omega)]
      omega
    · rw [if_neg (by omega)]
      omega

theorem ofWholeSerial?_of_not {n : ℤ} (h : ¬ IsSerial n) : ofWholeSerial? n = none := by
  unfold ofWholeSerial?
  split
  · rfl
  · next first =>
    unfold ofSerialNumber?
    by_cases phantom : n.toNat = 60
    · rw [if_pos (by simpa using phantom)]
    · have late : 2958465 < n := by
        unfold IsSerial at h
        omega
      rw [if_neg (by simpa using phantom), if_neg (by omega)]
      exact ofOrdinal?_of_late (by unfold serialStart; omega)

theorem isSome_ofWholeSerial? {n : ℤ} (h : IsSerial n) : (ofWholeSerial? n).isSome = true := by
  obtain ⟨d, since1900, rfl⟩ := exists_serial h
  rw [ofWholeSerial?_serial since1900]
  rfl

/-- The date of a serial number. -/
def ofIsSerial {n : ℤ} (h : IsSerial n) : Date := (ofWholeSerial? n).get (isSome_ofWholeSerial? h)

theorem ofIsSerial_serial {d : Date} (since1900 : 1900 ≤ d.year) (h : IsSerial d.serial) :
    ofIsSerial h = d := by
  simp only [ofIsSerial, ofWholeSerial?_serial since1900, Option.get_some]

theorem serial_le_serial_iff {d d' : Date} (since1900 : 1900 ≤ d.year) (since1900' : 1900 ≤ d'.year) :
    d.serial ≤ d'.serial ↔ d ≤ d' := by
  have start := serialStart_lt_ordinal since1900
  have start' := serialStart_lt_ordinal since1900'
  rw [le_iff_ordinal_le]
  unfold serial
  split <;> split <;> omega

/-- **Serial numbers** are the days from 1900 on, in their order. -/
def serialIso : {n : ℤ // IsSerial n} ≃o {d : Date // 1900 ≤ d.year} where
  toFun n := ⟨ofIsSerial n.2, by
    obtain ⟨n, h⟩ := n
    obtain ⟨d, since1900, rfl⟩ := exists_serial h
    rwa [ofIsSerial_serial since1900]⟩
  invFun d := ⟨d.1.serial, isSerial_serial d.2⟩
  left_inv n := by
    obtain ⟨n, h⟩ := n
    obtain ⟨d, since1900, rfl⟩ := exists_serial h
    simp only [ofIsSerial_serial since1900]
  right_inv d := by simp only [ofIsSerial_serial d.2]
  map_rel_iff' := by
    rintro ⟨n, h⟩ ⟨n', h'⟩
    obtain ⟨d, since1900, rfl⟩ := exists_serial h
    obtain ⟨d', since1900', rfl⟩ := exists_serial h'
    simp only [Equiv.coe_fn_mk, Subtype.mk_le_mk, ofIsSerial_serial since1900,
      ofIsSerial_serial since1900', Nat.cast_le]
    exact (serial_le_serial_iff since1900 since1900').symm

theorem ofWholeSerial?_truncate (x : Binary64.Finite) :
    ofWholeSerial? x.truncate = ofWholeSerial? ⌊x.toRat⌋ := by
  cases sign : x.negative with
  | false => rw [Binary64.Finite.truncate_eq_floor sign]
  | true =>
    have below : x.truncate < 1 := by
      unfold Binary64.Finite.truncate
      rw [sign, if_pos rfl]
      have : (0 : ℤ) ≤ x.mantissa * 2 ^ x.exponent.toNat / 2 ^ (-x.exponent).toNat := by positivity
      omega
    have floor : ⌊x.toRat⌋ < 1 := by
      rw [Int.floor_lt]
      have nonneg := x.magnitude_nonneg
      unfold Binary64.Finite.toRat
      rw [sign, Decimal.signed_true]
      push_cast
      linarith
    rw [ofWholeSerial?, if_pos below, ofWholeSerial?, if_pos floor]

/-- **Serial numbers in double precision.** A finite number is read by its whole part, rounded
    down: it is the day that the isomorphism gives if that is a serial number, and no day if it is
    below 1, the 29th of February that 1900 did not have, or past the last day of year 9999. Every
    serial number is the whole part of some number, and the order of the days is the one by year,
    month and day. -/
theorem serials_isomorphic :
    (∀ x : Binary64.Finite, x.toRat < 1 ∨ ⌊x.toRat⌋ = 60 ∨ 2958465 < ⌊x.toRat⌋ →
      ofSerial (.finite x) = .ok none) ∧
    (∀ (x : Binary64.Finite) (h : IsSerial ⌊x.toRat⌋),
      ofSerial (.finite x) = .ok (some (serialIso ⟨⌊x.toRat⌋, h⟩).1)) ∧
    (∀ n : ℤ, IsSerial n → ∃ x : Binary64.Finite, x.toRat = n) ∧
    ∀ d d' : Date, d ≤ d' ↔ d.parts ≤ d'.parts := by
  refine ⟨?_, ?_, ?_, fun d d' => le_iff_parts_le⟩
  · intro x out
    have notSerial : ¬ IsSerial ⌊x.toRat⌋ := by
      rintro ⟨first, last, notPhantom⟩
      rcases out with below | phantom | late
      · have := Int.floor_lt.2 (show x.toRat < ((1 : ℤ) : ℚ) by exact_mod_cast below)
        omega
      · exact notPhantom phantom
      · omega
    rw [ofSerial, ofWholeSerial?_truncate, ofWholeSerial?_of_not notSerial]
  · intro x h
    rw [ofSerial, ofWholeSerial?_truncate]
    exact congrArg Except.ok (Option.some_get (isSome_ofWholeSerial? h)).symm
  · intro n h
    obtain ⟨first, last, -⟩ := h
    obtain ⟨x, -, value⟩ := @Binary64.ofInt?_exact n.toNat (by omega)
    refine ⟨x, ?_⟩
    rw [value, ← Int.cast_natCast, Int.toNat_of_nonneg (by omega)]

namespace Serial

/-- A quarter before the end of the 59th day. -/
def lastOfFebruary : Binary64.Finite :=
  ⟨false, 8409064929230848, -47, by decide, by decide, by decide, by decide⟩

/-- The middle of the 60th day. -/
def phantom : Binary64.Finite :=
  ⟨false, 8514618045497344, -47, by decide, by decide, by decide, by decide⟩

end Serial

open Serial in
/-- The 59th day is the 28th of February 1900, and the next number is no day. -/
theorem serials_isomorphic_in_february :
    ofSerial (.finite phantom) = .ok none ∧
      ∃ h : IsSerial ⌊lastOfFebruary.toRat⌋,
        ofSerial (.finite lastOfFebruary) = .ok (some (serialIso ⟨_, h⟩).1) ∧
        (serialIso ⟨_, h⟩).1 = ⟨1900, 2, 28, by decide⟩ := by
  obtain ⟨outside, inside, -⟩ := serials_isomorphic
  have middle : ⌊phantom.toRat⌋ = 60 := by
    have value : phantom.toRat = 60 + 1 / 2 := by
      norm_num [Binary64.Finite.toRat, Binary64.Finite.magnitude, Decimal.signed, phantom]
    rw [value]
    norm_num
  have day : ⌊lastOfFebruary.toRat⌋ = 59 := by
    have value : lastOfFebruary.toRat = 59 + 3 / 4 := by
      norm_num [Binary64.Finite.toRat, Binary64.Finite.magnitude, Decimal.signed, lastOfFebruary]
    rw [value]
    norm_num
  have serial : IsSerial ⌊lastOfFebruary.toRat⌋ := by
    rw [day]
    decide
  have read := inside lastOfFebruary serial
  have shown : ofSerial (.finite lastOfFebruary) = .ok (some ⟨1900, 2, 28, by decide⟩) := by
    decide +kernel
  refine ⟨outside phantom (.inr (.inl middle)), serial, read, ?_⟩
  rw [shown] at read
  exact (Option.some.inj (Except.ok.inj read)).symm

end Date

end ReportCheck
