import ReportCheck.Proofs.Calendar.Ordinal
import ReportCheck.Proofs.Calendar.Forms
import ReportCheck.Proofs.Cell.Faults
import ReportCheck.Proofs.Number.Double
import ReportCheck.Proofs.Sample

/-! # Days in cells

  A day is the same day however a cell shows it: as a date, with a time of day, as a serial
  number, or in writing.

  - `Cell.Shows` lists the cells that show a day.
  - `Cell.day_of_shows`: all of them are read as the day, and
    `Rule.Options.shownValue_of_day` that messages show them alike.
  - `Check.daysMeet_of_days` and `Check.dayMeets_of_day` are about the checks of days.
  - `Cell.days_agree` is the statement about cells, checks and messages.
-/

namespace ReportCheck

open Text

/-- **Shown days.** -/
inductive Cell.Shows (d : Date) : Cell → Prop
  /-- The date itself. -/
  | date : Shows d (.date d)
  /-- The date with a time of day. -/
  | moment {m : Moment} (on : m.date = d) : Shows d (.moment m)
  /-- The serial number of the date. -/
  | serial (since1900 : 1900 ≤ d.year) {n : WholeNumber} (days : n.value = d.serial) :
      Shows d (.int n)
  /-- A number from the serial number on, and below the next one. -/
  | float {x : Binary64.Finite} (since1900 : 1900 ≤ d.year) (low : (d.serial : ℚ) ≤ x.toRat)
      (high : x.toRat < d.serial + 1) : Shows d (.float (.finite x))
  /-- A written date, with blanks around it. -/
  | text {left cs right : List Char} (hleft : ∀ c ∈ left, Text.isBlank c = true)
      (written : d.Written cs) (hright : ∀ c ∈ right, Text.isBlank c = true) :
      Shows d (.text (String.ofList (left ++ cs ++ right)))

namespace Cell

variable {d d' : Date} {c c' : Cell}

/-- **The same day.** All cells that show a day are read as it. -/
theorem day_of_shows (h : c.Shows d) : c.day = .ok (some d) := by
  cases h with
  | date => rfl
  | moment on =>
    subst on
    rfl
  | @serial since1900 n days =>
    -- The number is converted exactly, and its fraction is nothing.
    obtain ⟨x, hx, value⟩ := Binary64.ofInt?_exact (lt_trans d.serial_lt (by norm_num))
    have whole : x.truncate = d.serial := by
      refine Binary64.Finite.truncate_of_between (Date.serial_pos since1900) value.ge ?_
      rw [value]
      exact lt_add_one _
    have number : (Cell.int n).toBinary64 = .ok (some (.finite x)) := by
      simp only [toBinary64, days, hx]
    show (Cell.int n).toBinary64 >>= _ = _
    rw [number]
    show Except.ok (Date.ofWholeSerial? x.truncate) = _
    rw [whole, Date.ofWholeSerial?_serial since1900]
  | @float x since1900 low high =>
    have whole := Binary64.Finite.truncate_of_between (Date.serial_pos since1900) low high
    show Except.ok (Date.ofWholeSerial? x.truncate) = _
    rw [whole, Date.ofWholeSerial?_serial since1900]
  | text hleft written hright =>
    show Except.ok (Date.ofText? _) = _
    rw [Date.ofText?_written written hleft hright]

end Cell

/-- **Messages** show a day in its US form, however the cell shows it. -/
theorem Rule.Options.shownValue_of_day {o : Rule.Options} {c : Cell} {d : Date}
    (shows : o.showsDate = true) (h : c.day = .ok (some d)) :
    o.shownValue c = .ok (.text d.usText) := by
  have shown : ¬ (!o.showsDate || c.isBlank || (c.isNumber && c.isFalsy)) = true := by
    intro raw
    rw [shows, Bool.not_true, Bool.false_or] at raw
    rw [Cell.day_of_blank_or_zero raw] at h
    cases h
  rw [shownValue, if_neg shown, h]
  rfl

namespace Check

variable {c c' : Cell} {d d' : Date}

/-- **Conditions on a day** depend on the day only. -/
theorem dayMeets_of_day (accepts : Date → Bool) (h : c.day = .ok (some d)) :
    dayMeets accepts c = .ok (accepts d) := by
  rw [dayMeets, h]
  rfl

/-- **Comparisons of days** depend on the days only. -/
theorem daysMeet_of_days (accepts : Date → Date → Bool) (h : c.day = .ok (some d))
    (h' : c'.day = .ok (some d')) : daysMeet accepts c c' = .ok (accepts d d') := by
  rw [daysMeet, h, h']
  rfl

end Check

/-- **Days agree.** A cell that shows a day is read as the day. So checks compare the days of
    two cells, the other checks of days come to the same verdict on all cells that show the
    day, and messages show them alike. -/
theorem Cell.days_agree (d : Date) (c : Cell) (h : c.Shows d) :
    c.day = .ok (some d) ∧
    (∀ record key d', (record.value key).Shows d' → ∀ ctx,
      (Check.dateIsOnOrBefore key).eval c record ctx = pure (decide (d ≤ d')) ∧
      (Check.dateIsOnOrAfter key).eval c record ctx = pure (decide (d' ≤ d))) ∧
    (∀ record ctx,
      Check.dateIsInReportingPeriod.eval c record ctx =
        pure (decide (ctx.period.startDate ≤ d) && decide (d ≤ ctx.period.endDate)) ∧
      Check.dateIsInPeriodOfPerformance.eval c record ctx =
        pure (decide (d ≤ ctx.period.performanceEndDate)) ∧
      Check.dateIsOnOrAfterProgramStart.eval c record ctx =
        pure (decide (ctx.programStart ≤ d))) ∧
    ∀ o : Rule.Options, o.showsDate = true → o.shownValue c = .ok (.text d.usText) := by
  have day := day_of_shows h
  refine ⟨day, ?_, ?_, ?_⟩
  · intro record key d' h' ctx
    have day' := day_of_shows h'
    exact ⟨congrArg Traced.ofExcept (Check.daysMeet_of_days _ day day'),
      congrArg Traced.ofExcept (Check.daysMeet_of_days _ day day')⟩
  · intro record ctx
    exact ⟨congrArg Traced.ofExcept (Check.dayMeets_of_day _ day),
      congrArg Traced.ofExcept (Check.dayMeets_of_day _ day),
      congrArg Traced.ofExcept (Check.dayMeets_of_day _ day)⟩
  · intro o shows
    exact Rule.Options.shownValue_of_day shows day

namespace Days

/-- The first of October 2020. -/
def october : Date := ⟨2020, 10, 1, by decide⟩

/-- A quarter before six in the evening, as a fraction of the day after the serial number. -/
def evening : Binary64.Finite :=
  ⟨false, 6061848122097664, -37, by decide, by decide, by decide, by decide⟩

/-- A record that gives the day as a number. -/
def record : Record where
  tab := "grants"
  fields := [("end", .float (.finite evening))]
  row := some 2

/-- The day in writing. -/
def written : Cell := .text "\tocTober 1, 2020 "

end Days

open Days in
/-- The day in writing is compared with the same day given as a number. -/
theorem Cell.days_agree_in_october :
    written.Shows october ∧ (record.value "end").Shows october ∧
      written.day = .ok (some october) ∧
      (Check.dateIsOnOrBefore "end").eval written record Sample.context = pure true ∧
      (Check.dateIsOnOrAfter "end").eval written record Sample.context = pure true := by
  have name : DateItem.Names october.month "ocTober".toList := .full (by decide)
  have shown : written.Shows october := by
    exact @Shows.text october ['\t'] _ [' '] (by simp [Text.isBlank]) (.nameFirst name .bare)
      (by simp [Text.isBlank])
  have other : (record.value "end").Shows october := by
    have value : evening.toRat = 44105 + 3 / 4 := by
      norm_num [Binary64.Finite.toRat, Binary64.Finite.magnitude, Decimal.signed, evening]
    have serial : october.serial = 44105 := by decide
    refine .float (by decide) ?_ ?_
    · rw [value, serial]
      norm_num
    · rw [value, serial]
      norm_num
  obtain ⟨day, compares, -⟩ := days_agree october written shown
  have same := compares record "end" october other Sample.context
  have same_day : october ≤ october := Date.le_iff_ordinal_le.2 (Nat.le_refl _)
  rw [decide_eq_true same_day] at same
  exact ⟨shown, other, day, same⟩

end ReportCheck
