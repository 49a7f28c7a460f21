import ReportCheck.Proofs.Calendar.UsForm
import ReportCheck.Proofs.Cell.Days

/-! # Days that are entered again

  A message shows a day in its US form. Who enters the day again as it is shown means the same
  day, and so do the readers from year 1000 on. Earlier years are shown by fewer than four digits.

  - `Check.AsksDay` lists the checks that look at the day of a cell, and `Check.eval_of_days` says
    that nothing else of the cell counts for them.
  - `Record.reentered` is a record with the shown day in the place of a cell.
  - `Cell.shown_day_reread` says when the shown day is read as the day, and what it is read as
    otherwise; `Cell.shown_day_misread` is a day that is taken for one of another century.
-/

namespace ReportCheck

namespace Check

/-- **Checks of days.** -/
inductive AsksDay : Check → Prop
  | isValidDate : AsksDay .isValidDate
  | dateIsOnOrBefore (key : String) : AsksDay (.dateIsOnOrBefore key)
  | dateIsOnOrAfter (key : String) : AsksDay (.dateIsOnOrAfter key)
  | dateIsInReportingPeriod : AsksDay .dateIsInReportingPeriod
  | dateIsInPeriodOfPerformance : AsksDay .dateIsInPeriodOfPerformance
  | dateIsOnOrAfterProgramStart : AsksDay .dateIsOnOrAfterProgramStart

variable {c c' w w' : Cell} {d : Date}

theorem isDay_of_day (h : c.day = .ok (some d)) : c.isDay = .ok true := by
  unfold Cell.isDay
  by_cases number : c.isNumber = true
  · rw [if_pos number]
  · rw [if_neg number, h]
    rfl

theorem daysMeet_congr (accepts : Date → Date → Bool) (same : c.day = c'.day)
    (same' : w.day = w'.day) : daysMeet accepts c w = daysMeet accepts c' w' := by
  unfold daysMeet
  rw [same, same']

theorem dayMeets_congr (accepts : Date → Bool) (same : c.day = c'.day) :
    dayMeets accepts c = dayMeets accepts c' := by
  unfold dayMeets
  rw [same]

/-- **The day decides.** A check of days comes to the same verdict on two cells with the same day,
    in two records whose other cells that it reads have the same days. -/
theorem eval_of_days {check : Check} (asks : check.AsksDay) (h : c.day = .ok (some d))
    (h' : c'.day = .ok (some d)) {record record' : Record}
    (fields : ∀ key, (record.value key).day = (record'.value key).day) (ctx : Context) :
    check.eval c record ctx = check.eval c' record' ctx := by
  have same : c.day = c'.day := h.trans h'.symm
  cases asks with
  | isValidDate =>
    exact congrArg Traced.ofExcept ((isDay_of_day h).trans (isDay_of_day h').symm)
  | dateIsOnOrBefore key => exact congrArg Traced.ofExcept (daysMeet_congr _ same (fields key))
  | dateIsOnOrAfter key => exact congrArg Traced.ofExcept (daysMeet_congr _ same (fields key))
  | dateIsInReportingPeriod => exact congrArg Traced.ofExcept (dayMeets_congr _ same)
  | dateIsInPeriodOfPerformance => exact congrArg Traced.ofExcept (dayMeets_congr _ same)
  | dateIsOnOrAfterProgramStart => exact congrArg Traced.ofExcept (dayMeets_congr _ same)

end Check

/-- A record in which the shown day stands in the place of a cell. -/
def Record.reentered (r : Record) (name : String) (d : Date) : Record :=
  { r with fields := r.fields.put name (.text d.usText) }

theorem Record.value_reentered_self (r : Record) (name : String) (d : Date) :
    (r.reentered name d).value name = .text d.usText := by
  unfold value reentered
  rw [Members.get?_put_self]

theorem Record.value_reentered_of_ne (r : Record) {name key : String} (d : Date) (h : key ≠ name) :
    (r.reentered name d).value key = r.value key := by
  unfold value reentered
  rw [Members.get?_put_of_ne _ _ h]

/-- **Shown days.** A cell that holds a day is shown by the US form of the day. From year 1000 on,
    and only then, this is read as the day again. Then messages show it unchanged, and checks of
    days come to the same verdict where the shown day is entered for the cell. A year of two digits
    is taken for one from 1969 to 2068, and one of one or three digits is no year. -/
theorem Cell.shown_day_reread (c : Cell) (d : Date) (o : Rule.Options) (shows : o.showsDate = true)
    (h : c.day = .ok (some d)) :
    o.shownValue c = .ok (.text d.usText) ∧
    ((Cell.text d.usText).day = .ok (some d) ↔ 1000 ≤ d.year) ∧
    (1000 ≤ d.year →
      o.shownValue (.text d.usText) = .ok (.text d.usText) ∧
      ∀ check : Check, check.AsksDay → ∀ record name ctx, record.value name = c →
        check.eval (.text d.usText) (record.reentered name d) ctx = check.eval c record ctx) ∧
    (10 ≤ d.year → d.year < 100 → ∃ d', (Cell.text d.usText).day = .ok (some d') ∧
      d'.year = DateItem.fullYear d.year ∧ d'.month = d.month ∧ d'.day = d.day) ∧
    (d.year < 10 ∨ (100 ≤ d.year ∧ d.year < 1000) → (Cell.text d.usText).day = .ok none) := by
  have read : (Cell.text d.usText).day = .ok (Date.ofText? d.usText) := rfl
  refine ⟨Rule.Options.shownValue_of_day shows h, ?_, ?_, ?_, ?_⟩
  · rw [read, Except.ok.injEq]
    exact Date.ofText?_usText_iff d
  · intro four
    rw [Date.ofText?_usText_of_four four] at read
    refine ⟨Rule.Options.shownValue_of_day shows read, ?_⟩
    intro check asks record name ctx hc
    apply Check.eval_of_days asks read h
    intro key
    by_cases own : key = name
    · rw [own, Record.value_reentered_self, hc, read, h]
    · rw [Record.value_reentered_of_ne _ _ own]
  · intro low high
    rw [Date.ofText?_usText_of_two low high] at read
    exact ⟨_, read, rfl, rfl, rfl⟩
  · intro other
    rw [read, Date.ofText?_usText_of_other other]

namespace ShownDays

/-- The last day of the year 1000. -/
def lastDay : Date := ⟨1000, 12, 31, by decide⟩

/-- The intercalary day of the year 96. -/
def leapDay : Date := ⟨96, 2, 29, by decide⟩

/-- A project that ends when it starts. -/
def project : Record where
  tab := "project"
  fields := [("start", .text "31 DEC 1000"), ("end", .date lastDay)]
  row := some 2

end ShownDays

open ShownDays in
/-- A day that is entered in words is shown in digits, and the end of the project is no earlier
    than the day that is entered so. -/
theorem Cell.shown_day_reread_in_four_digits :
    (Cell.text "31 DEC 1000").day = .ok (some lastDay) ∧
      Rule.Options.shownValue { showsDate := true } (.text "31 DEC 1000") =
        .ok (.text "12/31/1000") ∧
      (Cell.text "12/31/1000").day = .ok (some lastDay) ∧
      (Check.dateIsOnOrBefore "end").eval (.text "12/31/1000")
        (project.reentered "start" lastDay) Sample.context = pure true := by
  have entered : (Cell.text "31 DEC 1000").day = .ok (some lastDay) := rfl
  have four : 1000 ≤ lastDay.year := by decide
  obtain ⟨shown, again, same, -, -⟩ :=
    shown_day_reread (.text "31 DEC 1000") lastDay { showsDate := true } rfl entered
  have verdict := (same four).2 _ (.dateIsOnOrBefore "end") project "start" Sample.context rfl
  have ends : (project.value "end").day = .ok (some lastDay) := rfl
  have compared : (Check.dateIsOnOrBefore "end").eval (.text "31 DEC 1000") project Sample.context =
      Traced.ofExcept (.ok (decide (lastDay ≤ lastDay))) := by
    exact congrArg Traced.ofExcept (Check.daysMeet_of_days (· ≤ ·) entered ends)
  rw [decide_eq_true (Date.le_iff_ordinal_le.2 (Nat.le_refl _))] at compared
  exact ⟨entered, shown, again.2 four, verdict.trans compared⟩

open ShownDays in
/-- **Another century.** The leap day of the year 96 is shown as the one of 1996, and shown a
    second time it is another text. -/
theorem Cell.shown_day_misread :
    (Cell.date leapDay).day = .ok (some leapDay) ∧
      Rule.Options.shownValue { showsDate := true } (.date leapDay) = .ok (.text "02/29/96") ∧
      (Cell.text "02/29/96").day = .ok (some ⟨1996, 2, 29, by decide⟩) ∧
      Rule.Options.shownValue { showsDate := true } (.text "02/29/96") =
        .ok (.text "02/29/1996") := by
  refine ⟨rfl, rfl, rfl, rfl⟩

end ReportCheck
