/-! # Calendar dates

  Dates of the Gregorian calendar, extended backwards to year 1 and ending with year
  9999.

  - `Date` carries the proof that the day exists.
  - `Date.ordinal` counts days, with 1 for the first day of year 1; dates are ordered
    by it. `Date.ofOrdinal?` finds the date of a count.
  - `Date.isoText` and `Date.usText` are the two written forms.
-/

namespace ReportCheck

namespace Date

/-- Leap years: every fourth, but of the centuries only every fourth. -/
def isLeap (year : Nat) : Bool := year % 4 == 0 && (year % 100 != 0 || year % 400 == 0)

/-- The lengths of the twelve months. -/
def monthLengths (year : Nat) : List Nat :=
  [31, if isLeap year then 29 else 28, 31, 30, 31, 30, 31, 31, 30, 31, 30, 31]

/-- The length of a month, the months counted from 1. -/
def daysInMonth (year month : Nat) : Nat := (monthLengths year).getD (month - 1) 0

/-- The days of the calendar. -/
def Valid (year month day : Nat) : Prop :=
  (1 ≤ year ∧ year ≤ 9999) ∧ (1 ≤ month ∧ month ≤ 12) ∧ 1 ≤ day ∧ day ≤ daysInMonth year month

instance (year month day : Nat) : Decidable (Valid year month day) :=
  inferInstanceAs (Decidable (_ ∧ _))

end Date

/-- **Calendar dates.** -/
structure Date where
  year : Nat
  month : Nat
  day : Nat
  valid : Date.Valid year month day
  deriving DecidableEq, Repr

namespace Date

/-- The date with these parts, if there is such a day. -/
def of? (year month day : Nat) : Option Date :=
  if h : Valid year month day then some ⟨year, month, day, h⟩ else none

instance : Inhabited Date := ⟨⟨1, 1, 1, by decide⟩⟩

/-! ### Counting days -/

/-- Days before the first day of a year. -/
def daysBeforeYear (year : Nat) : Nat :=
  let past := year - 1
  past * 365 + past / 4 - past / 100 + past / 400

/-- Days of a year before the first day of a month. -/
def daysBeforeMonth (year month : Nat) : Nat :=
  ((monthLengths year).take (month - 1)).foldl (· + ·) 0

/-- **Day count**, with 1 for the first day of year 1. -/
def ordinal (d : Date) : Nat := daysBeforeYear d.year + daysBeforeMonth d.year d.month + d.day

/-- Day count of the first day of a year. -/
def newYear (year : Nat) : Nat := daysBeforeYear year + 1

/-- The day of the week, 0 for Monday, of a day count. -/
def weekday (ordinal : Nat) : Nat := (ordinal + 6) % 7

/-- The year of a day count. A year has 146097 / 400 days on average, which finds it up
    to one. -/
def yearOf (n : Nat) : Nat :=
  let guess := (n - 1) * 400 / 146097 + 1
  if n ≤ daysBeforeYear guess then guess - 1
  else if daysBeforeYear (guess + 1) < n then guess + 1
  else guess

/-- The month and the day of a day count within a year, given the lengths of the months
    from `month` on. -/
def monthAndDay (month n : Nat) : List Nat → Nat × Nat
  | [] => (month, n)
  | length :: rest => if n ≤ length then (month, n) else monthAndDay (month + 1) (n - length) rest

/-- **The date of a day count**, if it is not past the last year. -/
def ofOrdinal? (n : Nat) : Option Date :=
  let year := yearOf n
  let (month, day) := monthAndDay 1 (n - daysBeforeYear year) (monthLengths year)
  of? year month day

instance : LE Date := ⟨fun a b => a.ordinal ≤ b.ordinal⟩

instance (a b : Date) : Decidable (a ≤ b) := inferInstanceAs (Decidable (a.ordinal ≤ b.ordinal))

theorem le_iff_ordinal_le {a b : Date} : a ≤ b ↔ a.ordinal ≤ b.ordinal := Iff.rfl

/-! ### Written forms -/

/-- A number padded with zeros to a width. -/
def padded (width n : Nat) : List Char :=
  let digits := Nat.toDigits 10 n
  List.replicate (width - digits.length) '0' ++ digits

/-- The form `YYYY-MM-DD`. -/
def isoChars (d : Date) : List Char :=
  padded 4 d.year ++ '-' :: padded 2 d.month ++ '-' :: padded 2 d.day

/-- **ISO form** `YYYY-MM-DD`. -/
def isoText (d : Date) : String := String.ofList d.isoChars

/-- **US form** `MM/DD/Y`; the year is not padded. -/
def usText (d : Date) : String :=
  String.ofList (padded 2 d.month ++ '/' :: padded 2 d.day ++ '/' :: Nat.toDigits 10 d.year)

end Date

/-- A date with a time of day, as a spreadsheet cell may hold it. -/
structure Moment where
  date : Date
  hour : Nat
  minute : Nat
  second : Nat
  microsecond : Nat
  deriving DecidableEq, Repr

namespace Moment

/-- The form `YYYY-MM-DDTHH:MM:SS`, with six digits of fraction if there is one, and
    with the given character between date and time. -/
def textWith (separator : Char) (m : Moment) : String :=
  String.ofList (m.date.isoChars ++ separator :: Date.padded 2 m.hour ++ ':' :: Date.padded 2 m.minute
    ++ ':' :: Date.padded 2 m.second
    ++ (if m.microsecond == 0 then [] else '.' :: Date.padded 6 m.microsecond))

end Moment

end ReportCheck
