import ReportCheck.Cell.Number
import ReportCheck.Calendar.Date

/-! # Reporting periods

  A report is checked against its own period and against what earlier periods reported.

  - `ReportingPeriod` holds the dates of the period.
  - `PeriodSummary` holds the attributes and the amounts of an earlier period.
    `PeriodSummary.ofFlat` splits a flat object into the two by the prefix of its names.
-/

namespace ReportCheck

/-- **Reporting periods.** -/
structure ReportingPeriod where
  startDate : Date
  endDate : Date
  /-- The end of the period in which the reported work may be done. -/
  performanceEndDate : Date
  deriving DecidableEq, Repr

/-- **Summaries of earlier periods.** -/
structure PeriodSummary where
  /-- What identifies the entry, by name. -/
  attributes : Members
  /-- The amounts reported in that period, by field. -/
  current : List (String × Decimal)
  deriving BEq, Repr

namespace PeriodSummary

/-- The prefix of the names of amounts in a flat summary. -/
def currentMark : List Char := "current_".toList

/-- What follows the prefix in the name of an amount. -/
def amountName? (name : String) : Option String :=
  let cs := name.toList
  if currentMark.isPrefixOf cs then some (String.ofList (cs.drop currentMark.length)) else none

/-- Whether a cell holds no amount at all. -/
def isAbsent : Cell → Bool
  | .empty => true
  | .text s => s.isEmpty
  | _ => false

/-- The amount of a member of a flat summary, if it is one. Absent, unreadable and
    infinite amounts are none. -/
def amountOf? (name : String) (value : Cell) : Option (String × Decimal) := do
  let field ← amountName? name
  if isAbsent value then none
  else
    let amount ← value.amount?
    if amount.isFinite then some (field, amount) else none

/-- **Splitting a flat summary** into attributes and amounts. -/
def ofFlat (flat : Members) : PeriodSummary where
  attributes := flat.filter fun (name, _) => (amountName? name).isNone
  current := flat.filterMap fun (name, value) => amountOf? name value

/-- The flat object of a summary. -/
def toFlat (s : PeriodSummary) : Members :=
  s.attributes ++ s.current.map fun (field, amount) =>
    (String.ofList (currentMark ++ field.toList), .decimal amount)

/-- The amount reported for a field, zero where there is none. -/
def currentAmount (s : PeriodSummary) (field : String) : Decimal :=
  (s.current.lookup field).getD .zero

/-- Whether the attributes display as expected. -/
def agreesWith (s : PeriodSummary) (expected : Members) : Bool :=
  expected.all fun (name, value) => (s.attributes.getD name).display == value.display

end PeriodSummary

end ReportCheck
