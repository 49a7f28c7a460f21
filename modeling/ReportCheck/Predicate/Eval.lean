import ReportCheck.Context
import ReportCheck.Predicate
import ReportCheck.Context.Subrecipient
import ReportCheck.Trace

/-! # Evaluation of predicates

  What the checks and the guards mean for a cell of a record in a context.

  - `Check.eval` is the meaning of each check. A cell that a check cannot interpret
    fails it; only the few causes in `Fault` stop an evaluation.
  - `Guard.holds` is the meaning of each guard.
  - `Predicate.eval` puts them together: the check decides if all guards hold, and
    otherwise the predicate is satisfied.
-/

namespace ReportCheck

open Text

/-! ### Amounts -/

/-- One cent in double precision. -/
def Binary64.cent : Binary64.Finite :=
  ⟨false, 5764607523034235, -59, by decide, by decide, by decide, by decide⟩

def Binary64.isBelowCent : Binary64 → Bool
  | .finite x => x.units.natAbs < cent.units.natAbs
  | _ => false

def Binary64.isPositive : Binary64 → Bool
  | .finite x => !x.negative && x.mantissa != 0
  | .infinite negative => !negative
  | .nan => false

namespace Amount

/-- The amount that a number shows, zero where there is none. -/
def ofNumber? : Option Binary64 → Decimal
  | some x => x.shown
  | none => .zero

/-- The total of some amounts in cents. -/
def total? (amounts : List Decimal) : Except Fault (Option Decimal) :=
  match Decimal.sum? amounts with
  | .ok total => .ok (total.bind Decimal.roundToCents?)
  | .error _ => .error .amountOverflow

/-- **Sum checks.** Whether a cell shows the total of some amounts, both in cents. A total
    that is not finite or too large to round matches nothing; a cell that is no number
    counts as zero. -/
def matchesTotal (value : Cell) (amounts : List Decimal) : Except Fault Bool := do
  let total ← total? amounts
  let ours := (ofNumber? (← value.strictNumber)).roundToCents?
  match ours, total with
  | some a, some b => return a.compare? b == some .eq
  | _, _ => return false

/-- The amounts of the named fields of a record, read leniently; empty names do not
    count. -/
def ofFields (record : Record) (keys : List String) : Except Fault (List Decimal) :=
  (keys.filter (· != "")).mapM fun key => do
    return ofNumber? (← (record.value key).leadingNumber)

/-- The summaries of earlier periods that belong to a record. -/
def earlier (matchValues : Members) (matchFields : List (String × String)) (record : Record)
    (summaries : List PeriodSummary) : List PeriodSummary :=
  let linked := matchFields.map fun (name, key) => (name, record.value key)
  summaries.filter fun s => s.agreesWith matchValues && s.agreesWith linked

/-- The amount of a field in a record and in the earlier periods that belong to it. -/
def cumulative (key : String) (matchValues : Members) (matchFields : List (String × String))
    (record : Record) (summaries : List PeriodSummary) : Except Fault (List Decimal) := do
  let own := ofNumber? (← (record.value key).strictNumber)
  return own :: (earlier matchValues matchFields record summaries).map (·.currentAmount key)

end Amount

/-! ### Texts -/

/-- Whether a text is a ZIP code: five digits, and after a hyphen four more or nothing. A
    single line feed may end it. -/
def isZip (cs : List Char) : Bool :=
  let isLineEnd (rest : List Char) : Bool := rest == [] || rest == ['\n']
  let rest := cs.drop 5
  (cs.take 5).length == 5 && (cs.take 5).all isDigit &&
    (isLineEnd rest ||
      match rest with
      | '-' :: more =>
        (more.take 4).length == 4 && (more.take 4).all isDigit && isLineEnd (more.drop 4)
      | _ => false)

/-- The names of the United States in lower case. -/
def unitedStates : List String := ["usa", "united states"]

/-- Whether a cell names the United States, in any letter case. -/
def Cell.isUnitedStates (c : Cell) : Bool :=
  unitedStates.contains (lower (String.ofList (trim c.display.toList)))

/-- A text without the zeros at its front. -/
def dropLeadingZeros (s : String) : List Char := s.toList.dropWhile (· == '0')

/-! ### Checks -/

namespace Check

/-- Whether a number in a cell stands in a relation to another one. -/
def comparesWith (accepts : Ordering → Bool) (value other : Cell) : Except Fault Bool :=
  if value.isNumber && other.isNumber then do
    match ← value.compareNumbers other with
    | some order => return accepts order
    | none => return false
  else .ok false

/-- Whether a cell holds a day that meets a condition. -/
def dayMeets (accepts : Date → Bool) (value : Cell) : Except Fault Bool := do
  match ← value.day with
  | some d => return accepts d
  | none => return false

/-- Whether the days in two cells stand in a relation. -/
def daysMeet (accepts : Date → Date → Bool) (value other : Cell) : Except Fault Bool := do
  let ours ← value.day
  let theirs ← other.day
  match ours, theirs with
  | some d, some d' => return accepts d d'
  | _, _ => return false

/-- Whether two cells show numbers less than a cent apart. A cell that shows none counts
    as zero. -/
def isWithinCent (value other : Cell) : Except Fault Bool := do
  let ours := (← value.leadingNumber).getD (.zero false)
  let theirs := (← other.leadingNumber).getD (.zero false)
  return (ours.sub theirs).isBelowCent

def stateList : String := "state code"

/-- The check for a part of the file's name, which fails if the part is not known. -/
def evalFilePart (key : String) (value : Cell) (ctx : Context) : Traced Fault Bool :=
  match ctx.filePart? key with
  | none => do
    Traced.note (.partMissing key)
    return false
  | some part => return dropLeadingZeros value.display == dropLeadingZeros part

/-- The check for a reference list, which fails if there are no lists. -/
def evalDropdown (listName : String) (value : Cell) (ctx : Context) : Traced Fault Bool :=
  match ctx.references with
  | none => do
    Traced.note (.listsMissing listName)
    return false
  | some references => do
    let found := references.includes listName value
    Traced.note (.listSearched listName value found)
    return found

/-- **Meaning of a check.** -/
def eval (value : Cell) (record : Record) (ctx : Context) : Check → Traced Fault Bool
  | isNotBlank => return value.isNumber || !value.isBlank
  | isNumber => return value.isNumber
  | isNumberOrBlank => return value.isBlank || value.isNumber
  | isPositiveNumber => return value.isPositive
  | isAtLeast50K => return value.isAtLeast 50000
  | isEqual key => .ofExcept (isWithinCent value (record.value key))
  | isSum keys => .ofExcept do Amount.matchesTotal value (← Amount.ofFields record keys)
  | cumulativeAmountIsEqual key matchValues matchFields => .ofExcept do
    Amount.matchesTotal value
      (← Amount.cumulative key matchValues matchFields record ctx.summaries)
  | isValidDate => .ofExcept value.isDay
  | isValidSubrecipient => return ctx.subrecipients.has value.display
  | hasSubrecipientKey => return (Subrecipient.key? record.fields).isSome
  | matchesFilePart key => evalFilePart key value ctx
  | numberIsLessThanOrEqual key => .ofExcept (comparesWith (· != .gt) value (record.value key))
  | numberIsGreaterThanOrEqual key => .ofExcept (comparesWith (· != .lt) value (record.value key))
  | dateIsOnOrBefore key => .ofExcept (daysMeet (· ≤ ·) value (record.value key))
  | dateIsOnOrAfter key => .ofExcept (daysMeet (fun d d' => d' ≤ d) value (record.value key))
  | dateIsInReportingPeriod =>
    .ofExcept (dayMeets (fun d => ctx.period.startDate ≤ d && d ≤ ctx.period.endDate) value)
  | dateIsInPeriodOfPerformance => .ofExcept (dayMeets (· ≤ ctx.period.performanceEndDate) value)
  | dateIsOnOrAfterProgramStart => .ofExcept (dayMeets (ctx.programStart ≤ ·) value)
  | dropdownIncludes listName => evalDropdown listName value ctx
  | isValidState => evalDropdown stateList value ctx
  | isValidZip => return isZip value.display.toList
  | isOneOf values => return values.contains value.display

end Check

/-! ### Guards and predicates -/

/-- **Meaning of a guard.** -/
def Guard.holds (record : Record) (g : Guard) : Except Fault Bool :=
  match g.kind with
  | .blank => .ok (record.fields.getD g.key).isBlank
  | .notBlank => .ok !(record.fields.getD g.key).isBlank
  | .us => .ok (record.value g.key).isUnitedStates
  | .greaterThanZero => do
    match ← (record.fields.getD g.key).strictNumber with
    | some x => return x.isPositive
    | none => return false

/-- **Meaning of a predicate.** -/
def Predicate.eval (value : Cell) (record : Record) (ctx : Context) : Predicate → Traced Fault Bool
  | .check c => c.eval value record ctx
  | .guarded guard inner => do
    if ← Traced.ofExcept (guard.holds record) then inner.eval value record ctx
    else return true

end ReportCheck
