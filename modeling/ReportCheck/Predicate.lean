import ReportCheck.Cell

/-! # Predicates

  The language of conditions on a cell. A predicate is a `Check` behind any number of
  `Guard`s: a guard that does not hold satisfies the predicate without looking at the
  cell.

  - `Predicate.kind` names a predicate in documents.
  - `Predicate.guards` and `Predicate.leaf` are the two parts of a predicate;
    `Predicate.ofGuards` puts them together again.
  - `Predicate.reads` lists the fields of a record that a predicate looks at.
-/

namespace ReportCheck

/-- **Checks** of a cell. -/
inductive Check where
  | isNotBlank
  | isNumber
  | isNumberOrBlank
  | isPositiveNumber
  /-- A number of at least 50000. -/
  | isAtLeast50K
  /-- Equal to another field to within a cent. -/
  | isEqual (key : String)
  /-- The sum of other fields, in cents. -/
  | isSum (keys : List String)
  /-- The amount of a field in this and the earlier periods together, in cents. The
      earlier periods that count have the given attributes, and attributes equal to the
      given fields of the record. -/
  | cumulativeAmountIsEqual (key : String) (matchValues : Members)
      (matchFields : List (String × String))
  | isValidDate
  /-- The identifier of a known subrecipient. -/
  | isValidSubrecipient
  /-- Whether the record itself identifies a subrecipient. -/
  | hasSubrecipientKey
  /-- A part of the file's name, leading zeros aside. -/
  | matchesFilePart (key : String)
  | numberIsLessThanOrEqual (key : String)
  | numberIsGreaterThanOrEqual (key : String)
  | dateIsOnOrBefore (key : String)
  | dateIsOnOrAfter (key : String)
  | dateIsInReportingPeriod
  | dateIsInPeriodOfPerformance
  | dateIsOnOrAfterProgramStart
  /-- A member of a reference list. -/
  | dropdownIncludes (listName : String)
  /-- A member of the list of states. -/
  | isValidState
  | isValidZip
  | isOneOf (values : List String)
  deriving BEq, Repr

/-- The conditions that a guard can put on a field. -/
inductive GuardKind where
  | blank
  | notBlank
  /-- The field names the United States. -/
  | us
  | greaterThanZero
  deriving DecidableEq, Repr

/-- **Guards**: a condition on a field of the record. -/
structure Guard where
  kind : GuardKind
  key : String
  deriving DecidableEq, Repr

/-- **Predicates.** -/
inductive Predicate where
  | check (c : Check)
  | guarded (guard : Guard) (inner : Predicate)
  deriving BEq, Repr

/-- The name of a check in documents. -/
def Check.kind : Check → String
  | isNotBlank => "is_not_blank"
  | isNumber => "is_number"
  | isNumberOrBlank => "is_number_or_blank"
  | isPositiveNumber => "is_positive_number"
  | isAtLeast50K => "is_at_least_50k"
  | isEqual _ => "is_equal"
  | isSum _ => "is_sum"
  | cumulativeAmountIsEqual .. => "cumulative_amount_is_equal"
  | isValidDate => "is_valid_date"
  | isValidSubrecipient => "is_valid_subrecipient"
  | hasSubrecipientKey => "has_subrecipient_key"
  | matchesFilePart _ => "matches_file_part"
  | numberIsLessThanOrEqual _ => "number_is_less_than_or_equal"
  | numberIsGreaterThanOrEqual _ => "number_is_greater_than_or_equal"
  | dateIsOnOrBefore _ => "date_is_on_or_before"
  | dateIsOnOrAfter _ => "date_is_on_or_after"
  | dateIsInReportingPeriod => "date_is_in_reporting_period"
  | dateIsInPeriodOfPerformance => "date_is_in_period_of_performance"
  | dateIsOnOrAfterProgramStart => "date_is_on_or_after_program_start"
  | dropdownIncludes _ => "dropdown_includes"
  | isValidState => "is_valid_state"
  | isValidZip => "is_valid_zip"
  | isOneOf _ => "is_one_of"

/-- The name of a guard in documents. -/
def GuardKind.name : GuardKind → String
  | blank => "when_blank"
  | notBlank => "when_not_blank"
  | us => "when_us"
  | greaterThanZero => "when_greater_than_zero"

/-- The fields of the record that a check reads besides the cell itself. -/
def Check.reads : Check → List String
  | isEqual key => [key]
  | isSum keys => keys
  | cumulativeAmountIsEqual key _ matchFields => key :: matchFields.map (·.2)
  | hasSubrecipientKey => ["identification number", "duns number", "ein number"]
  | numberIsLessThanOrEqual key => [key]
  | numberIsGreaterThanOrEqual key => [key]
  | dateIsOnOrBefore key => [key]
  | dateIsOnOrAfter key => [key]
  | _ => []

namespace Predicate

/-- The name of a predicate in documents. -/
def kind : Predicate → String
  | .check c => c.kind
  | .guarded guard _ => guard.kind.name

/-- The guards of a predicate, the outermost first. -/
def guards : Predicate → List Guard
  | .check _ => []
  | .guarded guard inner => guard :: inner.guards

/-- The check behind the guards. -/
def leaf : Predicate → Check
  | .check c => c
  | .guarded _ inner => inner.leaf

/-- A check behind guards, the outermost first. -/
def ofGuards (guards : List Guard) (c : Check) : Predicate := guards.foldr .guarded (.check c)

/-- **Read set.** The fields of the record that a predicate looks at. -/
def reads : Predicate → List String
  | .check c => c.reads
  | .guarded guard inner => guard.key :: inner.reads

@[simp] theorem ofGuards_guards_leaf (p : Predicate) : ofGuards p.guards p.leaf = p := by
  induction p with
  | check c => rfl
  | guarded guard inner ih => exact congrArg (Predicate.guarded guard) ih

@[simp] theorem guards_ofGuards (guards : List Guard) (c : Check) :
    (ofGuards guards c).guards = guards := by
  induction guards with
  | nil => rfl
  | cons guard rest ih => exact congrArg (guard :: ·) ih

@[simp] theorem leaf_ofGuards (guards : List Guard) (c : Check) : (ofGuards guards c).leaf = c := by
  induction guards with
  | nil => rfl
  | cons guard rest ih => exact ih

end Predicate

end ReportCheck
