/-! # Misfits

  Loading a document into the types of the library collects everything that does not
  fit, each with its place.

  - `Misfit.Cause` lists what can be wrong with a single value; `Cause.code` is its
    stable name in answers.
  - `Misfit.place` writes the path to a value, its steps joined by points.
-/

namespace ReportCheck

/-- What is wrong with a value. -/
inductive Misfit.Cause where
  /-- A required member is not there. -/
  | missing
  /-- A text is expected. -/
  | notText
  /-- A list is expected. -/
  | notList
  /-- A list of distinct texts is expected. -/
  | notSet
  /-- An object is expected. -/
  | notObject
  /-- An object with the members of a certain type is expected. -/
  | notModel
  /-- An object that says which kind of check it is is expected. -/
  | notChoice
  /-- The object does not say which kind of check it is. -/
  | kindMissing
  /-- There is no such kind of check. -/
  | kindUnknown
  /-- The member has to hold one certain text. -/
  | notLiteral
  /-- A truth value is expected. -/
  | notBool
  /-- The text or number stands for no truth value. -/
  | unreadableBool
  /-- A whole number is expected. -/
  | notInt
  /-- The text denotes no whole number. -/
  | unreadableInt
  /-- The text of a whole number is too long. -/
  | oversizedInt
  /-- The number has a fraction. -/
  | fractional
  /-- The number is infinite or not a number. -/
  | notFinite
  /-- The number is below the least one allowed. -/
  | tooSmall
  /-- A date is expected. -/
  | notDate
  /-- The text denotes a day that the calendar does not have. -/
  | unreadableDate
  /-- The value denotes no point in time. -/
  | unreadableTime
  /-- The value denotes a point in time that is not the beginning of a day. -/
  | notMidnight
  deriving DecidableEq, Repr

namespace Misfit.Cause

/-- The stable name of a cause. -/
def code : Cause → String
  | missing => "missing"
  | notText => "string_type"
  | notList => "list_type"
  | notSet => "frozen_set_type"
  | notObject => "dict_type"
  | notModel => "model_type"
  | notChoice => "model_attributes_type"
  | kindMissing => "union_tag_not_found"
  | kindUnknown => "union_tag_invalid"
  | notLiteral => "literal_error"
  | notBool => "bool_type"
  | unreadableBool => "bool_parsing"
  | notInt => "int_type"
  | unreadableInt => "int_parsing"
  | oversizedInt => "int_parsing_size"
  | fractional => "int_from_float"
  | notFinite => "finite_number"
  | tooSmall => "greater_than_equal"
  | notDate => "date_type"
  | unreadableDate => "date_parsing"
  | unreadableTime => "date_from_datetime_parsing"
  | notMidnight => "date_from_datetime_inexact"

end Misfit.Cause

/-- **Misfits.** A value that does not fit, and the names and positions that lead to it. -/
structure Misfit where
  path : List String
  cause : Misfit.Cause
  deriving DecidableEq, Repr

namespace Misfit

/-- The path in one text. -/
def place (m : Misfit) : String := ".".intercalate m.path

end Misfit

end ReportCheck
