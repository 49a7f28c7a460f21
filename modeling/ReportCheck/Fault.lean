/-! # Faults

  - `Fault` lists the few ways in which an ordinary looking cell stops an evaluation
    instead of failing its check. Everything else that a cell can hold is either
    accepted or rejected by a check.
  - `ShapeFault` lists the ways in which a value in a document can have the wrong shape
    where an object or a collection is expected.
-/

namespace ReportCheck

/-- **Faults** of an evaluation. -/
inductive Fault where
  /-- A whole number beyond the range of double precision is needed as one. -/
  | integerTooLarge
  /-- An infinite number is needed as a count of days. -/
  | infiniteDays
  /-- An infinite number is needed as a row. -/
  | infiniteRow
  /-- A sum of amounts exceeds the range of exponents. -/
  | amountOverflow
  /-- A decimal amount is compared with a value that is not a number. -/
  | unordered
  deriving DecidableEq, Repr

/-- The wording of a fault. -/
def Fault.message : Fault → String
  | integerTooLarge => "A whole number is too large."
  | infiniteDays => "An infinite number is no count of days."
  | infiniteRow => "An infinite number is no row."
  | amountOverflow => "A sum of amounts is too large."
  | unordered => "An amount cannot be compared with what is not a number."

/-- A value of the wrong shape in a document. -/
inductive ShapeFault where
  /-- An object with named members is expected. -/
  | notAnObject
  /-- A collection of values is expected. -/
  | notACollection
  /-- A pair of a name and a value is expected. -/
  | notAPair
  /-- A list or an object cannot be a name. -/
  | unusableName
  deriving DecidableEq, Repr

/-- The wording of a fault in the shape of a value. -/
def ShapeFault.message : ShapeFault → String
  | notAnObject => "An object is expected."
  | notACollection => "A collection of values is expected."
  | notAPair => "A pair of a name and a value is expected."
  | unusableName => "A list or an object cannot be a name."

end ReportCheck
