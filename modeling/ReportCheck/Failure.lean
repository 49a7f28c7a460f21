import ReportCheck.Cell.Text
import ReportCheck.Text.Set
import ReportCheck.Fault
import ReportCheck.Document.JsonReader
import ReportCheck.Load.Misfit

/-! # Failures

  Why an operation of the library ends without a result, by cause.

  - `ContextFault` and `ManifestFault` are what callers can get wrong in the inputs of a
    run; `Failure` joins them with faults, misfits and tabs that no validator covers.
  - `Failure.message` is the wording, `Failure.message?` that of the causes which are
    addressed to the caller.
-/

namespace ReportCheck

/-- What is wrong with the inputs of a context. -/
inductive ContextFault where
  /-- The reporting period is not an object. -/
  | notAPeriod
  /-- A date of the reporting period is missing or is none. -/
  | noDate (name : String) (found : Cell)
  /-- The reporting period starts after it ends. -/
  | reversed (startDate endDate : Date)
  /-- A summary of an earlier period is not an object. -/
  | notASummary
  deriving Repr

/-- The wording of a fault in the inputs of a context. -/
def ContextFault.message : ContextFault → String
  | notAPeriod => "Reporting period must be a mapping of start/end dates."
  | noDate name found =>
    "Reporting period " ++ name ++ " is missing or not a date: " ++ found.literal
  | reversed startDate endDate =>
    "Reporting period starts after it ends (" ++ startDate.isoText ++ " > " ++ endDate.isoText ++ ")."
  | notASummary => "Period summaries must be mappings or PeriodSummary instances."

/-- What is wrong with a manifest. -/
inductive ManifestFault where
  /-- The manifest is not an object. -/
  | notAnObject
  /-- There is no object for the reporting period. -/
  | noPeriod
  /-- The reporting period is not usable. -/
  | period (fault : ContextFault)
  /-- The tags are neither a text nor a list. -/
  | tagsShape
  /-- The reference lists are not an object. -/
  | listsShape
  /-- There is no list of records. -/
  | noRecords
  /-- A record is not an object. -/
  | recordShape
  /-- A record does not name its tab. -/
  | noTab
  /-- The fields of a record are not an object. -/
  | fieldsShape (tab : Cell)
  /-- The row of a record is not a whole number. -/
  | rowShape (tab row : Cell)
  /-- The summaries of earlier periods are not a list of objects. -/
  | summariesShape
  deriving Repr

/-- The wording of a fault in a manifest. -/
def ManifestFault.message : ManifestFault → String
  | notAnObject => "Validation manifest must be an object."
  | noPeriod => "Validation manifest missing required object: reporting_period"
  | period fault => fault.message
  | tagsShape => "validation_rule_tags must be a tag or a list of tags."
  | listsShape => "reference_lists must be an object of list name -> values."
  | noRecords => "Validation manifest missing required list: records"
  | recordShape => "Record entries must be objects."
  | noTab => "Record entry missing required field: tab"
  | fieldsShape tab => "Record fields must be an object (tab " ++ tab.plain ++ ")."
  | rowShape tab row =>
    "Record row must be an integer (tab " ++ tab.plain ++ "): " ++ row.literal
  | summariesShape => "period_summaries must be a list of objects."

/-- **Failures.** -/
inductive Failure where
  /-- A cell stopped an evaluation. -/
  | fault (fault : Fault)
  /-- A value in a document has the wrong shape. -/
  | shape (fault : ShapeFault)
  /-- The inputs of a context are not usable. -/
  | context (fault : ContextFault)
  /-- The manifest is not usable. -/
  | manifest (fault : ManifestFault)
  /-- Records are on tabs that no validator covers. -/
  | unknownTabs (tabs : TextSet)
  /-- A document does not fit the types of the library. -/
  | misfits (misfits : List Misfit)
  /-- A text is no readable document. -/
  | document (fault : JsonFault)
  deriving Repr

/-- The wording of a misfit: where it is, and the stable name of what is wrong there. -/
def Misfit.message (m : Misfit) : String :=
  if m.path.isEmpty then m.cause.code else m.place ++ ": " ++ m.cause.code

/-- The wording of a fault in the text of a document. -/
def JsonFault.message : JsonFault → String
  | malformed => "The document is not JSON."
  | oversizedInteger => "A whole number in the document has too many digits."

/-- **Wording** of a failure. -/
def Failure.message : Failure → String
  | fault cause => cause.message
  | shape cause => cause.message
  | context cause => cause.message
  | manifest cause => cause.message
  | unknownTabs tabs =>
    "Records reference tabs with no configured validator: " ++ ", ".intercalate tabs.toList
  | misfits all => "\n".intercalate (all.map Misfit.message)
  | document cause => cause.message

/-- The wording of a failure that is addressed to the caller: one that the caller mends
    by handing over other inputs of a run. -/
def Failure.message? : Failure → Option String
  | context cause => some (context cause).message
  | manifest cause => some (manifest cause).message
  | unknownTabs tabs => some (unknownTabs tabs).message
  | _ => none

end ReportCheck
