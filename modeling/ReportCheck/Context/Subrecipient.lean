import ReportCheck.Cell.Text
import ReportCheck.Record

/-! # Subrecipients

  Records of grants refer to subrecipients by an identifier, and one tab of the upload
  lists them.

  - `Subrecipient.key?` is the identifier of a record: the first of three fields that is
    not blank, as it displays.
  - `Subrecipient.lookup` indexes the records of that tab; the first record with an
    identifier keeps it.
-/

namespace ReportCheck.Subrecipient

/-- The fields that may identify a subrecipient, in order of preference. -/
def keyFields : List String := ["identification number", "duns number", "ein number"]

/-- **Identifier** of a record. -/
def key? (fields : Members) : Option String :=
  (keyFields.find? fun name => !(fields.getD name).isBlank).map fun name =>
    (fields.getD name).display

/-- Adds a record to an index, unless it has no identifier or one that is taken. -/
def addTo (index : List (String × Members)) (record : Record) : List (String × Members) :=
  match key? record.fields with
  | none => index
  | some key =>
    if (index.lookup key).isSome then index else index ++ [(key, record.fields)]

/-- **Index** of records by identifier, in the order of first occurrence. -/
def lookup (records : List Record) : List (String × Members) := records.foldl addTo []

end ReportCheck.Subrecipient
