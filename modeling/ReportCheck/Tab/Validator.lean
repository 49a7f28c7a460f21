import ReportCheck.Rule

/-! # Tab validators

  A validator holds the rules of one tab and says how many records the tab has to have.

  - `TabScope.allRecords` checks every record of the tab, each under its own row.
  - `TabScope.singleRecord` wants exactly one record; otherwise its message is the only
    finding of the tab.
-/

namespace ReportCheck

/-- How many records a tab has. -/
inductive TabScope where
  /-- Any number of records. -/
  | allRecords
  /-- Exactly one record, whose findings are reported under the given row. -/
  | singleRecord (missingMessage : String) (row : Int)
  deriving DecidableEq, Repr

/-- **Tab validators.** -/
structure Validator where
  tab : String
  rules : List Rule
  scope : TabScope
  deriving BEq, Repr

namespace TabScope

/-- The name of a scope in documents. -/
def kind : TabScope → String
  | allRecords => "all_records"
  | singleRecord .. => "single_record"

/-- The finding for a wrong number of records, empty where any number is right. -/
def missingMessage : TabScope → String
  | allRecords => ""
  | singleRecord message _ => message

end TabScope

namespace Validator

/-- **Findings of a validator** on the records of an upload. -/
def findings (v : Validator) (set : RecordGroups) (ctx : Context) : Traced Fault (List Finding) :=
  match v.scope, set.on v.tab with
  | .allRecords, records =>
    Traced.collect (fun record => checkRecord v.rules v.tab record.row ctx record) records
  | .singleRecord _ row, [record] => checkRecord v.rules v.tab (some row) ctx record
  | .singleRecord message _, _ => return [⟨message, v.tab, none⟩]

end Validator

end ReportCheck
