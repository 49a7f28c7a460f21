import ReportCheck.Upload

/-! # A sample report

  The concrete cases of the theorems vary one period, one context, one record and one upload.
-/

namespace ReportCheck.Sample

/-- A period of a single day. -/
def period : ReportingPeriod := ⟨Settings.firstDay, Settings.firstDay, Settings.firstDay⟩

/-- A context that knows its period only. -/
def context : Context := { period }

/-- A record without fields. -/
def record : Record := ⟨"cover", [], some 2⟩

/-- An upload that names its period only. -/
def upload (records : List Record) : Upload where
  records
  fileParts := .ready []
  period := .ready period
  summaries := .ready []
  tags := .ready none
  references := none

end ReportCheck.Sample
