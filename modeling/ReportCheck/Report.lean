import ReportCheck.Document.JsonReader
import ReportCheck.Document.JsonWriter
import ReportCheck.Record

/-! # Reports

  The findings of a run as a reader gets them.

  - `Report.text` writes a line for each finding.
  - `Report.document` is the list of findings as a document, unless a row has too many
    digits to be written.
-/

namespace ReportCheck

/-- The place of a finding: its tab, and its row if it has one. -/
def Finding.place (f : Finding) : String :=
  match f.row with
  | some row => f.tab ++ ":" ++ String.ofList (Cell.intChars row)
  | none => f.tab

/-- **Line** of a finding. -/
def Finding.line (f : Finding) : String := "- [" ++ f.place ++ "] " ++ f.message

/-- The row of a finding as a value of a document. -/
def Finding.rowCell (f : Finding) : Except JsonFault Cell :=
  match f.row with
  | none => .ok .empty
  | some row =>
    match WholeNumber.ofInt? row with
    | some n => .ok (.int n)
    | none => .error .oversizedInteger

/-- A finding as an object. -/
def Finding.toCell (f : Finding) : Except JsonFault Cell := do
  let row ← f.rowCell
  return .object [("message", .text f.message), ("tab", .text f.tab), ("row", row)]

namespace Report

/-- **Text report.** -/
def text (findings : List Finding) : String :=
  if findings.isEmpty then "No validation findings."
  else "\n".intercalate (findings.map Finding.line)

/-- **Report as a document.** -/
def document (findings : List Finding) : Except JsonFault Cell := do
  return .list (← findings.mapM Finding.toCell)

end Report

end ReportCheck
