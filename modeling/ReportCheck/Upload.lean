import ReportCheck.Run

/-! # Uploads

  An upload is all that a caller hands over for one validation: the records, and what is
  known about the file and the reporting period.

  - `Upload.context` builds the context. The subrecipients that records may refer to are
    those on the subrecipient tab of the same upload.
  - `Upload.validate` checks the records in that context.
-/

namespace ReportCheck

/-- **Uploads.** -/
structure Upload where
  records : List Record
  fileParts : Source (List (String × String))
  period : Source ReportingPeriod
  summaries : Source (List PeriodSummary)
  tags : Source (Option TextSet)
  references : Option ReferenceLists

namespace Upload

/-- The subrecipients that an upload lists. -/
def subrecipients (u : Upload) (settings : Settings) : List (String × Members) :=
  Subrecipient.lookup ((RecordGroups.of u.records).on settings.subrecipientTab)

/-- **Context** of an upload. -/
def context (u : Upload) (settings : Settings) : Except Failure Context :=
  ContextSources.build {
    fileParts := u.fileParts
    period := u.period
    subrecipients := .ready ((u.subrecipients settings).map fun (key, fields) => (key, .object fields))
    tags := u.tags
    summaries := u.summaries
    references := u.references
    programStart := settings.programStart }

/-- **Validation** of an upload. -/
def validate (u : Upload) (validators : List Validator) (settings : Settings) :
    Traced Failure (List Finding) := do
  let ctx ← Traced.ofExcept (u.context settings)
  run validators settings (RecordGroups.of u.records) ctx

end Upload

end ReportCheck
