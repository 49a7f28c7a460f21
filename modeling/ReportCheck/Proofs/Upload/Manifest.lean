import ReportCheck.Upload.Manifest
import ReportCheck.Tab.Standard
import ReportCheck.Proofs.Context.Normal
import ReportCheck.Proofs.Cell.Plain

/-! # Two ways to hand over a manifest

  The inputs of a run that a manifest describes may be brought into their normal forms
  while it is read, or be left to the context as they stand in the document. Both ways
  lead to the same validation.

  - `Upload.Agrees`: two uploads whose inputs have the same normal forms. They are
    validated alike.
  - `Manifest.direct` hands over the values of the document as they are, and
    `Manifest.again` the normal forms, written as values once more.
  - `Manifest.validate_eq_direct`: neither makes a difference.
-/

namespace ReportCheck

namespace Upload

/-- **Agreeing uploads.** The inputs have the same normal forms, or the same failures. -/
structure Agrees (u w : Upload) : Prop where
  records : u.records = w.records
  period : u.period.resolve Cell.reportingPeriod = w.period.resolve Cell.reportingPeriod
  fileParts : u.fileParts.resolve Cell.fileParts = w.fileParts.resolve Cell.fileParts
  tags : u.tags.resolve Cell.tagSet = w.tags.resolve Cell.tagSet
  summaries : u.summaries.resolve Cell.periodSummaries = w.summaries.resolve Cell.periodSummaries
  references : u.references = w.references

theorem Agrees.context_eq {u w : Upload} (h : u.Agrees w) (settings : Settings) :
    u.context settings = w.context settings := by
  unfold context subrecipients ContextSources.build
  simp only
  rw [h.records, h.period, h.fileParts, h.tags, h.summaries, h.references]

/-- **Validation** depends on the normal forms of the inputs only. -/
theorem Agrees.validate_eq {u w : Upload} (h : u.Agrees w) (validators : List Validator)
    (settings : Settings) : u.validate validators settings = w.validate validators settings := by
  unfold validate
  rw [h.context_eq settings, h.records]

end Upload

namespace Manifest

/-! ### The direct way -/

/-- The tags as they stand in a manifest, with its period or at its top. -/
def tagsOf (members periodMembers : Members) : Cell :=
  (periodMembers.get? "validation_rule_tags").getD (members.getD "tags")

/-- The upload with the values of a manifest as they are. -/
def rawUpload (members periodMembers : Members) (records : List Record)
    (references : Option ReferenceLists) : Upload where
  records := records
  fileParts := .raw (members.getD "file_parts")
  period := .raw (.object periodMembers)
  summaries := .raw (members.getD "period_summaries")
  tags := .raw (tagsOf members periodMembers)
  references := references

/-- The members of a manifest are handed over directly. -/
def directMembers (members periodMembers : Members) : Except Failure Upload := do
  let records ← readRecords (members.getD "records")
  let references ← readLists (members.getD "reference_lists")
  return rawUpload members periodMembers records references

/-- **Direct hand-over**: only the records and the reference lists are read. -/
def direct : Cell → Except Failure Upload
  | .object members =>
    match Members.getD members "reporting_period" with
    | .object periodMembers => directMembers members periodMembers
    | _ => refuse .noPeriod
  | _ => refuse .notAnObject

/-- **Repeated hand-over**: the inputs that have been read, as values of a document. -/
def again (m : Manifest) : Upload where
  records := m.records
  fileParts := .raw (filePartsCell m.fileParts)
  period := .raw (periodCell m.period)
  summaries := .raw (summariesCell m.summaries)
  tags := .raw (tagsCell m.tags)
  references := m.references

/-- The parts of the file's name in a manifest are texts. -/
def TextParts (document : Cell) : Prop :=
  ∀ members parts : Members, document = .object members →
    members.getD "file_parts" = .object parts → ∀ part ∈ parts, ∃ s, part.2 = .text s

/-! ### Reading once and reading again -/

section Accepted

variable {members periodMembers : Members} {m : Manifest}

/-- What an accepted manifest is read from. -/
structure ReadFrom (members periodMembers : Members) (m : Manifest) : Prop where
  period : readPeriod (.object periodMembers) = .ok m.period
  records : readRecords (members.getD "records") = .ok m.records
  fileParts : readFileParts (members.getD "file_parts") = .ok m.fileParts
  summaries : readSummaries (members.getD "period_summaries") = .ok m.summaries
  tags : (tagsOf members periodMembers).tagSet = .ok m.tags
  references : readLists (members.getD "reference_lists") = .ok m.references
  about : readAbout (members.getD "meta") = .ok m.about

theorem readFrom_of_ofMembers (h : ofMembers members periodMembers = .ok m) :
    ReadFrom members periodMembers m := by
  unfold ofMembers at h
  obtain ⟨period, hperiod, h⟩ := Outcome.bind_eq_ok_iff.1 h
  simp only at h
  -- Tags and lists of the wrong shape are refused before anything else is read.
  split at h
  · exact nomatch h
  split at h
  · exact nomatch h
  obtain ⟨records, hrecords, h⟩ := Outcome.bind_eq_ok_iff.1 h
  obtain ⟨parts, hparts, h⟩ := Outcome.bind_eq_ok_iff.1 h
  obtain ⟨summaries, hsummaries, h⟩ := Outcome.bind_eq_ok_iff.1 h
  obtain ⟨tags, htags, h⟩ := Outcome.bind_eq_ok_iff.1 h
  obtain ⟨references, hreferences, h⟩ := Outcome.bind_eq_ok_iff.1 h
  obtain ⟨about, habout, h⟩ := Outcome.bind_eq_ok_iff.1 h
  cases h
  exact ⟨hperiod, hrecords, hparts, hsummaries, htags, hreferences, habout⟩

theorem exists_readFrom {document : Cell} (h : ofCell document = .ok m) :
    ∃ members periodMembers : Members, document = .object members ∧
      members.getD "reporting_period" = .object periodMembers ∧
        ReadFrom members periodMembers m := by
  unfold ofCell at h
  split at h
  · next members =>
    split at h
    · next periodMembers hperiod =>
      exact ⟨members, periodMembers, rfl, hperiod, readFrom_of_ofMembers h⟩
    · exact nomatch h
  · exact nomatch h

theorem readRecord_eq_ok_iff {record : Members} {r : Record} :
    readRecord (.object record) = .ok r ↔
      (tabOf record).isFalsy = false ∧ r.tab = (tabOf record).plain ∧
        readFields (tabOf record) (getEither record "fields" "content") = .ok r.fields ∧
        readRow (tabOf record) (getEither record "row" "sourceRow") = .ok r.row := by
  unfold readRecord
  simp only
  by_cases noTab : (tabOf record).isFalsy = true
  · rw [if_pos noTab]
    constructor
    · intro h
      exact nomatch h
    · rintro ⟨hasTab, -⟩
      exact nomatch noTab.symm.trans hasTab
  · rw [if_neg noTab, Outcome.bind_eq_ok_iff]
    constructor
    · rintro ⟨fields, hfields, h⟩
      obtain ⟨row, hrow, h⟩ := Outcome.bind_eq_ok_iff.1 h
      cases h
      exact ⟨eq_false_of_ne_true noTab, rfl, hfields, hrow⟩
    · rintro ⟨-, htab, hfields, hrow⟩
      refine ⟨_, hfields, Outcome.bind_eq_ok_iff.2 ⟨_, hrow, ?_⟩⟩
      rw [← htab]
      rfl

theorem reportingPeriod_of_readPeriod {c : Cell} {p : ReportingPeriod}
    (h : readPeriod c = .ok p) : c.reportingPeriod = .ok p := by
  unfold readPeriod at h
  split at h
  · exact nomatch h
  · exact h

/-- The members of an object, and none of anything else. -/
def partsIn : Cell → Members
  | .object parts => parts
  | _ => []

theorem parts_of_readFileParts {c : Cell} {parts : List (String × String)}
    (h : readFileParts c = .ok parts) :
    parts = (partsIn c).map (fun part => (part.1, part.2.plain)) ∧
      c.fileParts = .ok ((partsIn c).map fun part => (part.1, part.2.display)) := by
  cases c with
  | object given =>
    -- An object without members counts as absent.
    cases given with
    | nil =>
      cases h
      exact ⟨rfl, rfl⟩
    | cons part rest =>
      cases h
      exact ⟨rfl, rfl⟩
  | _ =>
    unfold readFileParts at h
    split at h
    · next absent =>
      cases h
      unfold Cell.fileParts
      rw [if_pos absent]
      exact ⟨rfl, rfl⟩
    · exact nomatch h

theorem fileParts_of_readFileParts {c : Cell} {parts : List (String × String)}
    (texts : ∀ entries : Members, c = .object entries → ∀ entry ∈ entries, ∃ s, entry.2 = .text s)
    (h : readFileParts c = .ok parts) : c.fileParts = .ok parts := by
  obtain ⟨rfl, displayed⟩ := parts_of_readFileParts h
  rw [displayed]
  refine congrArg Except.ok (List.map_congr_left fun entry hentry => ?_)
  cases c with
  | object entries =>
    -- The two readers write other cells differently, but not texts.
    obtain ⟨s, hs⟩ := texts entries rfl entry hentry
    rw [hs]
    rfl
  | _ => exact nomatch hentry

theorem periodSummaries_of_readSummaries {c : Cell} {summaries : List PeriodSummary}
    (h : readSummaries c = .ok summaries) :
    c.periodSummaries = .ok summaries ∧ ∀ s ∈ summaries, s.Split := by
  unfold readSummaries at h
  unfold Cell.periodSummaries
  split at h
  · next hfalsy =>
    rw [if_pos hfalsy]
    cases h
    exact ⟨rfl, fun s hs => nomatch hs⟩
  · next hfalsy =>
    rw [if_neg hfalsy]
    cases c with
    | list items =>
      constructor
      -- Items other than objects are refused, so only objects have to be read alike.
      · refine Outcome.mapM_eq_ok_of_imp ?_ h
        intro item s hitem
        cases item with
        | object flat => exact hitem
        | _ => exact nomatch hitem
      · intro s hs
        obtain ⟨item, -, hitem⟩ := Outcome.exists_of_mem_mapM h hs
        cases item with
        | object flat =>
          cases hitem
          exact PeriodSummary.split_ofFlat flat
        | _ => exact nomatch hitem
    | _ => exact nomatch h

/-- **The values of the document** have the normal forms that were read. -/
theorem rawUpload_agrees (h : ReadFrom members periodMembers m)
    (texts : ∀ parts : Members, members.getD "file_parts" = .object parts →
      ∀ part ∈ parts, ∃ s, part.2 = .text s) :
    m.toUpload.Agrees (rawUpload members periodMembers m.records m.references) where
  records := rfl
  period := (reportingPeriod_of_readPeriod h.period).symm
  fileParts := (fileParts_of_readFileParts texts h.fileParts).symm
  tags := h.tags.symm
  summaries := (periodSummaries_of_readSummaries h.summaries).1.symm
  references := rfl

/-- **The normal forms**, handed over as values again, stay as they are. -/
theorem again_agrees (h : ReadFrom members periodMembers m) : m.toUpload.Agrees m.again where
  records := rfl
  period := (reportingPeriod_normal
    (start_le_end_of_reportingPeriod (reportingPeriod_of_readPeriod h.period))).symm
  fileParts := (fileParts_normal m.fileParts).symm
  tags := (tagSet_normal m.tags).symm
  summaries := (periodSummaries_normal (periodSummaries_of_readSummaries h.summaries).2).symm
  references := rfl

end Accepted

/-! ### Validation -/

/-- **Both ways agree.** An accepted manifest is validated like the upload that hands its
    values over directly, and like the one that hands the normal forms over again. -/
theorem validate_eq_direct (document : Cell) (m : Manifest) (accepted : ofCell document = .ok m)
    (texts : TextParts document) (validators : List Validator) (settings : Settings) :
    ∃ u, direct document = .ok u ∧
      validate document validators settings = u.validate validators settings ∧
      validate document validators settings = m.again.validate validators settings := by
  obtain ⟨members, periodMembers, rfl, hperiod, read⟩ := exists_readFrom accepted
  -- All three runs are compared through the upload that the manifest makes.
  have reads : validate (.object members) validators settings =
      m.toUpload.validate validators settings := by
    unfold validate
    rw [accepted]
    exact pure_bind m _
  refine ⟨rawUpload members periodMembers m.records m.references, ?_, ?_, ?_⟩
  · show (match members.getD "reporting_period" with
      | .object periodMembers => directMembers members periodMembers
      | _ => refuse .noPeriod) = _
    rw [hperiod]
    unfold directMembers
    rw [read.records, read.references]
    rfl
  · rw [reads]
    exact (rawUpload_agrees read fun parts => texts members parts rfl).validate_eq _ _
  · rw [reads]
    exact (again_agrees read).validate_eq _ _

/-- The days of a reporting period. -/
def samplePeriod : Members :=
  [ ("start_date", .text "2020-03-01"), ("end_date", .text "2020-09-30"),
    ("period_of_performance_end_date", .text "2020-12-30") ]

/-- The parts of the file's name in a sample. -/
def sampleParts : Members := [("agencyCode", .text "012"), ("projectId", .text "34")]

/-- A manifest with a single tag given as a text, a day given by its serial number and
    another one with a time, and an amount among the attributes of an earlier period. -/
def sample : Cell := .object
  [ ("file_parts", .object sampleParts),
    ("reporting_period", .object
      [ ("start_date", .int 43891), ("end_date", .text "2020-09-30"),
        ("period_of_performance_end_date", .moment ⟨⟨2020, 12, 29, by decide⟩, 23, 59, 0, 0⟩),
        ("validation_rule_tags", .text "cumulative") ]),
    ("tags", .list [.text "ignored"]),
    ("records", .list [.object
      [ ("type", .text "cover"), ("sourceRow", .text "2"),
        ("content", .object [("agency code", .int 12), ("project id", .text "0034")]) ]]),
    ("period_summaries", .list [.object
      [ ("award_number", .text "G-1"), ("current_total expenditure amount", .text "12.50"),
        ("current_note", .text "none") ]]) ]

theorem textParts_sample : TextParts sample := by
  intro members parts hdocument hparts part hpart
  cases hdocument
  have hsample : Cell.object sampleParts = .object parts := hparts
  cases hsample
  simp only [sampleParts, List.mem_cons, List.not_mem_nil, or_false] at hpart
  rcases hpart with rfl | rfl
  · exact ⟨_, rfl⟩
  · exact ⟨_, rfl⟩

/-- The sample is accepted, and both ways of handing it over agree. -/
theorem validate_eq_direct_of_sample :
    ∃ m, ofCell sample = .ok m ∧ TextParts sample ∧
      ∃ u, direct sample = .ok u ∧
        validate sample Standard.validators {} = u.validate Standard.validators {} ∧
        validate sample Standard.validators {} = m.again.validate Standard.validators {} :=
  ⟨_, rfl, textParts_sample, validate_eq_direct sample _ rfl textParts_sample _ _⟩

end Manifest

end ReportCheck
