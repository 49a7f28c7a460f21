import ReportCheck.Upload
import ReportCheck.Tab.Standard
import ReportCheck.Proofs.Predicate.SumOrder
import ReportCheck.Proofs.Predicate.Reads
import ReportCheck.Proofs.Run.Clean
import ReportCheck.Proofs.Context.Subrecipients
import ReportCheck.Proofs.Lookup

/-! # What a clean report means

  An upload without findings under the standard validators is consistent: across its
  tabs, with the name of its file, and within each grant.

  - `Upload.context_spec` traces the parts of the context back to the upload.
  - `Upload.ConsistentGrant` and `Upload.Consistent` say what consistency is, in terms of the
    cells of the upload. A total accounts for its categories as `Amount.Account` has it, by
    their exact sum wherever no digits of it are lost.
  - `Upload.consistent_of_clean`: a clean report implies it.
  - `Upload.clean_with_a_lost_cent`: where digits are lost, a cent may be lost as well.
-/

namespace ReportCheck

open RecordGroups

/-! ### Contexts -/

namespace Upload

/-- A part of the file's name, in the form in which the caller hands it over. -/
def filePart? (u : Upload) (name : String) : Option String :=
  match u.fileParts with
  | .ready parts => parts.lookup name
  | .raw (.object members) => (Members.get? members name).map Cell.display
  | .raw _ => none

theorem lookup_resolved {u : Upload} {parts : List (String × String)}
    (h : u.fileParts.resolve Cell.fileParts = .ok parts) (name : String) :
    parts.lookup name = u.filePart? name := by
  unfold filePart?
  cases hsource : u.fileParts with
  | ready value =>
    rw [hsource] at h
    cases h
    rfl
  | raw cell =>
    rw [hsource] at h
    have h : cell.fileParts = .ok parts := h
    unfold Cell.fileParts at h
    split at h
    -- Parts that count as absent are empty, in whatever form.
    · next hfalsy =>
      cases h
      cases cell with
      | object members =>
        have hnil : members = [] := List.isEmpty_iff.1 hfalsy
        rw [hnil]
        rfl
      | _ => rfl
    · cases cell with
      | object members =>
        cases h
        exact lookup_map_value Cell.display members name
      | _ => exact nomatch h

/-- **Context** of an upload: where the checks find parts of the file's name,
    subrecipients and the start of the program. -/
theorem context_spec {u : Upload} {settings : Settings} {ctx : Context}
    (h : u.context settings = .ok ctx) :
    (∀ name, ctx.filePart? name = u.filePart? name) ∧
      ctx.subrecipients =
        (u.subrecipients settings).map (fun entry => (entry.1, .object entry.2)) ∧
      ctx.programStart = settings.programStart := by
  unfold context ContextSources.build at h
  obtain ⟨period, -, h⟩ := Outcome.bind_eq_ok_iff.1 h
  obtain ⟨parts, hparts, h⟩ := Outcome.bind_eq_ok_iff.1 h
  obtain ⟨subrecipients, hsubrecipients, h⟩ := Outcome.bind_eq_ok_iff.1 h
  obtain ⟨tags, -, h⟩ := Outcome.bind_eq_ok_iff.1 h
  obtain ⟨summaries, -, h⟩ := Outcome.bind_eq_ok_iff.1 h
  cases hsubrecipients
  cases h
  exact ⟨lookup_resolved hparts, rfl, rfl⟩

/-- **Known subrecipients.** The context knows the identifiers of the records on the tab of the
    subrecipients. -/
theorem knows_iff {u : Upload} {settings : Settings} {ctx : Context}
    (hctx : u.context settings = .ok ctx) {name : String} :
    ctx.subrecipients.has name = true ↔
      ∃ r ∈ u.records, r.tab = settings.subrecipientTab ∧
        Subrecipient.key? r.fields = some name := by
  rw [(context_spec hctx).2.1]
  unfold Members.has
  rw [lookup_map_value, Option.isSome_map]
  unfold subrecipients
  rw [on_of, Subrecipient.isSome_lookup_iff]
  -- What is found in the index was put there for a record of the subrecipients' tab.
  simp only [recordsOn, List.mem_filter, beq_iff_eq, and_assoc]

/-! ### Consistency -/

/-- A field of the cover is filled in, and repeats a part of the file's name that is
    known, leading zeros aside. -/
def Repeats (u : Upload) (record : Record) (field part : String) : Prop :=
  (record.value field).isBlank = false ∧
    ∃ text, u.filePart? part = some text ∧
      dropLeadingZeros (record.value field).display = dropLeadingZeros text

/-- **Consistent grants.** -/
structure ConsistentGrant (u : Upload) (settings : Settings) (record : Record) : Prop where
  /-- The grant goes to a subrecipient of the same upload. -/
  subrecipient : ∃ r ∈ u.records, r.tab = "subrecipient" ∧
    Subrecipient.key? r.fields = some (record.value "subrecipient id").display
  /-- There is an award, and no more than the award is obligated. -/
  amounts : ∃ award obligation, (record.value "award amount").value? = some award ∧ 0 < award ∧
    (record.value "current quarter obligation").value? = some obligation ∧ obligation ≤ award
  /-- The award is made within the program. -/
  awardDate : ∃ day, (record.value "award date").day = .ok (some day) ∧ settings.programStart ≤ day
  /-- The period of performance is one. -/
  performance : ∃ first last,
    (record.value "period of performance start date").day = .ok (some first) ∧
      (record.value "period of performance end date").day = .ok (some last) ∧ first ≤ last
  /-- A total expenditure that is given is accounted for by its categories. -/
  total : (record.value "total expenditure amount").isBlank = false →
    ∃ number numbers, (record.value "total expenditure amount").strictNumber = .ok number ∧
      List.Forall₂ (fun key number => (record.value key).leadingNumber = .ok number)
        Standard.expenditureCategories numbers ∧
      Amount.Account (Amount.ofNumber? number) (numbers.map Amount.ofNumber?)

/-- **Consistent uploads.** -/
structure Consistent (u : Upload) (settings : Settings) : Prop where
  certification : ∃ record, recordsOn "certification" u.records = [record]
  cover : ∃ record, recordsOn "cover" u.records = [record] ∧
    u.Repeats record "agency code" "agencyCode" ∧ u.Repeats record "project id" "projectId"
  subrecipients : ∀ record ∈ u.records, record.tab = "subrecipient" →
    ∃ name ∈ ["identification number", "duns number", "ein number"],
      (record.fields.getD name).isBlank = false
  grants : ∀ record ∈ u.records, record.tab = "grants" → u.ConsistentGrant settings record

/-! ### Clean reports -/

section Clean

variable {u : Upload} {settings : Settings} {ctx : Context}

theorem repeats_of_verdicts (hctx : u.context settings = .ok ctx) {record : Record}
    {field part : String}
    (hfilled : (Check.isNotBlank.eval (record.value field) record ctx).outcome = .ok true)
    (hmatches : ((Check.matchesFilePart part).eval (record.value field) record ctx).outcome =
      .ok true) : u.Repeats record field part := by
  obtain ⟨text, htext, hequal⟩ := Check.exists_part_of_evalFilePart hmatches
  rw [(context_spec hctx).1] at htext
  exact ⟨Check.not_blank_of_isNotBlank hfilled, text, htext, hequal⟩

theorem consistentGrant_of_holds (hctx : u.context settings = .ok ctx)
    (htab : settings.subrecipientTab = "subrecipient") {record : Record}
    (holds : ∀ rule ∈ Standard.grants.rules, rule.Holds ctx record) :
    u.ConsistentGrant settings record := by
  -- One fact for each rule; no tag is needed for those that are used.
  simp only [Standard.grants, List.forall_mem_cons] at holds
  obtain ⟨-, hsubrecipient, hpositive, haward, -, hperformance, hobligation, -, -, htotal, -⟩ :=
    holds
  constructor
  · have hknown : ctx.subrecipients.has (record.value "subrecipient id").display = true :=
      Except.ok.inj (hsubrecipient rfl)
    obtain ⟨r, hr, hrtab, hkey⟩ := (knows_iff hctx).1 hknown
    exact ⟨r, hr, hrtab.trans htab, hkey⟩
  · obtain ⟨award, haward, hpos⟩ := Cell.pos_of_isPositive (Except.ok.inj (hpositive rfl))
    obtain ⟨obligation, award', hobligation, haward', hle⟩ :=
      Check.le_of_comparesWith (hobligation rfl)
    cases haward.symm.trans haward'
    exact ⟨award, obligation, haward, hpos, hobligation, hle⟩
  · obtain ⟨day, hday, hstart⟩ := Check.exists_day_of_dayMeets (haward rfl)
    rw [(context_spec hctx).2.2] at hstart
    exact ⟨day, hday, of_decide_eq_true hstart⟩
  · obtain ⟨last, first, hlast, hfirst, hle⟩ := Check.exists_days_of_daysMeet (hperformance rfl)
    exact ⟨first, last, hfirst, hlast, of_decide_eq_true hle⟩
  · intro filled
    rw [Record.isBlank_value] at filled
    -- The total is given, so the guard holds and the sum has been checked.
    have guard : (Guard.mk .notBlank "total expenditure amount").holds record = .ok true := by
      show Except.ok (!(record.fields.getD "total expenditure amount").isBlank) = _
      rw [filled]
      rfl
    have verdict := Predicate.eval_of_holds guard (htotal rfl)
    obtain ⟨amounts, hamounts, hmatches⟩ := Outcome.bind_eq_ok_iff.1 verdict
    obtain ⟨numbers, categories, rfl⟩ := Amount.exists_numbers_of_ofFields hamounts
    have few : numbers.length ≤ 10 ^ 40 := by
      rw [← categories.length_eq]
      decide
    obtain ⟨number, hnumber, account⟩ := Amount.account_of_matchesTotal few hmatches
    exact ⟨number, numbers, hnumber, categories, account⟩

theorem consistent_of_satisfied (hctx : u.context settings = .ok ctx)
    (htab : settings.subrecipientTab = "subrecipient")
    (satisfied : ∀ v ∈ Standard.validators, v.Satisfied u.records ctx) :
    u.Consistent settings := by
  simp only [Standard.validators, List.forall_mem_cons] at satisfied
  obtain ⟨hcertification, hcover, hsubrecipient, hgrants, -⟩ := satisfied
  constructor
  · obtain ⟨record, only, -⟩ := hcertification.only rfl
    exact ⟨record, only⟩
  · obtain ⟨record, only, holds⟩ := hcover.only rfl
    simp only [Standard.cover, List.forall_mem_cons] at holds
    obtain ⟨hagency, hagencyPart, hproject, hprojectPart, -⟩ := holds
    exact ⟨record, only, repeats_of_verdicts hctx (hagency rfl) (hagencyPart rfl),
      repeats_of_verdicts hctx (hproject rfl) (hprojectPart rfl)⟩
  · intro record hrecord hrecordTab
    have holds := hsubrecipient.holds rfl record hrecord hrecordTab
    simp only [Standard.subrecipient, List.forall_mem_cons] at holds
    exact Check.exists_field_of_key? (Except.ok.inj (holds.1 rfl))
  · intro record hrecord hrecordTab
    exact consistentGrant_of_holds hctx htab (hgrants.holds rfl record hrecord hrecordTab)

end Clean

theorem validators_standardRegistry : Standard.registry.validators = Standard.validators := rfl

/-- **Clean reports** of the standard registry, with at least one finding kept for each
    tab. -/
theorem consistent_of_clean (u : Upload) (settings : Settings)
    (htab : settings.subrecipientTab = "subrecipient") (keeps : 1 ≤ settings.maxFindingsPerTab)
    (clean : (u.validate Standard.registry.validators settings).outcome = .ok []) :
    u.Consistent settings := by
  unfold validate at clean
  rw [validators_standardRegistry] at clean
  obtain ⟨ctx, hctx, hrun⟩ := Traced.bind_eq_ok_iff.1 clean
  obtain ⟨-, satisfied⟩ := (run_eq_nil_iff keeps).1 hrun
  exact consistent_of_satisfied hctx htab satisfied

end Upload

namespace CleanReport

/-- A grant whose numbers, amounts and days come in different forms. -/
def grant : Record where
  tab := "grants"
  fields :=
    [ ("award number", .text "G-1"), ("subrecipient id", .text "77"), ("award amount", .int 5000),
      ("award date", .int 43950), ("period of performance start date", .text "2020-05-01"),
      ("period of performance end date", .date ⟨2020, 10, 31, by decide⟩),
      ("current quarter obligation", .decimal (.finite false 499999 (-2))),
      ("expenditure start date", .text "6/1/2020"), ("expenditure end date", .text "June 30, 2020"),
      ("total expenditure amount", .text "30.50"), ("public health expenses", .text "20.25 paid"),
      ("other expenditure amount", .decimal (.finite false 1025 (-2))) ]
  row := some 4

/-- An upload of four tabs, in which the grant comes before its subrecipient. -/
def upload : Upload where
  records :=
    [ grant,
      ⟨"certification", [("agency financial reviewer name", .text "R. Viewer"),
        ("date", .text "10/5/2020")], some 2⟩,
      ⟨"subrecipient", [("duns number", .int 77), ("legal name", .text "Town"),
        ("address line 1", .text "1 Main St"), ("city name", .text "Town"),
        ("country name", .text "USA"), ("state code", .text "CA"), ("zip", .int 94704),
        ("organization type", .text "Local")], some 3⟩,
      ⟨"cover", [("agency code", .int 12), ("project id", .text "0034")], some 2⟩ ]
  fileParts := .raw (.object [("agencyCode", .text "012"), ("projectId", .int 34)])
  period := .ready ⟨Settings.firstDay, ⟨2020, 12, 31, by decide⟩, ⟨2021, 3, 31, by decide⟩⟩
  summaries := .ready []
  tags := .ready none
  references := some ⟨[("country", .ofList ["usa"]), ("state code", .ofList ["ca"]),
    ("organization type", .ofList ["local"])]⟩

open Decimal

/-- The grant with categories that span more than 400 digits, and a cent in total. -/
def spreadGrant : Record := { grant with
  fields := grant.fields.take 9 ++
    [ ("total expenditure amount", .float (.ofScaled false 1 (-2))),
      ("budgeted personnel and services diverted", .float (.ofScaled false 1 307)),
      ("covid-19 testing and contact tracing", .float (.ofScaled false 5 (-3))),
      ("public health expenses", .float (.ofScaled true 1 (-100))),
      ("payroll for public health and safety employees", .float (.ofScaled true 1 307)) ] }

/-- The upload with this grant. -/
def spread : Upload := { upload with records := spreadGrant :: upload.records.tail }

/-- The amounts that the categories show. -/
def spreadAmounts : List Decimal :=
  [.finite false 1 307, .finite false 5 (-3), .finite true 1 (-100), .finite true 1 307, .zero]

theorem nearestCents_spreadAmounts : nearestCents (exactTotal spreadAmounts) = 0 := by
  have total : exactTotal spreadAmounts = 1 / 200 - 1 / 10 ^ 100 := by
    simp only [spreadAmounts, exactTotal_cons, exactTotal_nil, toRat_finite, signed_false,
      signed_true, toRat_zero]
    -- The large number cancels out, whatever it is.
    generalize (10 : ℚ) ^ (307 : ℤ) = large
    norm_num
    ring
  rw [total, nearestCents]
  norm_num

end CleanReport

open CleanReport in
/-- The upload has a clean report, and it is consistent. -/
theorem Upload.consistent_of_clean_with_a_grant :
    ({} : Settings).subrecipientTab = "subrecipient" ∧ 1 ≤ ({} : Settings).maxFindingsPerTab ∧
      (upload.validate Standard.registry.validators {}).outcome = .ok [] ∧
        upload.Consistent {} := by
  have clean : (upload.validate Standard.registry.validators {}).outcome = .ok [] := rfl
  exact ⟨rfl, by decide, clean, Upload.consistent_of_clean upload {} rfl (by decide) clean⟩

open CleanReport Decimal in
/-- **A lost cent.** A report may be clean although the categories of a grant come to nothing in
    cents and its total is a cent. -/
theorem Upload.clean_with_a_lost_cent :
    (spread.validate Standard.registry.validators {}).outcome = .ok [] ∧
      spreadGrant ∈ spread.records ∧ spreadGrant.tab = "grants" ∧
      (spreadGrant.value "total expenditure amount").isBlank = false ∧
      ∃ number, (spreadGrant.value "total expenditure amount").strictNumber = .ok number ∧
        Amount.ofFields spreadGrant Standard.expenditureCategories = .ok spreadAmounts ∧
        nearestCents (Amount.ofNumber? number).toRat = 1 ∧
        nearestCents (exactTotal spreadAmounts) = 0 := by
  have clean : (spread.validate Standard.registry.validators {}).outcome.toOption = some [] := by
    decide +kernel
  have cent : Amount.ofNumber? (Binary64.ofScaled false 1 (-2)).some? = .finite false 1 (-2) := by
    decide +kernel
  refine ⟨?_, .head _, rfl, rfl, _, rfl, by decide +kernel, ?_, nearestCents_spreadAmounts⟩
  · cases returned : (spread.validate Standard.registry.validators {}).outcome with
    | ok found =>
      rw [returned] at clean
      cases clean
      rfl
    | error cause =>
      rw [returned] at clean
      cases clean
  · rw [cent, toRat_finite, signed_false]
    norm_num [nearestCents]

end ReportCheck
