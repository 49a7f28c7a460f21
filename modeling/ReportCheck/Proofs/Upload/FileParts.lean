import ReportCheck.Proofs.Cell.Written
import ReportCheck.Proofs.Upload.Manifest

/-! # Parts of the file's name on both ways

  A manifest gives the parts of the file's name as values. Reading the manifest turns them
  into their plain texts, while a context that is handed the values turns them into the texts
  that they display as. Cells are compared with either by what they display as.

  - `Manifest.givenParts` are the values in a manifest, and `Manifest.context` is the context
    of the upload that it describes. `rawUpload_context` is the other context.
  - `verdicts_agree_iff`: the plain text of a part and the text that it displays as lead to
    the same verdicts unless the part displays otherwise than it is written.
  - `file_parts_agree_iff` says so of accepted manifests.
-/

namespace ReportCheck

namespace Check

/-- **Verdict** on a cell about a part of the file's name that is known. -/
theorem eval_matchesFilePart_of_known {ctx : Context} {key part : String}
    (known : ctx.filePart? key = some part) (value : Cell) (record : Record) :
    (matchesFilePart key).eval value record ctx =
      pure (dropLeadingZeros value.display == dropLeadingZeros part) := by
  show evalFilePart key value ctx = _
  unfold evalFilePart
  rw [known]

theorem eval_matchesFilePart_congr {ctx ctx' : Context} {key : String}
    (same : ctx.filePart? key = ctx'.filePart? key) (value : Cell) (record : Record) :
    (matchesFilePart key).eval value record ctx = (matchesFilePart key).eval value record ctx' := by
  show evalFilePart key value ctx = evalFilePart key value ctx'
  unfold evalFilePart
  rw [same]

/-- **Agreement** of two contexts on a part of the file's name: all cells are judged alike. -/
def AgreeOn (key : String) (ctx ctx' : Context) : Prop :=
  ∀ (value : Cell) (record : Record),
    (matchesFilePart key).eval value record ctx = (matchesFilePart key).eval value record ctx'

end Check

namespace Manifest

/-- The parts of the file's name that a manifest gives. -/
def givenParts (members : Members) : Members := partsIn (members.getD "file_parts")

section Accepted

variable {members periodMembers : Members} {m : Manifest}

/-- The context of the upload that a manifest describes. -/
def context (m : Manifest) (settings : Settings) : Context where
  period := m.period
  fileParts := m.fileParts
  programStart := settings.programStart
  subrecipients := (m.toUpload.subrecipients settings).map fun (key, fields) => (key, .object fields)
  tags := m.tags
  summaries := m.summaries
  references := m.references

theorem toUpload_context (settings : Settings) :
    m.toUpload.context settings = .ok (m.context settings) := rfl

/-- **The values as they stand** make the same context, but for the texts of the parts. -/
theorem rawUpload_context (read : ReadFrom members periodMembers m) (settings : Settings) :
    (rawUpload members periodMembers m.records m.references).context settings =
      .ok { m.context settings with
        fileParts := (givenParts members).map fun part => (part.1, part.2.display) } := by
  unfold Upload.context ContextSources.build rawUpload
  simp only [Source.resolve]
  rw [reportingPeriod_of_readPeriod read.period, (parts_of_readFileParts read.fileParts).2,
    read.tags, (periodSummaries_of_readSummaries read.summaries).1]
  rfl

end Accepted

/-! ### Agreement on a part -/

section Verdicts

variable {parts : Members} {ctx ctx' : Context}

theorem filePart?_of_texts {text : Cell → String}
    (texts : ctx.fileParts = parts.map fun part => (part.1, text part.2)) (key : String) :
    ctx.filePart? key = (parts.get? key).map text := by
  unfold Context.filePart?
  rw [texts]
  exact lookup_map_value _ _ _

theorem part_matches_displayed
    (displayed : ctx'.fileParts = parts.map fun part => (part.1, part.2.display))
    {key : String} {part : Cell} (given : parts.get? key = some part) (record : Record) :
    (Check.matchesFilePart key).eval part record ctx' = pure true := by
  have known := filePart?_of_texts displayed key
  rw [given] at known
  rw [Check.eval_matchesFilePart_of_known known, beq_self_eq_true]

theorem part_matches_plain_iff
    (texts : ctx.fileParts = parts.map fun part => (part.1, part.2.plain))
    {key : String} {part : Cell} (given : parts.get? key = some part) (record : Record) :
    (Check.matchesFilePart key).eval part record ctx = pure true ↔ ¬ part.DisplaysOtherwise := by
  have known := filePart?_of_texts texts key
  rw [given] at known
  rw [Check.eval_matchesFilePart_of_known known]
  constructor
  · intro matched otherwise
    rw [beq_eq_false_iff_ne.2 (Cell.dropLeadingZeros_plain_ne_display otherwise)] at matched
    exact nomatch congrArg Traced.outcome matched
  · intro same
    rw [Cell.display_eq_plain same, beq_self_eq_true]

/-- **Agreement on a part.** A context that knows the plain text of a part and one that knows
    how it displays agree on all cells unless the two texts differ. -/
theorem verdicts_agree_iff
    (texts : ctx.fileParts = parts.map fun part => (part.1, part.2.plain))
    (displayed : ctx'.fileParts = parts.map fun part => (part.1, part.2.display)) (key : String) :
    Check.AgreeOn key ctx ctx' ↔
      ∀ part, parts.get? key = some part → ¬ part.DisplaysOtherwise := by
  constructor
  · intro agree part given
    -- The part itself is a cell on which the two contexts may differ.
    have verdicts := agree part ⟨"", [], none⟩
    rw [part_matches_displayed displayed given] at verdicts
    exact (part_matches_plain_iff texts given _).1 verdicts
  · intro same value record
    refine Check.eval_matchesFilePart_congr ?_ value record
    rw [filePart?_of_texts texts, filePart?_of_texts displayed]
    cases given : parts.get? key with
    | none => rfl
    | some part => exact congrArg some (Cell.display_eq_plain (same part given)).symm

end Verdicts

/-! ### Accepted manifests -/

/-- **Two ways to hand over parts** of the file's name. The verdicts on all cells about a part
    are the same in the context of an accepted manifest and in the one from the values as they
    stand, unless the part displays otherwise than it is written. A cell that is the same as
    the part matches it in the latter context, and in the former under this condition. -/
theorem file_parts_agree_iff (document : Cell) (m : Manifest) (accepted : ofCell document = .ok m)
    (settings : Settings) :
    ∃ (members periodMembers : Members) (ctx ctx' : Context), document = .object members ∧
      members.getD "reporting_period" = .object periodMembers ∧
      m.toUpload.context settings = .ok ctx ∧
      (rawUpload members periodMembers m.records m.references).context settings = .ok ctx' ∧
      ∀ key,
        (Check.AgreeOn key ctx ctx' ↔
          ∀ part, (givenParts members).get? key = some part → ¬ part.DisplaysOtherwise) ∧
        ∀ part, (givenParts members).get? key = some part → ∀ record : Record,
          (Check.matchesFilePart key).eval part record ctx' = pure true ∧
          ((Check.matchesFilePart key).eval part record ctx = pure true ↔
            ¬ part.DisplaysOtherwise) := by
  obtain ⟨members, periodMembers, rfl, hperiod, read⟩ := exists_readFrom accepted
  have texts := (parts_of_readFileParts read.fileParts).1
  refine ⟨members, periodMembers, m.context settings, _, rfl, hperiod, toUpload_context settings,
    rawUpload_context read settings, fun key => ⟨verdicts_agree_iff texts rfl key, ?_⟩⟩
  intro part given record
  exact ⟨part_matches_displayed rfl given record, part_matches_plain_iff texts given record⟩

/-- The number seven. -/
def seven : Cell := .float (.finite
  ⟨false, 7 * 2 ^ 50, -50, by decide, by decide, by decide, .inl (by decide)⟩)

theorem seven_displaysOtherwise : seven.DisplaysOtherwise := .float rfl

/-- A manifest that gives a part of the file's name as a number and another one as a text. -/
def numberedPart : Cell := .object
  [ ("file_parts", .object [("agencyCode", seven), ("projectId", .text "DOH")]),
    ("reporting_period", .object
      [ ("start_date", .text "2020-03-01"), ("end_date", .text "2020-09-30"),
        ("period_of_performance_end_date", .text "2020-12-30") ]),
    ("records", .list []) ]

theorem numberedPart_accepted : ∃ m, ofCell numberedPart = .ok m := ⟨_, rfl⟩

/-- The two ways agree on the text, and disagree on the number. -/
theorem file_parts_agree_iff_of_numbered :
    ∃ m, ofCell numberedPart = .ok m ∧
      ∃ (members periodMembers : Members) (ctx ctx' : Context),
        numberedPart = .object members ∧ m.toUpload.context {} = .ok ctx ∧
        (rawUpload members periodMembers m.records m.references).context {} = .ok ctx' ∧
        Check.AgreeOn "projectId" ctx ctx' ∧ ¬ Check.AgreeOn "agencyCode" ctx ctx' := by
  obtain ⟨m, accepted⟩ := numberedPart_accepted
  obtain ⟨members, periodMembers, ctx, ctx', hdocument, -, built, built', verdicts⟩ :=
    file_parts_agree_iff numberedPart m accepted {}
  refine ⟨m, accepted, members, periodMembers, ctx, ctx', hdocument, built, built', ?_, ?_⟩
  · cases hdocument
    refine (verdicts "projectId").1.2 fun part given => ?_
    cases given
    exact fun otherwise => nomatch otherwise
  · cases hdocument
    exact fun agree => (verdicts "agencyCode").1.1 agree seven rfl seven_displaysOtherwise

/-- **Disagreement.** Not all accepted manifests are judged alike on both ways. -/
theorem numbered_part_disagrees :
    ¬ ∀ (members periodMembers : Members) (m : Manifest), ofCell (.object members) = .ok m →
      members.getD "reporting_period" = .object periodMembers →
      ∀ (settings : Settings) (ctx ctx' : Context), m.toUpload.context settings = .ok ctx →
        (rawUpload members periodMembers m.records m.references).context settings = .ok ctx' →
        ∀ key, Check.AgreeOn key ctx ctx' := by
  intro agree
  obtain ⟨m, accepted⟩ := numberedPart_accepted
  obtain ⟨members, periodMembers, hdocument, hperiod, read⟩ := exists_readFrom accepted
  rw [hdocument] at accepted
  have verdicts := agree members periodMembers m accepted hperiod {} _ _ (toUpload_context {})
    (rawUpload_context read {}) "agencyCode"
  have texts := (parts_of_readFileParts read.fileParts).1
  cases hdocument
  exact (verdicts_agree_iff texts rfl "agencyCode").1 verdicts seven rfl seven_displaysOtherwise

end Manifest

end ReportCheck
