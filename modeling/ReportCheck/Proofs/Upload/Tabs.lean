import ReportCheck.Proofs.Upload.Absent
import ReportCheck.Proofs.Sample

/-! # Tabs do not interfere

  What a validator reports about its tab depends on the records of that tab, on the
  subrecipients that the upload identifies, and on nothing else in the upload.

  - `Upload.block` is what one validator contributes to the report, and
    `Upload.madeOfBlocks_of_validate` takes a report apart into these blocks.
  - `Upload.block_eq_of_recordsOn_eq`: a block is kept if the records of the tab are kept
    and the same subrecipients are identified.
  - `Upload.tabs_independent`: neither the mixing of the tabs, nor the records of another
    tab, nor the order of the subrecipients reaches a block.
-/

namespace ReportCheck

open RecordGroups

theorem Subrecipient.sameKeys_of_perm {records records' : List Record}
    (perm : records.Perm records') : SameKeys records records' := by
  intro name
  simp only [perm.mem_iff]

namespace Upload

/-! ### Blocks of an upload -/

/-- **Block** of a validator: what it contributes to the report about an upload, or why
    it contributes nothing. -/
def block (u : Upload) (settings : Settings) (v : Validator) : Except Failure (List Finding) := do
  let ctx ← u.context settings
  (v.block settings.maxFindingsPerTab (.of u.records) ctx).outcome

/-- A report that joins one block for each validator, in their order. -/
def MadeOfBlocks (u : Upload) (validators : List Validator) (settings : Settings)
    (found : List Finding) : Prop :=
  ∃ blocks, List.Forall₂ (fun v block => u.block settings v = .ok block) validators blocks ∧
    found = blocks.flatten

/-- The report of a validation joins the blocks of its validators. -/
theorem madeOfBlocks_of_validate {u : Upload} {validators : List Validator} {settings : Settings}
    {found : List Finding} (h : (u.validate validators settings).outcome = .ok found) :
    u.MadeOfBlocks validators settings found := by
  obtain ⟨ctx, hctx, hrun⟩ := Traced.bind_eq_ok_iff.1 h
  obtain ⟨_, _, hcollect⟩ := Traced.bind_eq_ok_iff.1 hrun
  obtain ⟨blocks, hblocks, hfound⟩ := Traced.collect_eq_ok_iff.1 hcollect
  refine ⟨blocks, hblocks.imp ?_, hfound⟩
  intro v block hblock
  exact Outcome.bind_eq_ok_iff.2 ⟨ctx, hctx, hblock⟩

/-! ### Uploads that differ on one tab -/

/-- **Blocks** of a tab whose records are kept are kept, if the records of the upload
    still identify the same subrecipients. -/
theorem block_eq_of_recordsOn_eq (u : Upload) {records : List Record} {settings : Settings}
    (keys : Subrecipient.SameKeys (recordsOn settings.subrecipientTab u.records)
      (recordsOn settings.subrecipientTab records))
    {v : Validator} (kept : recordsOn v.tab u.records = recordsOn v.tab records) :
    u.block settings v = (u.withRecords records).block settings v := by
  unfold block
  rcases u.context_alike records keys with ⟨failure, hu, hw⟩ | ⟨ctx, ctx', hu, hw, alike⟩
  · rw [hu, hw]
    rfl
  · rw [hu, hw]
    refine congrArg Traced.outcome (Validator.block_congr _ ?_ alike)
    rw [on_of, on_of]
    show List.Forall₂ Record.Alike (recordsOn v.tab u.records) (recordsOn v.tab records)
    rw [kept]
    exact alike_refl _

/-- **Tabs** do not interfere. Uploads with the same records on each tab are validated
    alike, however the tabs are mixed. If the records of one tab are changed, then the
    validators of the other tabs contribute the same blocks to both reports; on the tab of
    the subrecipients only the order of the records may change. -/
theorem tabs_independent (u : Upload) (records : List Record) (validators : List Validator)
    (settings : Settings) :
    ((∀ tab, recordsOn tab u.records = recordsOn tab records) →
      u.validate validators settings = (u.withRecords records).validate validators settings) ∧
    ∀ changed, (∀ tab, tab ≠ changed → recordsOn tab u.records = recordsOn tab records) →
      (changed = settings.subrecipientTab →
        (recordsOn changed u.records).Perm (recordsOn changed records)) →
      ∀ found found', (u.validate validators settings).outcome = .ok found →
        ((u.withRecords records).validate validators settings).outcome = .ok found' →
        u.MadeOfBlocks validators settings found ∧
          (u.withRecords records).MadeOfBlocks validators settings found' ∧
          ∀ v : Validator, v.tab ≠ changed →
            u.block settings v = (u.withRecords records).block settings v := by
  constructor
  · intro kept
    apply u.validate_congr
    intro tab
    rw [kept tab]
    exact alike_refl _
  · intro changed kept reordered found found' hfound hfound'
    refine ⟨madeOfBlocks_of_validate hfound, madeOfBlocks_of_validate hfound', ?_⟩
    intro v hv
    have perm : (recordsOn settings.subrecipientTab u.records).Perm
        (recordsOn settings.subrecipientTab records) := by
      by_cases h : changed = settings.subrecipientTab
      · rw [← h]
        exact reordered h
      · rw [kept settings.subrecipientTab (Ne.symm h)]
    exact u.block_eq_of_recordsOn_eq (Subrecipient.sameKeys_of_perm perm) (kept v.tab hv)

end Upload

namespace Tabs

/-- A tab of grants, which refer to subrecipients. -/
def grants : Validator where
  tab := "grants"
  scope := .allRecords
  rules := [{ field := "town", predicate := .check .isValidSubrecipient }]

/-- A tab of projects. -/
def projects : Validator where
  tab := "projects"
  scope := .allRecords
  rules := [{ field := "cost", predicate := .check .isPositiveNumber }]

/-- Settings under which one finding is kept for each tab. -/
def settings : Settings := { maxFindingsPerTab := 1 }

/-- A subrecipient. -/
def town : Record := ⟨"subrecipient", [("ein number", .int 77), ("name", .text "Old")], some 2⟩

/-- A subrecipient with the same identifier; the one that comes first keeps it. -/
def newTown : Record := ⟨"subrecipient", [("duns number", .text "77")], some 3⟩

/-- A grant to the subrecipient. -/
def grant : Record := ⟨"grants", [("town", .text "77")], some 3⟩

/-- A grant to nobody. -/
def lostGrant : Record := ⟨"grants", [("town", .text "12")], some 4⟩

/-- A project without costs. -/
def project : Record := ⟨"projects", [("cost", .int 0)], some 3⟩

/-- A project with costs. -/
def otherProject : Record := ⟨"projects", [("cost", .int 5)], some 8⟩

/-- An upload with the tabs mixed. The finding about the second lost grant is cut off. -/
def upload : Upload := Sample.upload [town, lostGrant, newTown, project, grant, lostGrant]

/-- The records tab by tab. -/
def sorted : List Record := [lostGrant, grant, lostGrant, project, town, newTown]

/-- The records with the subrecipients in another order. -/
def reordered : List Record := [newTown, lostGrant, town, project, grant, lostGrant]

/-- The records with other projects. -/
def replanned : List Record :=
  [town, otherProject, lostGrant, newTown, grant, lostGrant, otherProject]

/-- What is found about the grants. -/
def lost : Finding := ⟨"Empty or invalid entry for town: \"12\"", "grants", some 4⟩

/-- What is found about the first of the projects. -/
def free : Finding := ⟨"Empty or invalid entry for cost: \"0\"", "projects", some 3⟩

end Tabs

open Tabs in
/-- The tabs may be sorted, and the blocks of the grants survive both a new order of the
    subrecipients and other projects. -/
theorem Upload.tabs_independent_of_grants :
    upload.validate [grants, projects] settings =
        (upload.withRecords sorted).validate [grants, projects] settings ∧
      (upload.MadeOfBlocks [grants, projects] settings [lost, free] ∧
        (upload.withRecords reordered).MadeOfBlocks [grants, projects] settings [lost, free] ∧
        ∀ v : Validator, v.tab ≠ "subrecipient" →
          upload.block settings v = (upload.withRecords reordered).block settings v) ∧
      (upload.MadeOfBlocks [grants, projects] settings [lost, free] ∧
        (upload.withRecords replanned).MadeOfBlocks [grants, projects] settings [lost] ∧
        ∀ v : Validator, v.tab ≠ "projects" →
          upload.block settings v = (upload.withRecords replanned).block settings v) := by
  refine ⟨?_, ?_, ?_⟩
  · refine (Upload.tabs_independent upload sorted _ settings).1 ?_
    intro tab
    by_cases h : tab ∈ ["grants", "projects", "subrecipient"]
    · simp only [List.mem_cons, List.not_mem_nil, or_false] at h
      rcases h with rfl | rfl | rfl <;> rfl
    · -- No record is on another tab.
      simp only [List.mem_cons, List.not_mem_nil, or_false, not_or] at h
      simp [recordsOn, upload, Sample.upload, sorted, town, newTown, grant, lostGrant, project,
        Ne.symm h.1, Ne.symm h.2.1, Ne.symm h.2.2]
  · refine (Upload.tabs_independent upload reordered _ settings).2 "subrecipient" ?_ ?_ _ _ rfl rfl
    · intro tab h
      simp [recordsOn, upload, Sample.upload, reordered, town, newTown, List.filter_cons,
        Ne.symm h]
    · intro _
      exact .swap newTown town []
  · refine (Upload.tabs_independent upload replanned _ settings).2 "projects" ?_ ?_ _ _ rfl rfl
    · intro tab h
      simp [recordsOn, upload, Sample.upload, replanned, project, otherProject, List.filter_cons,
        Ne.symm h]
    · intro h
      exact absurd h (by decide)

end ReportCheck
