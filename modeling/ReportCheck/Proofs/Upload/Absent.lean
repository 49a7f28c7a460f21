import ReportCheck.Upload
import ReportCheck.Proofs.Run.Alike
import ReportCheck.Proofs.Context.Subrecipients
import ReportCheck.Proofs.Lookup
import ReportCheck.Proofs.Sample

/-! # Three forms of nothing

  A field of a record may be missing, hold nothing, or hold an empty text. A validation
  does not tell these three apart.

  - `Upload.context_alike`: the records of an upload reach its context only through the
    identifiers that the tab of the subrecipients lists.
  - `Upload.validate_congr`: uploads are validated alike if their records are alike on
    each tab.
  - `Record.Restates` relates records that differ in the three forms only;
    `Upload.validate_eq_of_restates` is the statement about them.
-/

namespace ReportCheck

open RecordGroups

/-! ### Uploads with other records -/

/-- The same upload with other records. -/
def Upload.withRecords (u : Upload) (records : List Record) : Upload :=
  { u with records := records }

/-- Two lists of records identify the same subrecipients. -/
def Subrecipient.SameKeys (records records' : List Record) : Prop :=
  ∀ name, (∃ r ∈ records, key? r.fields = some name) ↔
    ∃ r ∈ records', key? r.fields = some name

theorem Subrecipient.sameKeys_of_alike {records records' : List Record}
    (alike : List.Forall₂ Record.Alike records records') : SameKeys records records' := by
  induction alike with
  | nil =>
    intro name
    rfl
  | @cons r r' rest rest' h _ ih =>
    intro name
    have hkey : key? r.fields = key? r'.fields := key?_congr fun key _ => h.value key
    simp only [List.mem_cons, exists_eq_or_imp, hkey, ih name]

namespace Upload

theorem has_subrecipients_of_sameKeys {u w : Upload} {settings : Settings}
    (keys : Subrecipient.SameKeys (recordsOn settings.subrecipientTab u.records)
      (recordsOn settings.subrecipientTab w.records)) (name : String) :
    Members.has ((w.subrecipients settings).map fun entry => (entry.1, .object entry.2)) name =
      Members.has ((u.subrecipients settings).map fun entry => (entry.1, .object entry.2)) name := by
  unfold Members.has subrecipients
  rw [lookup_map_value, lookup_map_value, Option.isSome_map, Option.isSome_map, on_of, on_of,
    Bool.eq_iff_iff, Subrecipient.isSome_lookup_iff, Subrecipient.isSome_lookup_iff]
  exact (keys name).symm

/-- **Contexts** of an upload with other records that identify the same subrecipients:
    they are alike, or building them fails alike. -/
theorem context_alike (u : Upload) (records : List Record) {settings : Settings}
    (keys : Subrecipient.SameKeys (recordsOn settings.subrecipientTab u.records)
      (recordsOn settings.subrecipientTab records)) :
    (∃ failure, u.context settings = .error failure ∧
      (u.withRecords records).context settings = .error failure) ∨
      ∃ ctx ctx', u.context settings = .ok ctx ∧
        (u.withRecords records).context settings = .ok ctx' ∧ ctx.Alike ctx' := by
  have known := has_subrecipients_of_sameKeys (w := u.withRecords records) keys
  unfold context ContextSources.build withRecords
  -- The other inputs are the same, so the first unusable one fails both.
  cases u.period.resolve Cell.reportingPeriod with
  | error failure => exact .inl ⟨failure, rfl, rfl⟩
  | ok period =>
    cases u.fileParts.resolve Cell.fileParts with
    | error failure => exact .inl ⟨failure, rfl, rfl⟩
    | ok parts =>
      cases u.tags.resolve Cell.tagSet with
      | error failure => exact .inl ⟨failure, rfl, rfl⟩
      | ok tags =>
        cases u.summaries.resolve Cell.periodSummaries with
        | error failure => exact .inl ⟨failure, rfl, rfl⟩
        | ok summaries => exact .inr ⟨_, _, rfl, rfl, rfl, known⟩

/-- **Validation** does not tell records apart that are alike on each tab. -/
theorem validate_congr (u : Upload) {records : List Record}
    (alike : ∀ tab, List.Forall₂ Record.Alike (recordsOn tab u.records) (recordsOn tab records))
    (validators : List Validator) (settings : Settings) :
    u.validate validators settings = (u.withRecords records).validate validators settings := by
  have keys := Subrecipient.sameKeys_of_alike (alike settings.subrecipientTab)
  unfold validate
  rcases u.context_alike records keys with ⟨failure, hu, hw⟩ | ⟨ctx, ctx', hu, hw, same⟩
  · rw [hu, hw]
    rfl
  · rw [hu, hw]
    exact run_congr alike same validators settings

end Upload

/-! ### Absent fields -/

/-- **Lacking.** A field is missing, or holds nothing, or an empty text. -/
def Record.Lacks (r : Record) (name : String) : Prop :=
  r.fields.get? name = none ∨ r.fields.get? name = some .empty ∨
    r.fields.get? name = some (.text "")

/-- **Restated records**: on the same tab and in the same row, and each field is the same
    in both unless both lack it, in whichever forms. -/
structure Record.Restates (r r' : Record) : Prop where
  tab : r.tab = r'.tab
  row : r.row = r'.row
  fields : ∀ name, r.fields.get? name = r'.fields.get? name ∨ (r.Lacks name ∧ r'.Lacks name)

theorem Record.value_of_lacks {r : Record} {name : String} (h : r.Lacks name) :
    r.value name = .text "" := by
  unfold value
  rcases h with hmissing | hempty | htext
  · rw [hmissing]
  · rw [hempty]
  · rw [htext]

/-- Restated records look alike. -/
theorem Record.Restates.alike {r r' : Record} (h : r.Restates r') : r.Alike r' where
  tab := h.tab
  row := h.row
  value := by
    intro key
    rcases h.fields key with hsame | ⟨hlacks, hlacks'⟩
    · unfold Record.value
      rw [hsame]
    · rw [Record.value_of_lacks hlacks, Record.value_of_lacks hlacks']

theorem Record.Restates.symm {r r' : Record} (h : r.Restates r') : r'.Restates r where
  tab := h.tab.symm
  row := h.row.symm
  fields := by
    intro name
    rcases h.fields name with hsame | ⟨hlacks, hlacks'⟩
    · exact .inl hsame.symm
    · exact .inr ⟨hlacks', hlacks⟩

/-- Writing one form of nothing over another, or where the field is missing, restates a
    record. -/
theorem Record.restates_put (r : Record) {name : String} (lacks : r.Lacks name) {cell : Cell}
    (nothing : cell = .empty ∨ cell = .text "") :
    r.Restates { r with fields := Members.put r.fields name cell } where
  tab := rfl
  row := rfl
  fields := by
    intro other
    by_cases hname : other = name
    · subst hname
      refine .inr ⟨lacks, ?_⟩
      have written : (Members.put r.fields other cell).get? other = some cell :=
        Members.get?_put_self _ _ _
      rcases nothing with rfl | rfl
      · exact .inr (.inl written)
      · exact .inr (.inr written)
    · -- The other fields are left alone.
      exact .inl (Members.get?_put_of_ne _ _ hname).symm

/-- **Absent forms.** Restating records, on the tab of the subrecipients or on others,
    changes neither the findings of a validation nor its failure nor its log. -/
theorem Upload.validate_eq_of_restates (u : Upload) (records : List Record)
    (restated : List.Forall₂ Record.Restates u.records records) (validators : List Validator)
    (settings : Settings) :
    u.validate validators settings = (u.withRecords records).validate validators settings := by
  have alike : List.Forall₂ Record.Alike u.records records := restated.imp fun _ _ h => h.alike
  exact u.validate_congr (alike_recordsOn alike) validators settings

namespace Absent

/-- A tab of grants, with a condition on a field that may be absent. -/
def grants : Validator where
  tab := "grants"
  scope := .allRecords
  rules :=
    [ { field := "subrecipient id", predicate := .check .isValidSubrecipient },
      { field := "spent", predicate := .guarded ⟨.blank, "reason"⟩ (.check .isPositiveNumber),
        message := some "Spent \x7b\x7d" } ]

/-- A subrecipient that is identified by the last of the three fields. -/
def town : Record := ⟨"subrecipient", [("ein number", .int 77), ("duns number", .empty)], some 2⟩

/-- The subrecipient without the field that holds nothing. -/
def townWithoutDuns : Record := ⟨"subrecipient", [("ein number", .int 77)], some 2⟩

/-- A grant to the subrecipient, without what was spent. -/
def grant : Record := ⟨"grants", [("subrecipient id", .text "77"), ("reason", .text "")], some 3⟩

/-- The grant comes before its subrecipient. -/
def upload : Upload := Sample.upload [grant, town]

/-- The records again, with other forms of nothing: what was spent is an empty text, and
    the second number of the subrecipient is missing. -/
def restated : List Record :=
  [ ⟨"grants", [("subrecipient id", .text "77"), ("reason", .text ""), ("spent", .text "")], some 3⟩,
    townWithoutDuns ]

end Absent

open Absent in
/-- The grant finds its subrecipient, and the condition on the reason holds, in both
    uploads. -/
theorem Upload.validate_eq_of_restates_put :
    List.Forall₂ Record.Restates upload.records restated ∧
      upload.validate [grants] {} = (upload.withRecords restated).validate [grants] {} := by
  have restates : List.Forall₂ Record.Restates upload.records restated := by
    refine .cons ?_ (.cons ?_ .nil)
    · have missing : grant.Lacks "spent" := .inl rfl
      exact grant.restates_put missing (.inr rfl)
    · have missing : townWithoutDuns.Lacks "duns number" := .inl rfl
      exact (townWithoutDuns.restates_put missing (.inl rfl)).symm
  exact ⟨restates, Upload.validate_eq_of_restates upload restated restates _ _⟩

open Absent in
example : (upload.validate [grants] {}).outcome = .ok [⟨"Spent ", "grants", some 3⟩] := rfl

end ReportCheck
