import ReportCheck.Proofs.Run.Blocks

/-! # Clean runs

  A run that reports nothing has checked everything and found it right.

  - `Rule.Holds` and `Validator.Satisfied` say that a record or an upload meets a rule or
    a validator, without reference to findings.
  - `run_eq_nil_iff`: a run that keeps at least one finding for each tab is clean exactly
    if all tabs are covered and all validators are satisfied. Nothing is skipped, and
    nothing is cut away.
-/

namespace ReportCheck

open RecordGroups

/-! ### Rules -/

/-- **Holding.** A rule that is on comes to a good verdict about the record. -/
def Rule.Holds (ctx : Context) (record : Record) (rule : Rule) : Prop :=
  rule.options.isActive ctx.tags = true → rule.verdict ctx record = .ok true

theorem Rule.check_eq_nil_iff {tab : String} {row : Option Int} {record : Record} {ctx : Context}
    {rule : Rule} :
    (rule.check tab row record ctx).outcome = .ok [] ↔ rule.Holds ctx record := by
  unfold Rule.check Holds
  by_cases active : rule.options.isActive ctx.tags = true
  · rw [if_pos active, Rule.evaluate, Traced.bind_eq_ok_iff]
    constructor
    · rintro ⟨verdict, hverdict, hfound⟩ -
      cases verdict with
      | true => exact hverdict
      | false =>
        -- A bad verdict makes a finding, so the list is not empty.
        obtain ⟨message, -, hpure⟩ := Traced.bind_eq_ok_iff.1 hfound
        exact nomatch hpure
    · intro holds
      exact ⟨true, holds active, rfl⟩
  · rw [if_neg active]
    constructor
    · -- A rule that is off holds of every record.
      intro _ hactive
      exact absurd hactive active
    · intro _
      rfl

theorem checkRecord_eq_nil_iff {rules : List Rule} {tab : String} {row : Option Int}
    {ctx : Context} {record : Record} :
    (checkRecord rules tab row ctx record).outcome = .ok [] ↔
      ∀ rule ∈ rules, rule.Holds ctx record := by
  unfold checkRecord
  rw [Traced.collect_eq_ok_nil_iff]
  exact forall₂_congr fun rule _ => Rule.check_eq_nil_iff

/-! ### Validators -/

namespace Validator

/-- **Satisfied validators.** All records of the tab meet all rules, and if a single
    record is wanted then there is exactly one. -/
inductive Satisfied (records : List Record) (ctx : Context) (v : Validator) : Prop
  | allRecords (scope : v.scope = .allRecords)
      (holds : ∀ record ∈ recordsOn v.tab records, ∀ rule ∈ v.rules, rule.Holds ctx record)
  | onlyRecord {message : String} {row : Int} {record : Record}
      (scope : v.scope = .singleRecord message row) (only : recordsOn v.tab records = [record])
      (holds : ∀ rule ∈ v.rules, rule.Holds ctx record)

theorem Satisfied.holds {records : List Record} {ctx : Context} {v : Validator}
    (h : v.Satisfied records ctx) (scope : v.scope = .allRecords) (record : Record)
    (hrecord : record ∈ records) (htab : record.tab = v.tab) :
    ∀ rule ∈ v.rules, rule.Holds ctx record := by
  cases h with
  | allRecords _ holds => exact holds record (List.mem_filter.2 ⟨hrecord, by simpa using htab⟩)
  | onlyRecord single => exact nomatch scope.symm.trans single

theorem Satisfied.only {records : List Record} {ctx : Context} {v : Validator} {message : String}
    {row : Int} (h : v.Satisfied records ctx) (scope : v.scope = .singleRecord message row) :
    ∃ record, recordsOn v.tab records = [record] ∧ ∀ rule ∈ v.rules, rule.Holds ctx record := by
  cases h with
  | allRecords all => exact nomatch scope.symm.trans all
  | onlyRecord _ only holds => exact ⟨_, only, holds⟩

theorem findings_eq_nil_iff {v : Validator} {records : List Record} {ctx : Context} :
    (v.findings (.of records) ctx).outcome = .ok [] ↔ v.Satisfied records ctx := by
  unfold findings
  rw [on_of]
  constructor
  · intro h
    cases hscope : v.scope with
    | allRecords =>
      rw [hscope] at h
      refine .allRecords hscope fun record hrecord => ?_
      exact checkRecord_eq_nil_iff.1 (Traced.collect_eq_ok_nil_iff.1 h record hrecord)
    | singleRecord message row =>
      rw [hscope] at h
      -- A wrong number of records makes a finding.
      match hon : recordsOn v.tab records with
      | [] =>
        rw [hon] at h
        exact nomatch h
      | [record] =>
        rw [hon] at h
        exact .onlyRecord hscope hon (checkRecord_eq_nil_iff.1 h)
      | _ :: _ :: _ =>
        rw [hon] at h
        exact nomatch h
  · rintro (⟨scope, holds⟩ | ⟨scope, only, holds⟩)
    · rw [scope]
      exact Traced.collect_eq_ok_nil_iff.2 fun record hrecord =>
        checkRecord_eq_nil_iff.2 (holds record hrecord)
    · rw [scope, only]
      exact checkRecord_eq_nil_iff.2 holds

theorem block_eq_nil_iff {v : Validator} {records : List Record} {ctx : Context} {limit : Nat}
    (keeps : 1 ≤ limit) :
    (v.block limit (.of records) ctx).outcome = .ok [] ↔ v.Satisfied records ctx := by
  unfold block
  rw [Traced.bind_eq_ok_iff, ← findings_eq_nil_iff]
  constructor
  · rintro ⟨found, hfound, hrest⟩
    obtain ⟨_, -, htake⟩ := Traced.bind_eq_ok_iff.1 hrest
    have hnil : found.take limit = [] := by simpa using htake
    -- Nothing is left of the findings because nothing is kept, or nothing was found.
    rcases List.take_eq_nil_iff.1 hnil with hzero | rfl
    · omega
    · exact Traced.mapError_eq_ok_iff.1 hfound
  · intro h
    refine ⟨[], Traced.mapError_eq_ok_iff.2 h, ?_⟩
    exact Traced.bind_eq_ok_iff.2 ⟨(), rfl, by rw [List.take_nil]; rfl⟩

end Validator

/-! ### Runs -/

/-- **Clean runs.** -/
theorem run_eq_nil_iff {validators : List Validator} {settings : Settings} {records : List Record}
    {ctx : Context} (keeps : 1 ≤ settings.maxFindingsPerTab) :
    (run validators settings (.of records) ctx).outcome = .ok [] ↔
      TabsCovered validators settings records ∧ ∀ v ∈ validators, v.Satisfied records ctx := by
  unfold run runCalling
  rw [Traced.bind_eq_ok_iff]
  constructor
  · rintro ⟨_, htabs, hblocks⟩
    refine ⟨checkTabs_of_eq_ok_iff.1 htabs, fun v hv => ?_⟩
    exact (Validator.block_eq_nil_iff keeps).1 (Traced.collect_eq_ok_nil_iff.1 hblocks v hv)
  · rintro ⟨covered, satisfied⟩
    refine ⟨(), checkTabs_of_eq_ok_iff.2 covered, ?_⟩
    exact Traced.collect_eq_ok_nil_iff.2 fun v hv =>
      (Validator.block_eq_nil_iff keeps).2 (satisfied v hv)

end ReportCheck
