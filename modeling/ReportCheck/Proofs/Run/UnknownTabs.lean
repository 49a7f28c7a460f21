import ReportCheck.Proofs.Run.Alike
import ReportCheck.Proofs.Run.Blocks
import ReportCheck.Proofs.Sample

/-! # Unknown tabs

  No record is passed over without a word. Either all tabs with records are covered, or
  the run names those that are not and does nothing else.

  - `Uncovered` says which tabs nobody looks at. `exists_refusal_iff` and `mem_refused_iff`
    say when the check for unknown tabs refuses some records, and which tabs it names.
  - `runCalling` is a run in which the calls of the validators are a parameter, so that
    `runCalling_of_refused` can say that there are none.
  - `run_eq_unknownTabs_iff`: a run blames unknown tabs exactly if the check does.
  - `unknown_tabs_refused` joins these, with what a run that returns has called.
-/

namespace ReportCheck

open RecordGroups Outcome

/-- **Uncovered tabs**: not the tab of the subrecipients, and not the tab of a
    validator. -/
def Uncovered (validators : List Validator) (settings : Settings) (tab : String) : Prop :=
  tab ≠ settings.subrecipientTab ∧ ∀ v ∈ validators, v.tab ≠ tab

variable {validators : List Validator} {settings : Settings} {set : RecordGroups} {ctx : Context}

/-! ### The check -/

/-- **Unknown tabs** are the uncovered ones among those of the records. -/
theorem mem_unknownTabs_iff {tab : String} :
    tab ∈ unknownTabs validators settings set ↔
      tab ∈ set.tabs ∧ Uncovered validators settings tab := by
  unfold unknownTabs coveredTabs Uncovered
  rw [List.mem_filter]
  simp

/-- The check refuses records exactly if unknown tabs are not allowed and there are
    some. -/
theorem checkTabs_eq_error_iff {failure : Failure} :
    checkTabs validators settings set = .error failure ↔
      settings.allowUnknownTabs = false ∧ (∃ tab ∈ set.tabs, Uncovered validators settings tab) ∧
        failure = .unknownTabs (.ofList (unknownTabs validators settings set)) := by
  have found : (∃ tab ∈ set.tabs, Uncovered validators settings tab) ↔
      unknownTabs validators settings set ≠ [] := by
    simp only [ne_eq, List.eq_nil_iff_forall_not_mem, mem_unknownTabs_iff, not_forall, not_not]
  rw [found]
  unfold checkTabs
  cases settings.allowUnknownTabs with
  | true => simp
  | false =>
    cases unknownTabs validators settings set with
    | nil => simp
    | cons tab rest => simp [eq_comm]

/-- Some records are refused exactly if unknown tabs are not allowed and one of them is on
    an uncovered tab. -/
theorem exists_refusal_iff {records : List Record} :
    (∃ tabs, checkTabs validators settings (.of records) = .error (.unknownTabs tabs)) ↔
      settings.allowUnknownTabs = false ∧
        ∃ record ∈ records, Uncovered validators settings record.tab := by
  have onRecords : (∃ tab ∈ (RecordGroups.of records).tabs, Uncovered validators settings tab) ↔
      ∃ record ∈ records, Uncovered validators settings record.tab := by
    simp [mem_tabsOf]
  simp only [checkTabs_eq_error_iff, onRecords]
  constructor
  · rintro ⟨tabs, strict, uncovered, -⟩
    exact ⟨strict, uncovered⟩
  · rintro ⟨strict, uncovered⟩
    exact ⟨_, strict, uncovered, rfl⟩

/-- The tabs that are refused are the uncovered ones of the records. -/
theorem mem_refused_iff {records : List Record} {tabs : TextSet}
    (refused : checkTabs validators settings (.of records) = .error (.unknownTabs tabs))
    {tab : String} :
    tab ∈ tabs.toList ↔
      Uncovered validators settings tab ∧ ∃ record ∈ records, record.tab = tab := by
  obtain ⟨-, -, named⟩ := checkTabs_eq_error_iff.1 refused
  cases named
  rw [TextSet.mem_ofList, mem_unknownTabs_iff, tabs_of, mem_tabsOf, and_comm]

theorem checkTabs_of_perm {records records' : List Record} (perm : records.Perm records')
    (validators : List Validator) (settings : Settings) :
    checkTabs validators settings (.of records) = checkTabs validators settings (.of records') := by
  refine checkTabs_congr ?_ validators settings
  intro tab
  simp only [tabs_of, mem_tabsOf, perm.mem_iff]

/-! ### Runs that call nothing -/

/-- **Refused records.** Whatever the calls would do, the run is its failure and has logged
    nothing. -/
theorem runCalling_of_refused {failure : Failure}
    (refused : checkTabs validators settings set = .error failure)
    (call : Validator → Traced Failure (List Finding)) :
    runCalling call validators settings set = ⟨[], .error failure⟩ := by
  unfold runCalling
  rw [refused]
  rfl

theorem run_of_checked (checked : checkTabs validators settings set = .ok ()) :
    run validators settings set ctx =
      Traced.collect (Validator.block settings.maxFindingsPerTab set ctx) validators := by
  unfold run runCalling
  rw [checked]
  rfl

theorem Validator.block_onlyFails (limit : Nat) (v : Validator) :
    OnlyFails (fun failure => ∃ fault, failure = .fault fault) (v.block limit set ctx).outcome := by
  unfold block
  rw [Traced.outcome_bind]
  refine (Traced.mapError_onlyFails Failure.fault (v.findings set ctx)).bind fun found _ => ?_
  exact OnlyFails.ok _

/-- A run blames unknown tabs exactly if the check does. -/
theorem run_eq_unknownTabs_iff {tabs : TextSet} :
    (run validators settings set ctx).outcome = .error (.unknownTabs tabs) ↔
      checkTabs validators settings set = .error (.unknownTabs tabs) := by
  constructor
  · intro h
    cases hcheck : checkTabs validators settings set with
    | error failure =>
      rw [run, runCalling_of_refused hcheck] at h
      cases h
      rfl
    | ok passed =>
      -- Then the failure came from a call, and calls fail for another reason.
      rw [run_of_checked hcheck] at h
      obtain ⟨fault, hfault⟩ :=
        Traced.collect_onlyFails (fun v _ => v.block_onlyFails settings.maxFindingsPerTab) _ h
      exact nomatch hfault
  · intro hcheck
    rw [run, runCalling_of_refused hcheck]

theorem run_tookOver {found : List Finding}
    (returns : (run validators settings set ctx).outcome = .ok found) :
    ∀ v ∈ validators, (run validators settings set ctx).TookOver
      (v.block settings.maxFindingsPerTab set ctx) := by
  obtain ⟨passed, hcheck, hcollect⟩ := Traced.bind_eq_ok_iff.1 returns
  rw [run_of_checked hcheck]
  exact Traced.collect_tookOver hcollect

/-! ### No record is passed over -/

/-- **Unknown tabs** are refused. A run blames unknown tabs exactly if they are not allowed
    and some record is on an uncovered tab. It does so before it calls a validator, and
    names the uncovered tabs of the records in ascending order, each once, whatever the
    order of the records. If it returns where unknown tabs are not allowed, then for each
    record, unless it is on the tab of the subrecipients, it has called a validator of its
    tab, with the records of that tab. -/
theorem unknown_tabs_refused (validators : List Validator) (settings : Settings)
    (records : List Record) (ctx : Context) :
    ((∃ tabs, (run validators settings (.of records) ctx).outcome = .error (.unknownTabs tabs)) ↔
      settings.allowUnknownTabs = false ∧
        ∃ record ∈ records, Uncovered validators settings record.tab) ∧
    (∀ tabs, (run validators settings (.of records) ctx).outcome = .error (.unknownTabs tabs) →
      (∀ call, runCalling call validators settings (.of records) =
        ⟨[], .error (.unknownTabs tabs)⟩) ∧
      tabs.toList.Pairwise (· < ·) ∧
      (∀ tab, tab ∈ tabs.toList ↔
        Uncovered validators settings tab ∧ ∃ record ∈ records, record.tab = tab) ∧
      ∀ records', records.Perm records' →
        (run validators settings (.of records') ctx).outcome = .error (.unknownTabs tabs)) ∧
    (settings.allowUnknownTabs = false →
      ∀ found, (run validators settings (.of records) ctx).outcome = .ok found →
        ∀ record ∈ records, record.tab ≠ settings.subrecipientTab →
          ∃ v ∈ validators, v.tab = record.tab ∧ record ∈ (RecordGroups.of records).on v.tab ∧
            (run validators settings (.of records) ctx).TookOver
              (v.block settings.maxFindingsPerTab (.of records) ctx)) := by
  refine ⟨?_, ?_, ?_⟩
  · simp only [run_eq_unknownTabs_iff]
    exact exists_refusal_iff
  · intro tabs h
    have refused := run_eq_unknownTabs_iff.1 h
    refine ⟨runCalling_of_refused refused, tabs.ascending, fun tab => mem_refused_iff refused, ?_⟩
    intro records' perm
    rw [run_eq_unknownTabs_iff, ← checkTabs_of_perm perm]
    exact refused
  · intro strict found returns record hrecord other
    obtain ⟨_, checked, -⟩ := Traced.bind_eq_ok_iff.1 returns
    -- The check has passed, and not because unknown tabs are allowed.
    rcases checkTabs_of_eq_ok_iff.1 checked with allowed | covered
    · rw [strict] at allowed
      exact nomatch allowed
    · obtain ⟨v, hv, htab⟩ := (covered record hrecord).resolve_left other
      refine ⟨v, hv, htab, ?_, run_tookOver returns v hv⟩
      rw [on_of]
      exact List.mem_filter.2 ⟨hrecord, by simpa using htab.symm⟩

namespace UnknownTabs

/-- A validator of grants. -/
def grants : Validator where
  tab := "grants"
  scope := .allRecords
  rules := [{ field := "cost", predicate := .check .isPositiveNumber, message := some "Cost" }]

/-- A subrecipient, whose tab has no validator. -/
def town : Record := ⟨"subrecipient", [("ein number", .int 77)], some 2⟩

/-- A grant without a cost. -/
def grant : Record := ⟨"grants", [], some 3⟩

/-- A record on a tab that nobody covers. -/
def loan : Record := ⟨"loans", [], some 4⟩

/-- A record on another tab that nobody covers. -/
def bond : Record := ⟨"bonds", [], some 5⟩

/-- The two tabs that nobody covers. -/
def tabs : TextSet := .ofList ["loans", "bonds"]

end UnknownTabs

open UnknownTabs Sample in
/-- Loans and bonds are refused by name, in this order and in another one. Without them the
    grant is reported by the validator of its tab, and the subrecipient by nobody. -/
theorem unknown_tabs_refused_loans :
    ((run [grants] {} (.of [loan, grant, town, bond, loan]) context).outcome =
        .error (.unknownTabs tabs) ∧
      (∃ record ∈ [loan, grant, town, bond, loan], Uncovered [grants] {} record.tab) ∧
      (run [grants] {} (.of [bond, loan, grant, town, loan]) context).outcome =
        .error (.unknownTabs tabs)) ∧
    ((run [grants] {} (.of [grant, town]) context).outcome = .ok [⟨"Cost", "grants", some 3⟩] ∧
      ∃ v ∈ [grants], v.tab = grant.tab ∧ grant ∈ (RecordGroups.of [grant, town]).on v.tab ∧
        (run [grants] {} (.of [grant, town]) context).TookOver
          (v.block 100 (.of [grant, town]) context)) := by
  have refused : (run [grants] {} (.of [loan, grant, town, bond, loan]) context).outcome =
      .error (.unknownTabs tabs) := rfl
  have returns : (run [grants] {} (.of [grant, town]) context).outcome =
      .ok [⟨"Cost", "grants", some 3⟩] := rfl
  obtain ⟨blamed, named, -⟩ := unknown_tabs_refused [grants] {} [loan, grant, town, bond, loan] context
  obtain ⟨-, -, called⟩ := unknown_tabs_refused [grants] {} [grant, town] context
  have perm : ([loan, grant, town] ++ bond :: [loan]).Perm (bond :: ([loan, grant, town] ++ [loan])) :=
    List.perm_middle
  refine ⟨⟨refused, (blamed.1 ⟨tabs, refused⟩).2, ?_⟩, returns, ?_⟩
  · exact (named tabs refused).2.2.2 _ perm
  · exact called rfl _ returns grant (.head _) (by decide)

end ReportCheck
