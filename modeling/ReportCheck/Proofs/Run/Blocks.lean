import ReportCheck.Run
import ReportCheck.Proofs.Trace
import Mathlib.Data.List.Forall2
import Mathlib.Data.List.ProdSigma

/-! # The blocks of a report

  What a run reports, said without the run: from the failing pairs of a record and a rule.

  - `failing` lists these pairs, the records in the order of the upload and for each
    record the rules in the order of the validator; `Reports` ties findings to pairs.
  - `IsBlock` says what a validator reports, by its scope and the number of records.
  - `run_returns_blocks`: unless a tab is unknown or a rule cannot be evaluated, a run
    returns the first findings of each block, in the order of the validators.
-/

namespace ReportCheck

open RecordGroups

/-! ### Rules on a record -/

/-- The verdict of a rule's predicate on a record. -/
def Rule.verdict (ctx : Context) (record : Record) (rule : Rule) : Except Fault Bool :=
  (rule.predicate.eval (record.value rule.field) record ctx).outcome

/-- **Completing.** A rule that is on comes to a verdict about the record, and if the
    verdict is bad then its message can be rendered. -/
def Rule.Completes (ctx : Context) (record : Record) (rule : Rule) : Prop :=
  rule.options.isActive ctx.tags = true →
    ∃ verdict, rule.verdict ctx record = .ok verdict ∧
      (verdict = false → ∃ message, rule.messageFor (record.value rule.field) = .ok message)

/-- **Failing.** A rule is on, and its predicate is false on the record. -/
def Rule.Fails (ctx : Context) (record : Record) (rule : Rule) : Prop :=
  rule.options.isActive ctx.tags = true ∧ rule.verdict ctx record = .ok false

instance (ctx : Context) (record : Record) (rule : Rule) : Decidable (rule.Fails ctx record) :=
  inferInstanceAs (Decidable (_ ∧ _))

theorem Rule.check_of_completes {ctx : Context} {record : Record} {rule : Rule}
    (completes : rule.Completes ctx record) (tab : String) (row : Option Int) :
    (¬ rule.Fails ctx record ∧ (rule.check tab row record ctx).outcome = .ok []) ∨
      (rule.Fails ctx record ∧ ∃ message,
        rule.messageFor (record.value rule.field) = .ok message ∧
          (rule.check tab row record ctx).outcome = .ok [⟨message, tab, row⟩]) := by
  by_cases active : rule.options.isActive ctx.tags = true
  · obtain ⟨verdict, hverdict, hmessage⟩ := completes active
    rw [Rule.check, if_pos active]
    cases verdict with
    | true =>
      -- One verdict cannot be good and bad.
      refine .inl ⟨?_, ?_⟩
      · rintro ⟨-, hfalse⟩
        rw [hverdict] at hfalse
        exact nomatch hfalse
      · exact Traced.bind_eq_ok_iff.2 ⟨true, hverdict, rfl⟩
    | false =>
      obtain ⟨message, hrendered⟩ := hmessage rfl
      refine .inr ⟨⟨active, hverdict⟩, message, hrendered, ?_⟩
      exact Traced.bind_eq_ok_iff.2
        ⟨false, hverdict, Traced.bind_eq_ok_iff.2 ⟨message, hrendered, rfl⟩⟩
  · -- A rule that is off can neither fail nor find anything.
    refine .inl ⟨?_, ?_⟩
    · intro fails
      exact active fails.1
    · rw [Rule.check, if_neg active]
      rfl

/-! ### Failing pairs and their findings -/

/-- **Failing pairs** of a record and a rule, in the order of the records and for each
    record in the order of the rules. -/
def failing (rules : List Rule) (ctx : Context) (records : List Record) : List (Record × Rule) :=
  (records ×ˢ rules).filter fun pair => pair.2.Fails ctx pair.1

/-- **Reports.** The findings are those of the pairs, one for each and in their order,
    under the given tab and the row that is given for the record. -/
def Reports (tab : String) (rowOf : Record → Option Int) :
    List (Record × Rule) → List Finding → Prop :=
  List.Forall₂ fun pair finding => ∃ message,
    pair.2.messageFor (pair.1.value pair.2.field) = .ok message ∧
      finding = ⟨message, tab, rowOf pair.1⟩

theorem failing_cons (rules : List Rule) (ctx : Context) (record : Record) (rest : List Record) :
    failing rules ctx (record :: rest) =
      ((rules.filter fun rule => rule.Fails ctx record).map fun rule => (record, rule))
        ++ failing rules ctx rest := by
  unfold failing
  rw [List.product_cons, List.filter_append, List.filter_map]
  rfl

theorem checkRecord_reports (tab : String) (rowOf : Record → Option Int) {row : Option Int}
    {rules : List Rule} {ctx : Context} {record : Record} (hrow : rowOf record = row)
    (completes : ∀ rule ∈ rules, rule.Completes ctx record) :
    ∃ found, (checkRecord rules tab row ctx record).outcome = .ok found ∧
      Reports tab rowOf (failing rules ctx [record]) found := by
  unfold checkRecord
  induction rules with
  | nil => exact ⟨[], rfl, .nil⟩
  | cons rule rest ih =>
    obtain ⟨others, hothers, hreports⟩ := ih fun r hr => completes r (.tail _ hr)
    rw [failing_cons] at hreports ⊢
    rcases Rule.check_of_completes (completes rule (.head _)) tab row with
      ⟨holds, hnone⟩ | ⟨fails, message, hmessage, hone⟩
    · -- The rule adds neither a pair nor a finding.
      refine ⟨others, ?_, ?_⟩
      · rw [Traced.collect_cons]
        exact Traced.bind_eq_ok_iff.2 ⟨[], hnone, Traced.bind_eq_ok_iff.2 ⟨others, hothers, rfl⟩⟩
      · rw [List.filter_cons_of_neg (by simpa using holds)]
        exact hreports
    · -- Its pair heads the failing pairs, and its finding the findings.
      refine ⟨⟨message, tab, row⟩ :: others, ?_, ?_⟩
      · rw [Traced.collect_cons]
        exact Traced.bind_eq_ok_iff.2 ⟨_, hone, Traced.bind_eq_ok_iff.2 ⟨others, hothers, rfl⟩⟩
      · rw [List.filter_cons_of_pos (by simpa using fails)]
        exact .cons ⟨message, hmessage, by rw [hrow]⟩ hreports

theorem collect_reports (tab : String) {rules : List Rule} {ctx : Context} {records : List Record}
    (completes : ∀ record ∈ records, ∀ rule ∈ rules, rule.Completes ctx record) :
    ∃ found,
      (Traced.collect (fun r => checkRecord rules tab r.row ctx r) records).outcome = .ok found ∧
        Reports tab (·.row) (failing rules ctx records) found := by
  induction records with
  | nil => exact ⟨[], rfl, .nil⟩
  | cons record rest ih =>
    obtain ⟨first, hfirst, reports⟩ :=
      checkRecord_reports tab (·.row) rfl (completes record (.head _))
    obtain ⟨others, hothers, reports'⟩ := ih fun r hr => completes r (.tail _ hr)
    -- Pairs and findings of the first record come before those of the others.
    refine ⟨first ++ others, ?_, ?_⟩
    · rw [Traced.collect_cons]
      exact Traced.bind_eq_ok_iff.2 ⟨first, hfirst, Traced.bind_eq_ok_iff.2 ⟨others, hothers, rfl⟩⟩
    · rw [failing_cons] at reports ⊢
      rw [show failing rules ctx [] = [] from rfl, List.append_nil] at reports
      exact List.rel_append reports reports'

/-! ### Blocks -/

namespace Validator

/-- The records that a validator checks: those of its tab, unless it wants a single one
    and there are none or several. -/
def checked (v : Validator) (set : RecordGroups) : List Record :=
  match v.scope, set.on v.tab with
  | .allRecords, on => on
  | .singleRecord .., [record] => [record]
  | .singleRecord .., _ => []

theorem mem_of_mem_checked {v : Validator} {records : List Record} {record : Record}
    (h : record ∈ v.checked (.of records)) : record ∈ records := by
  have hon : record ∈ recordsOn v.tab records := by
    unfold checked at h
    rw [on_of] at h
    split at h
    · exact h
    · next hone =>
      rw [hone]
      exact h
    · exact nomatch h
  exact (List.mem_filter.1 hon).1

/-- No rule of the validator stops on a record that it checks. -/
def Completes (records : List Record) (ctx : Context) (v : Validator) : Prop :=
  ∀ record ∈ v.checked (.of records), ∀ rule ∈ v.rules, rule.Completes ctx record

/-- **Blocks.** What a validator has to report about the records of an upload. -/
inductive IsBlock (records : List Record) (ctx : Context) (v : Validator) : List Finding → Prop
  /-- All records of the tab are reported, each under its own row. -/
  | allRecords {found : List Finding} (scope : v.scope = .allRecords)
      (reports : Reports v.tab (·.row) (failing v.rules ctx (recordsOn v.tab records)) found) :
      IsBlock records ctx v found
  /-- The only record of the tab is reported under the row of the validator. -/
  | onlyRecord {message : String} {row : Int} {record : Record} {found : List Finding}
      (scope : v.scope = .singleRecord message row) (only : recordsOn v.tab records = [record])
      (reports : Reports v.tab (fun _ => some row) (failing v.rules ctx [record]) found) :
      IsBlock records ctx v found
  /-- A wrong number of records is all that is reported. -/
  | wrongNumber {message : String} {row : Int} (scope : v.scope = .singleRecord message row)
      (number : (recordsOn v.tab records).length ≠ 1) :
      IsBlock records ctx v [⟨message, v.tab, none⟩]

theorem findings_isBlock {v : Validator} {records : List Record} {ctx : Context}
    (completes : v.Completes records ctx) :
    ∃ found, (v.findings (.of records) ctx).outcome = .ok found ∧ v.IsBlock records ctx found := by
  unfold Completes checked at completes
  unfold findings
  rw [on_of] at completes ⊢
  cases hscope : v.scope with
  | allRecords =>
    rw [hscope] at completes
    obtain ⟨found, hfound, reports⟩ := collect_reports v.tab completes
    exact ⟨found, hfound, .allRecords hscope reports⟩
  | singleRecord message row =>
    rw [hscope] at completes
    match hon : recordsOn v.tab records with
    -- None or several records are a finding of their own.
    | [] => exact ⟨_, rfl, .wrongNumber hscope (by simp [hon])⟩
    | [record] =>
      rw [hon] at completes
      obtain ⟨found, hfound, reports⟩ :=
        checkRecord_reports v.tab (fun _ => some row) rfl (completes record (.head _))
      exact ⟨found, hfound, .onlyRecord hscope hon reports⟩
    | _ :: _ :: _ => exact ⟨_, rfl, .wrongNumber hscope (by simp [hon])⟩

theorem block_isBlock {v : Validator} {records : List Record} {ctx : Context}
    (completes : v.Completes records ctx) (limit : Nat) :
    ∃ found, (v.block limit (.of records) ctx).outcome = .ok (found.take limit) ∧
      v.IsBlock records ctx found := by
  obtain ⟨found, hfound, hblock⟩ := findings_isBlock completes
  refine ⟨found, ?_, hblock⟩
  -- What is logged in between does not touch the findings.
  refine Traced.bind_eq_ok_iff.2 ⟨found, Traced.mapError_eq_ok_iff.2 hfound, ?_⟩
  exact Traced.bind_eq_ok_iff.2 ⟨(), rfl, rfl⟩

end Validator

/-! ### Runs -/

/-- All records are on tabs that the run covers, or unknown tabs are allowed. -/
def TabsCovered (validators : List Validator) (settings : Settings) (records : List Record) : Prop :=
  settings.allowUnknownTabs = true ∨
    ∀ record ∈ records, record.tab = settings.subrecipientTab ∨
      ∃ v ∈ validators, v.tab = record.tab

theorem checkTabs_of_eq_ok_iff {validators : List Validator} {settings : Settings}
    {records : List Record} :
    checkTabs validators settings (.of records) = .ok () ↔
      TabsCovered validators settings records := by
  -- The two lists of tabs that the check goes through, as statements.
  have hcovered : ∀ tab, (coveredTabs validators settings).contains tab = true ↔
      tab = settings.subrecipientTab ∨ ∃ v ∈ validators, v.tab = tab := by
    intro tab
    simp [coveredTabs]
  have hempty : (unknownTabs validators settings (.of records)).isEmpty = true ↔
      ∀ record ∈ records, record.tab = settings.subrecipientTab ∨
        ∃ v ∈ validators, v.tab = record.tab := by
    rw [List.isEmpty_iff, unknownTabs, tabs_of, List.filter_eq_nil_iff]
    simp only [Bool.not_eq_true', Bool.not_eq_false, hcovered]
    constructor
    · intro h record hrecord
      exact h record.tab (mem_tabsOf.2 ⟨record, hrecord, rfl⟩)
    · intro h tab htab
      obtain ⟨record, hrecord, rfl⟩ := mem_tabsOf.1 htab
      exact h record hrecord
  unfold checkTabs TabsCovered
  rw [← hempty]
  split
  · next h => simpa using h
  · next h => simpa using h

theorem collect_blocks {validators : List Validator} {records : List Record} {ctx : Context}
    (completes : ∀ v ∈ validators, v.Completes records ctx) (limit : Nat) :
    ∃ blocks, List.Forall₂ (Validator.IsBlock records ctx) validators blocks ∧
      (Traced.collect (Validator.block limit (.of records) ctx) validators).outcome =
        .ok (blocks.flatMap (·.take limit)) := by
  induction validators with
  | nil => exact ⟨[], .nil, rfl⟩
  | cons v rest ih =>
    obtain ⟨found, hfound, hblock⟩ := Validator.block_isBlock (completes v (.head _)) limit
    obtain ⟨blocks, hblocks, hothers⟩ := ih fun w hw => completes w (.tail _ hw)
    -- The block of the first validator comes before those of the others.
    refine ⟨found :: blocks, .cons hblock hblocks, ?_⟩
    rw [Traced.collect_cons]
    exact Traced.bind_eq_ok_iff.2 ⟨_, hfound, Traced.bind_eq_ok_iff.2 ⟨_, hothers, rfl⟩⟩

/-- **Reports of a run.** If all tabs are covered and no rule stops on a record, a run
    returns the first findings of each validator's block, in the order of the
    validators. -/
theorem run_returns_blocks (validators : List Validator) (settings : Settings)
    (records : List Record) (ctx : Context) (covered : TabsCovered validators settings records)
    (completes : ∀ v ∈ validators, v.Completes records ctx) :
    ∃ blocks, List.Forall₂ (Validator.IsBlock records ctx) validators blocks ∧
      (run validators settings (.of records) ctx).outcome =
        .ok (blocks.flatMap (·.take settings.maxFindingsPerTab)) := by
  obtain ⟨blocks, hblocks, hcollect⟩ := collect_blocks completes settings.maxFindingsPerTab
  refine ⟨blocks, hblocks, ?_⟩
  exact Traced.bind_eq_ok_iff.2 ⟨(), checkTabs_of_eq_ok_iff.2 covered, hcollect⟩

namespace Blocks

/-- A tab with any number of payments, on which one rule is off without a tag. -/
def payments : Validator where
  tab := "payments"
  scope := .allRecords
  rules :=
    [ { field := "amount", predicate := .check .isPositiveNumber },
      { field := "payee", predicate := .check .isNotBlank, message := some "Payee \x7b\x7d" },
      { field := "payee", predicate := .check .isNotBlank,
        options := { tags := some (.ofList ["audit"]) } } ]

/-- A tab with a single closing record. -/
def closing : Validator where
  tab := "closing"
  scope := .singleRecord "One closing record is needed" 2
  rules := [{ field := "date", predicate := .check .isNotBlank }]

/-- Records of three tabs in turn. Both payments fail, the first on two rules. -/
def records : List Record :=
  [ ⟨"payments", [("amount", .int (-5))], some 7⟩, ⟨"closing", [("date", .text "")], some 8⟩,
    ⟨"payments", [("amount", .int 12), ("payee", .text "")], none⟩, ⟨"other", [], none⟩ ]

/-- Settings under which the second payment is cut off. -/
def settings : Settings := { maxFindingsPerTab := 2, subrecipientTab := "other" }

/-- A context without tags. -/
def context : Context where
  period := ⟨Settings.firstDay, ⟨2020, 9, 30, by decide⟩, ⟨2020, 12, 30, by decide⟩⟩

end Blocks

open Blocks in
/-- The rules of the two tabs stop on no record, so both blocks are returned. -/
theorem run_returns_blocks_of_two_tabs :
    TabsCovered [payments, closing] settings records ∧
      (∀ v ∈ [payments, closing], v.Completes records context) ∧
      ∃ blocks, List.Forall₂ (Validator.IsBlock records context) [payments, closing] blocks ∧
        (run [payments, closing] settings (.of records) context).outcome =
          .ok (blocks.flatMap (·.take settings.maxFindingsPerTab)) := by
  have covered : TabsCovered [payments, closing] settings records := .inr (by decide)
  have completes : ∀ v ∈ [payments, closing], v.Completes records context := by
    rintro v hv record - rule hrule -
    simp only [List.mem_cons, List.not_mem_nil, or_false] at hv
    rcases hv with rfl | rfl
    -- Each rule comes to a verdict by evaluation, and all messages can be rendered.
    · simp only [payments, List.mem_cons, List.not_mem_nil, or_false] at hrule
      rcases hrule with rfl | rfl | rfl <;> exact ⟨_, rfl, fun _ => ⟨_, rfl⟩⟩
    · simp only [closing, List.mem_cons, List.not_mem_nil, or_false] at hrule
      subst hrule
      exact ⟨_, rfl, fun _ => ⟨_, rfl⟩⟩
  exact ⟨covered, completes, run_returns_blocks _ _ _ _ covered completes⟩

open Blocks in
example :
    (run [payments, closing] settings (.of records) context).outcome =
      .ok [ ⟨"Empty or invalid entry for amount: \"-5\"", "payments", some 7⟩,
        ⟨"Payee ", "payments", some 7⟩,
        ⟨"Empty or invalid entry for date: \"\"", "closing", some 2⟩ ] := rfl

end ReportCheck
