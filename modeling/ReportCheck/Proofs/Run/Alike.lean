import ReportCheck.Run
import ReportCheck.Proofs.Predicate.Reads
import Mathlib.Data.List.Sort
import Mathlib.Order.Defs.LinearOrder

/-! # Runs that cannot be told apart

  A run does not tell two lists of records apart if on each tab the records look alike,
  in their order. How the tabs are mixed does not reach the report.

  - `Record.Alike`: two records on the same tab and in the same row, in which checks see
    the same cells.
  - `Validator.findings_congr` and `Validator.block_congr` compare what a validator makes
    of two groupings of records.
  - `checkTabs_congr`: the check for unknown tabs depends on which tabs there are, not on
    their order.
  - `run_congr` joins the two.
-/

namespace ReportCheck

open RecordGroups

/-- **Like records**: on the same tab and in the same row, and checks see the same cells
    in both. -/
structure Record.Alike (r r' : Record) : Prop where
  tab : r.tab = r'.tab
  row : r.row = r'.row
  value : ∀ key, r.value key = r'.value key

theorem Record.Alike.refl (r : Record) : r.Alike r where
  tab := rfl
  row := rfl
  value := fun _ => rfl

theorem alike_refl (records : List Record) : List.Forall₂ Record.Alike records records :=
  List.forall₂_same.2 fun r _ => .refl r

theorem Record.Alike.checkRecord_eq {r r' : Record} (alike : r.Alike r') {ctx ctx' : Context}
    (same : ctx.Alike ctx') (rules : List Rule) (tab : String) (row : Option Int) :
    checkRecord rules tab row ctx r = checkRecord rules tab row ctx' r' := by
  apply checkRecord_congr
  · intro rule _ key _
    exact alike.value key
  · exact same

/-! ### Validators -/

namespace Validator

variable {v : Validator} {set set' : RecordGroups} {ctx ctx' : Context}

/-- **Findings** on like records of the tab are the same. -/
theorem findings_congr (records : List.Forall₂ Record.Alike (set.on v.tab) (set'.on v.tab))
    (same : ctx.Alike ctx') : v.findings set ctx = v.findings set' ctx' := by
  unfold findings
  generalize set.on v.tab = on at records ⊢
  generalize set'.on v.tab = on' at records ⊢
  cases v.scope with
  | allRecords =>
    refine Traced.collect_congr (records.imp ?_)
    intro r r' alike
    rw [alike.row]
    exact alike.checkRecord_eq same _ _ _
  | singleRecord message row =>
    -- Either list has exactly one record if the other one has.
    cases records with
    | nil => rfl
    | cons alike others =>
      cases others with
      | nil => exact alike.checkRecord_eq same _ _ _
      | cons _ _ => rfl

/-- **Blocks** on like records of the tab are the same. -/
theorem block_congr (limit : Nat)
    (records : List.Forall₂ Record.Alike (set.on v.tab) (set'.on v.tab))
    (same : ctx.Alike ctx') : v.block limit set ctx = v.block limit set' ctx' := by
  have number : (set.on v.tab).length = (set'.on v.tab).length := records.length_eq
  unfold block summaryLines
  rw [findings_congr records same, number]

end Validator

/-! ### Unknown tabs -/

theorem TextSet.ofList_congr {l l' : List String} (h : ∀ s, s ∈ l ↔ s ∈ l') :
    ofList l = ofList l' := by
  have members : (ofList l).toList = (ofList l').toList := by
    refine List.Pairwise.eq_of_mem_iff (ofList l).ascending (ofList l').ascending ?_
    intro s
    rw [mem_ofList, mem_ofList, h]
  cases hl : ofList l with
  | mk toList ascending =>
    cases hl' : ofList l' with
    | mk toList' ascending' =>
      rw [hl, hl'] at members
      cases members
      rfl

/-- **Unknown tabs** do not depend on the order in which the tabs come. -/
theorem checkTabs_congr {set set' : RecordGroups} (tabs : ∀ tab, tab ∈ set.tabs ↔ tab ∈ set'.tabs)
    (validators : List Validator) (settings : Settings) :
    checkTabs validators settings set = checkTabs validators settings set' := by
  have unknown : ∀ tab, tab ∈ unknownTabs validators settings set ↔
      tab ∈ unknownTabs validators settings set' := by
    intro tab
    unfold unknownTabs
    rw [List.mem_filter, List.mem_filter, tabs]
  have empty : (unknownTabs validators settings set).isEmpty =
      (unknownTabs validators settings set').isEmpty := by
    rw [Bool.eq_iff_iff, List.isEmpty_iff, List.isEmpty_iff, List.eq_nil_iff_forall_not_mem,
      List.eq_nil_iff_forall_not_mem]
    simp only [unknown]
  unfold checkTabs
  rw [empty, TextSet.ofList_congr unknown]

/-! ### Runs -/

theorem mem_tabsOf_iff_recordsOn_ne_nil {tab : String} {records : List Record} :
    tab ∈ tabsOf records ↔ recordsOn tab records ≠ [] := by
  rw [mem_tabsOf, recordsOn, ne_eq, List.filter_eq_nil_iff]
  simp

theorem alike_recordsOn {records records' : List Record}
    (alike : List.Forall₂ Record.Alike records records') (tab : String) :
    List.Forall₂ Record.Alike (recordsOn tab records) (recordsOn tab records') := by
  refine List.rel_filter ?_ alike
  intro r r' h
  simp only [h.tab]

/-- **Runs** on records that are alike on each tab are the same, with their logs. -/
theorem run_congr {records records' : List Record} {ctx ctx' : Context}
    (alike : ∀ tab, List.Forall₂ Record.Alike (recordsOn tab records) (recordsOn tab records'))
    (same : ctx.Alike ctx') (validators : List Validator) (settings : Settings) :
    run validators settings (.of records) ctx = run validators settings (.of records') ctx' := by
  have tabs : ∀ tab, tab ∈ (RecordGroups.of records).tabs ↔
      tab ∈ (RecordGroups.of records').tabs := by
    intro tab
    rw [tabs_of, tabs_of, mem_tabsOf_iff_recordsOn_ne_nil, mem_tabsOf_iff_recordsOn_ne_nil]
    -- Lists of related records are empty together.
    rw [← List.length_pos_iff, ← List.length_pos_iff, (alike tab).length_eq]
  have blocks : Traced.collect (Validator.block settings.maxFindingsPerTab (.of records) ctx)
      validators =
        Traced.collect (Validator.block settings.maxFindingsPerTab (.of records') ctx')
          validators := by
    refine Traced.collect_congr (List.forall₂_same.2 ?_)
    intro v _
    apply Validator.block_congr
    · rw [on_of, on_of]
      exact alike v.tab
    · exact same
  unfold run runCalling
  rw [checkTabs_congr tabs, blocks]

end ReportCheck
