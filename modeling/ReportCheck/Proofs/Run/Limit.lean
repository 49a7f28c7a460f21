import ReportCheck.Upload
import ReportCheck.Proofs.Trace
import ReportCheck.Proofs.Sample
import Mathlib.Data.List.Nodup

/-! # The limit on findings

  The limit of the settings cuts the findings of each validator. A tab gets as many
  findings as that for each of its validators, and no more than that if it has only one.

  - `Validator.tab_of_mem_findings`: a validator reports under its own tab only.
  - `Validator.Adds` says what a validator may add to a report, and
    `IsReport.exists_blocks` takes a report apart into what the validators add.
  - `length_findingsOn_flatten_le` counts the findings of a tab over these parts, and
    `flatten_eq_flatMap_findingsOn` puts them in the order of the validators.
  - `limit_bounds_findingsOn` is the bound, and `limit_exceeded_on_shared_tab` a report
    that exceeds the limit on a tab with two validators.
-/

namespace ReportCheck

/-! ### Findings of a tab -/

/-- The findings of a tab in a report. -/
def findingsOn (tab : String) (found : List Finding) : List Finding := found.filter (·.tab == tab)

/-- The validators of a tab. -/
def validatorsOn (tab : String) (validators : List Validator) : List Validator :=
  validators.filter (·.tab == tab)

theorem findingsOn_append (tab : String) (first others : List Finding) :
    findingsOn tab (first ++ others) = findingsOn tab first ++ findingsOn tab others :=
  List.filter_append first others

/-! ### What a validator reports -/

theorem Rule.tab_of_mem_check {rule : Rule} {tab : String} {row : Option Int} {record : Record}
    {ctx : Context} {found : List Finding}
    (h : (rule.check tab row record ctx).outcome = .ok found) : ∀ f ∈ found, f.tab = tab := by
  have nothing : ∀ f ∈ ([] : List Finding), f.tab = tab := fun f hf => nomatch hf
  unfold check at h
  split at h
  · obtain ⟨verdict, -, h⟩ := Traced.bind_eq_ok_iff.1 h
    cases verdict with
    | true =>
      cases h
      exact nothing
    | false =>
      obtain ⟨message, -, h⟩ := Traced.bind_eq_ok_iff.1 h
      cases h
      exact List.forall_mem_singleton.2 rfl
  · cases h
    exact nothing

theorem tab_of_mem_checkRecord {rules : List Rule} {tab : String} {row : Option Int}
    {ctx : Context} {record : Record} {found : List Finding}
    (h : (checkRecord rules tab row ctx record).outcome = .ok found) : ∀ f ∈ found, f.tab = tab :=
  Traced.forall_mem_of_collect (fun _ _ _ hpart => Rule.tab_of_mem_check hpart) h

namespace Validator

/-- **Own tab.** A validator reports under no other tab. -/
theorem tab_of_mem_findings {v : Validator} {set : RecordGroups} {ctx : Context}
    {found : List Finding} (h : (v.findings set ctx).outcome = .ok found) :
    ∀ f ∈ found, f.tab = v.tab := by
  unfold findings at h
  split at h
  · exact Traced.forall_mem_of_collect (fun _ _ _ hpart => tab_of_mem_checkRecord hpart) h
  · exact tab_of_mem_checkRecord h
  · -- The finding about the number of records is on the tab as well.
    cases h
    exact List.forall_mem_singleton.2 rfl

theorem block_eq_ok_iff {v : Validator} {limit : Nat} {set : RecordGroups} {ctx : Context}
    {kept : List Finding} :
    (v.block limit set ctx).outcome = .ok kept ↔
      ∃ found, (v.findings set ctx).outcome = .ok found ∧ kept = found.take limit := by
  unfold block
  rw [Traced.bind_eq_ok_iff]
  constructor
  · rintro ⟨found, hfound, hkept⟩
    cases hkept
    exact ⟨found, Traced.mapError_eq_ok_iff.1 hfound, rfl⟩
  · rintro ⟨found, hfound, rfl⟩
    exact ⟨found, Traced.mapError_eq_ok_iff.2 hfound, rfl⟩

/-- **Additions.** A validator adds findings on its own tab to a report, as many as the
    limit or fewer. -/
structure Adds (limit : Nat) (v : Validator) (kept : List Finding) : Prop where
  tab : ∀ f ∈ kept, f.tab = v.tab
  length : kept.length ≤ limit

theorem adds_of_block {v : Validator} {limit : Nat} {set : RecordGroups} {ctx : Context}
    {kept : List Finding} (h : (v.block limit set ctx).outcome = .ok kept) : v.Adds limit kept := by
  obtain ⟨found, hfound, rfl⟩ := block_eq_ok_iff.1 h
  exact {
    tab := fun f hf => tab_of_mem_findings hfound f (List.mem_of_mem_take hf)
    length := List.length_take_le limit found }

theorem Adds.findingsOn_eq {limit : Nat} {v : Validator} {kept : List Finding}
    (h : v.Adds limit kept) : findingsOn v.tab kept = kept := by
  refine List.filter_eq_self.2 ?_
  intro f hf
  simpa using h.tab f hf

theorem Adds.findingsOn_eq_nil {limit : Nat} {v : Validator} {kept : List Finding}
    (h : v.Adds limit kept) {tab : String} (other : v.tab ≠ tab) : findingsOn tab kept = [] := by
  refine List.filter_eq_nil_iff.2 ?_
  intro f hf
  simpa [h.tab f hf] using other

end Validator

/-! ### Reports -/

/-- **Reports** of some validators: what a run of them on records in a context returns,
    and what the validation of an upload returns. -/
inductive IsReport (validators : List Validator) (settings : Settings) (found : List Finding) : Prop
  | run {set : RecordGroups} {ctx : Context}
      (returns : (run validators settings set ctx).outcome = .ok found)
  | validation {upload : Upload}
      (returns : (upload.validate validators settings).outcome = .ok found)

/-- A report joins what the validators add, in their order. -/
theorem IsReport.exists_blocks {validators : List Validator} {settings : Settings}
    {found : List Finding} (h : IsReport validators settings found) :
    ∃ blocks, List.Forall₂ (Validator.Adds settings.maxFindingsPerTab) validators blocks ∧
      found = blocks.flatten := by
  have ran : ∃ set ctx, (ReportCheck.run validators settings set ctx).outcome = .ok found := by
    cases h with
    | run returns => exact ⟨_, _, returns⟩
    | validation returns =>
      -- A validation runs the validators in the context of the upload.
      obtain ⟨ctx, -, hrun⟩ := Traced.bind_eq_ok_iff.1 returns
      exact ⟨_, ctx, hrun⟩
  obtain ⟨set, ctx, hrun⟩ := ran
  obtain ⟨_, -, hcollect⟩ := Traced.bind_eq_ok_iff.1 hrun
  obtain ⟨blocks, hblocks, hfound⟩ := Traced.collect_eq_ok_iff.1 hcollect
  exact ⟨blocks, hblocks.imp fun _ _ => Validator.adds_of_block, hfound⟩

section Blocks

variable {limit : Nat} {validators : List Validator} {blocks : List (List Finding)}

/-- **Counting.** A tab has no more findings than the limit allows to its validators
    together. -/
theorem length_findingsOn_flatten_le
    (adds : List.Forall₂ (Validator.Adds limit) validators blocks) (tab : String) :
    (findingsOn tab blocks.flatten).length ≤ limit * (validatorsOn tab validators).length := by
  induction adds with
  | nil => exact Nat.zero_le _
  | @cons v block rest others first _ ih =>
    rw [List.flatten_cons, findingsOn_append, List.length_append]
    by_cases own : v.tab = tab
    · subst own
      have counted : validatorsOn v.tab (v :: rest) = v :: validatorsOn v.tab rest :=
        List.filter_cons_of_pos (by simp)
      rw [first.findingsOn_eq, counted, List.length_cons, Nat.mul_succ]
      have bound := first.length
      omega
    · have skipped : validatorsOn tab (v :: rest) = validatorsOn tab rest :=
        List.filter_cons_of_neg (by simpa using own)
      rw [first.findingsOn_eq_nil own, skipped, List.length_nil, Nat.zero_add]
      exact ih

theorem length_findingsOn_flatten_le_limit
    (adds : List.Forall₂ (Validator.Adds limit) validators blocks) {tab : String}
    (single : (validatorsOn tab validators).length ≤ 1) :
    (findingsOn tab blocks.flatten).length ≤ limit :=
  calc (findingsOn tab blocks.flatten).length
      ≤ limit * (validatorsOn tab validators).length := length_findingsOn_flatten_le adds tab
    _ ≤ limit * 1 := Nat.mul_le_mul_left _ single
    _ = limit := Nat.mul_one _

theorem length_validatorsOn_le_one (distinct : (validators.map (·.tab)).Nodup) (tab : String) :
    (validatorsOn tab validators).length ≤ 1 := by
  have counted : (validatorsOn tab validators).length = (validators.map (·.tab)).count tab := by
    rw [List.count, List.countP_map, List.countP_eq_length_filter]
    rfl
  rw [counted]
  exact List.nodup_iff_count_le_one.1 distinct tab

theorem findingsOn_flatten_eq_nil (adds : List.Forall₂ (Validator.Adds limit) validators blocks)
    {tab : String} (other : tab ∉ validators.map (·.tab)) : findingsOn tab blocks.flatten = [] := by
  have none : validatorsOn tab validators = [] := by
    refine List.filter_eq_nil_iff.2 ?_
    intro v hv hown
    exact other (List.mem_map.2 ⟨v, hv, by simpa using hown⟩)
  have bound := length_findingsOn_flatten_le adds tab
  rw [none] at bound
  exact List.eq_nil_of_length_eq_zero (Nat.le_zero.1 bound)

/-- **Order.** If no two validators share a tab, a report lists the findings tab by tab, in
    the order of the validators. -/
theorem flatten_eq_flatMap_findingsOn
    (adds : List.Forall₂ (Validator.Adds limit) validators blocks)
    (distinct : (validators.map (·.tab)).Nodup) :
    blocks.flatten = validators.flatMap fun v => findingsOn v.tab blocks.flatten := by
  induction adds with
  | nil => rfl
  | @cons v block rest others first adds ih =>
    obtain ⟨fresh, distinct⟩ := List.nodup_cons.1 distinct
    have own : findingsOn v.tab (block ++ others.flatten) = block := by
      rw [findingsOn_append, first.findingsOn_eq, findingsOn_flatten_eq_nil adds fresh,
        List.append_nil]
    have later : ∀ w ∈ rest,
        findingsOn w.tab (block ++ others.flatten) = findingsOn w.tab others.flatten := by
      intro w hw
      have differs : v.tab ≠ w.tab := by
        intro shared
        exact fresh (List.mem_map.2 ⟨w, hw, shared.symm⟩)
      rw [findingsOn_append, first.findingsOn_eq_nil differs, List.nil_append]
    rw [List.flatten_cons, List.flatMap_cons, own, List.flatMap_congr later, ← ih distinct]

end Blocks

/-! ### The bound -/

/-- **The limit** holds for each validator of a tab, so a tab with a single validator, or
    with none, gets no more findings than the limit. -/
theorem limit_bounds_findingsOn (validators : List Validator) (settings : Settings)
    (found : List Finding) (report : IsReport validators settings found) (tab : String) :
    (findingsOn tab found).length ≤
        settings.maxFindingsPerTab * (validatorsOn tab validators).length ∧
      ((validatorsOn tab validators).length ≤ 1 →
        (findingsOn tab found).length ≤ settings.maxFindingsPerTab) := by
  obtain ⟨blocks, adds, rfl⟩ := report.exists_blocks
  exact ⟨length_findingsOn_flatten_le adds tab, length_findingsOn_flatten_le_limit adds⟩

namespace Limit

/-- A validator of the stock that wants names. -/
def names : Validator where
  tab := "stock"
  scope := .allRecords
  rules := [{ field := "name", predicate := .check .isNotBlank, message := some "Name" }]

/-- Another validator of the stock, which wants amounts. -/
def amounts : Validator where
  tab := "stock"
  scope := .allRecords
  rules := [{ field := "amount", predicate := .check .isNumber, message := some "Amount" }]

/-- The validator of the cover. -/
def cover : Validator where
  tab := "cover"
  scope := .singleRecord "Cover" 2
  rules := []

/-- Settings that keep one finding. -/
def settings : Settings := { maxFindingsPerTab := 1 }

/-- An upload of two items without name and amount. -/
def upload : Upload := Sample.upload [⟨"stock", [], some 2⟩, ⟨"stock", [], some 3⟩]

/-- The findings that are kept, one for each validator. -/
def found : List Finding :=
  [⟨"Name", "stock", some 2⟩, ⟨"Cover", "cover", none⟩, ⟨"Amount", "stock", some 2⟩]

theorem found_isReport : IsReport [names, cover, amounts] settings found := by
  have returns : (upload.validate [names, cover, amounts] settings).outcome = .ok found := rfl
  exact .validation returns

end Limit

open Limit in
/-- The stock has two validators and gets two findings. The cover has one validator and
    keeps to the limit. -/
theorem limit_bounds_findingsOn_stock :
    IsReport [names, cover, amounts] settings found ∧
      (findingsOn "stock" found).length ≤ 1 * 2 ∧
      ((validatorsOn "cover" [names, cover, amounts]).length ≤ 1 ∧
        (findingsOn "cover" found).length ≤ 1) := by
  have single : (validatorsOn "cover" [names, cover, amounts]).length ≤ 1 := by decide
  have stock := limit_bounds_findingsOn _ settings found found_isReport "stock"
  have onCover := limit_bounds_findingsOn _ settings found found_isReport "cover"
  exact ⟨found_isReport, stock.1, single, onCover.2 single⟩

open Limit in
/-- **Shared tabs.** The limit does not bound the findings of a tab with two validators. -/
theorem limit_exceeded_on_shared_tab :
    ¬ ∀ (validators : List Validator) (settings : Settings) (found : List Finding),
      IsReport validators settings found →
        ∀ tab, (findingsOn tab found).length ≤ settings.maxFindingsPerTab := by
  intro bounded
  have one : (findingsOn "stock" found).length ≤ 1 := bounded _ settings found found_isReport "stock"
  have two : (findingsOn "stock" found).length = 2 := by decide
  omega

end ReportCheck
