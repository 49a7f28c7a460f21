import ReportCheck.Cell

/-! # Records and findings

  An upload is a list of records, one for each row of the spreadsheet, and a report is a
  list of findings about them.

  - `Record.value` is how checks see a cell: a missing one looks like an empty text.
  - `RecordGroups.of` collects the records of each tab. The tabs come in the order of
    their first records, and the records of a tab keep their order: `RecordGroups.on_of`.
-/

namespace ReportCheck

/-- **Records.** A row of a tab of the spreadsheet, its cells under their field names. -/
structure Record where
  tab : String
  fields : Members
  /-- The row in the spreadsheet, if it is known. -/
  row : Option Int
  deriving BEq, Repr

/-- The cell under a field name as checks see it: an absent one is an empty text. -/
def Record.value (r : Record) (key : String) : Cell :=
  match r.fields.get? key with
  | none | some .empty => .text ""
  | some cell => cell

/-- **Findings**, the entries of a report. -/
structure Finding where
  message : String
  tab : String
  row : Option Int
  deriving DecidableEq, Repr

/-- The records of an upload by tab. -/
abbrev RecordGroups := List (String × List Record)

namespace RecordGroups

/-- The tabs of some records in the order of their first records. -/
def tabsOf (records : List Record) : List String := (records.map (·.tab)).eraseDups

/-- The records of one tab. -/
def recordsOn (tab : String) (records : List Record) : List Record :=
  records.filter (·.tab == tab)

/-- **Grouping** by tab. -/
def of (records : List Record) : RecordGroups :=
  (tabsOf records).map fun tab => (tab, recordsOn tab records)

/-- The tabs. -/
def tabs (set : RecordGroups) : List String := set.map (·.1)

/-- The records of a tab, none where the tab is missing. -/
def on (set : RecordGroups) (tab : String) : List Record := (set.lookup tab).getD []

@[simp] theorem tabs_of (records : List Record) : (of records).tabs = tabsOf records := by
  simp [of, tabs, Function.comp_def]

theorem mem_tabsOf {tab : String} {records : List Record} :
    tab ∈ tabsOf records ↔ ∃ r ∈ records, r.tab = tab := by
  simp [tabsOf, List.mem_eraseDups]

theorem lookup_map_pair {α : Type} (names : List String) (f : String → α) (name : String) :
    (names.map fun n => (n, f n)).lookup name = if name ∈ names then some (f name) else none := by
  induction names with
  | nil => simp
  | cons n rest ih =>
    by_cases h : name = n
    · simp [h]
    · have hne : (name == n) = false := beq_eq_false_iff_ne.2 h
      simp [List.lookup_cons, hne, ih, h]

/-- The records under a tab of the groups are those that name it, in their order. -/
@[simp] theorem on_of (records : List Record) (tab : String) :
    (of records).on tab = recordsOn tab records := by
  unfold of on
  rw [lookup_map_pair]
  by_cases h : tab ∈ tabsOf records
  · simp [h]
  · -- A tab that no record names has no records.
    have hnone : recordsOn tab records = [] := by
      rw [recordsOn, List.filter_eq_nil_iff]
      intro r hr hrt
      exact h (mem_tabsOf.2 ⟨r, hr, by simpa using hrt⟩)
    simp [h, hnone]

end RecordGroups

end ReportCheck
