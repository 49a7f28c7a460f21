import ReportCheck.Context
import ReportCheck.Proofs.Trace

/-! # Normal forms of the inputs of a context

  Inputs come in many forms and are brought into one. Bringing an input into its normal
  form once more changes nothing: each reader returns what it has returned before when it
  is given its own result, written as a value of a document.

  - `TextSet.ofList_toList`: a set of tags is the set of its members.
  - `tagSet_normal`, `fileParts_normal`, `reportingPeriod_normal` and
    `periodSummaries_normal` are the statements for the four readers.
  - `PeriodSummary.Split` is what splitting a flat summary establishes, and what makes
    splitting it again harmless.
-/

namespace ReportCheck

/-! ### Tags -/

theorem TextSet.place_of_lt {s : String} {l : List String} (h : ∀ t ∈ l, s < t) :
    place s l = s :: l := by
  cases l with
  | nil => rfl
  | cons t rest =>
    unfold place
    rw [if_pos (h t (.head _))]

/-- A set is collected from its members. -/
theorem TextSet.ofList_toList (set : TextSet) : ofList set.toList = set := by
  obtain ⟨members, ascending⟩ := set
  have collected : (ofList members).toList = members := by
    induction members with
    | nil => rfl
    | cons s rest ih =>
      -- The first member comes before the set of the others.
      obtain ⟨before, tail⟩ := List.pairwise_cons.1 ascending
      show place s (ofList rest).toList = s :: rest
      rw [ih tail]
      exact place_of_lt before
  cases hset : ofList members with
  | mk toList _ =>
    rw [hset] at collected
    cases collected
    rfl

/-- Tags as a value of a document. -/
def tagsCell : Option TextSet → Cell
  | none => .empty
  | some set => .list (set.toList.map .text)

/-- **Tags** are read back. -/
theorem tagSet_normal (tags : Option TextSet) : (tagsCell tags).tagSet = .ok tags := by
  cases tags with
  | none => rfl
  | some set =>
    show Except.ok (some (TextSet.ofList ((set.toList.map Cell.text).map (·.plain)))) = _
    rw [List.map_map, show ((·.plain) ∘ Cell.text : String → String) = id from rfl, List.map_id,
      TextSet.ofList_toList]

/-! ### Parts of the file's name -/

/-- Parts of the file's name as a value of a document. -/
def filePartsCell (parts : List (String × String)) : Cell :=
  .object (parts.map fun part => (part.1, .text part.2))

/-- **Parts of the file's name** are read back. -/
theorem fileParts_normal (parts : List (String × String)) :
    (filePartsCell parts).fileParts = .ok parts := by
  unfold Cell.fileParts filePartsCell
  split
  · next hfalsy =>
    have hnil : parts = [] := List.map_eq_nil_iff.1 (List.isEmpty_iff.1 hfalsy)
    rw [hnil]
  · show Except.ok ((parts.map fun part => (part.1, Cell.text part.2)).map
      fun member => (member.1, member.2.display)) = _
    rw [List.map_map]
    exact congrArg Except.ok (List.map_id parts)

/-! ### Periods -/

theorem start_le_end_of_reportingPeriod {c : Cell} {p : ReportingPeriod}
    (h : c.reportingPeriod = .ok p) : p.startDate ≤ p.endDate := by
  unfold Cell.reportingPeriod at h
  split at h
  · obtain ⟨startDate, -, h⟩ := Outcome.bind_eq_ok_iff.1 h
    obtain ⟨endDate, -, h⟩ := Outcome.bind_eq_ok_iff.1 h
    obtain ⟨performanceEndDate, -, h⟩ := Outcome.bind_eq_ok_iff.1 h
    split at h
    · next ordered =>
      cases h
      exact ordered
    · exact nomatch h
  · exact nomatch h

/-- A period as a value of a document. -/
def periodCell (p : ReportingPeriod) : Cell :=
  .object [("start_date", .date p.startDate), ("end_date", .date p.endDate),
    ("period_of_performance_end_date", .date p.performanceEndDate)]

/-- **Periods** that are in order are read back. -/
theorem reportingPeriod_normal {p : ReportingPeriod} (ordered : p.startDate ≤ p.endDate) :
    (periodCell p).reportingPeriod = .ok p := by
  show (if p.startDate ≤ p.endDate then Except.ok p
    else Except.error (Failure.context (.reversed p.startDate p.endDate))) = Except.ok p
  rw [if_pos ordered]

/-! ### Summaries -/

namespace PeriodSummary

/-- **Split summaries.** No attribute is named like an amount, and the amounts are
    finite. -/
structure Split (s : PeriodSummary) : Prop where
  attributes : ∀ entry ∈ s.attributes, amountName? entry.1 = none
  current : ∀ entry ∈ s.current, entry.2.isFinite = true

theorem isFinite_of_amountOf? {name field : String} {value : Cell} {amount : Decimal}
    (h : amountOf? name value = some (field, amount)) : amount.isFinite = true := by
  unfold amountOf? at h
  obtain ⟨read, -, h⟩ := Option.bind_eq_some_iff.1 h
  split at h
  · exact nomatch h
  · obtain ⟨found, -, h⟩ := Option.bind_eq_some_iff.1 h
    split at h
    · next hfinite =>
      cases h
      exact hfinite
    · exact nomatch h

theorem split_ofFlat (flat : Members) : (ofFlat flat).Split := by
  constructor
  · intro entry hentry
    exact Option.isNone_iff_eq_none.1 (List.mem_filter.1 hentry).2
  · rintro ⟨field, amount⟩ hentry
    obtain ⟨member, -, hamount⟩ := List.mem_filterMap.1 hentry
    exact isFinite_of_amountOf? hamount

theorem amountName?_marked (field : String) :
    amountName? (String.ofList (currentMark ++ field.toList)) = some field := by
  unfold amountName?
  rw [String.toList_ofList]
  simp

theorem amountOf?_marked (field : String) {amount : Decimal} (finite : amount.isFinite = true) :
    amountOf? (String.ofList (currentMark ++ field.toList)) (.decimal amount) =
      some (field, amount) := by
  unfold amountOf?
  rw [amountName?_marked]
  show (if amount.isFinite then some (field, amount) else none) = _
  rw [if_pos finite]

theorem amountOf?_of_attribute {name : String} (h : amountName? name = none) (value : Cell) :
    amountOf? name value = none := by
  unfold amountOf?
  rw [h]
  rfl

/-- **Splitting again.** The flat form of a split summary is split into the same. -/
theorem ofFlat_toFlat {s : PeriodSummary} (h : s.Split) : ofFlat s.toFlat = s := by
  obtain ⟨attributes, current⟩ := s
  obtain ⟨hattributes, hcurrent⟩ := h
  -- The names without the mark are those of the attributes, the marked ones those of
  -- the amounts.
  have named : (toFlat ⟨attributes, current⟩).filter (fun entry => (amountName? entry.1).isNone) =
      attributes := by
    unfold toFlat
    rw [List.filter_append]
    have all : attributes.filter (fun entry => (amountName? entry.1).isNone) = attributes := by
      refine List.filter_eq_self.2 fun entry hentry => ?_
      rw [hattributes entry hentry]
      rfl
    rw [all, List.append_right_eq_self, List.filter_eq_nil_iff]
    intro entry hentry
    obtain ⟨⟨field, amount⟩, -, rfl⟩ := List.mem_map.1 hentry
    rw [amountName?_marked]
    exact Bool.false_ne_true
  have marked : (toFlat ⟨attributes, current⟩).filterMap (fun entry => amountOf? entry.1 entry.2) =
      current := by
    unfold toFlat
    rw [List.filterMap_append, List.filterMap_map]
    have none : attributes.filterMap (fun entry => amountOf? entry.1 entry.2) = [] :=
      List.filterMap_eq_nil_iff.2 fun entry hentry =>
        amountOf?_of_attribute (hattributes entry hentry) entry.2
    rw [none, List.nil_append]
    calc current.filterMap _
        = current.filterMap some := List.filterMap_congr fun entry hentry =>
          amountOf?_marked entry.1 (hcurrent entry hentry)
      _ = current := List.filterMap_some
  show PeriodSummary.mk _ _ = _
  exact congrArg₂ PeriodSummary.mk named marked

end PeriodSummary

/-- Summaries as a value of a document. -/
def summariesCell (summaries : List PeriodSummary) : Cell :=
  .list (summaries.map fun s => .object s.toFlat)

/-- **Summaries** that are split are read back. -/
theorem periodSummaries_normal {summaries : List PeriodSummary} (split : ∀ s ∈ summaries, s.Split) :
    (summariesCell summaries).periodSummaries = .ok summaries := by
  have each : (summaries.map fun s => Cell.object s.toFlat).mapM Cell.periodSummary =
      .ok summaries := by
    induction summaries with
    | nil => rfl
    | cons s rest ih =>
      -- Each summary is flattened and split on its own.
      rw [List.map_cons, List.mapM_cons, ih fun other hother => split other (.tail _ hother)]
      show Except.ok (PeriodSummary.ofFlat s.toFlat :: rest) = _
      rw [PeriodSummary.ofFlat_toFlat (split s (.head _))]
  unfold Cell.periodSummaries summariesCell
  split
  · next hfalsy =>
    have hnil : summaries = [] := List.map_eq_nil_iff.1 (List.isEmpty_iff.1 hfalsy)
    rw [hnil]
  · exact each

end ReportCheck
