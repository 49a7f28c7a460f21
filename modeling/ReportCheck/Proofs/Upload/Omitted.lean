import ReportCheck.Proofs.Lookup
import ReportCheck.Proofs.Upload.Manifest

/-! # Members that hold nothing

  A member of a manifest may be given as nothing or be left out. For most members this is
  the same. But tags, fields and rows have a second name, which counts only if the first one
  is left out: nothing under the first name hides what stands under the second. The second
  name of a tab counts in either case.

  - `Omission` says which members that hold nothing are left out of a manifest, of its
    reporting period and of its records. `Omission.apply` leaves them out.
  - `Omission.Uncovers`: the omission leaves out a first name where something stands under
    the second.
  - `readRecord_without` and `not_uncovers_of_readRecord` are about a record: it is read as
    before unless something is uncovered in it. `readRecords_entries` and `ofMembers_apply`
    say so of the records in turn and of a manifest; `ofCell_apply` is the result.
-/

namespace ReportCheck

open Outcome

/-! ### Leaving members out -/

namespace Members

/-- Whether a member is taken: it is chosen by its name, and it holds nothing. -/
def takes (chosen : String → Bool) (members : Members) (name : String) : Bool :=
  chosen name && members.get? name == some .empty

/-- **Without** the members that are taken. -/
def without (chosen : String → Bool) (members : Members) : Members :=
  members.filter fun member => !members.takes chosen member.1

theorem get?_of_takes {chosen : String → Bool} {members : Members} {name : String}
    (taken : members.takes chosen name = true) : members.get? name = some .empty :=
  eq_of_beq (Bool.and_eq_true_iff.1 taken).2

theorem get?_without (chosen : String → Bool) (members : Members) (name : String) :
    (members.without chosen).get? name =
      if members.takes chosen name then none else members.get? name := by
  have kept := lookup_filter_name (fun key => !members.takes chosen key) members name
  by_cases taken : members.takes chosen name = true
  · rw [taken] at kept ⊢
    exact kept
  · rw [eq_false_of_ne_true taken] at kept ⊢
    exact kept

@[simp] theorem getD_without (chosen : String → Bool) (members : Members) (name : String) :
    (members.without chosen).getD name = members.getD name := by
  have read : ∀ all : Members, all.getD name = (all.get? name).getD .empty := fun _ => rfl
  rw [read, read, get?_without]
  split
  · next taken => rw [get?_of_takes taken]; rfl
  · rfl

end Members

/-- An object without the taken members. -/
def Cell.without (chosen : String → Bool) : Cell → Cell
  | .object members => .object (Members.without chosen members)
  | c => c

namespace Manifest

/-- **Omissions** from a manifest: the names of the members that are left out of it, of its
    reporting period, and of each record in turn, if they hold nothing. -/
structure Omission where
  top : String → Bool
  period : String → Bool
  entry : Nat → String → Bool

namespace Omission

variable (o : Omission)

/-- Records after an omission. -/
def entries : Cell → Cell
  | .list items => .list (items.mapIdx fun i item => item.without (o.entry i))
  | c => c

/-- The value of a member after an omission. -/
def value (name : String) (c : Cell) : Cell :=
  if name = "reporting_period" then c.without o.period
  else if name = "records" then o.entries c
  else c

/-- **Leaving out** what an omission takes. -/
def apply (members : Members) : Members :=
  (members.without o.top).map fun member => (member.1, o.value member.1 member.2)

theorem getD_apply (members : Members) (name : String) :
    (o.apply members).getD name = o.value name (members.getD name) := by
  have nothing : o.value name .empty = .empty := by
    unfold value
    split
    · rfl
    · split
      · rfl
      · rfl
  have found : (o.apply members).getD name =
      (((members.without o.top).lookup name).map (o.value name)).getD .empty := by
    unfold Members.getD apply
    rw [lookup_map_named]
  rw [found, ← Members.getD_without o.top members name]
  unfold Members.getD
  cases (members.without o.top).lookup name with
  | none => exact nothing.symm
  | some c => rfl

theorem getD_apply_of_ne (members : Members) {name : String} (period : name ≠ "reporting_period")
    (records : name ≠ "records") : (o.apply members).getD name = members.getD name := by
  rw [getD_apply]
  unfold value
  rw [if_neg period, if_neg records]

end Omission

/-! ### Second names -/

section Names

variable {chosen : String → Bool} {members : Members} {name other : String}

theorem getEither_of_takes (taken : members.takes chosen name = true) :
    getEither members name other = .empty := by
  unfold getEither
  rw [Members.get?_of_takes taken]
  rfl

theorem getEither_without_of_takes (taken : members.takes chosen name = true) :
    getEither (members.without chosen) name other = members.getD other := by
  unfold getEither
  rw [Members.get?_without, if_pos taken, Members.getD_without]
  rfl

theorem getEither_without_of_not_takes (untaken : members.takes chosen name = false) :
    getEither (members.without chosen) name other = getEither members name other := by
  unfold getEither
  rw [Members.get?_without, untaken, Members.getD_without]
  rfl

end Names

/-! ### Records -/

/-- **Uncovered names** of a record: fields or a row that hold nothing are taken away, and there
    is something under their second name. -/
inductive UncoversIn (chosen : String → Bool) (record : Members) : Prop
  | fields (taken : record.takes chosen "fields" = true)
      (other : (record.getD "content").isFalsy = false)
  | row (taken : record.takes chosen "row" = true) (other : record.getD "sourceRow" ≠ .empty)

section Record

variable {chosen : String → Bool} {record : Members}

@[simp] theorem tabOf_without : tabOf (record.without chosen) = tabOf record := by
  unfold tabOf
  simp only [Members.getD_without]

theorem readFields_without (tab : Cell) (covered : ¬ UncoversIn chosen record) :
    readFields tab (getEither (record.without chosen) "fields" "content") =
      readFields tab (getEither record "fields" "content") := by
  cases taken : record.takes chosen "fields" with
  | false => rw [getEither_without_of_not_takes taken]
  | true =>
    rw [getEither_without_of_takes taken, getEither_of_takes taken]
    -- What stands under the second name counts as absent, too.
    have absent : (record.getD "content").isFalsy = true := by
      by_contra other
      exact covered (.fields taken (eq_false_of_ne_true other))
    unfold readFields
    rw [if_pos absent]
    rfl

theorem readRow_without (tab : Cell) (covered : ¬ UncoversIn chosen record) :
    readRow tab (getEither (record.without chosen) "row" "sourceRow") =
      readRow tab (getEither record "row" "sourceRow") := by
  cases taken : record.takes chosen "row" with
  | false => rw [getEither_without_of_not_takes taken]
  | true =>
    rw [getEither_without_of_takes taken, getEither_of_takes taken]
    by_cases other : record.getD "sourceRow" = .empty
    · rw [other]
    · exact absurd (.row taken other) covered

/-- **Records** are read as before unless an omission uncovers something in them. -/
theorem readRecord_without (covered : ¬ UncoversIn chosen record) :
    readRecord (.object (record.without chosen)) = readRecord (.object record) := by
  unfold readRecord
  simp only [tabOf_without]
  rw [readFields_without _ covered, readRow_without _ covered]

theorem readFields_ne_nil {tab c : Cell} (given : c.isFalsy = false) :
    readFields tab c ≠ .ok [] := by
  unfold readFields
  rw [given]
  cases c with
  | object members =>
    intro h
    cases h
    exact nomatch given
  | _ => exact fun h => nomatch h

theorem readRow_ne_none {tab c : Cell} (given : c ≠ .empty) : readRow tab c ≠ .ok none := by
  unfold readRow
  split
  · exact absurd rfl given
  · split
    · exact fun h => nomatch h
    · exact fun h => nomatch h
    · exact fun h => nomatch h

/-- A record that is read with and without the members that are taken is not the same if
    something is uncovered in it. -/
theorem not_uncovers_of_readRecord {r : Record} (h : readRecord (.object record) = .ok r)
    (h' : readRecord (.object (record.without chosen)) = .ok r) : ¬ UncoversIn chosen record := by
  obtain ⟨-, -, hfields, hrow⟩ := readRecord_eq_ok_iff.1 h
  obtain ⟨-, -, hfields', hrow'⟩ := readRecord_eq_ok_iff.1 h'
  intro uncovers
  cases uncovers with
  | fields taken other =>
    rw [getEither_of_takes taken] at hfields
    rw [getEither_without_of_takes taken, ← hfields] at hfields'
    exact readFields_ne_nil other hfields'
  | row taken other =>
    rw [getEither_of_takes taken] at hrow
    rw [getEither_without_of_takes taken, ← hrow] at hrow'
    exact readRow_ne_none other hrow'

end Record

/-! ### Lists of records -/

section Records

variable {o : Omission} {items : List Cell}

/-- **Uncovered names** in the records of a manifest. -/
def UncoversEntry (o : Omission) (items : List Cell) : Prop :=
  ∃ (i : Nat) (record : Members), items[i]? = some (.object record) ∧
    UncoversIn (o.entry i) record

/-- Lists of records are read as before unless something is uncovered. -/
theorem readRecords_entries (covered : ¬ UncoversEntry o items) :
    readRecords (o.entries (.list items)) = readRecords (.list items) := by
  refine mapM_mapIdx fun i item hitem => ?_
  cases item with
  | object record => exact readRecord_without fun uncovers => covered ⟨i, record, hitem, uncovers⟩
  | _ => rfl

theorem not_uncovers_of_readRecords {records : List Record}
    (h : readRecords (.list items) = .ok records)
    (h' : readRecords (o.entries (.list items)) = .ok records) : ¬ UncoversEntry o items := by
  rintro ⟨i, record, hitem, uncovers⟩
  have hitem' : (items.mapIdx fun i item => item.without (o.entry i))[i]? =
      some (.object (record.without (o.entry i))) := by
    rw [List.getElem?_mapIdx, hitem]
    rfl
  obtain ⟨r, hr, read⟩ := getElem?_of_mapM (show items.mapM readRecord = _ from h) hitem
  obtain ⟨r', hr', read'⟩ := getElem?_of_mapM
    (show (items.mapIdx fun i item => item.without (o.entry i)).mapM readRecord = _ from h') hitem'
  cases hr.symm.trans hr'
  exact not_uncovers_of_readRecord read read' uncovers

end Records

/-! ### Manifests -/

/-- **Uncovered names** of a manifest: tags that hold nothing are taken away from its period,
    and there are others at its top; or something is uncovered in one of its records. -/
inductive Omission.Uncovers (o : Omission) (members : Members) : Prop
  | tags {periodMembers : Members} (period : members.getD "reporting_period" = .object periodMembers)
      (taken : periodMembers.takes o.period "validation_rule_tags" = true)
      (other : members.getD "tags" ≠ .empty)
  | records {items : List Cell} (records : members.getD "records" = .list items)
      (entry : UncoversEntry o items)

theorem tagSet_ne_none {c : Cell} (given : c ≠ .empty) : c.tagSet ≠ .ok none := by
  unfold Cell.tagSet
  split
  · exact absurd rfl given
  · exact fun h => nomatch h
  · split
    · exact fun h => nomatch h
    · exact fun h => nomatch h

section Document

variable {o : Omission} {members periodMembers : Members}

theorem readPeriod_without (chosen : String → Bool) :
    readPeriod (.object (periodMembers.without chosen)) = readPeriod (.object periodMembers) := by
  have dates : ∀ name, Cell.periodDate (periodMembers.without chosen) name =
      Cell.periodDate periodMembers name := by
    intro name
    unfold Cell.periodDate
    rw [Members.getD_without]
  unfold readPeriod Cell.reportingPeriod
  simp only [dates]

theorem tagsOf_apply_of_takes
    (taken : periodMembers.takes o.period "validation_rule_tags" = true) :
    tagsOf (o.apply members) (periodMembers.without o.period) = members.getD "tags" := by
  unfold tagsOf
  rw [Members.get?_without, if_pos taken, o.getD_apply_of_ne members (by decide) (by decide)]
  rfl

theorem tagsOf_apply (period : members.getD "reporting_period" = .object periodMembers)
    (covered : ¬ o.Uncovers members) :
    tagsOf (o.apply members) (periodMembers.without o.period) = tagsOf members periodMembers := by
  cases taken : periodMembers.takes o.period "validation_rule_tags" with
  | false =>
    unfold tagsOf
    rw [Members.get?_without, taken, o.getD_apply_of_ne members (by decide) (by decide)]
    rfl
  | true =>
    have absent : members.getD "tags" = .empty := by
      by_contra other
      exact covered (.tags period taken other)
    rw [tagsOf_apply_of_takes taken, absent]
    unfold tagsOf
    rw [Members.get?_of_takes taken]
    rfl

theorem readRecords_apply (covered : ¬ o.Uncovers members) :
    readRecords ((o.apply members).getD "records") = readRecords (members.getD "records") := by
  rw [o.getD_apply]
  cases given : members.getD "records" with
  | list items => exact readRecords_entries fun entry => covered (.records given entry)
  | _ => rfl

/-- **Members** of a manifest are read as before unless something is uncovered. -/
theorem ofMembers_apply (period : members.getD "reporting_period" = .object periodMembers)
    (covered : ¬ o.Uncovers members) :
    ofMembers (o.apply members) (periodMembers.without o.period) =
      ofMembers members periodMembers := by
  have tags := tagsOf_apply period covered
  unfold tagsOf at tags
  unfold ofMembers
  simp only
  rw [readPeriod_without, tags, readRecords_apply covered,
    o.getD_apply_of_ne members (by decide) (by decide),
    o.getD_apply_of_ne members (by decide) (by decide),
    o.getD_apply_of_ne members (by decide) (by decide),
    o.getD_apply_of_ne members (by decide) (by decide)]

theorem period_apply : (o.apply members).getD "reporting_period" =
    (members.getD "reporting_period").without o.period := o.getD_apply members _

theorem ofCell_apply_of_covered (covered : ¬ o.Uncovers members) :
    ofCell (.object (o.apply members)) = ofCell (.object members) := by
  unfold ofCell
  simp only
  rw [period_apply]
  cases period : members.getD "reporting_period" with
  | object periodMembers => exact ofMembers_apply period covered
  | _ => rfl

/-- **Uncovered names change what is read.** -/
theorem not_uncovers_of_readFrom {m : Manifest} (read : ReadFrom members periodMembers m)
    (read' : ReadFrom (o.apply members) (periodMembers.without o.period) m)
    (period : members.getD "reporting_period" = .object periodMembers) : ¬ o.Uncovers members := by
  intro uncovers
  cases uncovers with
  | tags given taken other =>
    cases period.symm.trans given
    have before := read.tags
    have after := read'.tags
    rw [tagsOf_apply_of_takes taken, ← before] at after
    unfold tagsOf at after
    rw [Members.get?_of_takes taken] at after
    exact tagSet_ne_none other after
  | records given entry =>
    have before := read.records
    have after := read'.records
    rw [o.getD_apply, given] at after
    rw [given] at before
    exact not_uncovers_of_readRecords before after entry

theorem not_uncovers_of_accepted {m : Manifest} (accepted : ofCell (.object members) = .ok m)
    (accepted' : ofCell (.object (o.apply members)) = .ok m) : ¬ o.Uncovers members := by
  obtain ⟨_, periodMembers, hmembers, period, read⟩ := exists_readFrom accepted
  cases hmembers
  obtain ⟨_, periodMembers', hmembers', period', read'⟩ := exists_readFrom accepted'
  cases hmembers'
  rw [period_apply, period] at period'
  cases period'
  exact not_uncovers_of_readFrom read read' period

end Document

/-- **Left out or given as nothing.** Leaving members that hold nothing out of a manifest, its
    period and its records changes neither what is read nor how the reading fails, unless this
    uncovers a second name. If it does, an accepted manifest is not read as before. -/
theorem ofCell_apply (o : Omission) (members : Members) :
    (¬ o.Uncovers members → ofCell (.object (o.apply members)) = ofCell (.object members)) ∧
      ∀ m, ofCell (.object members) = .ok m →
        (ofCell (.object (o.apply members)) = .ok m ↔ ¬ o.Uncovers members) := by
  refine ⟨ofCell_apply_of_covered, fun m accepted => ⟨not_uncovers_of_accepted accepted, ?_⟩⟩
  intro covered
  rw [ofCell_apply_of_covered covered, accepted]

/-- Everything that holds nothing. -/
def Omission.everything : Omission where
  top := fun _ => true
  period := fun _ => true
  entry := fun _ _ => true

/-- The days of a period, and tags that hold nothing. -/
def periodWithoutTags : Members :=
  [ ("start_date", .text "2020-03-01"), ("end_date", .text "2020-09-30"),
    ("period_of_performance_end_date", .text "2020-12-30"), ("validation_rule_tags", .empty) ]

/-- A manifest with second names under which something stands. -/
def secondNames : Members :=
  [ ("file_parts", .empty), ("reporting_period", .object periodWithoutTags),
    ("records", .list [.object
      [ ("tab", .empty), ("type", .text "cover"), ("sourceRow", .text "2"),
        ("content", .object [("agency code", .text "012")]) ]]) ]

/-- Nothing is uncovered in it, and it is read as before. -/
theorem ofCell_apply_of_second_names :
    ¬ Omission.everything.Uncovers secondNames ∧
      ∃ m, ofCell (.object secondNames) = .ok m ∧
        ofCell (.object (Omission.everything.apply secondNames)) = .ok m := by
  have covered : ¬ Omission.everything.Uncovers secondNames := by
    intro uncovers
    cases uncovers with
    | tags period taken other => exact other rfl
    | records records entry =>
      cases records
      obtain ⟨i, record, at_i, uncovers⟩ := entry
      cases i with
      | zero =>
        cases at_i
        cases uncovers with
        | fields taken other => exact nomatch taken
        | row taken other => exact nomatch taken
      | succ i => exact nomatch at_i
  exact ⟨covered, _, rfl, ((ofCell_apply Omission.everything secondNames).2 _ rfl).2 covered⟩

/-- A manifest with tags at its top, while those of its period hold nothing. -/
def hiddenTags : Members :=
  [ ("reporting_period", .object periodWithoutTags), ("tags", .list [.text "cumulative"]),
    ("records", .list []) ]

/-- **Hidden tags.** Leaving out tags that hold nothing is not the same as giving them. -/
theorem hidden_tags_uncovered :
    ¬ ∀ (o : Omission) (members : Members) (m : Manifest), ofCell (.object members) = .ok m →
      ofCell (.object (o.apply members)) = .ok m := by
  intro same
  obtain ⟨m, accepted⟩ : ∃ m, ofCell (.object hiddenTags) = .ok m := ⟨_, rfl⟩
  have uncovers : Omission.everything.Uncovers hiddenTags :=
    .tags rfl rfl fun nothing => nomatch nothing
  exact not_uncovers_of_accepted accepted (same _ _ m accepted) uncovers

end Manifest

end ReportCheck
