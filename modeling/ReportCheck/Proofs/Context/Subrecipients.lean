import ReportCheck.Context.Subrecipient
import ReportCheck.Proofs.Lookup
import ReportCheck.Proofs.Cell.Written
import Mathlib.Data.List.Induction

/-! # Known subrecipients

  The index of the subrecipients of an upload knows exactly the identifiers of the
  records that it was made from, in whichever order they came.

  - `lookup_addTo` and `keys_addTo` say what one record adds to an index.
  - `keys_lookup` and `lookup_lookup`, by induction over the records, say what the whole index
    holds: the distinct identifiers in the order in which they come, and for each the first
    record that has it.
  - `isSome_lookup_iff` leaves out the order.
  - `key?_ne_empty`: an identifier is never the empty text.
-/

namespace ReportCheck.Subrecipient

variable {records : List Record} {name : String}

/-! ### Adding a record -/

variable {index : List (String × Members)} {record : Record} {key : String}

theorem addTo_of_none (hkey : key? record.fields = none) : addTo index record = index := by
  unfold addTo
  rw [hkey]

theorem addTo_of_known (hkey : key? record.fields = some key)
    (known : (index.lookup key).isSome = true) : addTo index record = index := by
  unfold addTo
  rw [hkey]
  exact if_pos known

theorem addTo_of_new (hkey : key? record.fields = some key)
    (new : ¬ (index.lookup key).isSome = true) :
    addTo index record = index ++ [(key, record.fields)] := by
  unfold addTo
  rw [hkey]
  exact if_neg new

/-- The identifier of a record that is added becomes known with the fields of the record, unless it
    is known already. -/
theorem lookup_addTo (index : List (String × Members)) (record : Record) (name : String) :
    (addTo index record).lookup name =
      (index.lookup name).or (if key? record.fields = some name then some record.fields else none) := by
  cases hkey : key? record.fields with
  | none => simp [addTo_of_none hkey]
  | some key =>
    by_cases known : (index.lookup key).isSome = true
    · rw [addTo_of_known hkey known]
      by_cases same : key = name
      · rw [← same, Option.or_of_isSome known]
      · simp [same]
    · rw [addTo_of_new hkey known, List.lookup_append]
      by_cases same : key = name
      · simp [same]
      · have other : (name == key) = false := beq_eq_false_iff_ne.2 (Ne.symm same)
        simp [List.lookup_cons, other, same]

/-- The identifier of a record that is added comes last, unless it is known already. -/
theorem keys_addTo (index : List (String × Members)) (record : Record) :
    (addTo index record).map (·.1) =
      index.map (·.1) ++ (key? record.fields).toList.removeAll (index.map (·.1)) := by
  cases hkey : key? record.fields with
  | none => simp [addTo_of_none hkey, List.removeAll]
  | some key =>
    by_cases known : (index.lookup key).isSome = true
    · rw [addTo_of_known hkey known]
      simp [List.removeAll, isSome_lookup_iff_mem.1 known]
    · rw [addTo_of_new hkey known]
      simp [List.removeAll, mt isSome_lookup_iff_mem.2 known]

theorem lookup_concat (records : List Record) (record : Record) :
    lookup (records ++ [record]) = addTo (lookup records) record :=
  List.foldl_concat addTo [] record records

/-! ### The index -/

/-- **Identifiers** of some records, one for each record that has one. -/
def names (records : List Record) : List String := records.filterMap fun r => key? r.fields

theorem removeAll_eraseDups (found : Option String) (known : List String) :
    found.toList.removeAll known.eraseDups = (found.toList.removeAll known).eraseDups := by
  cases found with
  | none => rfl
  | some name =>
    by_cases h : name ∈ known
    · simp [List.removeAll, h]
    · simp [List.removeAll, h, List.eraseDups_cons]

/-- **Known identifiers**, in the order of their first occurrence. -/
theorem keys_lookup (records : List Record) :
    (lookup records).map (·.1) = (names records).eraseDups := by
  induction records using List.reverseRecOn with
  | nil => rfl
  | append_singleton records record ih =>
    have last : names (records ++ [record]) = names records ++ (key? record.fields).toList := by
      unfold names
      rw [List.filterMap_append]
      cases hkey : key? record.fields with
      | none => simp [hkey]
      | some key => simp [hkey]
    rw [lookup_concat, keys_addTo, ih, last, List.eraseDups_append, removeAll_eraseDups]

/-- **First records.** An identifier leads to the first record that has it. -/
theorem lookup_lookup (records : List Record) (name : String) :
    (lookup records).lookup name =
      (records.find? fun r => key? r.fields == some name).map (·.fields) := by
  induction records using List.reverseRecOn with
  | nil => rfl
  | append_singleton records record ih =>
    rw [lookup_concat, lookup_addTo, ih, List.find?_append, Option.map_or]
    by_cases h : key? record.fields = some name
    · simp [h]
    · simp [h]

/-- **Known subrecipients.** An identifier is in the index of some records exactly if it
    is that of one of them. -/
theorem isSome_lookup_iff :
    ((lookup records).lookup name).isSome = true ↔
      ∃ r ∈ records, key? r.fields = some name := by
  rw [lookup_lookup, Option.isSome_map, List.find?_isSome]
  simp only [beq_iff_eq]

/-- An identifier is not empty, since it is what a field displays that is not blank. -/
theorem key?_ne_empty (fields : Members) : key? fields ≠ some "" := by
  unfold key?
  intro h
  obtain ⟨field, found, shown⟩ := Option.map_eq_some_iff.1 h
  have filled : (fields.getD field).isBlank = false := by
    simpa using List.find?_some found
  exact Cell.display_ne_empty filled shown

end ReportCheck.Subrecipient
