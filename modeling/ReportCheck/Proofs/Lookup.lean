import Mathlib.Data.List.Nodup

/-! # Looking up names

  Objects, indexes and tables are lists of named values, of which the first one with a
  name counts.
-/

namespace ReportCheck

variable {α β : Type}

theorem mem_of_lookup_eq_some {entries : List (String × α)} {name : String} {a : α}
    (h : entries.lookup name = some a) : (name, a) ∈ entries := by
  obtain ⟨before, after, rfl, -⟩ := List.lookup_eq_some_iff.1 h
  exact List.mem_append_right _ (.head _)

theorem isSome_lookup_iff_mem {entries : List (String × α)} {name : String} :
    (entries.lookup name).isSome = true ↔ name ∈ entries.map (·.1) := by
  rw [List.lookup_isSome_iff, List.mem_map]
  constructor
  · rintro ⟨entry, member, same⟩
    exact ⟨entry, member, (beq_iff_eq.1 same).symm⟩
  · rintro ⟨entry, member, rfl⟩
    exact ⟨entry, member, beq_self_eq_true _⟩

theorem lookup_map_named (f : String → α → β) (entries : List (String × α)) (name : String) :
    (entries.map fun entry => (entry.1, f entry.1 entry.2)).lookup name =
      (entries.lookup name).map (f name) := by
  induction entries with
  | nil => rfl
  | cons entry rest ih =>
    obtain ⟨other, value⟩ := entry
    rw [List.map_cons, List.lookup_cons, List.lookup_cons]
    by_cases h : name = other
    · subst h
      simp
    · rw [beq_eq_false_iff_ne.2 h]
      exact ih

theorem lookup_map_value (f : α → β) (entries : List (String × α)) (name : String) :
    (entries.map fun entry => (entry.1, f entry.2)).lookup name = (entries.lookup name).map f :=
  lookup_map_named (fun _ => f) entries name

theorem lookup_filter_name (chosen : String → Bool) (entries : List (String × α)) (name : String) :
    (entries.filter fun entry => chosen entry.1).lookup name =
      if chosen name then entries.lookup name else none := by
  induction entries with
  | nil => simp
  | cons entry rest ih =>
    obtain ⟨other, value⟩ := entry
    by_cases h : name = other
    · subst h
      by_cases kept : chosen name = true
      · simp [kept]
      · simp [kept] at ih ⊢
        exact ih
    · have differs : (name == other) = false := beq_eq_false_iff_ne.2 h
      by_cases kept : chosen other = true
      · simp [kept, List.lookup_cons, differs, ih]
      · simp [kept, List.lookup_cons, differs, ih]

/-! ### Distinct names -/

section Distinct

variable {entries : List (String × α)} {entry : String × α}

theorem lookup_of_mem (distinct : (entries.map (·.1)).Nodup) (mem : entry ∈ entries) :
    entries.lookup entry.1 = some entry.2 := by
  induction entries with
  | nil => cases mem
  | cons first rest ih =>
    rw [List.map_cons, List.nodup_cons] at distinct
    rcases List.mem_cons.1 mem with rfl | mem
    · rw [List.lookup_cons, beq_self_eq_true]
    · have other : entry.1 ≠ first.1 := by
        intro same
        rw [← same] at distinct
        exact distinct.1 (List.mem_map_of_mem mem)
      rw [List.lookup_cons, beq_eq_false_iff_ne.2 other]
      exact ih distinct.2 mem

theorem lookup_kept (distinct : (entries.map (·.1)).Nodup) (mem : entry ∈ entries)
    (keeps : String × α → Bool) (write : α → β) :
    ((entries.filter keeps).map fun entry => (entry.1, write entry.2)).lookup entry.1 =
      if keeps entry then some (write entry.2) else none := by
  rw [lookup_map_value]
  have sub : ((entries.filter keeps).map (·.1)).Nodup :=
    distinct.sublist (List.filter_sublist.map _)
  split
  · next kept =>
    rw [lookup_of_mem sub (List.mem_filter.2 ⟨mem, kept⟩)]
    rfl
  · next dropped =>
    cases found : (entries.filter keeps).lookup entry.1 with
    | none => rfl
    | some a =>
      -- Another entry of the name would be the same one.
      obtain ⟨there, kept⟩ := List.mem_filter.1 (mem_of_lookup_eq_some found)
      exact absurd (List.inj_on_of_nodup_map distinct there mem rfl ▸ kept) dropped

end Distinct

end ReportCheck
