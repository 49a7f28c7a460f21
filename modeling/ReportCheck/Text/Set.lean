/-! # Sets of texts

  Tags and the entries of reference lists are sets of texts, kept in ascending order
  without repetition, so that a set has one form only.

  - `TextSet.ofList` collects a list; `TextSet.mem_ofList` says that it keeps the
    members and adds none.
-/

namespace ReportCheck

/-- **Sets of texts.** -/
structure TextSet where
  toList : List String
  /-- The members ascend by code points. -/
  ascending : toList.Pairwise (· < ·)
  deriving DecidableEq, Repr

namespace TextSet

/-- Puts a text into its place in an ascending list. -/
def place (s : String) : List String → List String
  | [] => [s]
  | t :: rest => if s < t then s :: t :: rest else if s = t then t :: rest else t :: place s rest

theorem mem_place {s t : String} {l : List String} : t ∈ place s l ↔ t = s ∨ t ∈ l := by
  induction l with
  | nil => simp [place]
  | cons u rest ih =>
    simp only [place]
    split
    · simp
    · split
      · next e => subst e; simp
      · simp only [List.mem_cons, ih]
        constructor
        · rintro (h | h | h) <;> simp [h]
        · rintro (h | h | h) <;> simp [h]

theorem pairwise_place {s : String} {l : List String} (h : l.Pairwise (· < ·)) :
    (place s l).Pairwise (· < ·) := by
  induction l with
  | nil => simp [place]
  | cons t rest ih =>
    obtain ⟨before, tail⟩ := List.pairwise_cons.1 h
    simp only [place]
    split
    · next hst =>
      refine List.pairwise_cons.2 ⟨fun u hu => ?_, h⟩
      rcases List.mem_cons.1 hu with rfl | hu
      · exact hst
      · exact String.lt_trans hst (before u hu)
    · next hst =>
      split
      · exact h
      · next hne =>
        refine List.pairwise_cons.2 ⟨fun u hu => ?_, ih tail⟩
        rcases mem_place.1 hu with rfl | hu
        · exact Std.lt_of_le_of_ne (String.not_lt.1 hst) (fun e => hne e.symm)
        · exact before u hu

/-- The empty set. -/
def empty : TextSet := ⟨[], .nil⟩

instance : Inhabited TextSet := ⟨empty⟩

/-- Adds a text. -/
def insert (s : String) (set : TextSet) : TextSet := ⟨place s set.toList, pairwise_place set.ascending⟩

/-- The set of the texts in a list. -/
def ofList (l : List String) : TextSet := l.foldr insert empty

/-- Whether a text is a member. -/
def contains (set : TextSet) (s : String) : Bool := set.toList.contains s

/-- Whether there are no members. -/
def isEmpty (set : TextSet) : Bool := set.toList.isEmpty

/-- Whether two sets have no member in common. -/
def isDisjoint (a b : TextSet) : Bool := a.toList.all fun s => !b.contains s

theorem mem_ofList {s : String} {l : List String} : s ∈ (ofList l).toList ↔ s ∈ l := by
  induction l with
  | nil => simp [ofList, empty]
  | cons t rest ih =>
    have : (ofList (t :: rest)).toList = place t (ofList rest).toList := rfl
    rw [this, mem_place, ih, List.mem_cons]

@[simp] theorem contains_iff_mem {set : TextSet} {s : String} :
    set.contains s = true ↔ s ∈ set.toList := by
  simp [contains]

theorem isDisjoint_eq_false_iff {a b : TextSet} :
    a.isDisjoint b = false ↔ ∃ s, s ∈ a.toList ∧ s ∈ b.toList := by
  simp [isDisjoint]

end TextSet

end ReportCheck
