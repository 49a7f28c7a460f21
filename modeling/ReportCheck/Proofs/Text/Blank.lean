import ReportCheck.Text.Blank
import ReportCheck.Proofs.Text.Digit
import Mathlib.Data.List.TakeWhile

/-! # Texts between blanks

  Trimming a text takes away the blanks around it and nothing else.

  - `trimBy` is trimming for a class of characters. `trimBy_surrounded`: a text is left of
    itself with characters of the class on both sides; `exists_surrounded`: that is what
    every text looks like.
  - `Starts` and `Ends` say that a text has no blank at its front or at its end;
    `trim_surrounded` is about these.
-/

namespace ReportCheck.Text

/-! ### Blanks -/

theorem digitZeros_apart : ∀ first ∈ digitZeros, 0x21 ≤ first ∧ (first ≤ 0x76 ∨
    0xa1 ≤ first ∧ first ≤ 0x1676 ∨ 0x1681 ≤ first ∧ first ≤ 0x1ff6 ∨ 0x3001 ≤ first) := by
  decide

theorem not_isBlank_of_isDigit {c : Char} (h : isDigit c = true) : isBlank c = false := by
  obtain ⟨first, mem, low, high⟩ := exists_zero_of_isDigit h
  have apart := digitZeros_apart first mem
  simp only [isBlank, Bool.or_eq_false_iff, Bool.and_eq_false_iff, decide_eq_false_iff_not,
    beq_eq_false_iff_ne]
  omega

theorem not_isBlank_of_isAsciiDigit {c : Char} (h : isAsciiDigit c = true) : isBlank c = false :=
  not_isBlank_of_isDigit (isDigit_of_isAsciiDigit h)

/-- The text starts with something. -/
def Starts (cs : List Char) : Prop := ∃ c rest, cs = c :: rest ∧ isBlank c = false

/-- The text ends with something. -/
def Ends (cs : List Char) : Prop := ∃ front c, cs = front ++ [c] ∧ isBlank c = false

theorem Starts.append {cs : List Char} (h : Starts cs) (rest : List Char) : Starts (cs ++ rest) := by
  obtain ⟨c, others, rfl, hc⟩ := h
  exact ⟨c, others ++ rest, rfl, hc⟩

theorem Ends.append {cs : List Char} (front : List Char) (h : Ends cs) : Ends (front ++ cs) := by
  obtain ⟨others, c, rfl, hc⟩ := h
  exact ⟨front ++ others, c, by simp, hc⟩

theorem Ends.cons {cs : List Char} (c : Char) (h : Ends cs) : Ends (c :: cs) := h.append [c]

theorem Starts.trimLeft {cs : List Char} (h : Starts cs) : trimLeft cs = cs := by
  obtain ⟨c, rest, rfl, hc⟩ := h
  exact List.dropWhile_cons_of_neg (by simp [hc])

theorem starts_and_ends {cs : List Char} (h : cs ≠ []) (solid : ∀ c ∈ cs, isBlank c = false) :
    Starts cs ∧ Ends cs := by
  constructor
  · obtain ⟨c, rest, rfl⟩ := List.exists_cons_of_ne_nil h
    exact ⟨c, rest, rfl, solid c (.head _)⟩
  · refine ⟨cs.dropLast, cs.getLast h, (List.dropLast_concat_getLast h).symm, ?_⟩
    exact solid _ (List.getLast_mem h)

/-! ### Trimming -/

/-- The text without the characters of a class at its two ends. -/
def trimBy (p : Char → Bool) (cs : List Char) : List Char :=
  ((cs.dropWhile p).reverse.dropWhile p).reverse

section Surrounded

variable {p : Char → Bool} {left cs right : List Char}

/-- What stands around a text is trimmed, if it starts and ends with something else. -/
theorem trimBy_surrounded (hleft : ∀ c ∈ left, p c = true) (hright : ∀ c ∈ right, p c = true)
    (starts : ∃ c rest, cs = c :: rest ∧ p c = false)
    (ends : ∃ front c, cs = front ++ [c] ∧ p c = false) :
    trimBy p (left ++ cs ++ right) = cs := by
  have dropped : (left ++ cs ++ right).dropWhile p = cs ++ right := by
    obtain ⟨c, rest, rfl, hc⟩ := starts
    rw [List.append_assoc, List.dropWhile_append_of_pos hleft]
    simp [hc]
  obtain ⟨front, c, rfl, hc⟩ := ends
  rw [trimBy, dropped, List.reverse_append,
    List.dropWhile_append_of_pos fun c hc => hright c (List.mem_reverse.1 hc)]
  simp [hc]

theorem exists_dropWhile_eq (p : Char → Bool) (cs : List Char) :
    ∃ right, cs.dropWhile p = trimBy p cs ++ right ∧ ∀ c ∈ right, p c = true := by
  refine ⟨((cs.dropWhile p).reverse.takeWhile p).reverse, ?_, ?_⟩
  · rw [trimBy, ← List.reverse_append, List.takeWhile_append_dropWhile, List.reverse_reverse]
  · intro c hc
    exact List.mem_takeWhile_imp (List.mem_reverse.1 hc)

/-- **Every text** is what trimming leaves, with characters of the class on both sides. -/
theorem exists_surrounded (p : Char → Bool) (cs : List Char) :
    ∃ left right, cs = left ++ trimBy p cs ++ right ∧
      (∀ c ∈ left, p c = true) ∧ ∀ c ∈ right, p c = true := by
  obtain ⟨right, inside, hright⟩ := exists_dropWhile_eq p cs
  refine ⟨cs.takeWhile p, right, ?_, fun c hc => List.mem_takeWhile_imp hc, hright⟩
  rw [List.append_assoc, ← inside, List.takeWhile_append_dropWhile]

/-- **Trimmed texts.** Trimming leaves a text without characters of the class exactly if such
    characters, and no others, stand around it. -/
theorem trimBy_eq_iff {body : List Char} (filled : body ≠ [])
    (solid : ∀ c ∈ body, p c = false) :
    trimBy p cs = body ↔ ∃ left right, cs = left ++ body ++ right ∧
      (∀ c ∈ left, p c = true) ∧ ∀ c ∈ right, p c = true := by
  constructor
  · rintro rfl
    exact exists_surrounded p cs
  · rintro ⟨left, right, rfl, hleft, hright⟩
    refine trimBy_surrounded hleft hright ?_ ?_
    · obtain ⟨c, rest, rfl⟩ := List.exists_cons_of_ne_nil filled
      exact ⟨c, rest, rfl, solid c (.head _)⟩
    · refine ⟨body.dropLast, body.getLast filled, (List.dropLast_concat_getLast filled).symm, ?_⟩
      exact solid _ (List.getLast_mem filled)

/-- **Blanks around a text** are trimmed. -/
theorem trim_surrounded (hleft : ∀ c ∈ left, isBlank c = true)
    (hright : ∀ c ∈ right, isBlank c = true) (starts : Starts cs) (ends : Ends cs) :
    trim (left ++ cs ++ right) = cs :=
  trimBy_surrounded hleft hright starts ends

end Surrounded

theorem trim_of_solid {cs : List Char} (solid : ∀ c ∈ cs, isBlank c = false) : trim cs = cs := by
  by_cases empty : cs = []
  · rw [empty, trim_nil]
  · obtain ⟨starts, ends⟩ := starts_and_ends empty solid
    have none : ∀ c ∈ ([] : List Char), isBlank c = true := fun c hc => nomatch hc
    simpa using trim_surrounded none none starts ends

end ReportCheck.Text
