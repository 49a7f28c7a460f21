import ReportCheck.Number.Binary64
import ReportCheck.Proofs.Text.Digit

/-! # Underscores between digits

  The digits of a number may be grouped by single underscores, which are dropped before the number
  is read.

  - `Text.Grouped` relates what may follow a digit to the digits in it, and
    `dropUnderscores?_true_iff` says that these are what is left of it.
  - `dropUnderscores?_of_not_mem`: where there are none, nothing is dropped.
-/

namespace ReportCheck

open Text

/-- **Grouped digits**: what may follow a digit, and the digits in it. An underscore stands in
    front of a digit. -/
inductive Text.Grouped : List Char → List Char → Prop
  | nil : Grouped [] []
  | digit {c : Char} {cs digits : List Char} (digit : isDigit c = true) (rest : Grouped cs digits) :
      Grouped (c :: cs) (c :: digits)
  | apart {c : Char} {cs digits : List Char} (digit : isDigit c = true) (rest : Grouped cs digits) :
      Grouped ('_' :: c :: cs) (c :: digits)

namespace Binary64

variable {c : Char} {cs digits : List Char}

theorem dropUnderscores?_cons (afterDigit : Bool) (h : c ≠ '_') :
    dropUnderscores? afterDigit (c :: cs) = (dropUnderscores? (isDigit c) cs).map (c :: ·) := by
  rw [dropUnderscores?.eq_def]
  simp [h]

theorem dropUnderscores?_underscore (afterDigit : Bool) :
    dropUnderscores? afterDigit ('_' :: cs) = match cs with
      | [] => none
      | c :: rest =>
        if afterDigit && isDigit c then (dropUnderscores? true rest).map (c :: ·) else none := by
  rw [dropUnderscores?.eq_def]
  cases cs <;> simp

/-- **Texts without underscores** are kept. -/
theorem dropUnderscores?_of_not_mem (afterDigit : Bool) (h : '_' ∉ cs) :
    dropUnderscores? afterDigit cs = some cs := by
  induction cs generalizing afterDigit with
  | nil => rfl
  | cons c rest ih =>
    rw [List.mem_cons, not_or] at h
    obtain ⟨first, others⟩ := h
    rw [dropUnderscores?_cons afterDigit (Ne.symm first), ih _ others]
    rfl

theorem dropUnderscores?_false_eq_cons {kept : List Char} :
    dropUnderscores? false cs = some (c :: kept) ↔
      ∃ rest, cs = c :: rest ∧ c ≠ '_' ∧ dropUnderscores? (isDigit c) rest = some kept := by
  constructor
  · intro h
    cases cs with
    | nil => cases h
    | cons first rest =>
      by_cases hfirst : first = '_'
      · rw [hfirst, dropUnderscores?_underscore] at h
        cases rest with
        | nil => cases h
        | cons second others => cases h
      · rw [dropUnderscores?_cons false hfirst] at h
        obtain ⟨kept', hkept, heq⟩ := Option.map_eq_some_iff.1 h
        cases heq
        exact ⟨rest, rfl, hfirst, hkept⟩
  · rintro ⟨rest, rfl, hc, hkept⟩
    rw [dropUnderscores?_cons false hc, hkept]
    rfl

theorem ne_underscore_of_isDigit (h : isDigit c = true) : c ≠ '_' := by
  rintro rfl
  exact absurd h (by decide)

/-- **Grouped digits** are what leaves nothing but digits behind a digit. -/
theorem dropUnderscores?_true_iff :
    (dropUnderscores? true cs = some digits ∧ ∀ c ∈ digits, isDigit c = true) ↔
      Grouped cs digits := by
  constructor
  · rintro ⟨h, all⟩
    -- One step takes a character, or an underscore and the digit behind it.
    induction hn : cs.length using Nat.strong_induction_on generalizing cs digits with
    | _ n ih =>
      cases cs with
      | nil =>
        cases h
        exact .nil
      | cons first rest =>
        by_cases hfirst : first = '_'
        · rw [hfirst, dropUnderscores?_underscore] at h
          cases rest with
          | nil => cases h
          | cons second others =>
            simp only [Bool.true_and, Option.ite_none_right_eq_some, Option.map_eq_some_iff] at h
            obtain ⟨digit, kept, hkept, rfl⟩ := h
            rw [hfirst]
            refine .apart digit (ih others.length ?_ hkept (fun c hc => all c (.tail _ hc)) rfl)
            simp only [List.length_cons] at hn
            omega
        · rw [dropUnderscores?_cons true hfirst] at h
          obtain ⟨kept, hkept, rfl⟩ := Option.map_eq_some_iff.1 h
          obtain ⟨digit, others⟩ := List.forall_mem_cons.1 all
          rw [digit] at hkept
          refine .digit digit (ih rest.length ?_ hkept others rfl)
          simp only [List.length_cons] at hn
          omega
  · intro h
    induction h with
    | nil => exact ⟨rfl, List.forall_mem_nil _⟩
    | digit digit _ ih =>
      refine ⟨?_, List.forall_mem_cons.2 ⟨digit, ih.2⟩⟩
      rw [dropUnderscores?_cons true (ne_underscore_of_isDigit digit), digit, ih.1]
      rfl
    | apart digit _ ih =>
      refine ⟨?_, List.forall_mem_cons.2 ⟨digit, ih.2⟩⟩
      rw [dropUnderscores?_underscore]
      simp only [digit, Bool.and_self, if_true, ih.1]
      rfl

end Binary64

end ReportCheck
