import ReportCheck.Text.Digit
import Mathlib.Data.List.TakeWhile

/-! # Values of digits

  Numbers are written in ASCII digits, and read in the digits of all scripts.

  - `isAsciiDigit_iff` tells the ASCII digits among all; `exists_zero_of_isDigit` places all
    digits in their runs of ten.
  - `EndsNumber` is what may follow a number; its digits are taken up to there.
  - `numeralValue_toDigits`: what is written of a number has its value, also behind zeros.
    `numeralValue_append` is about digits in two parts.
-/

namespace ReportCheck

open Text

-- Powers are the core ones, whichever other library is in scope.
attribute [local instance (high)] instPowNat

/-! ### ASCII digits -/

/-- **ASCII digits** are the digits below code point 128. -/
theorem isAsciiDigit_iff {c : Char} :
    isAsciiDigit c = true ↔ isDigit c = true ∧ c.toNat < 0x80 := by
  constructor
  · intro h
    refine ⟨isDigit_of_isAsciiDigit h, ?_⟩
    simp only [isAsciiDigit, Bool.and_eq_true, decide_eq_true_eq] at h
    omega
  · rintro ⟨h, ascii⟩
    unfold isDigit digitValue? at h
    simp only [ascii, if_true] at h
    split at h
    · next digit => exact digit
    · cases h

/-- Every digit is among the ten from a zero on. -/
theorem exists_zero_of_isDigit {c : Char} (h : isDigit c = true) :
    ∃ first ∈ digitZeros, first ≤ c.toNat ∧ c.toNat < first + 10 := by
  unfold isDigit digitValue? at h
  by_cases ascii : c.toNat < 0x80
  · have digit := isAsciiDigit_iff.2 ⟨h, ascii⟩
    simp only [isAsciiDigit, Bool.and_eq_true, decide_eq_true_eq] at digit
    exact ⟨0x30, .head _, by omega, by omega⟩
  · simp only [ascii, if_false, Option.isSome_map] at h
    obtain ⟨first, hfirst⟩ := Option.isSome_iff_exists.1 h
    have inRun := List.find?_some hfirst
    simp only [Bool.and_eq_true, decide_eq_true_eq] at inRun
    exact ⟨first, List.mem_of_find?_eq_some hfirst, inRun⟩

theorem isAsciiDigit_of_isDigit {c : Char} (h : c.isDigit = true) : isAsciiDigit c = true := by
  simpa [Char.isDigit, isAsciiDigit, UInt32.le_iff_toNat_le] using h

theorem digitValue_of_isAsciiDigit {c : Char} (h : isAsciiDigit c = true) :
    digitValue c = c.toNat - '0'.toNat := by
  simp only [isAsciiDigit, Bool.and_eq_true, decide_eq_true_eq] at h
  have ascii : c.toNat < 0x80 := by omega
  simp [digitValue, digitValue?, ascii, h]

theorem foldl_digitValue {cs : List Char} (h : ∀ c ∈ cs, isAsciiDigit c = true) (init : Nat) :
    cs.foldl (fun total c => 10 * total + digitValue c) init = Nat.ofDigitChars 10 cs init := by
  induction cs generalizing init with
  | nil => rfl
  | cons c rest ih =>
    rw [List.foldl_cons, digitValue_of_isAsciiDigit (h c (.head _)),
      ih (fun c hc => h c (.tail _ hc))]
    rfl

theorem foldl_digitValue_zeros (k : Nat) :
    (List.replicate k '0').foldl (fun total c => 10 * total + digitValue c) 0 = 0 := by
  induction k with
  | zero => rfl
  | succ k ih =>
    rw [List.replicate_succ, List.foldl_cons]
    exact ih

theorem isAsciiDigit_of_mem_toDigits {n : Nat} {c : Char} (h : c ∈ Nat.toDigits 10 n) :
    isAsciiDigit c = true :=
  isAsciiDigit_of_isDigit (Nat.isDigit_of_mem_toDigits (by decide) (by decide) h)

theorem isDigit_of_mem_toDigits {n : Nat} {c : Char} (h : c ∈ Nat.toDigits 10 n) :
    isDigit c = true :=
  isDigit_of_isAsciiDigit (isAsciiDigit_of_mem_toDigits h)

/-! ### The end of a number -/

/-- What follows a number: nothing, or something that starts without a digit. -/
def EndsNumber (rest : List Char) : Prop := ∀ c ∈ rest.head?, isDigit c = false

theorem endsNumber_cons {c : Char} (h : isDigit c = false) (rest : List Char) :
    EndsNumber (c :: rest) := by
  intro c' hc'
  cases hc'
  exact h

theorem endsNumber_nil : EndsNumber [] := by
  intro c hc
  cases hc

section Ends

variable {digits rest : List Char}

/-- **The digits of a number** are taken up to its end. -/
theorem takeWhile_isDigit (all : ∀ c ∈ digits, isDigit c = true) (ends : EndsNumber rest) :
    (digits ++ rest).takeWhile isDigit = digits := by
  rw [List.takeWhile_append_of_pos all]
  cases rest with
  | nil => rw [List.takeWhile_nil, List.append_nil]
  | cons c others => rw [List.takeWhile_cons_of_neg (by simp [ends c rfl]), List.append_nil]

theorem dropWhile_isDigit (all : ∀ c ∈ digits, isDigit c = true) (ends : EndsNumber rest) :
    (digits ++ rest).dropWhile isDigit = rest := by
  rw [List.dropWhile_append_of_pos all]
  cases rest with
  | nil => rfl
  | cons c others => rw [List.dropWhile_cons_of_neg (by simp [ends c rfl])]

end Ends

/-! ### Numbers in decimal -/

/-- **The value of what is written** of a number is the number. -/
theorem numeralValue_toDigits (n : Nat) : numeralValue (Nat.toDigits 10 n) = n := by
  unfold numeralValue
  rw [foldl_digitValue fun c hc => isAsciiDigit_of_mem_toDigits hc]
  exact Nat.ofDigitChars_toDigits (by decide) (by decide)

theorem foldl_digitValue_init (cs : List Char) (init : Nat) :
    cs.foldl (fun total c => 10 * total + digitValue c) init =
      init * 10 ^ cs.length + numeralValue cs := by
  unfold numeralValue
  induction cs generalizing init with
  | nil => simp
  | cons c rest ih =>
    rw [List.foldl_cons, List.foldl_cons, ih, ih (10 * 0 + digitValue c), List.length_cons,
      Nat.pow_succ, Nat.mul_zero, Nat.zero_add, Nat.add_mul, Nat.add_assoc, Nat.mul_comm 10 init,
      Nat.mul_assoc, Nat.mul_comm 10]

theorem numeralValue_append (front back : List Char) :
    numeralValue (front ++ back) = numeralValue front * 10 ^ back.length + numeralValue back := by
  rw [← foldl_digitValue_init]
  exact List.foldl_append

theorem numeralValue_zeros_append (k : Nat) (cs : List Char) :
    numeralValue (List.replicate k '0' ++ cs) = numeralValue cs := by
  unfold numeralValue
  rw [List.foldl_append, foldl_digitValue_zeros]

end ReportCheck
