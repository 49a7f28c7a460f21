import ReportCheck.Proofs.Text.Blank
import ReportCheck.Proofs.Text.Underscores
import ReportCheck.Upload.Manifest

/-! # Rows given as texts

  A row may be given as a text. It has to denote a whole number: digits of any script with
  single underscores between them, behind an optional sign and with white space on both sides.

  - `Manifest.DenotesRow` is the grammar of the texts, with `Text.Grouped` for the digits.
  - `rowOfText_eq_row_iff`: it is the one by which they are read.
-/

namespace ReportCheck

open Text

namespace Manifest

/-! ### The grammar -/

/-- **Signs** of rows, with what they say. -/
inductive Sign : List Char → Bool → Prop
  | none : Sign [] false
  | plus : Sign ['+'] false
  | minus : Sign ['-'] true

/-- **Texts of rows**, with the numbers that they denote. -/
inductive DenotesRow (s : String) : Int → Prop
  | number {left sign rest digits right : List Char} {negative : Bool} {first : Char}
      (text : s.toList = left ++ (sign ++ first :: rest) ++ right)
      (before : ∀ c ∈ left, isWhite c = true) (after : ∀ c ∈ right, isWhite c = true)
      (sign : Sign sign negative) (digit : isDigit first = true) (grouped : Grouped rest digits)
      (short : (first :: digits).length ≤ maxDigits) :
      DenotesRow s (Decimal.signedCoefficient negative (numeralValue (first :: digits)))

/-! ### Reading -/

section Reading

variable {cs digits sign rest : List Char} {negative : Bool} {first : Char}

theorem solid_of_grouped (h : Grouped rest digits) : ∀ c ∈ rest, isBlank c = false := by
  have underscore : isBlank '_' = false := by decide
  induction h with
  | nil => exact List.forall_mem_nil _
  | digit digit _ ih => exact List.forall_mem_cons.2 ⟨not_isBlank_of_isDigit digit, ih⟩
  | apart digit _ ih =>
    exact List.forall_mem_cons.2
      ⟨underscore, List.forall_mem_cons.2 ⟨not_isBlank_of_isDigit digit, ih⟩⟩

theorem solid_of_sign (hsign : Sign sign negative) (digit : isDigit first = true)
    (grouped : Grouped rest digits) : ∀ c ∈ sign ++ first :: rest, isBlank c = false := by
  refine List.forall_mem_append.2 ⟨?_, List.forall_mem_cons.2
    ⟨not_isBlank_of_isDigit digit, solid_of_grouped grouped⟩⟩
  cases hsign with
  | none => exact List.forall_mem_nil _
  | plus => exact List.forall_mem_singleton.2 (by decide)
  | minus => exact List.forall_mem_singleton.2 (by decide)

theorem readSign_eq_iff (digit : isDigit first = true) :
    Numeral.readSign cs = (negative, first :: digits) ↔
      ∃ sign, Sign sign negative ∧ cs = sign ++ first :: digits := by
  constructor
  · intro h
    unfold Numeral.readSign at h
    split at h
    · cases h
      exact ⟨_, .plus, rfl⟩
    · cases h
      exact ⟨_, .minus, rfl⟩
    · cases h
      exact ⟨_, .none, rfl⟩
  · rintro ⟨sign, hsign, rfl⟩
    cases hsign with
    | none => exact Numeral.readSign_of_isDigit digit digits
    | plus => rfl
    | minus => rfl

theorem dropUnderscores?_digits_iff (digit : isDigit first = true) :
    (Binary64.dropUnderscores? false cs = some (first :: digits) ∧
        ∀ c ∈ digits, isDigit c = true) ↔
      ∃ rest, cs = first :: rest ∧ Grouped rest digits := by
  rw [Binary64.dropUnderscores?_false_eq_cons, digit]
  constructor
  · rintro ⟨⟨rest, rfl, -, hkept⟩, all⟩
    exact ⟨rest, rfl, Binary64.dropUnderscores?_true_iff.1 ⟨hkept, all⟩⟩
  · rintro ⟨rest, rfl, grouped⟩
    obtain ⟨hkept, all⟩ := Binary64.dropUnderscores?_true_iff.2 grouped
    exact ⟨⟨rest, rfl, Binary64.ne_underscore_of_isDigit digit, hkept⟩, all⟩

theorem dropUnderscores?_sign_iff (hsign : Sign sign negative) (digit : isDigit first = true) :
    (Binary64.dropUnderscores? false cs = some (sign ++ first :: digits) ∧
        ∀ c ∈ digits, isDigit c = true) ↔
      ∃ rest, cs = sign ++ first :: rest ∧ Grouped rest digits := by
  have behind : ∀ mark : Char, isDigit mark = false → mark ≠ '_' →
      ((Binary64.dropUnderscores? false cs = some (mark :: first :: digits) ∧
          ∀ c ∈ digits, isDigit c = true) ↔
        ∃ rest, cs = mark :: first :: rest ∧ Grouped rest digits) := by
    intro mark noDigit other
    rw [Binary64.dropUnderscores?_false_eq_cons, noDigit]
    constructor
    · rintro ⟨⟨body, rfl, -, hkept⟩, all⟩
      obtain ⟨rest, rfl, grouped⟩ := (dropUnderscores?_digits_iff digit).1 ⟨hkept, all⟩
      exact ⟨rest, rfl, grouped⟩
    · rintro ⟨rest, rfl, grouped⟩
      obtain ⟨hkept, all⟩ := (dropUnderscores?_digits_iff digit).2 ⟨rest, rfl, grouped⟩
      exact ⟨⟨_, rfl, other, hkept⟩, all⟩
  cases hsign with
  | none => exact dropUnderscores?_digits_iff digit
  | plus => exact behind '+' (by decide) (by decide)
  | minus => exact behind '-' (by decide) (by decide)

end Reading

/-- **Rows in texts** are read by the grammar. -/
theorem rowOfText_eq_row_iff {s : String} {n : Int} : rowOfText s = .row n ↔ DenotesRow s n := by
  constructor
  · intro h
    unfold rowOfText at h
    split at h
    · cases h
    · next body hbody =>
      generalize hsign : Numeral.readSign body = signed at h
      obtain ⟨negative, digits⟩ := signed
      simp only at h
      split at h
      · cases h
      · next accepted =>
        cases h
        simp only [Bool.or_eq_true, not_or, Bool.not_eq_true, Bool.not_eq_false',
          decide_eq_true_eq, not_lt, List.all_eq_true] at accepted
        obtain ⟨⟨filled, all⟩, short⟩ := accepted
        cases digits with
        | nil => cases filled
        | cons first digits =>
          obtain ⟨digit, others⟩ := List.forall_mem_cons.1 all
          obtain ⟨sign, signs, rfl⟩ := (readSign_eq_iff digit).1 hsign
          obtain ⟨rest, hrest, grouped⟩ := (dropUnderscores?_sign_iff signs digit).1 ⟨hbody, others⟩
          obtain ⟨left, right, text, before, after⟩ := exists_surrounded isWhite s.toList
          rw [show trimBy isWhite s.toList = _ from hrest] at text
          exact .number text before after signs digit grouped short
  · intro h
    cases h with
    | @number left sign rest digits right negative first text before after signs digit grouped
        short =>
      have solid : ∀ c ∈ sign ++ first :: rest, isWhite c = false := by
        intro c hc
        rw [isWhite, solid_of_sign signs digit grouped c hc, Bool.false_and]
      have trimmed : trimWhite s.toList = sign ++ first :: rest :=
        (trimBy_eq_iff (by simp) solid).2 ⟨left, right, text, before, after⟩
      obtain ⟨hbody, others⟩ := (dropUnderscores?_sign_iff signs digit).2 ⟨rest, rfl, grouped⟩
      have all : ∀ c ∈ first :: digits, isDigit c = true := List.forall_mem_cons.2 ⟨digit, others⟩
      unfold rowOfText
      rw [trimmed, hbody]
      simp only [(readSign_eq_iff digit).2 ⟨sign, signs, rfl⟩]
      rw [if_neg]
      simp only [Bool.or_eq_true, not_or, Bool.not_eq_true, Bool.not_eq_false',
        decide_eq_true_eq, not_lt, List.all_eq_true]
      exact ⟨⟨rfl, all⟩, short⟩

end Manifest

end ReportCheck
