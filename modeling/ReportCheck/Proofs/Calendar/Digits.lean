import ReportCheck.Calendar.Written
import ReportCheck.Proofs.Cell.Written
import ReportCheck.Proofs.Text.Blank
import ReportCheck.Proofs.Text.Digit
import Mathlib.Tactic.IntervalCases

/-! # Numbers in dates

  The numbers of a date are written in decimal, with or without zeros in front. They are read
  back by the readers of a fixed number of digits, and by those of months and days.

  - `numeralValue_padded` and `length_padded` are about numbers with zeros in front.
  - `Iso.readNumber?_padded` and `DateItem.readDigits?_padded` read them.
  - `Spells` lists the two ways to write a month or a day. `DateItem.readMonth?_spells` and
    `DateItem.readDay?_spells` read both, if no further digit comes next.
-/

namespace ReportCheck

open Text

/-! ### Digits -/

/-- **The value of a padded number** is the number. -/
theorem numeralValue_padded (width n : Nat) : numeralValue (Date.padded width n) = n :=
  (numeralValue_zeros_append _ _).trans (numeralValue_toDigits n)

/-- A number that fits a width is padded to it. -/
theorem length_padded {width n : Nat} (positive : 0 < width) (h : n < 10 ^ width) :
    (Date.padded width n).length = width := by
  have fits := (Nat.length_toDigits_le_iff (by decide) positive).2 h
  unfold Date.padded
  rw [List.length_append, List.length_replicate]
  omega

theorem padded_of_le {width n : Nat} (h : width ≤ (Nat.toDigits 10 n).length) :
    Date.padded width n = Nat.toDigits 10 n := by
  simp [Date.padded, Nat.sub_eq_zero_of_le h]

theorem isAsciiDigit_of_mem_padded {width n : Nat} {c : Char} (h : c ∈ Date.padded width n) :
    isAsciiDigit c = true :=
  isAsciiDigit_of_isDigit (isDigit_of_mem_padded h)

theorem not_mem_padded (width n : Nat) {c : Char} (other : isAsciiDigit c = false) :
    c ∉ Date.padded width n := by
  intro hc
  rw [isAsciiDigit_of_mem_padded hc] at other
  cases other

theorem starts_and_ends_padded {width n : Nat} (positive : 0 < width) (h : n < 10 ^ width) :
    Starts (Date.padded width n) ∧ Ends (Date.padded width n) := by
  refine starts_and_ends ?_ fun c hc => not_isBlank_of_isAsciiDigit (isAsciiDigit_of_mem_padded hc)
  intro empty
  have length := length_padded positive h
  rw [empty] at length
  exact positive.ne length

/-- **A fixed number of ASCII digits** is read. -/
theorem Iso.readNumber?_padded {width n : Nat} (positive : 0 < width) (h : n < 10 ^ width)
    (rest : List Char) : readNumber? width (Date.padded width n ++ rest) = some (n, rest) := by
  have length := length_padded positive h
  have digits : (Date.padded width n).all isAsciiDigit = true :=
    List.all_eq_true.2 fun c hc => isAsciiDigit_of_mem_padded hc
  simp only [readNumber?, List.take_left' length, List.drop_left' length, length, digits,
    numeralValue_padded, beq_self_eq_true, Bool.and_self, if_true]

/-- **A fixed number of digits** of any script is read. -/
theorem DateItem.readDigits?_padded {width n : Nat} (positive : 0 < width) (h : n < 10 ^ width)
    (rest : List Char) : readDigits? width (Date.padded width n ++ rest) = some (n, rest) := by
  have length := length_padded positive h
  have digits : (Date.padded width n).all isDigit = true :=
    List.all_eq_true.2 fun c hc => isDigit_of_isAsciiDigit (isAsciiDigit_of_mem_padded hc)
  simp only [readDigits?, List.take_left' length, List.drop_left' length, length, digits,
    numeralValue_padded, beq_self_eq_true, Bool.and_self, if_true]

/-! ### Months and days -/

namespace Date

theorem year_lt (d : Date) : d.year < 10 ^ 4 := by
  have := d.valid.1.2
  omega

theorem month_pos (d : Date) : 1 ≤ d.month := d.valid.2.1.1

theorem month_le (d : Date) : d.month ≤ 12 := d.valid.2.1.2

theorem day_pos (d : Date) : 1 ≤ d.day := d.valid.2.2.1

theorem day_le (d : Date) : d.day ≤ 31 := by
  obtain ⟨year, month, day, -, ⟨low, high⟩, -, hday⟩ := d
  have february : (if isLeap year then 29 else 28) ≤ 31 := by split <;> omega
  simp only [daysInMonth, monthLengths] at hday ⊢
  interval_cases month <;> simp at hday ⊢ <;> omega

theorem month_lt (d : Date) : d.month < 100 := lt_of_le_of_lt d.month_le (by decide)

theorem day_lt (d : Date) : d.day < 100 := lt_of_le_of_lt d.day_le (by decide)

end Date

/-- **Spellings** of the number of a month or a day. -/
inductive Spells (n : Nat) : List Char → Prop
  /-- As many digits as the number has. -/
  | bare : Spells n (Nat.toDigits 10 n)
  /-- Two digits. -/
  | padded : Spells n (Date.padded 2 n)

theorem Spells.isAsciiDigit {n : Nat} {cs : List Char} (h : Spells n cs) {c : Char}
    (hc : c ∈ cs) : isAsciiDigit c = true := by
  cases h with
  | bare => exact isAsciiDigit_of_mem_toDigits hc
  | padded => exact isAsciiDigit_of_mem_padded hc

theorem Spells.length {n : Nat} {cs : List Char} (h : Spells n cs) (lt : n < 100) :
    cs.length ≤ 2 := by
  cases h with
  | bare => exact (Nat.length_toDigits_le_iff (by decide) (by decide)).2 lt
  | padded => exact (length_padded (by decide : 0 < 2) lt).le

theorem Spells.not_mem {n : Nat} {cs : List Char} (h : Spells n cs) {c : Char}
    (other : Text.isAsciiDigit c = false) : c ∉ cs := by
  intro hc
  rw [h.isAsciiDigit hc] at other
  cases other

theorem Spells.starts_and_ends {n : Nat} {cs : List Char} (h : Spells n cs) (lt : n < 100) :
    Starts cs ∧ Ends cs := by
  cases h with
  | bare =>
    exact Text.starts_and_ends Nat.toDigits_ne_nil fun c hc =>
      not_isBlank_of_isAsciiDigit (isAsciiDigit_of_mem_toDigits hc)
  | padded => exact starts_and_ends_padded (by decide) lt

theorem isDigit_of_between {low high c : Char} (hlow : '0' ≤ low) (hhigh : high ≤ '9')
    (h : (low ≤ c && c ≤ high) = true) : isDigit c = true := by
  simp only [Bool.and_eq_true, decide_eq_true_eq, Char.le_def, UInt32.le_iff_toNat_le] at h hlow hhigh
  apply isDigit_of_isAsciiDigit
  simp only [isAsciiDigit, Bool.and_eq_true, decide_eq_true_eq]
  exact ⟨hlow.trans h.1, h.2.trans hhigh⟩

theorem not_between_of_not_isDigit {c : Char} (h : isDigit c = false) (high : Char)
    (le : high ≤ '9') : ('0' ≤ c && c ≤ high) = false := by
  rw [Bool.eq_false_iff]
  intro between
  rw [isDigit_of_between (by decide) le between] at h
  cases h

namespace DateItem

/-- **Months** are read in both spellings. -/
theorem readMonth?_spells {m : Nat} {cs rest : List Char} (h : Spells m cs) (low : 1 ≤ m)
    (high : m ≤ 12) (ends : EndsNumber rest) : readMonth? (cs ++ rest) = some (m, rest) := by
  cases h with
  | padded => interval_cases m <;> rfl
  | bare =>
    rcases rest with _ | ⟨c, rest⟩
    · interval_cases m <;> rfl
    · by_cases first : m = 1
      · -- A second digit would make it one of the last three months.
        subst first
        have other := not_between_of_not_isDigit (ends c rfl) '2' (by decide)
        show (if '0' ≤ c && c ≤ '2' then _ else _) = _
        rw [other]
        rfl
      · interval_cases m
        · exact absurd rfl first
        all_goals rfl

/-- **Days** are read in both spellings. -/
theorem readDay?_spells {d : Nat} {cs rest : List Char} (h : Spells d cs) (low : 1 ≤ d)
    (high : d ≤ 31) (ends : EndsNumber rest) : readDay? (cs ++ rest) = some (d, rest) := by
  cases h with
  | padded => interval_cases d <;> rfl
  | bare =>
    rcases rest with _ | ⟨c, rest⟩
    · interval_cases d <;> rfl
    · have other : isDigit c = false := ends c rfl
      have zero : (c == '0' || c == '1') = false := by
        by_contra digit
        have zero_or_one : c = '0' ∨ c = '1' := by
          rwa [Bool.not_eq_false, Bool.or_eq_true, beq_iff_eq, beq_iff_eq] at digit
        rcases zero_or_one with rfl | rfl
        · exact absurd other (by decide)
        · exact absurd other (by decide)
      by_cases tens : d = 1 ∨ d = 2 ∨ d = 3
      · rcases tens with rfl | rfl | rfl
        · show (if isDigit c then _ else _) = _
          rw [other]
          rfl
        · show (if isDigit c then _ else _) = _
          rw [other]
          rfl
        · show (if c == '0' || c == '1' then _ else _) = _
          rw [zero]
          rfl
      · interval_cases d <;> first | rfl | omega

end DateItem

end ReportCheck
