import ReportCheck.Proofs.Calendar.Digits
import Mathlib.Data.List.Basic
import Mathlib.Data.List.TakeWhile

/-! # Dates in ISO form

  The ISO reader reads dates in the forms `YYYY-MM-DD` and `YYYY-MM-DDTHH:MM:SS`, and no date
  that starts in another way.

  - `readDate?_eq_none_of_front` and `readDate?_eq_none_of_slash` are about texts without a year
    of four digits in front, and with a slash after it.
  - `readDate?_isoChars` reads a date, and `isTime_clockChars` a time of day that may follow.
-/

namespace ReportCheck

open Text

namespace Iso

/-! ### Other texts -/

theorem seven_le_dayLength (cs : List Char) : 7 ≤ dayLength cs := by
  unfold dayLength
  split
  · exact Nat.le_refl 7
  · split
    · split
      · split <;> omega
      · omega
      · omega
    · omega
    · simp only
      split
      · omega
      · split <;> omega
    · omega

theorem readDate?_eq_none {cs : List Char} (h : readDay? (cs.take (dayLength cs)) = none) :
    readDate? cs = none := by
  unfold readDate?
  split
  · rfl
  · simp only
    split
    · exact h
    · split
      · exact h
      · rfl

theorem readNumber?_eq_none {count : Nat} {cs : List Char} {c : Char} (mem : c ∈ cs.take count)
    (other : isAsciiDigit c = false) : readNumber? count cs = none := by
  have notDigits : (cs.take count).all isAsciiDigit = false :=
    List.all_eq_false.2 ⟨c, mem, by simp [other]⟩
  simp [readNumber?, notDigits]

/-- **No year in front.** -/
theorem readDate?_eq_none_of_front {cs : List Char} {c : Char} (mem : c ∈ cs.take 4)
    (other : isAsciiDigit c = false) : readDate? cs = none := by
  have length := seven_le_dayLength cs
  refine readDate?_eq_none ?_
  have front : (cs.take (dayLength cs)).take 4 = cs.take 4 := by
    rw [List.take_take, Nat.min_eq_left (by omega)]
  rw [readDay?, readNumber?_eq_none (by rwa [front]) other]
  rfl

theorem readDate?_eq_none_of_short {front rest : List Char} {c : Char} (short : front.length ≤ 3)
    (other : isAsciiDigit c = false) : readDate? (front ++ c :: rest) = none := by
  refine readDate?_eq_none_of_front (c := c) ?_ other
  obtain ⟨k, hk⟩ : ∃ k, 4 = front.length + (k + 1) := ⟨3 - front.length, by omega⟩
  rw [hk, List.take_length_add_append, List.take_succ_cons]
  simp

/-- **A slash after the year.** -/
theorem readDate?_eq_none_of_slash {year rest : List Char} (h : year.length = 4) :
    readDate? (year ++ '/' :: rest) = none := by
  have length := seven_le_dayLength (year ++ '/' :: rest)
  refine readDate?_eq_none ?_
  obtain ⟨k, hk⟩ : ∃ k, dayLength (year ++ '/' :: rest) = 4 + (k + 1) :=
    ⟨dayLength (year ++ '/' :: rest) - 5, by omega⟩
  have cut : (year ++ '/' :: rest).take (4 + (k + 1)) = year ++ '/' :: rest.take k := by
    rw [← h, List.take_length_add_append, List.take_succ_cons]
  rw [hk, cut]
  have number : readNumber? 4 (year ++ '/' :: rest.take k) = none ∨
      ∃ n, readNumber? 4 (year ++ '/' :: rest.take k) = some (n, '/' :: rest.take k) := by
    simp only [readNumber?, List.take_left' h, List.drop_left' h]
    split
    · exact .inr ⟨_, rfl⟩
    · exact .inl rfl
  rcases number with none | ⟨n, some⟩
  · rw [readDay?, none]
    rfl
  · -- The slash is no digit of a month.
    have month : readNumber? 2 ('/' :: rest.take k) = Option.none :=
      readNumber?_eq_none (by simp) (by decide : isAsciiDigit '/' = false)
    rw [readDay?, some]
    show readMonthDay? n false ('/' :: rest.take k) = Option.none
    rw [readMonthDay?, month]
    rfl

/-! ### Dates -/

theorem exists_two_digits {n : Nat} (h : n < 100) :
    ∃ a b, Date.padded 2 n = [a, b] ∧ isAsciiDigit a = true ∧
      ∀ rest, readNumber? 2 (a :: b :: rest) = some (n, rest) := by
  obtain ⟨a, b, hab⟩ := List.length_eq_two.1 (length_padded (by decide : 0 < 2) h)
  have first : a ∈ Date.padded 2 n := by simp [hab]
  refine ⟨a, b, hab, isAsciiDigit_of_mem_padded first, ?_⟩
  intro rest
  have read := readNumber?_padded (by decide : 0 < 2) h rest
  rwa [hab] at read

/-- **The characters of a date.** -/
theorem exists_isoChars (d : Date) : ∃ m₁ m₂ d₁ d₂,
    d.isoChars = Date.padded 4 d.year ++ ['-', m₁, m₂, '-', d₁, d₂] ∧ m₁ ≠ 'W' ∧
      (∀ rest, readNumber? 2 (m₁ :: m₂ :: rest) = some (d.month, rest)) ∧
      ∀ rest, readNumber? 2 (d₁ :: d₂ :: rest) = some (d.day, rest) := by
  obtain ⟨m₁, m₂, hmonth, digit, readMonth⟩ := exists_two_digits d.month_lt
  obtain ⟨d₁, d₂, hday, -, readDay⟩ := exists_two_digits d.day_lt
  refine ⟨m₁, m₂, d₁, d₂, ?_, ?_, readMonth, readDay⟩
  · simp [Date.isoChars, hmonth, hday]
  · rintro rfl
    exact absurd digit (by decide)

theorem readDay?_isoChars (d : Date) : readDay? d.isoChars = some d := by
  obtain ⟨m₁, m₂, d₁, d₂, hchars, notWeek, readMonth, readDay⟩ := exists_isoChars d
  have year : readNumber? 4 d.isoChars = some (d.year, ['-', m₁, m₂, '-', d₁, d₂]) := by
    rw [hchars]
    exact readNumber?_padded (by decide) d.year_lt _
  have valid : Date.of? d.year d.month d.day = some d := dif_pos d.valid
  simp [readDay?, year, notWeek, readMonthDay?, readMonth, readDay, valid]

/-- **A date** is ten characters long, whatever follows. -/
theorem dayLength_isoChars (d : Date) (rest : List Char) : dayLength (d.isoChars ++ rest) = 10 := by
  obtain ⟨m₁, m₂, d₁, d₂, hchars, notWeek, -, -⟩ := exists_isoChars d
  have length := length_padded (by decide) d.year_lt
  have long : (d.isoChars ++ rest).length ≠ 7 := by
    simp only [hchars, List.length_append, length, List.length_cons, List.length_nil]
    omega
  have back : (d.isoChars ++ rest).drop 4 = '-' :: m₁ :: m₂ :: '-' :: d₁ :: d₂ :: rest := by
    rw [hchars, List.append_assoc, List.drop_left' length]
    rfl
  rw [dayLength, if_neg (by simpa using long), back]
  simp [notWeek]

/-- **Whole texts.** A date is read, alone and with a time of day behind it. -/
theorem readDate?_isoChars (d : Date) {rest : List Char}
    (h : rest = [] ∨ ∃ c time, rest = c :: time ∧ isTime time = true) :
    readDate? (d.isoChars ++ rest) = some d := by
  have length : d.isoChars.length = 10 := by
    obtain ⟨m₁, m₂, d₁, d₂, hchars, -, -, -⟩ := exists_isoChars d
    have year := length_padded (by decide) d.year_lt
    simp only [hchars, List.length_append, year, List.length_cons, List.length_nil]
  have long : ¬ (d.isoChars ++ rest).length < 7 := by
    rw [List.length_append]
    omega
  rw [readDate?, if_neg long]
  simp only [dayLength_isoChars, List.take_left' length, List.drop_left' length,
    readDay?_isoChars]
  rcases h with rfl | ⟨c, time, rfl, hour⟩
  · rfl
  · simp only [hour, if_true]

/-! ### Times of day -/

/-- The form `HH:MM:SS` of a time of day. -/
def clockChars (hour minute second : Nat) : List Char :=
  Date.padded 2 hour ++ ':' :: Date.padded 2 minute ++ ':' :: Date.padded 2 second

/-- **A time of day** is read. -/
theorem isTime_clockChars {hour minute second : Nat} (hh : hour < 24) (hm : minute < 60)
    (hs : second < 60) : isTime (clockChars hour minute second) = true := by
  obtain ⟨h₁, h₂, hhour, -, readHour⟩ := exists_two_digits (by omega : hour < 100)
  obtain ⟨m₁, m₂, hminute, -, readMinute⟩ := exists_two_digits (by omega : minute < 100)
  obtain ⟨s₁, s₂, hsecond, -, readSecond⟩ := exists_two_digits (by omega : second < 100)
  -- No character is a mark of an offset, so all belong to the clock.
  have noMark : ∀ c ∈ clockChars hour minute second, (!isOffsetMark c) = true := by
    have digits : ∀ n, ∀ c ∈ Date.padded 2 n, (!isOffsetMark c) = true := by
      intro n c hc
      have digit := isAsciiDigit_of_mem_padded hc
      by_contra mark
      simp only [isOffsetMark, Bool.not_eq_true', Bool.not_eq_false, Bool.or_eq_true,
        beq_iff_eq] at mark
      rcases mark with (rfl | rfl) | rfl <;> exact absurd digit (by decide)
    intro c hc
    simp only [clockChars, List.append_assoc, List.cons_append, List.mem_append,
      List.mem_cons] at hc
    rcases hc with hc | rfl | hc | rfl | hc
    · exact digits hour c hc
    · rfl
    · exact digits minute c hc
    · rfl
    · exact digits second c hc
  have clock : readClock? false (clockChars hour minute second) =
      some ⟨hour, minute, second, 0, false⟩ := by
    simp [clockChars, hhour, hminute, hsecond, readClock?, readClockParts?, readHour, readMinute,
      readSecond]
  have front := List.takeWhile_eq_self_iff.2 noMark
  have back := List.dropWhile_eq_nil_iff.2 noMark
  simp only [isTime, front, back, List.isEmpty_nil, Bool.not_true, clock, hh, hm, hs,
    decide_true, Bool.not_false, Bool.and_self]

end Iso

end ReportCheck
