import ReportCheck.Rule
import ReportCheck.Proofs.Trace
import ReportCheck.Proofs.Number.Nearest

/-! # Cells that stop their readers

  A cell that cannot be read as a number or as a day is meant to be read as nothing. Two
  kinds of numbers stop the readers instead.

  - `Cell.TooLarge`: a whole number beyond double precision stops every reader of numbers.
  - `Cell.Endless`: a number that is infinite in double precision stops the reader of days,
    because an infinite number has no whole part to count days with.
  - `toBinary64_cases` tells the two kinds from all other cells, and `day_eq_error_iff` and the
    lemmas beside it say of each reader when it stops.
  - `Check.daysMeet_eq_error_iff` and the lemmas around it say the same of what rests on the
    readers.
  - `Cell.readers_stop_iff` is the statement about all readers, `Cell.readers_stop` two cells that
    stop them.
-/

namespace ReportCheck

open Outcome Binary64

namespace Cell

/-! ### The two kinds of cells -/

/-- **Too large** for double precision. -/
def TooLarge (c : Cell) : Prop := ∃ n : WholeNumber, c = .int n ∧ overflowBound ≤ n.value.natAbs

/-- **Endless** numbers of days: positive infinities, and decimal numbers that become one in
    double precision. -/
inductive Endless : Cell → Prop
  | float : Endless (.float (.infinite false))
  | infinite : Endless (.decimal (.infinite false))
  | decimal {c : Nat} {e : Int} (large : overflowBound ≤ (c : ℚ) * 10 ^ e) :
      Endless (.decimal (.finite false c e))

variable {c : Cell} {cause : Fault}

theorem toBinary64_of_tooLarge (h : c.TooLarge) : c.toBinary64 = .error .integerTooLarge := by
  obtain ⟨n, rfl, above⟩ := h
  simp only [toBinary64, ofInt?_eq_none_iff.2 above]

theorem toBinary64_of_endless (h : c.Endless) : c.toBinary64 = .ok (some (.infinite false)) := by
  cases h with
  | float => rfl
  | infinite => rfl
  | @decimal c e large =>
    show Except.ok (ofScaled false c e).some? = _
    rcases ofScaled_cases false c e with ⟨below, -⟩ | ⟨-, infinite⟩
    · exact absurd below (not_lt.2 large)
    · rw [infinite]
      rfl

/-- **Numbers in cells.** A cell is too large, or endless, or reading its number returns
    something else than infinity. -/
theorem toBinary64_cases (c : Cell) :
    c.TooLarge ∨ c.Endless ∨
      ∃ number, c.toBinary64 = .ok number ∧ number ≠ some (.infinite false) := by
  cases c with
  | int n =>
    rcases ofInt?_cases n with ⟨-, x, hx⟩ | ⟨above, -⟩
    · refine .inr (.inr ⟨some (.finite x), ?_, by simp⟩)
      simp only [toBinary64, hx]
    · exact .inl ⟨n, rfl, above⟩
  | float x =>
    rcases x with x | negative | _
    · exact .inr (.inr ⟨some (.finite x), rfl, by simp⟩)
    · cases negative with
      | false => exact .inr (.inl .float)
      | true => exact .inr (.inr ⟨some (.infinite true), rfl, by simp⟩)
    · exact .inr (.inr ⟨none, rfl, by simp⟩)
  | decimal d =>
    rcases d with ⟨negative, c, e⟩ | negative | _
    · have converted : (Cell.decimal (.finite negative c e)).toBinary64 =
          .ok (ofScaled negative c e).some? := rfl
      rcases ofScaled_cases negative c e with ⟨-, x, hx⟩ | ⟨above, hx⟩
      · rw [hx] at converted
        exact .inr (.inr ⟨some (.finite x), converted, by simp⟩)
      · rw [hx] at converted
        cases negative with
        | false => exact .inr (.inl (.decimal above))
        | true => exact .inr (.inr ⟨some (.infinite true), converted, by simp⟩)
    · cases negative with
      | false => exact .inr (.inl .infinite)
      | true => exact .inr (.inr ⟨some (.infinite true), rfl, by simp⟩)
    · exact .inr (.inr ⟨none, rfl, by simp⟩)
  -- No other cell holds a number.
  | _ => exact .inr (.inr ⟨none, rfl, by simp⟩)

theorem toBinary64_eq_error_iff :
    c.toBinary64 = .error cause ↔ c.TooLarge ∧ cause = .integerTooLarge := by
  constructor
  · intro h
    rcases c.toBinary64_cases with large | endless | ⟨number, returns, -⟩
    · cases h.symm.trans (toBinary64_of_tooLarge large)
      exact ⟨large, rfl⟩
    · cases h.symm.trans (toBinary64_of_endless endless)
    · cases h.symm.trans returns
  · rintro ⟨large, rfl⟩
    exact toBinary64_of_tooLarge large

theorem toBinary64_eq_infinite_iff :
    c.toBinary64 = .ok (some (.infinite false)) ↔ c.Endless := by
  constructor
  · intro h
    rcases c.toBinary64_cases with large | endless | ⟨number, returns, finite⟩
    · cases h.symm.trans (toBinary64_of_tooLarge large)
    · exact endless
    · cases h.symm.trans returns
      exact absurd rfl finite
  · exact toBinary64_of_endless

/-! ### Readers of numbers -/

theorem leadingNumber_eq_error_iff :
    c.leadingNumber = .error cause ↔ c.TooLarge ∧ cause = .integerTooLarge := by
  rw [← toBinary64_eq_error_iff]
  cases c with
  | text s =>
    constructor
    · intro h
      cases h
    · intro h
      cases h
  | _ => exact Iff.rfl

theorem strictNumber_eq_error_iff :
    c.strictNumber = .error cause ↔ c.TooLarge ∧ cause = .integerTooLarge := by
  -- Cells that are read in another way are not too large.
  have other : ∀ number, c.strictNumber = .ok number → (∀ n, c ≠ .int n) →
      (c.strictNumber = .error cause ↔ c.TooLarge ∧ cause = .integerTooLarge) := by
    intro number hnumber small
    rw [hnumber]
    constructor
    · intro h
      cases h
    · rintro ⟨⟨n, given, -⟩, -⟩
      exact absurd given (small n)
  cases c with
  | empty => exact other _ rfl (by simp)
  | bool b => exact other _ rfl (by simp)
  | text s =>
    by_cases blank : (Text.trim s.toList).isEmpty = true
    · exact other _ (if_pos blank) (by simp)
    · exact other _ (if_neg blank) (by simp)
  | _ =>
    rw [← toBinary64_eq_error_iff]
    exact Iff.rfl

/-! ### Readers of days -/

/-- The day of a number, none if there is no number. -/
def dayOfNumber : Option Binary64 → Except Fault (Option Date)
  | some x => Date.ofSerial x
  | none => .ok none

theorem day_cases (c : Cell) :
    (c.toBinary64 = .ok none ∧ Returns c.day) ∨ c.day = c.toBinary64 >>= dayOfNumber := by
  cases c with
  | date d => exact .inl ⟨rfl, _, rfl⟩
  | moment m => exact .inl ⟨rfl, _, rfl⟩
  | text s => exact .inl ⟨rfl, _, rfl⟩
  | _ => exact .inr rfl

theorem dayOfNumber_eq_error_iff {number : Option Binary64} :
    dayOfNumber number = .error cause ↔
      number = some (.infinite false) ∧ cause = .infiniteDays := by
  rcases number with _ | x | negative | _
  · simp [dayOfNumber]
  · simp [dayOfNumber, Date.ofSerial]
  · cases negative with
    | true => simp [dayOfNumber, Date.ofSerial]
    | false => simp [dayOfNumber, Date.ofSerial, eq_comm]
  · simp [dayOfNumber, Date.ofSerial]

/-- **Days.** Looking for a day stops at a cell that is too large or endless, and at no
    other. -/
theorem day_eq_error_iff :
    c.day = .error cause ↔
      (c.TooLarge ∧ cause = .integerTooLarge) ∨ (c.Endless ∧ cause = .infiniteDays) := by
  rw [← toBinary64_eq_error_iff, ← toBinary64_eq_infinite_iff]
  rcases c.day_cases with ⟨none, d, hd⟩ | number
  · rw [none, hd]
    simp
  · rw [number]
    cases c.toBinary64 with
    | error fault =>
      -- What stops the number stops the day.
      rw [show (Except.error fault >>= dayOfNumber) = .error fault from rfl]
      simp
    | ok x =>
      rw [show (Except.ok x >>= dayOfNumber) = dayOfNumber x from rfl, dayOfNumber_eq_error_iff]
      simp

theorem day_of_blank_or_zero (h : (c.isBlank || (c.isNumber && c.isFalsy)) = true) :
    c.day = .ok none := by
  have zero : ∀ x : Binary64.Finite, x.mantissa = 0 → Date.ofSerial (.finite x) = .ok none := by
    intro x hx
    have whole : x.truncate = 0 := by simp [Binary64.Finite.truncate, hx]
    show Except.ok (Date.ofWholeSerial? x.truncate) = _
    rw [whole]
    rfl
  cases c with
  | empty => rfl
  | bool b => simp [isBlank, isNumber] at h
  | int n =>
    have value : n.value = 0 := by simpa [isBlank, isNumber, isFalsy] using h
    obtain rfl : n = 0 := WholeNumber.ext value
    have number : (Cell.int 0).toBinary64 = .ok (some (.zero false)) := by decide +kernel
    show (Cell.int 0).toBinary64 >>= _ = _
    rw [number]
    exact zero _ rfl
  | float x =>
    cases x with
    | finite x => exact zero x (by simpa [isBlank, isNumber, isFalsy, Binary64.isZero] using h)
    | infinite negative => simp [isBlank, isNumber, isFalsy, Binary64.isZero] at h
    | nan => simp [isBlank, isNumber, isFalsy, Binary64.isZero] at h
  | decimal d =>
    cases d with
    | finite negative c e =>
      obtain rfl : c = 0 := by
        simpa [isBlank, isNumber, isFalsy, Decimal.isZero, Decimal.isNaN] using h
      exact zero _ rfl
    | infinite negative => simp [isBlank, isNumber, isFalsy, Decimal.isZero] at h
    | nan negative signaling payload => simp [isBlank, isNumber, Decimal.isNaN] at h
  | text s =>
    obtain rfl : s = "" := by simpa [isBlank, isNumber] using h
    rfl
  | date d => simp [isBlank, isNumber] at h
  | moment m => simp [isBlank, isNumber] at h
  | list items => rfl
  | object members => rfl

/-- **The check for a date** never stops, because it accepts all numbers. -/
theorem isDay_returns_always (c : Cell) : Returns c.isDay := by
  unfold isDay
  by_cases number : c.isNumber = true
  · exact ⟨true, if_pos number⟩
  · rw [if_neg number]
    have day : Returns c.day := by
      cases hday : c.day with
      | ok d => exact ⟨d, rfl⟩
      | error fault =>
        -- Whatever stops the day is a number.
        rcases day_eq_error_iff.1 hday with ⟨⟨n, rfl, -⟩, -⟩ | ⟨endless, -⟩
        · exact absurd rfl number
        · cases endless <;> exact absurd rfl number
    exact day.bind fun d _ => ⟨d.isSome, rfl⟩

end Cell

/-- **The shown value** stops where the day does, if it is to be shown as a day. -/
theorem Rule.Options.shownValue_eq_error_iff {o : Rule.Options} {c : Cell} {cause : Fault} :
    o.shownValue c = .error cause ↔ o.showsDate = true ∧ c.day = .error cause := by
  unfold shownValue
  by_cases raw : (!o.showsDate || c.isBlank || (c.isNumber && c.isFalsy)) = true
  · rw [if_pos raw]
    constructor
    · intro h
      cases h
    · rintro ⟨shows, stops⟩
      rw [shows, Bool.not_true, Bool.false_or] at raw
      cases stops.symm.trans (Cell.day_of_blank_or_zero raw)
  · rw [if_neg raw]
    have shows : o.showsDate = true := by
      by_contra h
      simp [h] at raw
    rw [bind_eq_error_iff_of_returns]
    · simp [shows]
    · intro day
      cases day with
      | some d => exact ⟨_, rfl⟩
      | none => exact ⟨_, rfl⟩

/-! ### What rests on the readers -/

namespace Check

variable {c c' : Cell} {cause : Fault}

/-- **Conditions on a day** stop where the day does. -/
theorem dayMeets_eq_error_iff {accepts : Date → Bool} :
    dayMeets accepts c = .error cause ↔ c.day = .error cause := by
  unfold dayMeets
  rw [bind_eq_error_iff_of_returns]
  intro day
  cases day with
  | some d => exact ⟨_, rfl⟩
  | none => exact ⟨_, rfl⟩

/-- **Comparisons of days** stop where one of the two does, the first one before the
    second. -/
theorem daysMeet_eq_error_iff {accepts : Date → Date → Bool} :
    daysMeet accepts c c' = .error cause ↔
      c.day = .error cause ∨ (Returns c.day ∧ c'.day = .error cause) := by
  unfold daysMeet
  rw [bind_eq_error_iff]
  constructor
  · rintro (h | ⟨day, hday, h⟩)
    · exact .inl h
    · refine .inr ⟨⟨day, hday⟩, (bind_eq_error_iff_of_returns ?_).1 h⟩
      intro theirs
      cases day <;> cases theirs <;> exact ⟨_, rfl⟩
  · rintro (h | ⟨⟨day, hday⟩, h⟩)
    · exact .inl h
    · refine .inr ⟨day, hday, (bind_eq_error_iff_of_returns ?_).2 h⟩
      intro theirs
      cases day <;> cases theirs <;> exact ⟨_, rfl⟩

/-- **Comparisons to the cent** stop at two cells of which one is too large. -/
theorem isWithinCent_eq_error_iff :
    isWithinCent c c' = .error cause ↔
      (c.TooLarge ∨ c'.TooLarge) ∧ cause = .integerTooLarge := by
  unfold isWithinCent
  rw [bind_eq_error_iff, Cell.leadingNumber_eq_error_iff]
  constructor
  · rintro (⟨large, rfl⟩ | ⟨ours, -, h⟩)
    · exact ⟨.inl large, rfl⟩
    · have theirs := (bind_eq_error_iff_of_returns fun number => ⟨_, rfl⟩).1 h
      obtain ⟨large, rfl⟩ := Cell.leadingNumber_eq_error_iff.1 theirs
      exact ⟨.inr large, rfl⟩
  · rintro ⟨large, rfl⟩
    cases hours : c.leadingNumber with
    | error fault =>
      obtain ⟨first, -⟩ := Cell.leadingNumber_eq_error_iff.1 hours
      exact .inl ⟨first, rfl⟩
    | ok ours =>
      rcases large with large | large
      · exact .inl ⟨large, rfl⟩
      · refine .inr ⟨ours, rfl, ?_⟩
        exact (bind_eq_error_iff_of_returns fun number => ⟨_, rfl⟩).2
          (Cell.leadingNumber_eq_error_iff.2 ⟨large, rfl⟩)

end Check

/-- **Amounts of fields** are read unless one of the cells is too large. -/
theorem Amount.ofFields_eq_error_iff {record : Record} {keys : List String} {cause : Fault} :
    ofFields record keys = .error cause ↔
      (∃ key ∈ keys, key ≠ "" ∧ (record.value key).TooLarge) ∧ cause = .integerTooLarge := by
  have fails : OnlyFails (fun fault =>
      (∃ key ∈ keys, key ≠ "" ∧ (record.value key).TooLarge) ∧ fault = .integerTooLarge)
      (ofFields record keys) := by
    refine mapM_onlyFails fun key hkey fault h => ?_
    obtain ⟨mem, named⟩ := List.mem_filter.1 hkey
    have number := (bind_eq_error_iff_of_returns fun x => ⟨_, rfl⟩).1 h
    obtain ⟨large, rfl⟩ := Cell.leadingNumber_eq_error_iff.1 number
    exact ⟨⟨key, mem, by simpa using named, large⟩, rfl⟩
  constructor
  · exact fails cause
  · rintro ⟨⟨key, mem, named, large⟩, rfl⟩
    cases h : ofFields record keys with
    | error fault => rw [(fails fault h).2]
    | ok amounts =>
      -- If all amounts are read then the one of the large cell is.
      have hkey : key ∈ keys.filter (· != "") := List.mem_filter.2 ⟨mem, by simpa using named⟩
      obtain ⟨amount, hamount⟩ := returns_of_mem_mapM h hkey
      obtain ⟨number, hnumber, -⟩ := bind_eq_ok_iff.1 hamount
      cases hnumber.symm.trans (Cell.leadingNumber_eq_error_iff.2 ⟨large, rfl⟩)

/-- **The guard on a number** stops at a field that is too large. -/
theorem Guard.greaterThanZero_eq_error_iff {record : Record} {key : String} {cause : Fault} :
    (⟨.greaterThanZero, key⟩ : Guard).holds record = .error cause ↔
      (record.fields.getD key).TooLarge ∧ cause = .integerTooLarge := by
  rw [← Cell.strictNumber_eq_error_iff]
  refine bind_eq_error_iff_of_returns ?_
  intro number
  cases number with
  | some x => exact ⟨_, rfl⟩
  | none => exact ⟨_, rfl⟩

/-- **When readers stop.** The readers of numbers stop at cells that are too large. The reader
    of days stops at these and at endless ones, and so do messages that show a day; the check
    for a date always returns. What rests on the readers stops with them and for no other
    cause. -/
theorem Cell.readers_stop_iff (c : Cell) (o : Rule.Options) (cause : Fault) :
    (c.leadingNumber = .error cause ↔ c.TooLarge ∧ cause = .integerTooLarge) ∧
    (c.strictNumber = .error cause ↔ c.TooLarge ∧ cause = .integerTooLarge) ∧
    (c.day = .error cause ↔
      (c.TooLarge ∧ cause = .integerTooLarge) ∨ (c.Endless ∧ cause = .infiniteDays)) ∧
    Returns c.isDay ∧
    (o.shownValue c = .error cause ↔ o.showsDate = true ∧ c.day = .error cause) ∧
    (∀ accepts, Check.dayMeets accepts c = .error cause ↔ c.day = .error cause) ∧
    (∀ accepts c', Check.daysMeet accepts c c' = .error cause ↔
      c.day = .error cause ∨ (Returns c.day ∧ c'.day = .error cause)) ∧
    (∀ c', Check.isWithinCent c c' = .error cause ↔
      (c.TooLarge ∨ c'.TooLarge) ∧ cause = .integerTooLarge) ∧
    (∀ record keys, Amount.ofFields record keys = .error cause ↔
      (∃ key ∈ keys, key ≠ "" ∧ (record.value key).TooLarge) ∧ cause = .integerTooLarge) ∧
    ∀ record key, (⟨.greaterThanZero, key⟩ : Guard).holds record = .error cause ↔
      (record.fields.getD key).TooLarge ∧ cause = .integerTooLarge := by
  refine ⟨leadingNumber_eq_error_iff, strictNumber_eq_error_iff, day_eq_error_iff,
    isDay_returns_always c, Rule.Options.shownValue_eq_error_iff, ?_, ?_, ?_, ?_, ?_⟩
  · intro accepts
    exact Check.dayMeets_eq_error_iff
  · intro accepts c'
    exact Check.daysMeet_eq_error_iff
  · intro c'
    exact Check.isWithinCent_eq_error_iff
  · intro record keys
    exact Amount.ofFields_eq_error_iff
  · intro record key
    exact Guard.greaterThanZero_eq_error_iff

/-- A whole number that is not in the range of double precision. -/
def pastDouble : WholeNumber := ⟨10 ^ 400, by decide +kernel⟩

/-- **Readers that stop.** A whole number of 401 digits is read neither as a number nor as a
    day, and an infinite one not as a day; a message that shows a day stops as well. -/
theorem Cell.readers_stop :
    (Cell.int pastDouble).leadingNumber = .error .integerTooLarge ∧
      (Cell.int pastDouble).strictNumber = .error .integerTooLarge ∧
      (Cell.int pastDouble).day = .error .integerTooLarge ∧
      (Cell.float (.infinite false)).day = .error .infiniteDays ∧
      Rule.Options.shownValue { showsDate := true } (.float (.infinite false)) =
        .error .infiniteDays := by
  refine ⟨by decide +kernel, by decide +kernel, by decide +kernel, rfl, rfl⟩

end ReportCheck
