/-! # Rounding a quotient

  One rule serves every rounding step of the library: the quotient of two natural
  numbers goes to the nearest whole number, and the `Tie` says where an exact half
  goes. Rounding to cents sends a half away from zero, arithmetic with limited
  precision sends it to the even neighbour.

  - `roundDiv_le` and `le_roundDiv`: the result is at most half a unit away.
  - `digitCount` counts the decimal digits that a coefficient fills.
-/

namespace ReportCheck

/-- Where a quotient that lies exactly between two whole numbers goes. -/
inductive Tie where
  /-- To the even neighbour. -/
  | even
  /-- To the neighbour further from zero. -/
  | away
  deriving DecidableEq, Repr

/-- **Nearest whole number** to `num / den`. -/
def roundDiv (num den : Nat) (tie : Tie) : Nat :=
  let q := num / den
  let r := num % den
  if 2 * r < den then q
  else if den < 2 * r then q + 1
  else match tie with
    | .even => q + q % 2
    | .away => q + 1

/-- The number of decimal digits of a natural number; zero has one. -/
def digitCount (n : Nat) : Nat := (Nat.toDigits 10 n).length

/-- Rounding moves a quotient up by at most a half. -/
theorem roundDiv_le (num den : Nat) (tie : Tie) :
    2 * (den * roundDiv num den tie) ≤ 2 * num + den := by
  have split := Nat.div_add_mod num den
  simp only [roundDiv]
  split
  · omega
  · split
    · have := Nat.mul_add den (num / den) 1
      omega
    · have up := Nat.mul_add den (num / den) 1
      cases tie with
      | away => simp only; omega
      | even =>
        simp only
        rcases Nat.mod_two_eq_zero_or_one (num / den) with h | h <;> rw [h]
        · simp only [Nat.add_zero]; omega
        · omega

/-- Rounding moves a quotient down by at most a half. -/
theorem le_roundDiv (num den : Nat) (tie : Tie) (positive : 0 < den) :
    2 * num ≤ 2 * (den * roundDiv num den tie) + den := by
  have split := Nat.div_add_mod num den
  have small := Nat.mod_lt num positive
  have up := Nat.mul_add den (num / den) 1
  simp only [roundDiv]
  split
  · omega
  · split
    · omega
    · cases tie with
      | away => simp only; omega
      | even =>
        simp only
        rcases Nat.mod_two_eq_zero_or_one (num / den) with h | h <;> rw [h]
        · simp only [Nat.add_zero]; omega
        · omega

end ReportCheck
