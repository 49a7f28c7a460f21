import ReportCheck.Number.Rounding

/-! # Whole numbers of cells

  There is a limit on the digits of a whole number that is read from a text or written to
  one, and the whole numbers of cells are those within it.

  - `maxDigits` is the limit, wherever whole numbers are read or written.
  - `WholeNumber` is the type of the numbers within the limit, `WholeNumber.ofInt?` their
    constructor.
-/

namespace ReportCheck

/-- The number of digits that a whole number may have. -/
def maxDigits : Nat := 4300

/-- Whether a whole number is within the limit. -/
def WholeNumber.isShort (n : Int) : Bool := digitCount n.natAbs ≤ maxDigits

/-- **Whole numbers** that can be read and written. -/
@[ext]
structure WholeNumber where
  value : Int
  short : WholeNumber.isShort value = true
  deriving DecidableEq, Repr

namespace WholeNumber

instance : Coe WholeNumber Int := ⟨value⟩

instance : Inhabited WholeNumber := ⟨0, rfl⟩

/-- A number within the limit. -/
def ofInt? (n : Int) : Option WholeNumber := if short : isShort n then some ⟨n, short⟩ else none

/-- Literals stand for themselves up to the limit. -/
instance (n : Nat) : OfNat WholeNumber n := ⟨(ofInt? n).getD default⟩

instance : Neg WholeNumber where
  neg n := ⟨-n.value, by simpa only [isShort, Int.natAbs_neg] using n.short⟩

end WholeNumber

end ReportCheck
