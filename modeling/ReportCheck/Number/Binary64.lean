import ReportCheck.Number.Decimal

/-! # Double-precision numbers

  A spreadsheet cell may hold a 64-bit binary floating-point number. Such a number is
  kept as what it denotes: a finite value `± mantissa · 2 ^ exponent`, an infinity, or
  not a number. All operations are exact integer arithmetic followed by one rounding.

  - `Binary64.Finite` carries the bounds and the normal form that make its value
    determine it, up to the sign of zero.
  - `Binary64.nearest` rounds a quotient, a half to the even neighbour; every
    conversion and the subtraction end in it.
  - `Binary64.ofText?` reads a text; `Binary64.toDecimal` gives the exact value back.
-/

namespace ReportCheck

open Text

-- Powers are the core ones, whichever other library is in scope.
attribute [local instance (high)] instPowNat

/-- A finite double-precision number `± mantissa · 2 ^ exponent`. -/
structure Binary64.Finite where
  negative : Bool
  mantissa : Nat
  exponent : Int
  /-- The mantissa has at most 53 bits. -/
  mantissa_lt : mantissa < 2 ^ (53 : Nat)
  /-- The exponent of the subnormal numbers is the least one. -/
  exponent_ge : -1074 ≤ exponent
  exponent_le : exponent ≤ 971
  /-- The leading bit is set, except below the normal range. -/
  normal : 2 ^ (52 : Nat) ≤ mantissa ∨ exponent = -1074
  deriving DecidableEq, Repr

/-- **Double-precision numbers.** -/
inductive Binary64 where
  | finite (value : Binary64.Finite)
  | infinite (negative : Bool)
  | nan
  deriving DecidableEq, Repr

namespace Binary64

/-- Zero with a sign. -/
def zero (negative : Bool) : Binary64 :=
  .finite ⟨negative, 0, -1074, by decide, by decide, by decide, by decide⟩

instance : Inhabited Binary64 := ⟨zero false⟩

def isNaN : Binary64 → Bool
  | nan => true
  | _ => false

/-- Whether the value is zero, of either sign. -/
def isZero : Binary64 → Bool
  | finite x => x.mantissa == 0
  | _ => false

/-! ### Rounding -/

/-- The number with this mantissa and exponent. A mantissa in normal form is refused
    only where the exponent is too large, so a refusal is an infinity. -/
def pack (negative : Bool) (mantissa : Nat) (exponent : Int) : Binary64 :=
  if h : mantissa < 2 ^ (53 : Nat) ∧ -1074 ≤ exponent ∧ exponent ≤ 971
      ∧ (2 ^ (52 : Nat) ≤ mantissa ∨ exponent = -1074) then
    .finite ⟨negative, mantissa, exponent, h.1, h.2.1, h.2.2.1, h.2.2.2⟩
  else .infinite negative

/-- The exponent at which `num / den` has a mantissa of 53 bits, or the least one. -/
def exponentOf (num den : Nat) : Int :=
  -- The lengths in bits leave two exponents open; the smaller one is tried.
  let guess := max ((num.log2 : Int) - den.log2 - 53) (-1074)
  if 2 ^ (53 : Nat) * (den * 2 ^ guess.toNat) ≤ num * 2 ^ (-guess).toNat then guess + 1 else guess

/-- **Nearest number** to `± num / den`, a half to the even mantissa. -/
def nearest (negative : Bool) (num den : Nat) : Binary64 :=
  if num == 0 then zero negative
  else
    let exponent := exponentOf num den
    let mantissa := roundDiv (num * 2 ^ (-exponent).toNat) (den * 2 ^ exponent.toNat) .even
    -- Rounding up may give one bit more, and then all others are zero.
    if mantissa == 2 ^ (53 : Nat) then pack negative (2 ^ (52 : Nat)) (exponent + 1)
    else pack negative mantissa exponent

/-- The nearest number to `± coefficient · 10 ^ exponent`. Beyond 310 places on either
    side the result is known without writing out the power of ten. -/
def ofScaled (negative : Bool) (coefficient : Nat) (exponent : Int) : Binary64 :=
  let top := exponent + digitCount coefficient
  if coefficient == 0 then zero negative
  else if 310 < top then .infinite negative
  else if top < -330 then zero negative
  else nearest negative (coefficient * 10 ^ exponent.toNat) (10 ^ (-exponent).toNat)

/-- The nearest number to a decimal one. -/
def ofDecimal : Decimal → Binary64
  | .finite negative coefficient exponent => ofScaled negative coefficient exponent
  | .infinite negative => .infinite negative
  | .nan .. => .nan

/-- The nearest number to a whole one, or nothing where that is an infinity. -/
def ofInt? (n : Int) : Option Binary64 :=
  match nearest (n < 0) n.natAbs 1 with
  | finite x => some (finite x)
  | _ => none

/-- 0 and 1 for the two truth values. -/
def ofBool (b : Bool) : Binary64 := nearest false b.toNat 1

/-! ### Exact value -/

/-- **Exact value** as a decimal number. -/
def toDecimal : Binary64 → Decimal
  | finite x =>
    if 0 ≤ x.exponent then .finite x.negative (x.mantissa * 2 ^ x.exponent.toNat) 0
    else .finite x.negative (x.mantissa * 5 ^ (-x.exponent).toNat) x.exponent
  | infinite negative => .infinite negative
  | nan => .nan false false 0

/-- The value of a finite number in units of `2 ^ -1074`, the least positive number. -/
def Finite.units (x : Finite) : Int :=
  let magnitude : Int := x.mantissa * 2 ^ (x.exponent + 1074).toNat
  if x.negative then -magnitude else magnitude

/-- The whole part of a finite number, the fraction dropped. -/
def Finite.truncate (x : Finite) : Int :=
  let magnitude : Int := x.mantissa * 2 ^ x.exponent.toNat / 2 ^ (-x.exponent).toNat
  if x.negative then -magnitude else magnitude

/-- Whether a finite number is whole. -/
def Finite.isWhole (x : Finite) : Bool :=
  x.mantissa * 2 ^ x.exponent.toNat % 2 ^ (-x.exponent).toNat == 0

/-- **Difference**, rounded once. -/
def sub : Binary64 → Binary64 → Binary64
  | finite x, finite y =>
    let difference := x.units - y.units
    nearest (difference < 0) difference.natAbs (2 ^ (1074 : Nat))
  | nan, _ | _, nan => nan
  | infinite n, infinite n' => if n == n' then nan else infinite n
  | infinite n, finite _ => infinite n
  | finite _, infinite n => infinite !n

/-! ### Reading -/

/-- Digits with single underscores between them lose the underscores; an underscore
    anywhere else spoils the text. `afterDigit` tells whether a digit came last. -/
def dropUnderscores? (afterDigit : Bool) : List Char → Option (List Char)
  | [] => some []
  | '_' :: c :: rest =>
    if afterDigit && isDigit c then (dropUnderscores? true rest).map (c :: ·) else none
  | c :: rest => if c == '_' then none else (dropUnderscores? (isDigit c) rest).map (c :: ·)

/-- The special values, by name in any letter case. -/
def readSpecial? (cs : List Char) : Option Binary64 :=
  let (negative, name) := Numeral.readSign cs
  match name.map asciiLower with
  | ['i', 'n', 'f'] | ['i', 'n', 'f', 'i', 'n', 'i', 't', 'y'] => some (infinite negative)
  | ['n', 'a', 'n'] => some nan
  | _ => none

/-- The number nearest to a numeral. -/
def ofNumeral (numeral : Numeral) : Binary64 :=
  ofScaled numeral.negative numeral.coefficient numeral.exponent

/-- The number that a text without surrounding blanks denotes. -/
def ofChars? (cs : List Char) : Option Binary64 := do
  let body ← dropUnderscores? false cs
  match Numeral.ofAll? body with
  | some numeral => some (ofNumeral numeral)
  | none => readSpecial? body

/-- **Reading.** The number nearest to what a whole text denotes. -/
def ofText? (s : String) : Option Binary64 := ofChars? (trim s.toList)

end Binary64

end ReportCheck
