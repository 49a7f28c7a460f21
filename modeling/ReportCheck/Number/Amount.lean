import ReportCheck.Number.Decimal

/-! # Arithmetic on amounts

  Amounts are added and rounded to cents with a working precision of 400 digits, enough
  for any single double-precision amount to the cent.

  - `Decimal.roundToCents?` rounds to two places, a half away from zero, and gives
    nothing for a value that is not finite or whose cents do not fit the precision.
  - `Decimal.add` adds exactly and then rounds to the precision, a half to the even
    neighbour. It reports an invalid operation (opposite infinities, a signaling
    not-a-number value) and an overflow of the exponent range.
  - `Decimal.sum?` is the total of a list. An invalid operation or a total that is not
    finite gives nothing; an overflow is reported.
-/

namespace ReportCheck

-- Powers are the core ones, whichever other library is in scope.
attribute [local instance (high)] instPowNat

/-- Why two amounts have no sum. -/
inductive SumFault where
  /-- The operation has no defined result. -/
  | invalid
  /-- The result exceeds the range of exponents. -/
  | overflow
  deriving DecidableEq, Repr

namespace Decimal

/-- Working precision in digits. -/
def precision : Nat := 400

/-- The largest power of ten that the leading digit of a sum may stand for. -/
def maxExponent : Int := 999999

/-- The least exponent that a sum may have. -/
def minExponent : Int := -999999 - precision + 1

/-! ### Cents -/

/-- The number of whole cents nearest to `coefficient · 10 ^ exponent`, a half away
    from zero. The first two cases decide without writing out a large power of ten:
    a value below a tenth of a cent is no cent, and one with too many digits before the
    point cannot fit the precision. -/
def cents? (coefficient : Nat) (exponent : Int) : Option Nat :=
  let digits := digitCount coefficient
  if coefficient == 0 || exponent + digits ≤ -3 then some 0
  else if precision < exponent + 2 + digits then none
  else
    let whole :=
      if -2 ≤ exponent then coefficient * 10 ^ (exponent + 2).toNat
      else roundDiv coefficient (10 ^ (-2 - exponent).toNat) .away
    if digitCount whole ≤ precision then some whole else none

/-- **Rounding to cents.** -/
def roundToCents? : Decimal → Option Decimal
  | finite negative coefficient exponent =>
    (cents? coefficient exponent).map fun whole => finite negative whole (-2)
  | _ => none

/-! ### Sums -/

/-- A nonzero result brought to the precision and the range of exponents. -/
def fitNonzero (negative : Bool) (coefficient : Nat) (exponent : Int) : Except SumFault Decimal :=
  let digits := digitCount coefficient
  if maxExponent < exponent + digits - 1 then .error .overflow
  else
    let low := max (exponent + digits - precision) minExponent
    if low ≤ exponent then .ok (finite negative coefficient exponent)
    else
      let shift := (low - exponent).toNat
      -- A coefficient more than a digit shorter than the shift rounds to zero.
      let rounded := if digits + 1 < shift then 0 else roundDiv coefficient (10 ^ shift) .even
      -- Rounding up may give one digit more, and then the last one is zero.
      if digitCount rounded ≤ precision then .ok (finite negative rounded low)
      else if maxExponent < low + precision then .error .overflow
      else .ok (finite negative (rounded / 10) (low + 1))

/-- A result brought to the precision and the range of exponents. -/
def fit (negative : Bool) (coefficient : Nat) (exponent : Int) : Except SumFault Decimal :=
  if coefficient == 0 then .ok (finite negative 0 (min (max exponent minExponent) maxExponent))
  else fitNonzero negative coefficient exponent

/-- A coefficient with its sign. -/
def signedCoefficient (negative : Bool) (coefficient : Nat) : Int :=
  if negative then -(coefficient : Int) else coefficient

/-- The sum of two nonzero values, the first with the larger exponent. A second value
    so small that it cannot reach the digits kept is replaced by a single unit just
    below them, which rounds in the same direction. -/
def addAligned (n : Bool) (c : Nat) (e : Int) (n' : Bool) (c' : Nat) (e' : Int) :
    Except SumFault Decimal :=
  let reach := e + min (-1) ((digitCount c : Int) - precision - 2)
  let (c', e') := if e' + digitCount c' - 1 < reach then (1, reach) else (c', e')
  let total := signedCoefficient n (c * 10 ^ (e - e').toNat) + signedCoefficient n' c'
  fit (total < 0) total.natAbs e'

/-- The sum of zero, in a form with exponent `e`, and a nonzero value: that value, with
    as many zeros as the smaller exponent and the precision allow. -/
def addZero (e : Int) (n : Bool) (c : Nat) (e' : Int) : Except SumFault Decimal :=
  let low := max (min e e') (e' - precision - 1)
  fit n (c * 10 ^ (e' - low).toNat) low

/-- The sum of two finite values. -/
def addFinite (n : Bool) (c : Nat) (e : Int) (n' : Bool) (c' : Nat) (e' : Int) :
    Except SumFault Decimal :=
  if c == 0 && c' == 0 then fit (n && n') 0 (min e e')
  else if c == 0 then addZero e n' c' e'
  else if c' == 0 then addZero e' n c e
  else if n != n' && compareMagnitude c e c' e' == .eq then fit false 0 (min e e')
  else if e' ≤ e then addAligned n c e n' c' e'
  else addAligned n' c' e' n c e

/-- **Sum** of two values. -/
def add : Decimal → Decimal → Except SumFault Decimal
  | nan _ true _, _ | _, nan _ true _ => .error .invalid
  | nan n false p, _ => .ok (nan n false p)
  | _, nan n false p => .ok (nan n false p)
  | infinite n, infinite n' => if n == n' then .ok (infinite n) else .error .invalid
  | infinite n, finite .. => .ok (infinite n)
  | finite .., infinite n => .ok (infinite n)
  | finite n c e, finite n' c' e' => addFinite n c e n' c' e'

/-- The running total from `total` through the amounts in order. -/
def addAll (total : Decimal) : List Decimal → Except SumFault Decimal
  | [] => .ok total
  | amount :: rest => do addAll (← add total amount) rest

/-- **Total** of a list of amounts. -/
def sum? (amounts : List Decimal) : Except SumFault (Option Decimal) :=
  match addAll zero amounts with
  | .ok total => .ok (if total.isFinite then some total else none)
  | .error .invalid => .ok none
  | .error .overflow => .error .overflow

@[simp] theorem addAll_nil (total : Decimal) : addAll total [] = .ok total := rfl

@[simp] theorem addAll_cons (total amount : Decimal) (rest : List Decimal) :
    addAll total (amount :: rest) = (add total amount).bind (addAll · rest) := rfl

end Decimal

end ReportCheck
