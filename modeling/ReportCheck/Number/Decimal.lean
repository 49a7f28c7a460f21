import ReportCheck.Number.Rounding
import ReportCheck.Number.Numeral

/-! # Decimal numbers

  Amounts are decimal floating-point numbers: a sign, a coefficient and a power of ten,
  where `1.0` and `1.00` are equal in value and different in form. Infinities and
  not-a-number values exist because texts can denote them.

  - `Decimal.render` is the written form; it shows the exponent a value carries.
  - `Decimal.ofText?` reads a text; surrounding blanks and underscores do not count.
  - `Decimal.compare?` orders by value and leaves not-a-number values apart.
-/

namespace ReportCheck

open Text

-- Powers are the core ones, whichever other library is in scope.
attribute [local instance (high)] instPowNat

/-- **Decimal numbers.** -/
inductive Decimal where
  /-- The number `± coefficient · 10 ^ exponent`. -/
  | finite (negative : Bool) (coefficient : Nat) (exponent : Int)
  /-- An infinity. -/
  | infinite (negative : Bool)
  /-- Not a number, with the diagnostic digits it was written with. -/
  | nan (negative signaling : Bool) (payload : Nat)
  deriving DecidableEq, Repr, Inhabited

namespace Decimal

/-- The number zero in the form `0`. -/
def zero : Decimal := finite false 0 0

def isFinite : Decimal → Bool
  | finite .. => true
  | _ => false

def isNaN : Decimal → Bool
  | nan .. => true
  | _ => false

/-- Whether the value is zero, whatever its form. -/
def isZero : Decimal → Bool
  | finite _ coefficient _ => coefficient == 0
  | _ => false

/-! ### Written form -/

/-- A minus sign for a negative value. -/
def signText (negative : Bool) : List Char := if negative then ['-'] else []

/-- A whole number with its sign, also when it is positive. -/
def signedText (n : Int) : List Char :=
  (if n < 0 then '-' else '+') :: Nat.toDigits 10 n.natAbs

/-- The digits of a coefficient with the point after the first `place` of them, padded
    with zeros where the point lies outside. -/
def placePoint (digits : List Char) (place : Int) : List Char :=
  if place ≤ 0 then
    '0' :: '.' :: List.replicate (-place).toNat '0' ++ digits
  else
    let whole := place.toNat
    if digits.length ≤ whole then digits ++ List.replicate (whole - digits.length) '0'
    else digits.take whole ++ '.' :: digits.drop whole

/-- **Written form.** A value with an exponent of at most zero and no more than five
    zeros after the point is written positionally, every other in powers of ten. -/
def render : Decimal → String
  | finite negative coefficient exponent =>
    let digits := Nat.toDigits 10 coefficient
    let left : Int := exponent + digits.length
    let body :=
      if exponent ≤ 0 && -6 < left then placePoint digits left
      else placePoint digits 1 ++ (if left == 1 then [] else 'E' :: signedText (left - 1))
    String.ofList (signText negative ++ body)
  | infinite negative => String.ofList (signText negative ++ "Infinity".toList)
  | nan negative signaling payload =>
    String.ofList (signText negative ++ (if signaling then "sNaN" else "NaN").toList
      ++ (if payload == 0 then [] else Nat.toDigits 10 payload))

/-! ### Reading -/

/-- The largest power of ten that a leading digit may stand for. -/
def topExponent : Int := 999999999999999999

/-- The least exponent of a form. -/
def bottomExponent : Int := -1999999999999999997

/-- Whether a form lies within the range of exponents. -/
def inRange (coefficient : Nat) (exponent : Int) : Bool :=
  bottomExponent ≤ exponent
    && (if coefficient == 0 then exponent ≤ topExponent
        else exponent + digitCount coefficient - 1 ≤ topExponent)

/-- The diagnostic digits of a not-a-number value. -/
def readPayload? (cs : List Char) : Option Nat :=
  if cs.all isDigit then some (numeralValue cs) else none

/-- The special values, by name in any letter case. -/
def readSpecial? (cs : List Char) : Option Decimal :=
  let (negative, name) := Numeral.readSign cs
  match name.map asciiLower with
  | ['i', 'n', 'f'] | ['i', 'n', 'f', 'i', 'n', 'i', 't', 'y'] => some (infinite negative)
  | 'n' :: 'a' :: 'n' :: payload => (readPayload? payload).map (nan negative false)
  | 's' :: 'n' :: 'a' :: 'n' :: payload => (readPayload? payload).map (nan negative true)
  | _ => none

/-- The decimal number that a text denotes exactly. -/
def ofChars? (cs : List Char) : Option Decimal :=
  let body := (trim cs).filter (· != '_')
  match Numeral.ofAll? body with
  | some numeral =>
    if inRange numeral.coefficient numeral.exponent then
      some (finite numeral.negative numeral.coefficient numeral.exponent)
    else none
  | none => readSpecial? body

/-- **Reading.** The decimal number that a text denotes, with the exponent it shows. -/
def ofText? (s : String) : Option Decimal := ofChars? s.toList

/-- A whole number as a decimal. -/
def ofInt (n : Int) : Decimal := finite (n < 0) n.natAbs 0

/-! ### Order by value -/

/-- Order of `c · 10 ^ e` and `c' · 10 ^ e'`. The position of the leading digits decides
    first, so that the powers of ten compared later differ by no more than the
    coefficients' lengths. -/
def compareMagnitude (c : Nat) (e : Int) (c' : Nat) (e' : Int) : Ordering :=
  if c == 0 then (if c' == 0 then .eq else .lt)
  else if c' == 0 then .gt
  else match compare (e + digitCount c) (e' + digitCount c') with
    | .eq =>
      let low := min e e'
      compare (c * 10 ^ (e - low).toNat) (c' * 10 ^ (e' - low).toNat)
    | order => order

/-- Order of two finite values. -/
def compareFinite (negative : Bool) (c : Nat) (e : Int)
    (negative' : Bool) (c' : Nat) (e' : Int) : Ordering :=
  match negative && c != 0, negative' && c' != 0 with
  | false, false => compareMagnitude c e c' e'
  | true, true => compareMagnitude c' e' c e
  | true, false => .lt
  | false, true => .gt

/-- **Order by value**; a not-a-number value has no place in it. -/
def compare? : Decimal → Decimal → Option Ordering
  | nan .., _ | _, nan .. => none
  | infinite negative, infinite negative' => some (compare negative' negative)
  | infinite negative, finite .. => some (if negative then .lt else .gt)
  | finite .., infinite negative => some (if negative then .gt else .lt)
  | finite negative c e, finite negative' c' e' => some (compareFinite negative c e negative' c' e')

end Decimal

end ReportCheck
