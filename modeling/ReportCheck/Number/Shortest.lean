import ReportCheck.Number.Binary64

/-! # Shortest decimal form

  A double-precision number is written with the fewest digits that read back as the
  same number, and of those with the digits nearest to it.

  - `Shortest.search` tries one digit, then two, and so on; for each count it looks at
    the two neighbours of the value on the grid of that many digits. Seventeen digits
    always suffice.
  - `Binary64.render` is the written form and `Binary64.shown` the decimal number that
    it denotes, with the same exponent.
-/

namespace ReportCheck

-- Powers are the core ones, whichever other library is in scope.
attribute [local instance (high)] instPowNat

namespace Shortest

/-- A positive value `value / scale` and the numbers that read back as it: those from
    `low / scale` to `high / scale`, with the ends only if `closed`. -/
structure Interval where
  value : Nat
  low : Nat
  high : Nat
  scale : Nat
  closed : Bool

/-- The interval of a finite number: it reaches half way to both neighbours, and the
    ends belong to an even mantissa. Below a power of two the neighbour is nearer. -/
def intervalOf (mantissa : Nat) (exponent : Int) : Interval :=
  let up := 2 ^ (exponent - 2).toNat
  let below := if mantissa == 2 ^ (52 : Nat) && -1074 < exponent then 1 else 2
  -- Everything is in quarters of the last bit, in which half ways are whole.
  { value := 4 * mantissa * up
    low := (4 * mantissa - below) * up
    high := (4 * mantissa + 2) * up
    scale := 2 ^ (2 - exponent).toNat
    closed := mantissa % 2 == 0 }

/-- The number of digits before the point: `10 ^ (k - 1) ≤ value / scale < 10 ^ k`. -/
def leadingPlace (i : Interval) : Int :=
  -- The lengths leave two places open, and one comparison decides.
  let shift : Int := digitCount i.scale - digitCount i.value
  if i.scale * 10 ^ (-shift).toNat ≤ i.value * 10 ^ shift.toNat then 1 - shift else -shift

/-- Whether `digits · 10 ^ place` reads back as the value. -/
def contains (i : Interval) (digits : Nat) (place : Int) : Bool :=
  -- Both sides are brought to the common denominator, so nothing is divided.
  let point := digits * 10 ^ place.toNat * i.scale
  let down := 10 ^ (-place).toNat
  if i.closed then i.low * down ≤ point && point ≤ i.high * down
  else i.low * down < point && point < i.high * down

/-- The better neighbour of the value on the grid `10 ^ place`, if one reads back. -/
def onGrid? (i : Interval) (place : Int) : Option (Nat × Int) :=
  let num := i.value * 10 ^ (-place).toNat
  let den := i.scale * 10 ^ place.toNat
  let floor := num / den
  match contains i floor place, contains i (floor + 1) place with
  | true, true => some (roundDiv num den .even, place)
  | true, false => some (floor, place)
  | false, true => some (floor + 1, place)
  | false, false => none

/-- The first of the grids with `count`, `count + 1`, … digits that holds a number which
    reads back. -/
def search (i : Interval) (leading : Int) (count : Nat) : Nat → Nat × Int
  | 0 => (0, 0)
  | fuel + 1 =>
    match onGrid? i (leading - count) with
    | some found => found
    | none => search i leading (count + 1) fuel

/-- Digits without trailing zeros; `fuel` bounds the zeros removed. -/
def dropZeros (digits : Nat) (place : Int) : Nat → Nat × Int
  | 0 => (digits, place)
  | fuel + 1 =>
    if digits != 0 && digits % 10 == 0 then dropZeros (digits / 10) (place + 1) fuel
    else (digits, place)

/-- **Shortest digits** `d` and place `p` such that `d · 10 ^ p` reads back as
    `mantissa · 2 ^ exponent`. -/
def digitsOf (mantissa : Nat) (exponent : Int) : Nat × Int :=
  if mantissa == 0 then (0, 0)
  else
    let i := intervalOf mantissa exponent
    let (digits, place) := search i (leadingPlace i) 1 17
    dropZeros digits place 17

end Shortest

namespace Binary64

/-- Whether a number whose digits have the point after place `point` is written without
    a power of ten. -/
def isPositional (point : Int) : Bool := -4 < point && point ≤ 16

/-- A power of ten with its sign and at least two digits. -/
def powerText (n : Int) : List Char :=
  let digits := Nat.toDigits 10 n.natAbs
  (if n < 0 then '-' else '+') :: (if digits.length < 2 then '0' :: digits else digits)

/-- **Written form.** From a ten-thousandth up to below 10^16 a number is written
    positionally with at least one place, otherwise as digits and a power of ten. -/
def render : Binary64 → String
  | finite x =>
    let (digits, place) := Shortest.digitsOf x.mantissa x.exponent
    let text := Nat.toDigits 10 digits
    let point : Int := place + text.length
    let body :=
      if isPositional point then
        if 0 ≤ place then Decimal.placePoint text point ++ ['.', '0']
        else Decimal.placePoint text point
      else Decimal.placePoint text 1 ++ 'e' :: powerText (point - 1)
    String.ofList (Decimal.signText x.negative ++ body)
  | infinite negative => String.ofList (Decimal.signText negative ++ ['i', 'n', 'f'])
  | nan => "nan"

/-- **Shown value.** The decimal number that the written form denotes: a positional form
    of a whole number shows one zero after the point. -/
def shown : Binary64 → Decimal
  | finite x =>
    let (digits, place) := Shortest.digitsOf x.mantissa x.exponent
    if isPositional (place + digitCount digits) && 0 ≤ place then
      .finite x.negative (digits * 10 ^ (place + 1).toNat) (-1)
    else .finite x.negative digits place
  | infinite negative => .infinite negative
  | nan => .nan false false 0

end Binary64

end ReportCheck
