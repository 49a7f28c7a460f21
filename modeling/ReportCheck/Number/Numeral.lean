import ReportCheck.Text.Blank
import ReportCheck.Text.Digit

/-! # Decimal numerals

  The grammar of a number written in decimal: an optional sign, digits with at most one
  point among or around them, and an optional exponent.

  - `Numeral.read?` reads the longest numeral at the front of a text and returns what
    follows it, so that one grammar serves the lenient readers (any rest) and the
    strict ones (no rest).
  - The digits may be those of any script. An exponent mark that no digits follow is
    not part of the numeral.
-/

namespace ReportCheck

open Text

/-- The number `± coefficient · 10 ^ exponent`, as it was written. -/
structure Numeral where
  /-- Whether a minus sign was written. -/
  negative : Bool
  /-- All digits, without the point. -/
  coefficient : Nat
  /-- The written exponent less the number of digits after the point. -/
  exponent : Int
  deriving DecidableEq, Repr

namespace Numeral

/-- An optional sign, and what follows it. -/
def readSign : List Char → Bool × List Char
  | '+' :: rest => (false, rest)
  | '-' :: rest => (true, rest)
  | cs => (false, cs)

theorem readSign_of_isDigit {c : Char} (digit : isDigit c = true) (rest : List Char) :
    readSign (c :: rest) = (false, c :: rest) := by
  unfold readSign
  split
  · next heq =>
    cases heq
    exact absurd digit (by decide)
  · next heq =>
    cases heq
    exact absurd digit (by decide)
  · rfl

/-- An exponent with its value, and what follows it; `0` where none is written. -/
def readExponent (cs : List Char) : Int × List Char :=
  match cs with
  | [] => (0, [])
  | c :: rest =>
    if c == 'e' || c == 'E' then
      let (negative, body) := readSign rest
      let digits := body.takeWhile isDigit
      if digits.isEmpty then (0, cs)
      else
        let magnitude : Int := numeralValue digits
        (if negative then -magnitude else magnitude, body.dropWhile isDigit)
    else (0, cs)

/-- The digits after a point, and what follows them. -/
def readFraction : List Char → List Char × List Char
  | '.' :: rest => (rest.takeWhile isDigit, rest.dropWhile isDigit)
  | cs => ([], cs)

/-- **Longest numeral** at the front of a text, with the rest of the text. -/
def read? (cs : List Char) : Option (Numeral × List Char) :=
  let (negative, body) := readSign cs
  let whole := body.takeWhile isDigit
  let (fraction, afterFraction) := readFraction (body.dropWhile isDigit)
  if whole.isEmpty && fraction.isEmpty then none
  else
    let (exponent, rest) := readExponent afterFraction
    some (⟨negative, numeralValue (whole ++ fraction), exponent - fraction.length⟩, rest)

/-- The numeral that fills the whole text. -/
def ofAll? (cs : List Char) : Option Numeral :=
  match read? cs with
  | some (numeral, []) => some numeral
  | _ => none

@[simp] theorem read?_nil : read? [] = none := rfl

end Numeral

/-- ASCII letters in lower case, the form in which the names of special values are
    compared. -/
def Text.asciiLower (c : Char) : Char :=
  if 0x41 ≤ c.toNat && c.toNat ≤ 0x5a then Char.ofNat (c.toNat + 0x20) else c

end ReportCheck
