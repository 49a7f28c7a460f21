import ReportCheck.Load.Loaded
import ReportCheck.Text.Blank
import ReportCheck.Number.Amount

/-! # Loading truth values and whole numbers

  Settings and row numbers may be given in several forms.

  - `Loaded.truth` accepts truth values, the numbers 0 and 1, and the customary words
    and letters in any letter case.
  - `Loaded.whole` accepts whole numbers in any form of number, and texts by
    `WholeText.read?`.
-/

namespace ReportCheck

open Text

-- Powers are the core ones, whichever other library is in scope.
attribute [local instance (high)] instPowNat

/-! ### Truth values -/

namespace Loaded

def trueWords : List String := ["1", "t", "true", "y", "yes", "on"]

def falseWords : List String := ["0", "f", "false", "n", "no", "off"]

def truthOfInt (n : Int) : Loaded Bool :=
  if n == 0 then .ok false else if n == 1 then .ok true else refuse .unreadableBool

/-- The truth value that a double-precision number stands for; one with a fraction is
    not taken for a truth value at all. -/
def truthOfNumber : Binary64 → Loaded Bool
  | .finite x => if x.isWhole then truthOfInt x.truncate else refuse .notBool
  | _ => refuse .notBool

/-- **Truth values.** -/
def truth : Cell → Loaded Bool
  | .bool b => .ok b
  | .text s =>
    let word := String.ofList (s.toList.map asciiLower)
    if trueWords.contains word then .ok true
    else if falseWords.contains word then .ok false
    else refuse .unreadableBool
  | .int n => truthOfInt n
  | .float x => truthOfNumber x
  | .decimal d => truthOfNumber (Binary64.ofDecimal d)
  | _ => refuse .notBool

end Loaded

/-! ### Whole numbers -/

/-- What a text of a whole number denotes. -/
inductive WholeText where
  | number (n : Int)
  /-- Too many digits to be read. -/
  | oversized
  | unreadable
  deriving DecidableEq, Repr

namespace WholeText

/-- Digits without leading zeros. -/
def ofDigits (negative : Bool) (cs : List Char) : WholeText :=
  if cs.isEmpty || !cs.all isAsciiDigit || (cs.head? == some '0' && 1 < cs.length) then unreadable
  else if maxDigits < cs.length then oversized
  else number (if negative then -(numeralValue cs : Int) else numeralValue cs)

/-- A number in its plain form: an optional minus sign and digits without leading
    zeros. -/
def ofPlain : List Char → WholeText
  | '-' :: rest => ofDigits true rest
  | cs => ofDigits false cs

def dropPlus? : List Char → Option (List Char)
  | '+' :: '-' :: _ => none
  | '+' :: rest => some rest
  | cs => some cs

/-- The text after leading zeros and the underscores among them; the last zero stays if
    no digit follows it. `last` is the character before `cs`. -/
def dropZeros? (last : Char) : List Char → Option (List Char)
  | [] => some [last]
  | c :: rest =>
    if c == '0' || c == '_' then dropZeros? c rest
    else if c == '.' then some (last :: c :: rest)
    else if isAsciiDigit c then some (c :: rest)
    else none

/-- The text without leading zeros, unless it starts with a minus sign. -/
def dropLeading? : List Char → Option (List Char)
  | '0' :: rest => dropZeros? '0' rest
  | c :: rest => if c == '-' || isAsciiDigit c then some (c :: rest) else none
  | [] => none

/-- The text without a fraction that is zero. -/
def dropFraction (cs : List Char) : List Char :=
  match cs.dropWhile (· != '.') with
  | '.' :: zeros => if zeros.all (· == '0') then cs.takeWhile (· != '.') else cs
  | _ => cs

def hasDoubleUnderscore : List Char → Bool
  | '_' :: '_' :: _ => true
  | _ :: rest => hasDoubleUnderscore rest
  | [] => false

/-- The text without the single underscores within it. -/
def dropSeparators (cs : List Char) : List Char :=
  if cs.head? == some '_' || cs.getLast? == some '_' || hasDoubleUnderscore cs then cs
  else cs.filter (· != '_')

/-- The plain form of a number that has a plus sign, leading zeros, a zero fraction or
    underscores between its digits. -/
def plain? (cs : List Char) : Option (List Char) := do
  let unsigned ← dropPlus? cs
  let shorter ← dropLeading? unsigned
  return dropSeparators (dropFraction shorter)

/-- **Reading** the text of a whole number. -/
def read (s : String) : WholeText :=
  let cs := trimWhite s.toList
  match ofPlain cs with
  | unreadable => ((plain? cs).map ofPlain).getD unreadable
  | result => result

end WholeText

namespace Loaded

/-- A double-precision number of which whole numbers are taken: those that fit a signed
    word of 64 bits. -/
def wholeOfNumber : Binary64 → Loaded Int
  | .finite x =>
    if !x.isWhole then refuse .fractional
    else if x.truncate.natAbs < 2 ^ (63 : Nat) then .ok x.truncate
    else refuse .oversizedInt
  | _ => refuse .notFinite

/-- The whole number that `± coefficient · 10 ^ exponent` is. Beyond as many places as the
    coefficient has digits, a negative exponent leaves a fraction. -/
def wholeOfScaled (negative : Bool) (coefficient : Nat) (exponent : Int) : Loaded Int :=
  if coefficient == 0 then .ok 0
  else if 0 ≤ exponent then
    .ok (Decimal.signedCoefficient negative (coefficient * 10 ^ exponent.toNat))
  else if exponent < -(digitCount coefficient : Int) then refuse .fractional
  else if coefficient % 10 ^ (-exponent).toNat == 0 then
    .ok (Decimal.signedCoefficient negative (coefficient / 10 ^ (-exponent).toNat))
  else refuse .fractional

/-- **Whole numbers.** -/
def whole : Cell → Loaded Int
  | .int n => .ok n
  | .bool b => .ok b.toNat
  | .text s =>
    match WholeText.read s with
    | .number n => .ok n
    | .oversized => refuse .oversizedInt
    | .unreadable => refuse .unreadableInt
  | .decimal (.finite negative coefficient exponent) => wholeOfScaled negative coefficient exponent
  | .decimal _ => refuse .notFinite
  | .float x => wholeOfNumber x
  | _ => refuse .notInt

/-- **Counts**: whole numbers that are not negative. -/
def count (c : Cell) : Loaded Nat := do
  let n ← whole c
  if n < 0 then refuse .tooSmall else return n.toNat

end Loaded

end ReportCheck
