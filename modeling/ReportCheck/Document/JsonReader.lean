import ReportCheck.Cell
import ReportCheck.Number.Amount

/-! # Reading JSON

  The reader of JSON texts. It keeps the order of members; of several members with one
  name the last one counts, in the place of the first.

  - A number without fraction and exponent is a whole number of any size, up to
    `maxDigits` digits; every other number is one of double precision, and so are
    the three constants `NaN`, `Infinity` and `-Infinity`.
  - Text escapes may be surrogate pairs; a lone surrogate reads as the replacement
    character.
  - `Json.read` accepts a whole text.
-/

namespace ReportCheck

open Text

/-- Why a text cannot be read. -/
inductive JsonFault where
  /-- The text is not JSON. -/
  | malformed
  /-- A whole number has too many digits. -/
  | oversizedInteger
  deriving DecidableEq, Repr

namespace Json

/-- The characters between tokens. -/
def isSpace (c : Char) : Bool := c == ' ' || c == '\t' || c == '\n' || c == '\r'

/-- A text from its first character that is not a space. -/
def skip (cs : List Char) : List Char := cs.dropWhile isSpace

/-! ### Texts -/

def hexValue? (c : Char) : Option Nat :=
  let n := c.toNat
  if 0x30 ≤ n && n ≤ 0x39 then some (n - 0x30)
  else if 0x41 ≤ n && n ≤ 0x46 then some (n - 0x37)
  else if 0x61 ≤ n && n ≤ 0x66 then some (n - 0x57)
  else none

/-- The number that four hexadecimal digits denote. -/
def unit? (a b c d : Char) : Option Nat := do
  return (((← hexValue? a) * 16 + (← hexValue? b)) * 16 + (← hexValue? c)) * 16 + (← hexValue? d)

/-- What stands for a lone surrogate. -/
def replacement : Char := '\ufffd'

/-- The character read so far, without a high surrogate that waits for its partner. -/
def flush (high : Option Nat) (read : List Char) : List Char :=
  if high.isSome then replacement :: read else read

/-- Adds a UTF-16 unit to the characters read so far, the last first. A high surrogate
    waits for its partner. -/
def addUnit (high : Option Nat) (read : List Char) (n : Nat) : Option Nat × List Char :=
  if 0xd800 ≤ n && n < 0xdc00 then (some n, flush high read)
  else if 0xdc00 ≤ n && n < 0xe000 then
    match high with
    | some h => (none, Char.ofNat (0x10000 + (h - 0xd800) * 0x400 + (n - 0xdc00)) :: read)
    | none => (none, replacement :: read)
  else (none, Char.ofNat n :: flush high read)

/-- The character that a letter after a backslash stands for. -/
def escaped? (c : Char) : Option Char :=
  if c == '"' || c == '\\' || c == '/' then some c
  else if c == 'b' then some '\x08'
  else if c == 'f' then some '\x0c'
  else if c == 'n' then some '\n'
  else if c == 'r' then some '\r'
  else if c == 't' then some '\t'
  else none

/-- A text after its opening quote, and what follows its closing quote. -/
def readText? (high : Option Nat) (read : List Char) : List Char → Option (String × List Char)
  | [] => none
  | '"' :: rest => some (String.ofList (flush high read).reverse, rest)
  | '\\' :: 'u' :: a :: b :: c :: d :: rest =>
    match unit? a b c d with
    | some n => readText? (addUnit high read n).1 (addUnit high read n).2 rest
    | none => none
  | '\\' :: c :: rest =>
    match escaped? c with
    | some e => readText? none (e :: flush high read) rest
    | none => none
  -- Control characters have to be escaped.
  | c :: rest => if c.toNat < 0x20 then none else readText? none (c :: flush high read) rest

/-! ### Numbers -/

def readFraction (cs : List Char) : List Char × List Char :=
  match cs with
  | '.' :: rest =>
    let digits := rest.takeWhile isAsciiDigit
    if digits.isEmpty then ([], cs) else (digits, rest.dropWhile isAsciiDigit)
  | _ => ([], cs)

/-- The exponent of a number, if there is one. -/
def readExponent? (cs : List Char) : Option (Int × List Char) :=
  match cs with
  | [] => none
  | c :: rest =>
    if c == 'e' || c == 'E' then
      let (negative, body) := Numeral.readSign rest
      let digits := body.takeWhile isAsciiDigit
      let magnitude : Int := numeralValue digits
      if digits.isEmpty then none
      else some (if negative then -magnitude else magnitude, body.dropWhile isAsciiDigit)
    else none

/-- The digits before the point: a single zero, or digits without leading zeros. -/
def readWhole (cs : List Char) : List Char × List Char :=
  match cs with
  | '0' :: rest => (['0'], rest)
  | _ => (cs.takeWhile isAsciiDigit, cs.dropWhile isAsciiDigit)

/-- A number after its sign, and what follows it. -/
def readNumber (negative : Bool) (cs : List Char) : Except JsonFault (Cell × List Char) :=
  let (whole, afterWhole) := readWhole cs
  let (fraction, afterFraction) := readFraction afterWhole
  if whole.isEmpty then .error .malformed
  else match fraction, readExponent? afterFraction with
    -- Only digits make a whole number; a point or an exponent makes a double.
    | [], none =>
      match WholeNumber.ofInt? (Decimal.signedCoefficient negative (numeralValue whole)) with
      | some n => .ok (.int n, afterFraction)
      | none => .error .oversizedInteger
    | _, exponent =>
      let (power, rest) := exponent.getD (0, afterFraction)
      let numeral := ⟨negative, numeralValue (whole ++ fraction), power - fraction.length⟩
      .ok (.float (Binary64.ofNumeral numeral), rest)

/-! ### Values -/

/-- What follows a word at the front of a text. -/
def dropWord? (word : String) (cs : List Char) : Option (List Char) :=
  let letters := word.toList
  if letters.isPrefixOf cs then some (cs.drop letters.length) else none

/-- The words that stand for values. -/
def words : List (String × Cell) :=
  [ ("null", .empty), ("true", .bool true), ("false", .bool false), ("NaN", .float .nan),
    ("Infinity", .float (.infinite false)), ("-Infinity", .float (.infinite true)) ]

/-- A word at the front of a text, or else a number. -/
def readWord (cs : List Char) : Except JsonFault (Cell × List Char) :=
  match words.findSome? fun (word, value) => (dropWord? word cs).map (value, ·) with
  | some found => .ok found
  | none =>
    match cs with
    | '-' :: rest => readNumber true rest
    | _ => readNumber false cs

/-- A name with its quotes and the colon, and what follows them. -/
def readName (cs : List Char) : Except JsonFault (String × List Char) :=
  match skip cs with
  | '"' :: rest =>
    match readText? none [] rest with
    | some (name, rest) =>
      match skip rest with
      | ':' :: rest => .ok (name, rest)
      | _ => .error .malformed
    | none => .error .malformed
  | _ => .error .malformed

mutual

/-- A value, and what follows it. `fuel` bounds the number of steps. -/
def readValue (fuel : Nat) (cs : List Char) : Except JsonFault (Cell × List Char) :=
  match fuel with
  | 0 => .error .malformed
  | fuel + 1 =>
    match skip cs with
    | '"' :: rest =>
      match readText? none [] rest with
      | some (s, rest) => .ok (.text s, rest)
      | none => .error .malformed
    | '[' :: rest =>
      match skip rest with
      | ']' :: rest => .ok (.list [], rest)
      | rest => readItems fuel [] rest
    | '\x7b' :: rest =>
      match skip rest with
      | '\x7d' :: rest => .ok (.object [], rest)
      | rest => readMembers fuel [] rest
    | rest => readWord rest

/-- The items of a list up to its end, after those read before, the last first. -/
def readItems (fuel : Nat) (read : List Cell) (cs : List Char) :
    Except JsonFault (Cell × List Char) :=
  match fuel with
  | 0 => .error .malformed
  | fuel + 1 => do
    let (item, rest) ← readValue fuel cs
    match skip rest with
    | ',' :: rest => readItems fuel (item :: read) rest
    | ']' :: rest => .ok (.list (item :: read).reverse, rest)
    | _ => .error .malformed

/-- The members of an object up to its end, after those read before. -/
def readMembers (fuel : Nat) (read : Members) (cs : List Char) :
    Except JsonFault (Cell × List Char) :=
  match fuel with
  | 0 => .error .malformed
  | fuel + 1 => do
    let (name, rest) ← readName cs
    let (value, rest) ← readValue fuel rest
    match skip rest with
    | ',' :: rest => readMembers fuel (read.put name value) rest
    | '\x7d' :: rest => .ok (.object (read.put name value), rest)
    | _ => .error .malformed

end

/-- **Reading** a whole text. Every step reads at least one character, or begins a value
    after one that did. -/
def read (s : String) : Except JsonFault Cell := do
  let cs := s.toList
  let (value, rest) ← readValue (2 * cs.length + 2) cs
  if (skip rest).isEmpty then return value else .error .malformed

end Json

end ReportCheck
