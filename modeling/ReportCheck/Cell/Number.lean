import ReportCheck.Cell.Text
import ReportCheck.Number.Amount
import ReportCheck.Fault

/-! # Cells as numbers

  Checks read numbers from cells in three ways.

  - `Cell.leadingNumber` is lenient: it takes the numeral at the front of a text.
  - `Cell.strictNumber` wants the whole text to be a number; a blank is zero.
  - `Cell.cents?` rounds an amount to cents, read from the plain text of the cell.
  - `Cell.compareNumbers` compares cells that hold numbers, exactly and across the
    three forms of numbers.

  Not-a-number values are never the result of a reader.
-/

namespace ReportCheck

open Text

/-- The number, if it is one. -/
def Binary64.some? (x : Binary64) : Option Binary64 := if x.isNaN then none else some x

/-- **Lenient reading**: the number nearest to the numeral at the front of a text, after
    any blanks. -/
def Binary64.leading? (cs : List Char) : Option Binary64 :=
  (Numeral.read? (trimLeft cs)).map fun (numeral, _) => ofNumeral numeral

namespace Cell

/-- A cell that holds a number, in double precision. -/
def toBinary64 : Cell → Except Fault (Option Binary64)
  | int n =>
    match Binary64.ofInt? n with
    | some x => .ok (some x)
    | none => .error .integerTooLarge
  | float x => .ok x.some?
  | decimal d => .ok (Binary64.ofDecimal d).some?
  | _ => .ok none

/-- **Lenient number** of a cell: a number as it is, a text by its front. -/
def leadingNumber : Cell → Except Fault (Option Binary64)
  | text s => .ok (Binary64.leading? s.toList)
  | cell => cell.toBinary64

/-- **Strict number** of a cell: all of a text has to be a number. Nothing and blank
    texts are zero, truth values are 0 and 1. -/
def strictNumber : Cell → Except Fault (Option Binary64)
  | empty => .ok (some (.zero false))
  | bool b => .ok (some (.ofBool b))
  | text s =>
    let body := trim s.toList
    if body.isEmpty then .ok (some (.zero false))
    else .ok ((Binary64.ofChars? body).bind (·.some?))
  | cell => cell.toBinary64

/-- The decimal amount that the plain text of a cell denotes. -/
def amount? : Cell → Option Decimal
  | decimal d => some d
  | cell => Decimal.ofText? cell.plain

/-- **Amount in cents**, if the cell denotes one that can be rounded. -/
def cents? (c : Cell) : Option Decimal := c.amount?.bind Decimal.roundToCents?

/-- The exact value of a number. -/
def numericValue? : Cell → Option Decimal
  | int n => some (.ofInt n)
  | float x => some x.toDecimal
  | decimal d => some d
  | _ => none

def isDecimal : Cell → Bool
  | decimal _ => true
  | _ => false

/-- **Order** of two cells that hold numbers; nothing where one of them is not a number.
    That case is a fault if the other is a decimal amount. -/
def compareNumbers (v w : Cell) : Except Fault (Option Ordering) :=
  match v.numericValue?, w.numericValue? with
  | some a, some b =>
    if (a.isNaN || b.isNaN) && (v.isDecimal || w.isDecimal) then .error .unordered
    else .ok (a.compare? b)
  | _, _ => .ok none

def isAtLeast (v : Cell) (n : Int) : Bool :=
  v.isNumber && match v.numericValue?.bind (·.compare? (.ofInt n)) with
    | some .eq | some .gt => true
    | _ => false

def isPositive (v : Cell) : Bool :=
  v.isNumber && (v.numericValue?.bind (·.compare? .zero)) == some .gt

end Cell

end ReportCheck
