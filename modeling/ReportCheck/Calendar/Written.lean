import ReportCheck.Calendar.Iso
import ReportCheck.Number.Numeral

/-! # Dates as people write them

  The readers of dates in cells: the ISO form first, then eight customary forms with
  numbers or English month names.

  - A form is a list of `Item`s, each of which reads a piece of the text.
  - `Date.readers` lists the nine readers in the order in which they are tried.
  - `Date.ofText?` reads a text without its surrounding blanks.
-/

namespace ReportCheck

open Text

/-- A piece of a written date. -/
inductive DateItem where
  /-- The number of a month, with or without a leading zero. -/
  | month
  /-- The number of a day, with or without a leading zero or a space in its place. -/
  | day
  /-- A year of two digits: up to 68 it is one of the years from 2000 on. -/
  | shortYear
  /-- A year of four digits. -/
  | longYear
  /-- The name of a month in full. -/
  | monthName
  /-- The first three letters of the name of a month. -/
  | shortMonthName
  /-- One or more blanks. -/
  | blanks
  /-- This character. -/
  | sign (c : Char)
  deriving DecidableEq, Repr

/-- The parts of a date read so far, 0 where none was read. -/
structure DateParts where
  year : Nat
  month : Nat
  day : Nat
  deriving DecidableEq, Repr

namespace DateItem

def monthNames : List (List Char) :=
  ["january", "february", "march", "april", "may", "june", "july", "august", "september",
    "october", "november", "december"].map String.toList

/-- What follows a name at the front of a text, in any letter case. -/
def dropName? : List Char → List Char → Option (List Char)
  | [], cs => some cs
  | n :: name, c :: cs => if asciiLower c == n then dropName? name cs else none
  | _ :: _, [] => none

/-- The number, counted from `first`, of the name at the front of a text. -/
def readName? (first : Nat) (cs : List Char) : List (List Char) → Option (Nat × List Char)
  | [] => none
  | name :: names =>
    match dropName? name cs with
    | some rest => some (first, rest)
    | none => readName? (first + 1) cs names

def isCount (c : Char) : Bool := '1' ≤ c && c ≤ '9'

def readMonth? : List Char → Option (Nat × List Char)
  | '1' :: c :: rest =>
    if '0' ≤ c && c ≤ '2' then some (10 + digitValue c, rest) else some (1, c :: rest)
  | '0' :: c :: rest => if isCount c then some (digitValue c, rest) else none
  | c :: rest => if isCount c then some (digitValue c, rest) else none
  | [] => none

/-- The number of a day. The second digit after 1 or 2 may be of any script. -/
def readDay? : List Char → Option (Nat × List Char)
  | '3' :: c :: rest =>
    if c == '0' || c == '1' then some (30 + digitValue c, rest) else some (3, c :: rest)
  | '1' :: c :: rest => if isDigit c then some (10 + digitValue c, rest) else some (1, c :: rest)
  | '2' :: c :: rest => if isDigit c then some (20 + digitValue c, rest) else some (2, c :: rest)
  | '0' :: c :: rest => if isCount c then some (digitValue c, rest) else none
  | ' ' :: c :: rest => if isCount c then some (digitValue c, rest) else none
  | c :: rest => if isCount c then some (digitValue c, rest) else none
  | [] => none

/-- A number of exactly `count` digits of any script. -/
def readDigits? (count : Nat) (cs : List Char) : Option (Nat × List Char) :=
  let digits := cs.take count
  if digits.length == count && digits.all isDigit then
    some (numeralValue digits, cs.drop count)
  else none

/-- The year that two digits stand for. -/
def fullYear (n : Nat) : Nat := if n ≤ 68 then 2000 + n else 1900 + n

/-- **Reading one item.** -/
def read? (parts : DateParts) (cs : List Char) : DateItem → Option (DateParts × List Char)
  | month => (readMonth? cs).map fun (n, rest) => ({ parts with month := n }, rest)
  | day => (readDay? cs).map fun (n, rest) => ({ parts with day := n }, rest)
  | shortYear => (readDigits? 2 cs).map fun (n, rest) => ({ parts with year := fullYear n }, rest)
  | longYear => (readDigits? 4 cs).map fun (n, rest) => ({ parts with year := n }, rest)
  | monthName =>
    (readName? 1 cs monthNames).map fun (n, rest) => ({ parts with month := n }, rest)
  | shortMonthName =>
    (readName? 1 cs (monthNames.map (·.take 3))).map fun (n, rest) =>
      ({ parts with month := n }, rest)
  | blanks =>
    match cs with
    | c :: rest => if isBlank c then some (parts, rest.dropWhile isBlank) else none
    | [] => none
  | sign s =>
    match cs with
    | c :: rest => if c == s then some (parts, rest) else none
    | [] => none

/-- The parts of a date in the given form, which has to fill the text. -/
def readAll? (parts : DateParts) (cs : List Char) : List DateItem → Option DateParts
  | [] => if cs.isEmpty then some parts else none
  | item :: items =>
    match item.read? parts cs with
    | some (parts, rest) => readAll? parts rest items
    | none => none

/-- **The customary forms**: `M/D/YYYY`, `M/D/YY`, `YYYY/M/D`, `M-D-YYYY`, and a day with
    the name of its month before or after it, in full or by three letters. -/
def forms : List (List DateItem) :=
  [ [month, sign '/', day, sign '/', longYear],
    [month, sign '/', day, sign '/', shortYear],
    [longYear, sign '/', month, sign '/', day],
    [month, sign '-', day, sign '-', longYear],
    [monthName, blanks, day, sign ',', blanks, longYear],
    [shortMonthName, blanks, day, sign ',', blanks, longYear],
    [day, blanks, monthName, blanks, longYear],
    [day, blanks, shortMonthName, blanks, longYear] ]

end DateItem

namespace Date

/-- The date of a text in one of the customary forms. -/
def readForm? (form : List DateItem) (cs : List Char) : Option Date := do
  let parts ← DateItem.readAll? ⟨0, 0, 0⟩ cs form
  of? parts.year parts.month parts.day

/-- **The readers of dates**, in the order in which they are tried. -/
def readers : List (List Char → Option Date) := Iso.readDate? :: DateItem.forms.map readForm?

/-- The date that a text without surrounding blanks denotes. -/
def ofChars? (cs : List Char) : Option Date := readers.findSome? fun reader => reader cs

/-- **Reading.** The date that a text denotes. -/
def ofText? (s : String) : Option Date := ofChars? (trim s.toList)

end Date

end ReportCheck
