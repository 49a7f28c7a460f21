import ReportCheck.Cell.Number
import ReportCheck.Calendar.Written

/-! # Cells as days

  A day may be given as a date, as a date with a time, as a written date, or as a serial
  number, the count of days by which spreadsheets store dates.

  - `Date.ofSerial` reads a serial number. Serial 1 is the first day of 1900, and serial
    60 is a day that never was, the 29th of February 1900.
  - `Cell.day` reads a cell, `Cell.isDay` is the check for a date.
-/

namespace ReportCheck

/-- Day count of the day before serial 1. -/
def Date.serialStart : Nat := 693595

/-- The date of a whole serial number of at least 1. -/
def Date.ofSerialNumber? (n : Nat) : Option Date :=
  if n == 60 then none
  else if n < 60 then Date.ofOrdinal? (serialStart + n)
  else Date.ofOrdinal? (serialStart + n - 1)

/-- The date of a whole serial number; there is no day before serial 1. -/
def Date.ofWholeSerial? (n : Int) : Option Date := if n < 1 then none else ofSerialNumber? n.toNat

/-- **Serial number.** The fraction of a day is dropped; there is no day before serial 1,
    and infinitely many days are a fault. -/
def Date.ofSerial : Binary64 → Except Fault (Option Date)
  | .finite x => .ok (ofWholeSerial? x.truncate)
  | .infinite negative => if negative then .ok none else .error .infiniteDays
  | .nan => .ok none

namespace Cell

/-- **Day** of a cell. -/
def day : Cell → Except Fault (Option Date)
  | date d => .ok (some d)
  | moment m => .ok (some m.date)
  | text s => .ok (Date.ofText? s)
  | cell => do
    match ← cell.toBinary64 with
    | some x => Date.ofSerial x
    | none => .ok none

/-- Whether a cell is accepted as a date: every number is, and what reads as a day. -/
def isDay (c : Cell) : Except Fault Bool :=
  if c.isNumber then .ok true else do return (← c.day).isSome

end Cell

end ReportCheck
