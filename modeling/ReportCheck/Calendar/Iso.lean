import ReportCheck.Calendar.Date
import ReportCheck.Text.Digit

/-! # ISO 8601 dates

  The reader of dates and date-times in ISO 8601 form, reduced to the date.

  - A calendar date is `YYYY-MM-DD` or `YYYYMMDD`, a week date `YYYY-Www`, `YYYYWww`
    or one of these with a day of the week.
  - A single character of any kind may follow, and then a time of day, in whole parts
    with or without colons, with a fraction, and with an offset from UTC below a day.
    The time must be one, but it does not change the date.
  - `Iso.readDate?` accepts a whole text.
-/

namespace ReportCheck.Iso

open Text

-- Powers are the core ones, whichever other library is in scope.
attribute [local instance (high)] instPowNat

/-- A number of exactly `count` ASCII digits, and what follows. -/
def readNumber? (count : Nat) (cs : List Char) : Option (Nat × List Char) :=
  let digits := cs.take count
  if digits.length == count && digits.all isAsciiDigit then
    some (numeralValue digits, cs.drop count)
  else none

/-! ### Dates -/

/-- Day count of the Monday of a year's first week, the week with its first Thursday. -/
def firstMonday (year : Nat) : Nat :=
  let first := Date.newYear year
  let day := Date.weekday first
  if 3 < day then first + 7 - day else first - day

/-- Whether a year has a week 53: it begins on a Thursday, or on a Wednesday if it is a
    leap year. -/
def hasLongYear (year : Nat) : Bool :=
  let day := Date.weekday (Date.newYear year)
  day == 3 || (day == 2 && Date.isLeap year)

/-- The date of a day in a week of a year. -/
def ofWeek? (year week day : Nat) : Option Date :=
  let weekExists := 1 ≤ week && (week ≤ 52 || (week == 53 && hasLongYear year))
  if 1 ≤ year && weekExists && 1 ≤ day && day ≤ 7 then
    Date.ofOrdinal? (firstMonday year + (week - 1) * 7 + (day - 1))
  else none

/-- A week date after its `W`; `dashed` if the parts are separated. -/
def readWeek? (year : Nat) (dashed : Bool) (cs : List Char) : Option Date := do
  let (week, rest) ← readNumber? 2 cs
  match dashed, rest with
  | _, [] => ofWeek? year week 1
  | true, '-' :: rest | false, rest =>
    let (day, _) ← readNumber? 1 rest
    ofWeek? year week day
  | _, _ => none

/-- A calendar date after its year. -/
def readMonthDay? (year : Nat) (dashed : Bool) (cs : List Char) : Option Date := do
  let (month, rest) ← readNumber? 2 cs
  match dashed, rest with
  | true, '-' :: rest | false, rest =>
    let (day, _) ← readNumber? 2 rest
    Date.of? year month day
  | _, _ => none

/-- A date in any of the forms. -/
def readDay? (cs : List Char) : Option Date := do
  let (year, rest) ← readNumber? 4 cs
  match rest with
  | '-' :: 'W' :: rest => readWeek? year true rest
  | '-' :: rest => readMonthDay? year true rest
  | 'W' :: rest => readWeek? year false rest
  | _ => readMonthDay? year false rest

/-- The length of the date at the front of a text. The fifth character tells the forms
    apart. After a week, one more digit is a day of the week if the digits that follow
    the week are of odd number, and after a dash if no second digit comes next. -/
def dayLength (cs : List Char) : Nat :=
  if cs.length == 7 then 7
  else match cs.drop 4 with
    | '-' :: 'W' :: _ :: _ :: rest =>
      match rest with
      | '-' :: _ :: c :: _ => if isAsciiDigit c then 8 else 10
      | '-' :: _ => 10
      | _ => 8
    | '-' :: _ => 10
    | 'W' :: rest =>
      let digits := ((rest.drop 2).takeWhile isAsciiDigit).length
      if digits < 2 then 7 + digits else if digits % 2 == 1 then 7 else 8
    | _ => 8

/-! ### Times of day -/

/-- A time of day or an offset in parts, and whether it was followed by something. -/
structure Clock where
  hour : Nat
  minute : Nat
  second : Nat
  microsecond : Nat
  more : Bool

/-- Up to six digits of a fraction in microseconds; further digits are dropped. -/
def readFraction? (cs : List Char) : Option (Nat × List Char) := do
  let count := min cs.length 6
  let (value, rest) ← readNumber? count cs
  some (value * 10 ^ (6 - count), rest.dropWhile isAsciiDigit)

/-- Whether nothing follows any more: a NUL ends a text early. -/
def isEnd : List Char → Bool
  | [] => true
  | c :: _ => c == '\x00'

/-- The fraction that ends a clock time with the parts read so far. -/
def readClockFraction? (hour minute second : Nat) (stop : Bool) (cs : List Char) :
    Option Clock := do
  let (microsecond, rest) ← readFraction? cs
  some ⟨hour, minute, second, microsecond, if rest.isEmpty then stop else !isEnd rest⟩

/-- The parts of a clock time. `parts` holds those read before, `colons` tells whether
    they are separated, `stop` whether a mark of an offset follows the text. A single
    ASCII character after a part ends the time and counts as something that follows. -/
def readClockParts? (parts : List Nat) (colons stop : Bool) : Nat → List Char → Option Clock
  | 0, cs =>
    readClockFraction? (parts.getD 0 0) (parts.getD 1 0) (parts.getD 2 0) stop cs
  | left + 1, cs => do
    let (value, rest) ← readNumber? 2 cs
    let parts := parts ++ [value]
    let (hour, minute, second) := (parts.getD 0 0, parts.getD 1 0, parts.getD 2 0)
    match rest with
    | [] => some ⟨hour, minute, second, 0, stop⟩
    -- A single character is not looked at, whatever it separates.
    | [c] => if c.toNat < 0x80 then some ⟨hour, minute, second, 0, !isEnd rest⟩ else none
    | c :: after =>
      let colons := if parts.length == 1 then c == ':' else colons
      if colons && c == ':' then readClockParts? parts colons stop left after
      else if c == '.' || c == ',' then readClockFraction? hour minute second stop after
      else if !colons then readClockParts? parts colons stop left rest
      else none

/-- A clock time that a mark of an offset (`stop`) or nothing follows. -/
def readClock? (stop : Bool) (cs : List Char) : Option Clock :=
  readClockParts? [] false stop 3 cs

def isOffset (cs : List Char) : Bool :=
  match readClock? false cs with
  | some clock =>
    !clock.more && clock.hour * 3600 + clock.minute * 60 + clock.second < 86400
  | none => false

def isOffsetMark (c : Char) : Bool := c == '+' || c == '-' || c == 'Z'

/-- Whether a text is a time of day, with an offset or without. -/
def isTime (cs : List Char) : Bool :=
  let front := cs.takeWhile fun c => !isOffsetMark c
  let back := cs.dropWhile fun c => !isOffsetMark c
  match readClock? (!back.isEmpty) front with
  | none => false
  | some clock =>
    clock.hour < 24 && clock.minute < 60 && clock.second < 60 &&
      match back with
      | [] => !clock.more
      | 'Z' :: rest => isEnd rest
      | _ :: rest => isOffset rest

/-- **ISO 8601 reader.** The date of a whole text. -/
def readDate? (cs : List Char) : Option Date :=
  if cs.length < 7 then none
  else
    let length := dayLength cs
    match cs.drop length with
    | [] => readDay? (cs.take length)
    | _ :: time => if isTime time then readDay? (cs.take length) else none

end ReportCheck.Iso
