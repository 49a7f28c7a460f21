import ReportCheck.Load.Scalar
import ReportCheck.Calendar.Iso

/-! # Loading dates

  A date in the settings may be a date, or a point in time at the beginning of a day: a
  date with a time, an RFC 3339 text, or a number of seconds since 1970.

  - `Timestamp.ofChars?` reads texts, `Timestamp.ofSeconds?` counts of seconds. Counts
    beyond `Timestamp.watershed` are taken for milliseconds.
  - `Loaded.day` wants the time of day to be zero.
-/

namespace ReportCheck

open Text

-- Powers are the core ones, whichever other library is in scope.
attribute [local instance (high)] instPowNat

/-- A point in time: year, month and day of the calendar, extended to year 0, and
    whether it is the beginning of the day. -/
structure Timestamp where
  year : Nat
  month : Nat
  day : Nat
  isMidnight : Bool
  deriving DecidableEq, Repr

namespace Timestamp

/-! ### Texts -/

def readDate? (cs : List Char) : Option ((Nat × Nat × Nat) × List Char) := do
  let (year, rest) ← Iso.readNumber? 4 cs
  let '-' :: rest := rest | none
  let (month, rest) ← Iso.readNumber? 2 rest
  let '-' :: rest := rest | none
  let (day, rest) ← Iso.readNumber? 2 rest
  if 1 ≤ month && month ≤ 12 && 1 ≤ day && day ≤ Date.daysInMonth year month then
    some ((year, month, day), rest)
  else none

/-- A number of two digits up to a bound, and what follows it. -/
def readTwo? (bound : Nat) (cs : List Char) : Option (Nat × List Char) := do
  let (n, rest) ← Iso.readNumber? 2 cs
  if n ≤ bound then some (n, rest) else none

/-- A fraction of a second in microseconds, and what follows it. Digits after the sixth
    are dropped. -/
def readFraction? : List Char → Option (Nat × List Char)
  | c :: rest =>
    if c == '.' || c == ',' then
      let digits := rest.takeWhile isAsciiDigit
      let kept := digits.take 6
      if digits.isEmpty then none
      else some (numeralValue kept * 10 ^ (6 - kept.length), rest.dropWhile isAsciiDigit)
    else some (0, c :: rest)
  | [] => some (0, [])

/-- Whether a text is an offset from UTC of less than a day, or nothing. -/
def isZone : List Char → Bool
  | [] => true
  | [c] => c == 'Z' || c == 'z'
  | sign :: rest =>
    (sign == '+' || sign == '-' || sign == '−') &&
      match readTwo? 23 rest with
      | some (_, ':' :: rest) => (readTwo? 59 rest).any (·.2.isEmpty)
      | some (_, rest) => (readTwo? 59 rest).any (·.2.isEmpty)
      | none => false

/-- Whether a time of day is midnight, and what follows the time. -/
def readClock? (cs : List Char) : Option (Bool × List Char) := do
  let (hour, rest) ← readTwo? 23 cs
  let ':' :: rest := rest | none
  let (minute, rest) ← readTwo? 59 rest
  match rest with
  | ':' :: rest =>
    let (second, rest) ← readTwo? 59 rest
    let (fraction, rest) ← readFraction? rest
    some (hour + minute + second + fraction == 0, rest)
  | _ => some (hour + minute == 0, rest)

/-- The characters that may stand between date and time. -/
def isSeparator (c : Char) : Bool := c == 'T' || c == 't' || c == ' ' || c == '_'

/-- A date with a time, with an offset or without, that fills the text. -/
def ofWritten? (cs : List Char) : Option Timestamp := do
  let ((year, month, day), rest) ← readDate? cs
  let separator :: rest := rest | none
  if isSeparator separator then
    let (isMidnight, rest) ← readClock? rest
    if isZone rest then some ⟨year, month, day, isMidnight⟩ else none
  else none

/-! ### Counts of seconds -/

/-- The largest count that is taken for seconds and not for milliseconds. -/
def watershed : Nat := 20000000000

/-- Day count of the first day of 1970. -/
def epoch : Int := 719163

/-- The first second of 1600. -/
def firstSecond : Int := -11676096000

/-- The last second of 9999. -/
def lastSecond : Int := 253402300799

/-- **The point in time** after a whole number of seconds and some microseconds. -/
def ofSeconds? (count : Int) (microseconds : Nat) : Option Timestamp :=
  let perUnit : Int := if count.natAbs ≤ watershed then 1000000 else 1000
  let total := count * perUnit + microseconds
  let second := total.fdiv 1000000
  if firstSecond ≤ second && second ≤ lastSecond then
    (Date.ofOrdinal? (second.fdiv 86400 + epoch).toNat).map fun d =>
      ⟨d.year, d.month, d.day, second.fmod 86400 == 0 && total.fmod 1000000 == 0⟩
  else none

/-- The point in time after `± units / scale` seconds, to the nearest microsecond. The
    microseconds count forward from the second before, by the distance to the whole
    number towards zero. -/
def ofFraction? (negative : Bool) (units scale : Nat) : Option Timestamp :=
  let fraction := units % scale
  let whole : Int := (units / scale : Nat)
  let floor := if !negative then whole else if fraction == 0 then -whole else -whole - 1
  ofSeconds? floor (roundDiv (fraction * 1000000) scale .away)

/-- The point in time after a number of seconds. -/
def ofNumber? : Binary64 → Option Timestamp
  | .finite x => ofFraction? x.negative x.units.natAbs (2 ^ (1074 : Nat))
  | _ => none

/-- A count in decimal digits, with a point or without. -/
def ofCount? (cs : List Char) : Option Timestamp :=
  let (negative, body) := Numeral.readSign cs
  let whole := body.takeWhile isAsciiDigit
  if whole.isEmpty then none
  else match body.dropWhile isAsciiDigit with
    | [] =>
      let n : Int := numeralValue whole
      ofSeconds? (if negative then -n else n) 0
    | '.' :: digits =>
      if digits.all isAsciiDigit then
        let units := numeralValue (whole ++ digits)
        let scale := 10 ^ digits.length
        -- Counts with a point are rounded down before milliseconds are told apart.
        let scale := if watershed * scale < units then scale * 1000 else scale
        let floor := if negative then -((units : Int) / scale) - (if units % scale == 0 then 0 else 1)
          else (units : Int) / scale
        let rest := ((if negative then -(units : Int) else units) - floor * scale).toNat
        ofSeconds? floor (roundDiv (rest * 1000000) scale .away)
      else none
    | _ => none

/-- **Reading** a text. -/
def ofChars? (cs : List Char) : Option Timestamp := (ofWritten? cs).or (ofCount? cs)

end Timestamp

namespace Loaded

/-- The date of a point in time that begins it. -/
def dayOfTime : Option Timestamp → Loaded Date
  | none => refuse .unreadableTime
  | some t =>
    if !t.isMidnight then refuse .notMidnight
    else match Date.of? t.year t.month t.day with
      | some d => .ok d
      | none => refuse .unreadableDate

def dayOfText (cs : List Char) : Loaded Date :=
  match Timestamp.readDate? cs with
  | some ((year, month, day), []) => dayOfTime (some ⟨year, month, day, true⟩)
  | _ => dayOfTime (Timestamp.ofChars? cs)

/-- The date that a number denotes; one without a value denotes no point in time. -/
def dayOfNumber (x : Binary64) : Loaded Date := dayOfTime (Timestamp.ofNumber? x)

def isMidnight (m : Moment) : Bool := m.hour + m.minute + m.second + m.microsecond == 0

/-- **Dates.** -/
def day : Cell → Loaded Date
  | .date d => .ok d
  | .moment m => if isMidnight m then .ok m.date else refuse .notMidnight
  | .text s => dayOfText s.toList
  | .int n => if (Binary64.ofInt? n).isSome then dayOfTime (Timestamp.ofSeconds? n 0) else refuse .notDate
  | .float x => dayOfNumber x
  | .decimal (.nan _ true _) => refuse .notDate
  | .decimal d => dayOfNumber (Binary64.ofDecimal d)
  | _ => refuse .notDate

end Loaded

end ReportCheck
