import ReportCheck.Cell.Text
import ReportCheck.Text.Digit

/-! # YAML scalars

  Which of the three styles a text is written in.

  - A text is plain if nothing in it has a meaning of its own and it cannot be read as
    another kind of value (`Yaml.isOtherKind`, after the types of YAML 1.1).
  - Otherwise it stands between single quotes, or between double quotes if it has
    characters that need escapes.
-/

namespace ReportCheck.Yaml

open Text (isAsciiDigit)

/-! ### Texts that read as another kind of value -/

def isDigitLike (c : Char) : Bool := isAsciiDigit c || c == '_'

/-- Words for truth values, nothing and a few special keys. -/
def reservedWords : List String :=
  [ "yes", "Yes", "YES", "no", "No", "NO", "true", "True", "TRUE", "false", "False", "FALSE",
    "on", "On", "ON", "off", "Off", "OFF", "~", "null", "Null", "NULL", "", "<<", "=", "!", "&",
    "*", ".nan", ".NaN", ".NAN" ]

def dropSign : List Char → List Char
  | '+' :: rest => rest
  | '-' :: rest => rest
  | cs => cs

def startsWithDigit (cs : List Char) : Bool := (cs.head?.map isAsciiDigit).getD false

/-- A part of a sexagesimal number: one digit, or two up to 59. -/
def isSixty : List Char → Bool
  | [c] => isAsciiDigit c
  | [c, d] => '0' ≤ c && c ≤ '5' && isAsciiDigit d
  | _ => false

/-- The parts of a text between colons. -/
def colonParts : List Char → List (List Char)
  | [] => [[]]
  | c :: rest =>
    match colonParts rest with
    | part :: parts => if c == ':' then [] :: part :: parts else (c :: part) :: parts
    | [] => [[c]]

/-- A sexagesimal number with at least one colon; `isFirst` accepts what stands before
    it. -/
def isSexagesimal (isFirst : List Char → Bool) (cs : List Char) : Bool :=
  match colonParts cs with
  | first :: part :: parts => isFirst first && (part :: parts).all isSixty
  | _ => false

def isInt (cs : List Char) : Bool :=
  let body := dropSign cs
  let isCount (part : List Char) : Bool :=
    startsWithDigit part && part.head? != some '0' && part.all isDigitLike
  match body with
  -- Binary, hexadecimal and octal numbers start with a zero, all others do not.
  | '0' :: 'b' :: digits => !digits.isEmpty && digits.all fun c => c == '0' || c == '1' || c == '_'
  | '0' :: 'x' :: digits =>
    !digits.isEmpty && digits.all fun c =>
      isDigitLike c || ('a' ≤ c && c ≤ 'f') || ('A' ≤ c && c ≤ 'F')
  | '0' :: digits => digits.all fun c => ('0' ≤ c && c ≤ '7') || c == '_'
  | _ => isCount body || isSexagesimal isCount body

/-- An exponent with its sign, or nothing. -/
def isExponent : List Char → Bool
  | [] => true
  | e :: sign :: digits =>
    (e == 'e' || e == 'E') && (sign == '+' || sign == '-') && !digits.isEmpty
      && digits.all isAsciiDigit
  | _ => false

def isFloat (cs : List Char) : Bool :=
  let body := dropSign cs
  let whole := body.takeWhile (· != '.')
  let isDigits (part : List Char) : Bool := startsWithDigit part && part.all isDigitLike
  match body.dropWhile (· != '.') with
  | [] => false
  | _ :: fraction =>
    (isDigits whole && isExponent (fraction.dropWhile isDigitLike))
      || (cs.head? == some '.' && startsWithDigit fraction
          && isExponent (fraction.dropWhile isDigitLike))
      || (isSexagesimal isDigits whole && fraction.all isDigitLike)
      || (whole.isEmpty && ["inf", "Inf", "INF"].contains (String.ofList fraction))

def dropOneOrTwo? : List Char → Option (List Char)
  | c :: d :: rest =>
    if isAsciiDigit c then some (if isAsciiDigit d then rest else d :: rest) else none
  | [c] => if isAsciiDigit c then some [] else none
  | [] => none

def dropTwo? : List Char → Option (List Char)
  | c :: d :: rest => if isAsciiDigit c && isAsciiDigit d then some rest else none
  | _ => none

def dropChar? (expected : Char) : List Char → Option (List Char)
  | c :: rest => if c == expected then some rest else none
  | [] => none

/-- Whether a text is a zone of a point in time, or nothing. -/
def isZone (cs : List Char) : Bool :=
  match cs.dropWhile fun c => c == ' ' || c == '\t' with
  | [] => cs.isEmpty
  | ['Z'] => true
  | sign :: rest =>
    (sign == '+' || sign == '-') &&
      match dropOneOrTwo? rest with
      | some [] => true
      | some (':' :: minutes) => minutes.length == 2 && minutes.all isAsciiDigit
      | _ => false

/-- Whether a text is a time of day with a zone or without. -/
def isClock (cs : List Char) : Bool :=
  let rest? := do
    let rest ← dropOneOrTwo? cs
    let rest ← dropTwo? (← dropChar? ':' rest)
    dropTwo? (← dropChar? ':' rest)
  match rest? with
  | some ('.' :: rest) => isZone (rest.dropWhile isAsciiDigit)
  | some rest => isZone rest
  | none => false

def isTimestamp (cs : List Char) : Bool :=
  let year := cs.take 4
  let rest? := do
    let rest ← dropOneOrTwo? (← dropChar? '-' (cs.drop 4))
    dropOneOrTwo? (← dropChar? '-' rest)
  year.length == 4 && year.all isAsciiDigit &&
    match rest? with
    | some [] => cs.length == 10
    | some (c :: rest) =>
      if c == 'T' || c == 't' then isClock rest
      else (c == ' ' || c == '\t') && isClock (rest.dropWhile fun c => c == ' ' || c == '\t')
    | none => false

/-- **Other kinds.** Whether a text without quotes reads as something else than a text. -/
def isOtherKind (cs : List Char) : Bool :=
  reservedWords.contains (String.ofList cs) || isInt cs || isFloat cs || isTimestamp cs

/-! ### Styles -/

/-- The styles of scalars. -/
inductive Style where
  | plain
  | singleQuoted
  | doubleQuoted
  deriving DecidableEq, Repr

/-- Characters that mean something at the front of a scalar. -/
def frontIndicators : List Char := "#,[]\x7b\x7d&*!|>'\"%@\x60".toList

/-- Whether the next character, if any, is white space. -/
def spaceFollows : List Char → Bool
  | [] => true
  | c :: _ => c == ' ' || c == '\n'

/-- Whether a text after its first character holds an indicator; `afterSpace` tells
    whether white space came last. -/
def hasInnerIndicator (afterSpace : Bool) : List Char → Bool
  | [] => false
  | c :: rest =>
    (c == ':' && spaceFollows rest) || (c == '#' && afterSpace)
      || hasInnerIndicator (c == ' ' || c == '\n') rest

/-- Whether a text holds something that means more than itself. -/
def hasIndicator : List Char → Bool
  | [] => false
  | c :: rest =>
    frontIndicators.contains c || ((c == '?' || c == ':' || c == '-') && spaceFollows rest)
      || "---".toList.isPrefixOf (c :: rest) || "...".toList.isPrefixOf (c :: rest)
      || hasInnerIndicator (c == ' ' || c == '\n') rest

def hasSpaceAtBreak : List Char → Bool
  | a :: b :: rest =>
    (a == ' ' && b == '\n') || (a == '\n' && b == ' ') || hasSpaceAtBreak (b :: rest)
  | _ => false

/-- Whether a character has to be escaped. -/
def isSpecial (c : Char) : Bool := c != '\n' && !(0x20 ≤ c.toNat && c.toNat ≤ 0x7e)

/-- The characters that end a line. -/
def isBreak (c : Char) : Bool := c == '\n' || c == '\u0085' || c == '\u2028' || c == '\u2029'

def isMultiline (cs : List Char) : Bool := cs.any isBreak

/-- Whether single quotes are enough. -/
def fitsSingleQuotes (cs : List Char) : Bool := !cs.any isSpecial && !hasSpaceAtBreak cs

/-- Whether a text can stand without quotes. -/
def fitsPlain (cs : List Char) : Bool :=
  fitsSingleQuotes cs && !isMultiline cs && cs.head? != some ' ' && cs.getLast? != some ' '
    && !hasIndicator cs && !isOtherKind cs

/-- **Style** of a text; a key on one line cannot hold line feeds. -/
def styleOf (isKey : Bool) (cs : List Char) : Style :=
  if fitsPlain cs then .plain
  else if fitsSingleQuotes cs && !(isKey && isMultiline cs) then .singleQuoted
  else .doubleQuoted

end ReportCheck.Yaml
