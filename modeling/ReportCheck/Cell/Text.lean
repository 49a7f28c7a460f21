import ReportCheck.Cell
import ReportCheck.Text.Quoted

/-! # Texts of cells

  A cell has three written forms.

  - `Cell.literal` shows what kind of value it is; error messages use it.
  - `Cell.plain` is the value itself: a text stands for itself, everything else is
    written as its literal, dates and decimal amounts without their wrapping.
  - `Cell.display` is what a reader of the report sees, and the form in which cells are
    compared as texts: nothing is the empty text, and a whole double-precision number
    is written like an integer.
-/

namespace ReportCheck

namespace Cell

/-- A whole number in decimal. -/
def intChars (n : Int) : List Char := Decimal.signText (n < 0) ++ Nat.toDigits 10 n.natAbs

/-- A call of a constructor on numbers. -/
def callChars (name : String) (arguments : List Nat) : List Char :=
  name.toList ++ '(' :: (", ".toList.intercalate (arguments.map (Nat.toDigits 10))) ++ [')']

/-- The literal of a date with a time; seconds and fraction are left out if they and
    all that follows them are zero. -/
def momentChars (m : Moment) : List Char :=
  let fraction := if m.microsecond == 0 then [] else [m.microsecond]
  let seconds := if m.second == 0 && fraction.isEmpty then [] else m.second :: fraction
  callChars "datetime.datetime"
    ([m.date.year, m.date.month, m.date.day, m.hour, m.minute] ++ seconds)

mutual

/-- The characters of a literal. -/
def literalChars : Cell → List Char
  | empty => "None".toList
  | bool b => (if b then "True" else "False").toList
  | int n => intChars n
  | float x => x.render.toList
  | decimal d => "Decimal('".toList ++ d.render.toList ++ "')".toList
  | text s => (Text.quoted s).toList
  | date d => callChars "datetime.date" [d.year, d.month, d.day]
  | moment m => momentChars m
  | list items => '[' :: itemsChars items ++ [']']
  | object members => '\x7b' :: membersChars members ++ ['\x7d']

/-- The literals of the items of a list, with commas between. -/
def itemsChars : List Cell → List Char
  | [] => []
  | item :: rest =>
    literalChars item ++ (if rest.isEmpty then [] else ',' :: ' ' :: itemsChars rest)

/-- The literals of the members of an object, with commas between. -/
def membersChars : List (String × Cell) → List Char
  | [] => []
  | (name, value) :: rest =>
    (Text.quoted name).toList ++ ':' :: ' ' :: literalChars value
      ++ (if rest.isEmpty then [] else ',' :: ' ' :: membersChars rest)

end

/-- **Literal** of a cell. -/
def literal (c : Cell) : String := String.ofList c.literalChars

/-- **Plain text** of a cell. -/
def plain : Cell → String
  | text s => s
  | decimal d => d.render
  | date d => d.isoText
  | moment m => m.textWith ' '
  | cell => cell.literal

/-- **Display text** of a cell. -/
def display : Cell → String
  | empty => ""
  | bool b => if b then "true" else "false"
  | float (.finite x) =>
    if x.isWhole then String.ofList (intChars x.truncate) else (Binary64.finite x).render
  | moment m => m.textWith 'T'
  | cell => cell.plain

@[simp] theorem display_empty : display empty = "" := rfl

@[simp] theorem display_text (s : String) : display (text s) = s := rfl

end Cell

end ReportCheck
