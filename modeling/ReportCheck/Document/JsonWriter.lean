import ReportCheck.Cell.Text

/-! # Writing JSON

  The written form of documents, in one line or indented by two spaces a level.

  - Everything beyond ASCII is escaped by its UTF-16 units.
  - Values that JSON does not have are written as texts; `Json.Layout` decides the spaces
    and the line breaks.
-/

namespace ReportCheck.Json

/-- How a document is laid out. -/
inductive Layout where
  | oneLine
  /-- A line for every item and member, at the given depth. -/
  | indented (depth : Nat)
  deriving DecidableEq, Repr

namespace Layout

def deeper : Layout → Layout
  | oneLine => oneLine
  | indented depth => indented (depth + 1)

/-- What stands before an item or a closing bracket. -/
def lineStart : Layout → List Char
  | oneLine => []
  | indented depth => '\n' :: List.replicate (2 * depth) ' '

def comma : Layout → List Char
  | oneLine => [',', ' ']
  | indented depth => ',' :: lineStart (indented depth)

end Layout

/-! ### Texts -/

def unitEscape (n : Nat) : List Char := '\\' :: 'u' :: Text.hex 4 n

/-- The escape of a character by its UTF-16 units. -/
def codeEscape (c : Char) : List Char :=
  let n := c.toNat
  if n < 0x10000 then unitEscape n
  else unitEscape (0xd800 + (n - 0x10000) / 0x400) ++ unitEscape (0xdc00 + (n - 0x10000) % 0x400)

/-- One character of a text. -/
def textChar (c : Char) : List Char :=
  if c == '"' || c == '\\' then ['\\', c]
  else if 0x20 ≤ c.toNat && c.toNat < 0x7f then [c]
  else if c == '\n' then ['\\', 'n']
  else if c == '\r' then ['\\', 'r']
  else if c == '\t' then ['\\', 't']
  else if c == '\x08' then ['\\', 'b']
  else if c == '\x0c' then ['\\', 'f']
  else codeEscape c

def textChars (s : String) : List Char := '"' :: s.toList.flatMap textChar ++ ['"']

/-- A number of double precision, or one of the three constants. -/
def floatChars : Binary64 → List Char
  | .nan => "NaN".toList
  | .infinite negative => Decimal.signText negative ++ "Infinity".toList
  | x => x.render.toList

/-! ### Values -/

mutual

def chars (layout : Layout) : Cell → List Char
  | .empty => "null".toList
  | .bool b => (if b then "true" else "false").toList
  | .int n => Cell.intChars n
  | .float x => floatChars x
  | .list [] => ['[', ']']
  | .list items =>
    '[' :: layout.deeper.lineStart ++ itemsChars layout.deeper items ++ layout.lineStart ++ [']']
  | .object [] => ['\x7b', '\x7d']
  | .object members =>
    '\x7b' :: layout.deeper.lineStart ++ membersChars layout.deeper members ++ layout.lineStart
      ++ ['\x7d']
  | cell => textChars cell.plain

def itemsChars (layout : Layout) : List Cell → List Char
  | [] => []
  | item :: rest =>
    chars layout item ++ (if rest.isEmpty then [] else layout.comma ++ itemsChars layout rest)

def membersChars (layout : Layout) : List (String × Cell) → List Char
  | [] => []
  | (name, value) :: rest =>
    textChars name ++ ':' :: ' ' :: chars layout value
      ++ (if rest.isEmpty then [] else layout.comma ++ membersChars layout rest)

end

/-- **One line.** -/
def renderLine (c : Cell) : String := String.ofList (chars .oneLine c)

/-- **Indented form.** -/
def renderIndented (c : Cell) : String := String.ofList (chars (.indented 0) c)

end ReportCheck.Json
