import ReportCheck.Document.YamlScalar

/-! # Writing YAML

  The written form of documents in YAML's block style: a line for every item and member,
  two spaces a level, long texts folded at spaces.

  - `Yaml.Pen` is the state of a text that is being written; its operations start lines
    and write indicators.
  - `Yaml.writeScalar` writes a text in its style, `Yaml.writeNode` a document.
-/

namespace ReportCheck.Yaml

/-- The column after which a line is folded. -/
def foldColumn : Nat := 80

/-- The longest key that stands on the line of its value, less one. -/
def keyLimit : Nat := 123

/-- **A text that is being written.** -/
structure Pen where
  /-- What was written, the last character first. -/
  written : List Char := []
  /-- The position in the line. -/
  column : Nat := 0
  /-- Whether no space is needed before the next indicator. -/
  isSpaced : Bool := true
  /-- Whether the line holds only indentation and indicators of block style so far. -/
  isIndented : Bool := true

namespace Pen

/-- Writes characters within a line. -/
def put (cs : List Char) (pen : Pen) : Pen :=
  { pen with written := cs.reverse ++ pen.written, column := pen.column + cs.length }

/-- Writes an indicator. -/
def indicator (mark : Char) (needsSpace spaces indents : Bool) (pen : Pen) : Pen :=
  let pen := pen.put (if pen.isSpaced || !needsSpace then [mark] else [' ', mark])
  { pen with isSpaced := spaces, isIndented := pen.isIndented && indents }

def lineBreak (pen : Pen) : Pen :=
  { written := '\n' :: pen.written, column := 0, isSpaced := true, isIndented := true }

/-- Starts a line at an indentation, unless the pen is there already. -/
def startLine (indent : Nat) (pen : Pen) : Pen :=
  let isOnNewLine :=
    pen.isIndented && (pen.column < indent || (pen.column == indent && pen.isSpaced))
  let pen := if isOnNewLine then pen else pen.lineBreak
  if pen.column < indent then
    { pen.put (List.replicate (indent - pen.column) ' ') with isSpaced := true }
  else pen

/-- Marks the line as one that holds text. -/
def inText (pen : Pen) : Pen := { pen with isSpaced := false, isIndented := false }

def isFull (pen : Pen) : Bool := foldColumn < pen.column

end Pen

/-! ### Scalars -/

/-- The rest of a plain text after some spaces. A full line is folded at a single
    space. -/
def writePlainRest (indent : Nat) (folds : Bool) (spaces : Nat) : List Char → Pen → Pen
  | [], pen => pen.put (List.replicate spaces ' ')
  | c :: rest, pen =>
    if c == ' ' then writePlainRest indent folds (spaces + 1) rest pen
    else
      let pen :=
        if spaces == 1 && pen.isFull && folds then (pen.startLine indent).inText
        else pen.put (List.replicate spaces ' ')
      writePlainRest indent folds 0 rest (pen.put [c])

def writePlain (indent : Nat) (folds : Bool) (cs : List Char) (pen : Pen) : Pen :=
  let pen := if pen.isSpaced then pen else pen.put [' ']
  writePlainRest indent folds 0 cs pen.inText

/-- Line feeds within quotes: one more than the text has. -/
def writeBreaks (indent breaks : Nat) (pen : Pen) : Pen :=
  if breaks == 0 then pen else (Nat.repeat Pen.lineBreak (breaks + 1) pen).startLine indent

/-- The rest of a text between single quotes, after some spaces and line feeds. Spaces at
    the start of the text do not fold. -/
def writeSingleRest (indent : Nat) (folds isStart : Bool) (spaces breaks : Nat) :
    List Char → Pen → Pen
  | [], pen => writeBreaks indent breaks (pen.put (List.replicate spaces ' '))
  | c :: rest, pen =>
    if c == ' ' then
      writeSingleRest indent folds isStart (spaces + 1) 0 rest (writeBreaks indent breaks pen)
    else
      let pen :=
        if spaces == 1 && pen.isFull && folds && !isStart then pen.startLine indent
        else pen.put (List.replicate spaces ' ')
      if c == '\n' then writeSingleRest indent folds false 0 (breaks + 1) rest pen
      else
        let pen := writeBreaks indent breaks pen
        let pen := pen.put (if c == '\'' then [c, c] else [c])
        writeSingleRest indent folds false 0 0 rest pen

def writeSingle (indent : Nat) (folds : Bool) (cs : List Char) (pen : Pen) : Pen :=
  (writeSingleRest indent folds true 0 0 cs (pen.indicator '\'' true false false)).indicator
    '\'' false false false

def upperHex (width n : Nat) : List Char := (Text.hex width n).map Char.toUpper

/-- The letters of the escapes that have one. -/
def escapeLetters : List (Char × Char) :=
  [ ('\x00', '0'), ('\x07', 'a'), ('\x08', 'b'), ('\x09', 't'), ('\x0a', 'n'), ('\x0b', 'v'),
    ('\x0c', 'f'), ('\x0d', 'r'), ('\x1b', 'e'), ('"', '"'), ('\\', '\\'), ('\u0085', 'N'),
    ('\u00a0', '_'), ('\u2028', 'L'), ('\u2029', 'P') ]

/-- The escape of a character between double quotes, if it needs one. -/
def escape? (c : Char) : Option (List Char) :=
  match escapeLetters.lookup c with
  | some letter => some ['\\', letter]
  | none =>
    let n := c.toNat
    if 0x20 ≤ n && n ≤ 0x7e then none
    else if n ≤ 0xff then some ('\\' :: 'x' :: upperHex 2 n)
    else if n ≤ 0xffff then some ('\\' :: 'u' :: upperHex 4 n)
    else some ('\\' :: 'U' :: upperHex 8 n)

/-- Folds a line between double quotes; a space that comes next is escaped. -/
def foldDouble (indent : Nat) (next : Option Char) (pen : Pen) : Pen :=
  let pen := ((pen.put ['\\']).startLine indent).inText
  if next == some ' ' then pen.put ['\\'] else pen

/-- The rest of a text between double quotes. A full line is folded at a space or next to
    an escape, but not beside the first and the last character. -/
def writeDoubleRest (indent : Nat) (folds isStart afterEscape : Bool) : List Char → Pen → Pen
  | [], pen => pen
  | c :: rest, pen =>
    let mayFold := folds && !isStart && !rest.isEmpty
    match escape? c with
    | some escaped =>
      let pen := pen.put escaped
      let pen :=
        if mayFold && foldColumn < pen.column - 1 then foldDouble indent rest.head? pen else pen
      writeDoubleRest indent folds false true rest pen
    | none =>
      let pen :=
        if mayFold && (c == ' ' || afterEscape) && pen.isFull then foldDouble indent (some c) pen
        else pen
      writeDoubleRest indent folds false false rest (pen.put [c])

def writeDouble (indent : Nat) (folds : Bool) (cs : List Char) (pen : Pen) : Pen :=
  (writeDoubleRest indent folds true true cs (pen.indicator '"' true false false)).indicator
    '"' false false false

/-- **A text** in its style; a key that shares its line is not folded. -/
def writeScalar (indent : Nat) (isKey : Bool) (s : String) (pen : Pen) : Pen :=
  let cs := s.toList
  match styleOf isKey cs with
  | .plain => writePlain indent (!isKey) cs pen
  | .singleQuoted => writeSingle indent (!isKey) cs pen
  | .doubleQuoted => writeDouble indent (!isKey) cs pen

/-! ### Documents -/

/-- A number with a point: digits with an exponent get one. -/
def floatChars (x : Binary64) : List Char :=
  match x with
  | .nan => ".nan".toList
  | .infinite negative => Decimal.signText negative ++ ".inf".toList
  | x =>
    let cs := x.render.toList
    if cs.contains '.' then cs
    else cs.flatMap fun c => if c == 'e' then ['.', '0', 'e'] else [c]

/-- The indentation within a list or an object. -/
def deeper : Option Nat → Nat
  | none => 0
  | some n => n + 2

/-- The indentation of a text that is folded. -/
def textIndent : Option Nat → Nat
  | none => 2
  | some n => n + 2

def isShortKey (key : String) : Bool :=
  !key.isEmpty && !isMultiline key.toList && key.length < keyLimit

/-- A key and the colon after it. -/
def writeKey (indent : Nat) (key : String) (pen : Pen) : Pen :=
  let pen := pen.startLine indent
  if isShortKey key then (writeScalar (indent + 2) true key pen).indicator ':' false false false
  else
    let pen := pen.indicator '?' true false true
    let pen := (writeScalar (indent + 2) false key pen).startLine indent
    pen.indicator ':' true false true

mutual

/-- **A document** within an indentation. A list that is the value of a member is not
    indented further. -/
def writeNode (indent : Option Nat) (isMember : Bool) : Cell → Pen → Pen
  | .list [], pen => (pen.indicator '[' true true false).indicator ']' false false false
  | .object [], pen => (pen.indicator '\x7b' true true false).indicator '\x7d' false false false
  | .list items, pen =>
    let within := if isMember && !pen.isIndented then indent.getD 0 else deeper indent
    writeItems within items pen
  | .object members, pen => writeMembers (deeper indent) members pen
  | .empty, pen => writePlain (textIndent indent) true "null".toList pen
  | .bool b, pen => writePlain (textIndent indent) true (if b then "true" else "false").toList pen
  | .int n, pen => writePlain (textIndent indent) true (Cell.intChars n) pen
  | .float x, pen => writePlain (textIndent indent) true (floatChars x) pen
  | cell, pen => writeScalar (textIndent indent) false cell.plain pen

def writeItems (indent : Nat) : List Cell → Pen → Pen
  | [], pen => pen
  | item :: rest, pen =>
    let pen := (pen.startLine indent).indicator '-' true false true
    writeItems indent rest (writeNode (some indent) false item pen)

def writeMembers (indent : Nat) : List (String × Cell) → Pen → Pen
  | [], pen => pen
  | (key, value) :: rest, pen =>
    writeMembers indent rest (writeNode (some indent) true value (writeKey indent key pen))

end

/-- **Written form** of a document. -/
def render (c : Cell) : String :=
  String.ofList ((writeNode none false c {}).startLine 0).written.reverse

end ReportCheck.Yaml
