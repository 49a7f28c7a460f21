import ReportCheck.Upload

/-! # Manifests

  A manifest is a document that describes a whole upload. Manifests come from different
  hands, so a few members have a second name, and what is absent may also be given as
  nothing, as zero or as an empty value.

  - `Manifest.ofCell` reads a manifest and stops at the first thing that is not usable.
  - `Manifest.rowOf` is the reader of row numbers.
  - `Manifest.toUpload` is the upload that a manifest describes.
-/

namespace ReportCheck

open Text

-- Powers are the core ones, whichever other library is in scope.
attribute [local instance (high)] instPowNat

/-- **Manifests.** -/
structure Manifest where
  records : List Record
  fileParts : List (String × String)
  period : ReportingPeriod
  summaries : List PeriodSummary
  tags : Option TextSet
  references : Option ReferenceLists
  /-- What the manifest says about itself; validation makes no use of it. -/
  about : List (Cell × Cell)

namespace Manifest

/-- A fault in a manifest ends its reading. -/
def refuse {α : Type} (cause : ManifestFault) : Except Failure α := .error (.manifest cause)

/-- The member under the first of two names, or else under the second. -/
def getEither (members : Members) (name other : String) : Cell :=
  (members.get? name).getD (members.getD other)

/-! ### Rows -/

/-- What a row member denotes. -/
inductive RowReading where
  | row (n : Int)
  /-- Not a whole number. -/
  | unreadable
  /-- An infinite number. -/
  | infinite
  deriving DecidableEq, Repr

/-- The row that a text denotes: a sign and digits, with single underscores between the
    digits and white space around them aside. -/
def rowOfText (s : String) : RowReading :=
  match Binary64.dropUnderscores? false (trimWhite s.toList) with
  | none => .unreadable
  | some body =>
    let (negative, digits) := Numeral.readSign body
    if digits.isEmpty || !digits.all isDigit || maxDigits < digits.length then .unreadable
    else .row (Decimal.signedCoefficient negative (numeralValue digits))

/-- The whole part of a decimal amount. -/
def truncate (negative : Bool) (coefficient : Nat) (exponent : Int) : Int :=
  let magnitude :=
    if 0 ≤ exponent then coefficient * 10 ^ exponent.toNat
    -- A long fraction leaves nothing, and its power of ten is not written out.
    else if exponent < -(digitCount coefficient : Int) then 0
    else coefficient / 10 ^ (-exponent).toNat
  Decimal.signedCoefficient negative magnitude

/-- **Rows**: a number without its fraction, or a text that denotes a whole number. -/
def rowOf : Cell → RowReading
  | .int n => .row n
  | .float (.finite x) => .row x.truncate
  | .float (.infinite _) => .infinite
  | .decimal (.finite negative coefficient exponent) =>
    .row (truncate negative coefficient exponent)
  | .decimal (.infinite _) => .infinite
  | .text s => rowOfText s
  | _ => .unreadable

/-- The row of a record, if it has one. -/
def readRow (tab : Cell) : Cell → Except Failure (Option Int)
  | .empty => .ok none
  | cell =>
    match rowOf cell with
    | .row n => .ok (some n)
    | .unreadable => refuse (.rowShape tab cell)
    | .infinite => .error (.fault .infiniteRow)

/-! ### Records -/

/-- The name of a tab, under one of two names. -/
def tabOf (members : Members) : Cell :=
  let tab := members.getD "tab"
  if tab.isFalsy then members.getD "type" else tab

/-- The fields of a record, none where they are absent. -/
def readFields (tab : Cell) (fields : Cell) : Except Failure Members :=
  if fields.isFalsy then .ok []
  else match fields with
    | .object members => .ok members
    | _ => refuse (.fieldsShape tab)

/-- **A record** of a manifest. -/
def readRecord : Cell → Except Failure Record
  | .object members => do
    let tab := tabOf members
    if tab.isFalsy then refuse .noTab
    else
      let fields ← readFields tab (getEither members "fields" "content")
      let row ← readRow tab (getEither members "row" "sourceRow")
      return ⟨tab.plain, fields, row⟩
  | _ => refuse .recordShape

def readRecords : Cell → Except Failure (List Record)
  | .list items => items.mapM readRecord
  | _ => refuse .noRecords

/-! ### The rest of a manifest -/

/-- The reporting period; what is wrong with it is wrong with the manifest. -/
def readPeriod (c : Cell) : Except Failure ReportingPeriod :=
  match c.reportingPeriod with
  | .error (.context cause) => refuse (.period cause)
  | outcome => outcome

/-- The parts of the file's name, as plain texts. -/
def readFileParts (c : Cell) : Except Failure (List (String × String)) :=
  if c.isFalsy then .ok []
  else match c with
    | .object members => .ok (members.map fun (name, value) => (name, value.plain))
    | _ => .error (.shape .notAnObject)

/-- The summaries of earlier periods, none where they are absent. -/
def readSummaries (c : Cell) : Except Failure (List PeriodSummary) :=
  if c.isFalsy then .ok []
  else match c with
    | .list items => items.mapM fun
      | .object flat => .ok (.ofFlat flat)
      | _ => refuse .summariesShape
    | _ => refuse .summariesShape

def isTags : Cell → Bool
  | .empty | .text _ | .list _ => true
  | _ => false

def isLists : Cell → Bool
  | .empty | .object _ => true
  | _ => false

def readLists : Cell → Except Failure (Option ReferenceLists)
  | .empty => .ok none
  | cell => do return some (← Failure.ofShape (ReferenceLists.ofCell cell))

/-- What the manifest says about itself. -/
def readAbout (c : Cell) : Except Failure (List (Cell × Cell)) :=
  if c.isFalsy then .ok [] else Failure.ofShape c.pairs

/-- The members of a manifest after its reporting period. -/
def ofMembers (members periodMembers : Members) : Except Failure Manifest := do
  let period ← readPeriod (.object periodMembers)
  let tags := (periodMembers.get? "validation_rule_tags").getD (members.getD "tags")
  let lists := members.getD "reference_lists"
  if !isTags tags then refuse .tagsShape
  else if !isLists lists then refuse .listsShape
  else
    let records ← readRecords (members.getD "records")
    let fileParts ← readFileParts (members.getD "file_parts")
    let summaries ← readSummaries (members.getD "period_summaries")
    let tags ← tags.tagSet
    let references ← readLists lists
    let about ← readAbout (members.getD "meta")
    return { records, fileParts, period, summaries, tags, references, about }

/-- **Reading a manifest.** -/
def ofCell : Cell → Except Failure Manifest
  | .object members =>
    match Members.getD members "reporting_period" with
    | .object periodMembers => ofMembers members periodMembers
    | _ => refuse .noPeriod
  | _ => refuse .notAnObject

/-- **The upload** that a manifest describes. -/
def toUpload (m : Manifest) : Upload where
  records := m.records
  fileParts := .ready m.fileParts
  period := .ready m.period
  summaries := .ready m.summaries
  tags := .ready m.tags
  references := m.references

/-- **Validation** of the upload that a document describes. -/
def validate (document : Cell) (validators : List Validator) (settings : Settings) :
    Traced Failure (List Finding) := do
  let m ← Traced.ofExcept (ofCell document)
  m.toUpload.validate validators settings

end Manifest

end ReportCheck
