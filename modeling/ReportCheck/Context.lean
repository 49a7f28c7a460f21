import ReportCheck.Cell.Day
import ReportCheck.Context.Period
import ReportCheck.Context.References
import ReportCheck.Failure
import ReportCheck.Settings

/-! # Context of a run

  What checks know apart from the record they look at.

  - `Context` holds it in its final form.
  - `Source` is an input that is either in final form already or still a value of a
    document. `ContextSources.build` brings all inputs of a context into final form, in
    a fixed order, so that the first unusable one decides the failure.
-/

namespace ReportCheck

/-- **Contexts.** -/
structure Context where
  period : ReportingPeriod
  /-- The parts of the file's name, by name. -/
  fileParts : List (String × String) := []
  /-- The first day of the program. -/
  programStart : Date := Settings.firstDay
  /-- The known subrecipients by identifier. -/
  subrecipients : Members := []
  /-- The active tags. Without any, only rules that name no tags apply. -/
  tags : Option TextSet := none
  summaries : List PeriodSummary := []
  /-- The reference lists, if they were given. -/
  references : Option ReferenceLists := none
  deriving BEq, Repr

def Context.filePart? (ctx : Context) (name : String) : Option String := ctx.fileParts.lookup name

/-- An input in final form or as a value of a document. -/
inductive Source (α : Type) where
  | ready (value : α)
  | raw (cell : Cell)

/-- The final form of an input. -/
def Source.resolve {α : Type} (read : Cell → Except Failure α) : Source α → Except Failure α
  | ready value => .ok value
  | raw cell => read cell

/-- Moves the failure of a cell to the failures of an operation. -/
def Failure.ofFault {α : Type} : Except Fault α → Except Failure α
  | .ok value => .ok value
  | .error cause => .error (.fault cause)

/-- Moves the failure of a shape to the failures of an operation. -/
def Failure.ofShape {α : Type} : Except ShapeFault α → Except Failure α
  | .ok value => .ok value
  | .error cause => .error (.shape cause)

namespace Cell

/-! ### Reading the inputs -/

def periodDate (members : Members) (name : String) : Except Failure Date := do
  match ← Failure.ofFault (members.getD name).day with
  | some d => .ok d
  | none => .error (.context (.noDate name (members.getD name)))

/-- **Reporting period** of an object. -/
def reportingPeriod : Cell → Except Failure ReportingPeriod
  | object members => do
    let startDate ← periodDate members "start_date"
    let endDate ← periodDate members "end_date"
    let performanceEndDate ← periodDate members "period_of_performance_end_date"
    if startDate ≤ endDate then .ok ⟨startDate, endDate, performanceEndDate⟩
    else .error (.context (.reversed startDate endDate))
  | _ => .error (.context .notAPeriod)

/-- **Tags**: nothing, a single one as a text, or the items of a collection. -/
def tagSet : Cell → Except Failure (Option TextSet)
  | empty => .ok none
  | text s => .ok (some (.ofList [s]))
  | cell =>
    match cell.items? with
    | some items => .ok (some (.ofList (items.map (·.plain))))
    | none => .error (.shape .notACollection)

/-- **Parts of the file's name**, as they display. -/
def fileParts (c : Cell) : Except Failure (List (String × String)) :=
  if c.isFalsy then .ok []
  else match c with
    | object members => .ok (members.map fun (name, value) => (name, value.display))
    | _ => .error (.shape .notAnObject)

def periodSummary : Cell → Except Failure PeriodSummary
  | object members => .ok (.ofFlat members)
  | _ => .error (.context .notASummary)

/-- **Summaries of earlier periods**, the items of a collection. -/
def periodSummaries (c : Cell) : Except Failure (List PeriodSummary) :=
  if c.isFalsy then .ok []
  else match c.items? with
    | some items => items.mapM periodSummary
    | none => .error (.shape .notACollection)

/-- The name and the value in a pair of a collection. -/
def pair (c : Cell) : Except ShapeFault (Cell × Cell) :=
  match c.items? with
  | none => .error .notACollection
  | some [name, value] =>
    match name with
    | list _ | object _ => .error .unusableName
    | _ => .ok (name, value)
  | some _ => .error .notAPair

/-- The number that a name stands for, if it does: truth values stand for 0 and 1. -/
def nameNumber? : Cell → Option Decimal
  | bool b => some (.ofInt b.toNat)
  | cell => cell.numericValue?

/-- Whether two names are the same. Numbers are compared by their values, whatever their
    form. -/
def isSameName (name other : Cell) : Bool :=
  match name.nameNumber?, other.nameNumber? with
  | some a, some b => a.compare? b == some .eq
  | _, _ => name == other

/-- Puts a value under a name: in the place of the one already there, or at the end. -/
def putPair (pairs : List (Cell × Cell)) (new : Cell × Cell) : List (Cell × Cell) :=
  if pairs.any (isSameName ·.1 new.1) then
    pairs.map fun old => if isSameName old.1 new.1 then (old.1, new.2) else old
  else pairs ++ [new]

/-- **Pairs** of names and values: the members of an object, or the items of a
    collection of pairs. -/
def pairs : Cell → Except ShapeFault (List (Cell × Cell))
  | object members => .ok (members.map fun (name, value) => (text name, value))
  | cell =>
    match cell.items? with
    | some items => do return (← items.mapM pair).foldl putPair []
    | none => .error .notACollection

/-- **Subrecipients** by identifier; an identifier that is not a text identifies
    nobody. -/
def subrecipients (c : Cell) : Except Failure Members :=
  if c.isFalsy then .ok []
  else do
    let all ← Failure.ofShape c.pairs
    return all.filterMap fun
      | (text name, value) => some (name, value)
      | _ => none

end Cell

/-- The inputs of a context. -/
structure ContextSources where
  fileParts : Source (List (String × String))
  period : Source ReportingPeriod
  subrecipients : Source Members
  tags : Source (Option TextSet)
  summaries : Source (List PeriodSummary)
  references : Option ReferenceLists
  programStart : Date

/-- **Building a context.** -/
def ContextSources.build (s : ContextSources) : Except Failure Context := do
  let period ← s.period.resolve Cell.reportingPeriod
  let fileParts ← s.fileParts.resolve Cell.fileParts
  let subrecipients ← s.subrecipients.resolve Cell.subrecipients
  let tags ← s.tags.resolve Cell.tagSet
  let summaries ← s.summaries.resolve Cell.periodSummaries
  return {
    period, fileParts, subrecipients, tags, summaries
    programStart := s.programStart
    references := s.references }

end ReportCheck
