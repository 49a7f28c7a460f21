import ReportCheck.Tab.Model

/-! # A library of models

  The library with which programs and tests run.

  - `Model.Value.dump` describes values, with a function that writes what is plain.
    `Cell.portable` writes it for all formats of documents.
  - `Model.load` loads descriptions by the declared types.
  - `Model.standard` is the library.
-/

namespace ReportCheck

/-- A set of texts as a list in ascending order. -/
def TextSet.toCell (set : TextSet) : Cell := .list (set.toList.map .text)

namespace Cell

mutual

/-- **Portable values.** Numbers that are not finite become nothing, decimal amounts and
    dates become texts. -/
def portable : Cell → Cell
  | float x => match x with
    | .finite _ => float x
    | _ => empty
  | decimal d => text d.render
  | date d => text d.isoText
  | moment m => text (m.textWith 'T')
  | list items => list (portableItems items)
  | object members => object (portableMembers members)
  | cell => cell

/-- The items of a list as portable values. -/
def portableItems : List Cell → List Cell
  | [] => []
  | item :: rest => portable item :: portableItems rest

/-- The members of an object as portable values. -/
def portableMembers : List (String × Cell) → List (String × Cell)
  | [] => []
  | (name, value) :: rest => (name, portable value) :: portableMembers rest

end

end Cell

namespace Model

/-! ### Describing -/

mutual

/-- **Descriptions** of values. -/
def Value.dump (write : Cell → Cell) (omitsEmpty : Bool) : Value → Cell
  | .plain c => write c
  | .set texts => texts.toCell
  | .model _ fields => .object (dumpFields write omitsEmpty fields)

/-- The members that describe fields. -/
def dumpFields (write : Cell → Cell) (omitsEmpty : Bool) : List (String × Value) → Members
  | [] => []
  | (name, value) :: rest =>
    let others := dumpFields write omitsEmpty rest
    if omitsEmpty && value.isEmpty then others else (name, value.dump write omitsEmpty) :: others

end

/-! ### Loading -/

/-- Texts, where nothing else is in a list. -/
def texts? (items : List Cell) : Option (List String) :=
  items.mapM fun
    | .text s => some s
    | _ => none

/-- The type of values that are not nothing. -/
def FieldType.present : FieldType → FieldType
  | optional type => type.present
  | type => type

/-- Whether a type allows for nothing. -/
def FieldType.isOptional : FieldType → Bool
  | optional _ => true
  | _ => false

/-- A value of a type that is not a model. -/
def loadPlain : FieldType → Cell → Option Value
  | .text, .text s => some (.plain (.text s))
  | .truth, .bool b => some (.plain (.bool b))
  | .literal s, .text s' => if s = s' then some (.plain (.text s)) else none
  | .texts, .list items => (texts? items).map fun _ => .plain (.list items)
  | .table, .object members => some (.plain (.object members))
  | .textTable, .object members =>
    (texts? (members.map (·.2))).map fun _ => .plain (.object members)
  | .textSet, .list items => (texts? items).map fun texts => .set (.ofList texts)
  | _, _ => none

/-- The class that an object says it is of, if it is one of some. -/
def chosen? (names : List String) (members : Members) : Option String :=
  match members.lookup "kind" with
  | some (.text kind) => if kind ∈ names then some kind else none
  | _ => none

/-- The class of the model that a type asks for. -/
def FieldType.class? (members : Members) : FieldType → Option String
  | model name => some name
  | choice names => chosen? names members
  | _ => none

mutual

/-- **Loading** a value of a type. -/
def load (c : Cell) (type : FieldType) : Option Value :=
  match c with
  | .empty => if type.isOptional then some (.plain .empty) else none
  | .object members =>
    match type.present.class? members with
    | some name =>
      (fields? name).bind fun fields =>
        (fields.mapM fun field => loadField members field).map (.model name)
    | none => loadPlain type.present (.object members)
  | c => loadPlain type.present c

/-- Loading the value of a field, or its default. -/
def loadField (members : List (String × Cell)) (field : Field) : Option (String × Value) :=
  match members with
  | [] => field.default.map fun value => (field.name, value)
  | (name, c) :: rest =>
    if name = field.name then (load c field.type).map fun value => (name, value)
    else loadField rest field

end

/-- **The standard library.** -/
def standard : Library where
  dump := Value.dump Cell.portable
  load type c := load c type

end Model

end ReportCheck
