import ReportCheck.Rule

/-! # Models

  Rules, their options and predicates are models: values of declared classes, whose fields
  have types and defaults. A library of its own describes models as documents and loads them
  again. Here it is a parameter, and only what is declared is said.

  - `Model.Value` are the values of fields, models among them.
  - `Model.Class` declares fields, and `Model.classes` are the classes that there are.
  - `Predicate.model` and `Rule.model` are predicates and rules as models.
  - `Model.Library` is what a library offers.
-/

namespace ReportCheck

namespace Model

/-! ### Values and types -/

/-- **Values** of fields. -/
inductive Value where
  /-- A value that a document may hold as well. -/
  | plain (c : Cell)
  | set (texts : TextSet)
  /-- A model of a class, with its fields as they are declared. -/
  | model (name : String) (fields : List (String × Value))
  deriving Inhabited

/-- Nothing, as a value. -/
def Value.isEmpty : Value → Bool
  | plain .empty => true
  | _ => false

/-- **Types** of fields. -/
inductive FieldType where
  | text
  | truth
  /-- Nothing but one text. -/
  | literal (s : String)
  | texts
  /-- Values of all kinds under names. -/
  | table
  /-- Texts under names. -/
  | textTable
  | textSet
  /-- A value of a type, or nothing. -/
  | optional (type : FieldType)
  /-- A model of a class. -/
  | model (name : String)
  /-- A model of one of some classes, which the field `kind` tells apart. -/
  | choice (names : List String)

/-- **Declared fields.** -/
structure Field where
  name : String
  type : FieldType
  /-- The value where none is given; without a default one has to be given. -/
  default : Option Value := none

/-- **Classes of models.** -/
structure Class where
  name : String
  fields : List Field

/-! ### Declared classes -/

/-- The class of the predicates of a kind. -/
def Class.ofKind (kind : String) (fields : List Field) : Class :=
  ⟨kind, ⟨"kind", .literal kind, some (.plain (.text kind))⟩ :: fields⟩

/-- The name of a field of the record. -/
def keyField : Field := { name := "key", type := .text }

/-- The classes of the checks. -/
def checkClasses : List Class :=
  [ .ofKind "is_not_blank" [], .ofKind "is_number" [], .ofKind "is_number_or_blank" [],
    .ofKind "is_positive_number" [], .ofKind "is_at_least_50k" [], .ofKind "is_equal" [keyField],
    .ofKind "is_sum" [{ name := "keys", type := .texts }],
    .ofKind "cumulative_amount_is_equal"
      [ keyField, { name := "match_values", type := .table, default := some (.plain (.object [])) },
        { name := "match_fields", type := .textTable, default := some (.plain (.object [])) } ],
    .ofKind "is_valid_date" [], .ofKind "is_valid_subrecipient" [],
    .ofKind "has_subrecipient_key" [], .ofKind "matches_file_part" [keyField],
    .ofKind "number_is_less_than_or_equal" [keyField],
    .ofKind "number_is_greater_than_or_equal" [keyField], .ofKind "date_is_on_or_before" [keyField],
    .ofKind "date_is_on_or_after" [keyField], .ofKind "date_is_in_reporting_period" [],
    .ofKind "date_is_in_period_of_performance" [],
    .ofKind "date_is_on_or_after_program_start" [],
    .ofKind "dropdown_includes" [{ name := "list_name", type := .text }],
    .ofKind "is_valid_state" [], .ofKind "is_valid_zip" [],
    .ofKind "is_one_of" [{ name := "values", type := .texts }] ]

/-- The kinds of the guards. -/
def guardKinds : List String :=
  ["when_blank", "when_not_blank", "when_us", "when_greater_than_zero"]

/-- The kinds of all predicates. -/
def kinds : List String := checkClasses.map (·.name) ++ guardKinds

/-- The classes of the guards, each of which has a predicate behind it. -/
def guardClasses : List Class :=
  guardKinds.map fun kind => .ofKind kind [keyField, { name := "inner", type := .choice kinds }]

/-- The class of the options of rules. -/
def optionsClass : Class where
  name := "rule_options"
  fields :=
    [ { name := "tags", type := .optional .textSet, default := some (.plain .empty) },
      { name := "is_date_value", type := .truth, default := some (.plain (.bool false)) } ]

/-- Options that are not given. -/
def defaultOptions : Value :=
  .model "rule_options" [("tags", .plain .empty), ("is_date_value", .plain (.bool false))]

/-- The class of the rules. -/
def ruleClass : Class where
  name := "field_rule"
  fields :=
    [ { name := "field_key", type := .text }, { name := "predicate", type := .choice kinds },
      { name := "message", type := .optional .text, default := some (.plain .empty) },
      { name := "options", type := .model "rule_options", default := some defaultOptions } ]

/-- **All classes.** -/
def classes : List Class := checkClasses ++ guardClasses ++ [optionsClass, ruleClass]

/-- The fields of a class. -/
def fields? (name : String) : Option (List Field) :=
  (classes.find? (·.name == name)).map (·.fields)

/-! ### Libraries -/

/-- **Libraries of models.** -/
structure Library where
  /-- The description of a value. Fields of models that hold nothing may be left out. -/
  dump (omitsEmpty : Bool) : Value → Cell
  /-- The value of a type that is loaded from a description, if there is one. -/
  load : FieldType → Cell → Option Value

end Model

/-! ### Rules as models -/

/-- The fields of a check besides its kind, as they are declared. -/
def Check.members : Check → Members
  | isEqual key | matchesFilePart key | numberIsLessThanOrEqual key | numberIsGreaterThanOrEqual key
  | dateIsOnOrBefore key | dateIsOnOrAfter key => [("key", .text key)]
  | isSum keys => [("keys", .list (keys.map .text))]
  | cumulativeAmountIsEqual key matchValues matchFields =>
    [ ("key", .text key), ("match_values", .object matchValues),
      ("match_fields", .object (matchFields.map fun (name, field) => (name, .text field))) ]
  | dropdownIncludes listName => [("list_name", .text listName)]
  | isOneOf values => [("values", .list (values.map .text))]
  | _ => []

/-- **Predicates as models.** -/
def Predicate.model : Predicate → Model.Value
  | .check c =>
    .model c.kind
      (("kind", .plain (.text c.kind)) :: c.members.map fun (name, cell) => (name, .plain cell))
  | .guarded guard inner =>
    .model guard.kind.name
      [ ("kind", .plain (.text guard.kind.name)), ("key", .plain (.text guard.key)),
        ("inner", inner.model) ]

/-- Options as a model. -/
def Rule.Options.model (o : Rule.Options) : Model.Value :=
  .model "rule_options"
    [ ("tags", match o.tags with
        | some tags => .set tags
        | none => .plain .empty),
      ("is_date_value", .plain (.bool o.showsDate)) ]

/-- **Rules as models.** -/
def Rule.model (rule : Rule) : Model.Value :=
  .model "field_rule"
    [ ("field_key", .plain (.text rule.field)), ("predicate", rule.predicate.model),
      ("message", match rule.message with
        | some message => .plain (.text message)
        | none => .plain .empty),
      ("options", rule.options.model) ]

end ReportCheck
