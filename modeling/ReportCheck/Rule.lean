import ReportCheck.Predicate.Eval

/-! # Rules

  A rule ties a predicate to a field of the records of a tab and words the finding for a
  cell that does not satisfy it.

  - `Rule.Options.isActive` is the gate of the tags: a rule with tags is only checked
    while one of them is active.
  - `Rule.template` is the wording before the cell is filled in by `fillTemplate`;
    `Rule.Options.shownValue` says what is filled in.
  - `Rule.check` checks one record, and `Rule.evaluate` is what it does if the rule is on;
    `checkRecord` checks all rules of a tab in order.
-/

namespace ReportCheck

/-- **Options** of a rule. -/
structure Rule.Options where
  /-- The tags that switch the rule on. Without any the rule is always on. -/
  tags : Option TextSet := none
  /-- Whether the message shows the cell as a date. -/
  showsDate : Bool := false
  deriving DecidableEq, Repr

instance : Inhabited Rule.Options := ⟨{}⟩

/-- **Rules** on a field. -/
structure Rule where
  field : String
  predicate : Predicate
  /-- The wording of a finding, in which a pair of braces stands for the cell. -/
  message : Option String := none
  options : Rule.Options := {}
  deriving BEq, Repr

/-- **Tag gate.** Whether a rule is on under the active tags. -/
def Rule.Options.isActive (o : Rule.Options) (active : Option TextSet) : Bool :=
  match o.tags, active with
  | none, _ => true
  | some _, none => false
  | some tags, some active => !tags.isDisjoint active

/-! ### Messages -/

/-- Puts a value in the place of the first pair of braces. -/
def fillTemplate (value : List Char) : List Char → List Char
  | [] => []
  | '\x7b' :: '\x7d' :: rest => value ++ rest
  | c :: rest => c :: fillTemplate value rest

/-- The wording of a finding by a rule without a message of its own. -/
def defaultTemplate (field : String) : String :=
  "Empty or invalid entry for " ++ field ++ ": \"\x7b\x7d\""

/-- **Template** of the findings of a rule; an empty message counts as none. -/
def Rule.template (rule : Rule) : String :=
  match rule.message with
  | some message => if message.isEmpty then defaultTemplate rule.field else message
  | none => defaultTemplate rule.field

/-- **Shown value.** A cell as a message shows it. Where dates are asked for, a cell that
    holds a day other than zero is shown as that day. -/
def Rule.Options.shownValue (o : Rule.Options) (value : Cell) : Except Fault Cell :=
  if !o.showsDate || value.isBlank || (value.isNumber && value.isFalsy) then .ok value
  else do
    match ← value.day with
    | some d => return .text d.usText
    | none => return value

/-- A template with a cell filled in. -/
def renderMessage (template : String) (shown : Cell) : String :=
  String.ofList (fillTemplate shown.display.toList template.toList)

/-- The message of a rule about a cell. -/
def Rule.messageFor (rule : Rule) (value : Cell) : Except Fault String := do
  return renderMessage rule.template (← rule.options.shownValue value)

/-! ### Checking a record -/

/-- **Evaluating** a rule that is on: no finding or one, reported under the given tab and
    row. -/
def Rule.evaluate (tab : String) (row : Option Int) (record : Record) (ctx : Context)
    (rule : Rule) : Traced Fault (List Finding) := do
  let value := record.value rule.field
  if ← rule.predicate.eval value record ctx then return []
  else
    let message ← Traced.ofExcept (rule.messageFor value)
    return [⟨message, tab, row⟩]

/-- **Checking a rule** on a record. A rule that is off has no effect at all. -/
def Rule.check (tab : String) (row : Option Int) (record : Record) (ctx : Context)
    (rule : Rule) : Traced Fault (List Finding) :=
  if rule.options.isActive ctx.tags then rule.evaluate tab row record ctx else return []

/-- **Checking a record** against rules, in their order. -/
def checkRecord (rules : List Rule) (tab : String) (row : Option Int) (ctx : Context)
    (record : Record) : Traced Fault (List Finding) :=
  Traced.collect (Rule.check tab row record ctx) rules

@[simp] theorem fillTemplate_nil (value : List Char) : fillTemplate value [] = [] := rfl

@[simp] theorem fillTemplate_braces (value rest : List Char) :
    fillTemplate value ('\x7b' :: '\x7d' :: rest) = value ++ rest := rfl

end ReportCheck
