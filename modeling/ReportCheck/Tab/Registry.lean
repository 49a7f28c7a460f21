import ReportCheck.Tab.Validator

/-! # Registry of validators

  A registry collects the validators of a report, one for each tab, in the order in which
  the tabs are reported.

  - `Registry.offer` adds a validator, or says by a `RegistryFault` why it does not.
  - `Registry.afterOffers` is a registry after a sequence of offers; a refused offer
    leaves it as it was.
-/

namespace ReportCheck

/-- **Registries.** -/
structure Registry where
  validators : List Validator
  deriving BEq, Repr

/-- What may be offered to a registry. -/
inductive Offer where
  | validator (v : Validator)
  /-- A value that is no validator. -/
  | value (cell : Cell)
  deriving BEq, Repr

/-- Why a registry refuses an offer. -/
inductive RegistryFault where
  /-- The offer is a value that is no validator. -/
  | notAValidator (found : Cell)
  /-- The validator names no tab. -/
  | noTab
  /-- There is a validator for the tab already. -/
  | tabTaken (tab : String)
  deriving Repr

namespace RegistryFault

/-- The name of the type of a value. -/
def typeName : Cell → String
  | .empty => "NoneType"
  | .bool _ => "bool"
  | .int _ => "int"
  | .float _ => "float"
  | .decimal _ => "Decimal"
  | .text _ => "str"
  | .date _ => "date"
  | .moment _ => "datetime"
  | .list _ => "list"
  | .object _ => "dict"

/-- The wording of a refusal. -/
def message : RegistryFault → String
  | notAValidator found => "Expected a TabValidator, got " ++ typeName found
  | noTab => "Tab validator has an empty tab name"
  | tabTaken tab => "Tab already has a validator: " ++ tab

end RegistryFault

namespace Registry

/-- The registry without validators. -/
def empty : Registry := ⟨[]⟩

instance : Inhabited Registry := ⟨empty⟩

/-- The tabs in the order of registration. -/
def tabs (r : Registry) : List String := r.validators.map (·.tab)

/-- The validator of a tab. -/
def get? (r : Registry) (tab : String) : Option Validator := r.validators.find? (·.tab == tab)

/-- Whether there is a validator for a tab. -/
def contains (r : Registry) (tab : String) : Bool := (r.get? tab).isSome

/-- **Registration.** -/
def register (r : Registry) (v : Validator) : Except RegistryFault Registry :=
  if v.tab.isEmpty then .error .noTab
  else if r.contains v.tab then .error (.tabTaken v.tab)
  else .ok ⟨r.validators ++ [v]⟩

/-- Registration of anything. -/
def offer (r : Registry) : Offer → Except RegistryFault Registry
  | .validator v => r.register v
  | .value cell => .error (.notAValidator cell)

/-- The registry after an offer. -/
def afterOffer (r : Registry) (o : Offer) : Registry :=
  match r.offer o with
  | .ok changed => changed
  | .error _ => r

/-- **History.** The registry after a sequence of offers. -/
def afterOffers (r : Registry) (offers : List Offer) : Registry := offers.foldl afterOffer r

/-- The registry of a list of validators, if it refuses none of them. -/
def ofList? (validators : List Validator) : Except RegistryFault Registry :=
  validators.foldlM register empty

end Registry

end ReportCheck
