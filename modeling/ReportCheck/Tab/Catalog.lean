import ReportCheck.Tab.Model
import ReportCheck.Tab.Registry

/-! # Catalogs

  A catalog describes the validators of a registry, tab by tab, with the descriptions of
  their rules. How a rule is described is left to a library of models, whose function
  `dump` is a parameter.

  - `CatalogEntry` describes one validator.
  - `Registry.catalog` has the entries of a registry.
-/

namespace ReportCheck

/-- **Entries of a catalog.** -/
structure CatalogEntry where
  tab : String
  validatorKind : String
  missingMessage : String
  /-- The descriptions of the rules. -/
  rules : List Cell

/-- An entry as an object. -/
def CatalogEntry.toCell (entry : CatalogEntry) : Cell :=
  .object [
    ("tab", .text entry.tab), ("validator_kind", .text entry.validatorKind),
    ("missing_message", .text entry.missingMessage), ("rules", .list entry.rules) ]

/-- The entry of a validator. -/
def Validator.catalogEntry (dump : Model.Value → Cell) (v : Validator) : CatalogEntry where
  tab := v.tab
  validatorKind := v.scope.kind
  missingMessage := v.scope.missingMessage
  rules := v.rules.map fun rule => dump rule.model

/-- **Catalog** of a registry. -/
def Registry.catalog (dump : Model.Value → Cell) (r : Registry) : List CatalogEntry :=
  r.validators.map (Validator.catalogEntry dump)

end ReportCheck
