import ReportCheck.Tab.Catalog
import ReportCheck.Document.JsonWriter
import ReportCheck.Document.YamlWriter

/-! # Catalogs as texts

  A catalog can be written in two formats; both end with a line feed.
-/

namespace ReportCheck

/-- The formats of a catalog. -/
inductive CatalogFormat where
  | yaml
  | json
  deriving DecidableEq, Repr

namespace CatalogFormat

/-- The format of a name. -/
def ofName? (name : String) : Option CatalogFormat :=
  if name == "yaml" then some yaml else if name == "json" then some json else none

/-- A document in a format. -/
def render (format : CatalogFormat) (document : Cell) : String :=
  match format with
  | yaml => Yaml.render document
  | json => Json.renderIndented document

end CatalogFormat

/-- **Written catalog** of a registry. -/
def Registry.writeCatalog (dump : Model.Value → Cell) (r : Registry) (format : CatalogFormat) :
    String :=
  format.render (.list ((r.catalog dump).map CatalogEntry.toCell)) ++ "\n"

end ReportCheck
