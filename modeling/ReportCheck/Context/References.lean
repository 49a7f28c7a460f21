import ReportCheck.Cell.Text
import ReportCheck.Text.Lower
import ReportCheck.Text.Set
import ReportCheck.Fault

/-! # Reference lists

  The lists of values that the template of a spreadsheet offers for some of its fields.

  - Entries are kept as display texts in lower case, and a cell is looked up in the same
    form, so that letter case and the form of a number do not matter.
  - Loading wants an object whose members are collections; `Cell.items?` says what the
    items of a collection are.
-/

namespace ReportCheck

namespace Cell

/-- The items of a collection: of a list, the characters of a text, the names of an
    object. -/
def items? : Cell → Option (List Cell)
  | list items => some items
  | text s => some (s.toList.map fun c => text (String.singleton c))
  | object members => some (members.map fun (name, _) => text name)
  | _ => none

/-- The form in which cells are compared with the entries of a list. -/
def foldedDisplay (c : Cell) : String := Text.lower c.display

end Cell

/-- **Reference lists** by name. -/
structure ReferenceLists where
  lists : List (String × TextSet)
  deriving DecidableEq, Repr, Inhabited

namespace ReferenceLists

/-- The entries of one list. -/
def entriesOf (values : Cell) : Except ShapeFault TextSet :=
  match values.items? with
  | some items => .ok (.ofList (items.map (·.foldedDisplay)))
  | none => .error .notACollection

/-- The lists of an object's members. -/
def ofMembers (members : Members) : Except ShapeFault ReferenceLists := do
  let lists ← members.mapM fun (name, values) => do return (name, ← entriesOf values)
  return ⟨lists⟩

/-- **Loading** from a document. -/
def ofCell : Cell → Except ShapeFault ReferenceLists
  | .object members => ofMembers members
  | _ => .error .notAnObject

/-- The entries of a list, if there is such a list. -/
def get? (r : ReferenceLists) (name : String) : Option TextSet := r.lists.lookup name

/-- **Membership** of a cell in a list; a missing list has no members. -/
def includes (r : ReferenceLists) (name : String) (value : Cell) : Bool :=
  match r.get? name with
  | some entries => entries.contains value.foldedDisplay
  | none => false

/-- The names of the lists in ascending order. -/
def names (r : ReferenceLists) : List String := (TextSet.ofList (r.lists.map (·.1))).toList

/-- Whether there is a list of this name. -/
def has (r : ReferenceLists) (name : String) : Bool := (r.get? name).isSome

end ReferenceLists

end ReportCheck
