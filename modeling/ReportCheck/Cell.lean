import ReportCheck.Number.Shortest
import ReportCheck.Number.WholeNumber
import ReportCheck.Calendar.Date

/-! # Cells

  A cell of a spreadsheet row holds nothing, a truth value, a number in one of three
  forms, a text, a date, or a date with a time; in loaded documents also a list or an
  object of such values.

  - `Cell.isSame` compares cells by their structure; it decides equality.
  - `Cell.isBlank` and `Cell.isNumber` are the two classes that checks rest on.
  - `Cell.isFalsy` says which values count as absent in a document.
-/

namespace ReportCheck

/-- **Cells.** -/
inductive Cell where
  | empty
  | bool (b : Bool)
  | int (n : WholeNumber)
  | float (x : Binary64)
  | decimal (d : Decimal)
  | text (s : String)
  | date (d : Date)
  | moment (m : Moment)
  | list (items : List Cell)
  | object (members : List (String × Cell))
  deriving Inhabited, Repr

/-! ### Equality -/

namespace Cell

mutual

/-- **Equality** of cells. Numbers in different forms differ. -/
def isSame : Cell → Cell → Bool
  | empty, empty => true
  | bool b, bool b' => b == b'
  | int n, int n' => n == n'
  | float x, float x' => x == x'
  | decimal d, decimal d' => d == d'
  | text s, text s' => s == s'
  | date d, date d' => d == d'
  | moment m, moment m' => m == m'
  | list items, list items' => isSameItems items items'
  | object members, object members' => isSameMembers members members'
  | _, _ => false

/-- Equality of lists of items. -/
def isSameItems : List Cell → List Cell → Bool
  | [], [] => true
  | item :: rest, item' :: rest' => isSame item item' && isSameItems rest rest'
  | _, _ => false

/-- Equality of lists of members, of which the order counts as well. -/
def isSameMembers : List (String × Cell) → List (String × Cell) → Bool
  | [], [] => true
  | (name, value) :: rest, (name', value') :: rest' =>
    name == name' && isSame value value' && isSameMembers rest rest'
  | _, _ => false

end

instance : BEq Cell := ⟨isSame⟩

mutual

theorem isSame_iff : ∀ c c' : Cell, isSame c c' = true ↔ c = c'
  | list items, c' => by cases c' <;> simp [isSame, isSameItems_iff]
  | object members, c' => by cases c' <;> simp [isSame, isSameMembers_iff]
  | empty, c' => by cases c' <;> simp [isSame]
  | bool _, c' => by cases c' <;> simp [isSame]
  | int _, c' => by cases c' <;> simp [isSame]
  | float _, c' => by cases c' <;> simp [isSame]
  | decimal _, c' => by cases c' <;> simp [isSame]
  | text _, c' => by cases c' <;> simp [isSame]
  | date _, c' => by cases c' <;> simp [isSame]
  | moment _, c' => by cases c' <;> simp [isSame]

theorem isSameItems_iff :
    ∀ items items' : List Cell, isSameItems items items' = true ↔ items = items'
  | [], items' => by cases items' <;> simp [isSameItems]
  | item :: rest, items' => by
    cases items' <;> simp [isSameItems, isSame_iff item, isSameItems_iff rest]

theorem isSameMembers_iff : ∀ members members' : List (String × Cell),
    isSameMembers members members' = true ↔ members = members'
  | [], members' => by cases members' <;> simp [isSameMembers]
  | (name, value) :: rest, members' => by
    cases members' with
    | nil => simp [isSameMembers]
    | cons member' rest' =>
      obtain ⟨name', value'⟩ := member'
      simp [isSameMembers, isSame_iff value, isSameMembers_iff rest, and_assoc]

end

instance : LawfulBEq Cell where
  eq_of_beq h := (isSame_iff _ _).1 h
  rfl := (isSame_iff _ _).2 rfl

end Cell

/-! ### Members -/

/-- The fields of a record or the members of an object, by name, in order. -/
abbrev Members := List (String × Cell)

namespace Members

/-- The value under a name. -/
def get? (members : Members) (name : String) : Option Cell := members.lookup name

/-- The value under a name, nothing where the name is missing. -/
def getD (members : Members) (name : String) : Cell := (members.lookup name).getD .empty

/-- Whether there is a value under a name. -/
def has (members : Members) (name : String) : Bool := (members.lookup name).isSome

/-- Puts a value under a name: in the place of the one already there, or at the end. -/
def put (members : Members) (name : String) (value : Cell) : Members :=
  match members with
  | [] => [(name, value)]
  | (other, old) :: rest =>
    if other == name then (other, value) :: rest else (other, old) :: put rest name value

@[simp] theorem get?_put_self (members : Members) (name : String) (value : Cell) :
    (members.put name value).get? name = some value := by
  unfold get?
  induction members with
  | nil => simp [put]
  | cons member rest ih =>
    obtain ⟨other, old⟩ := member
    by_cases h : other = name
    · simp [put, h]
    · have hne : (name == other) = false := beq_eq_false_iff_ne.2 (Ne.symm h)
      simp [put, h, List.lookup_cons, hne, ih]

theorem get?_put_of_ne (members : Members) {name key : String} (value : Cell) (h : key ≠ name) :
    (members.put name value).get? key = members.get? key := by
  unfold get?
  have hkey : (key == name) = false := beq_eq_false_iff_ne.2 h
  induction members with
  | nil => simp [put, List.lookup_cons, hkey]
  | cons member rest ih =>
    obtain ⟨other, old⟩ := member
    by_cases hname : other = name
    · subst hname
      simp [put, List.lookup_cons, hkey]
    · simp [put, hname, List.lookup_cons, ih]

end Members

/-! ### Classes of cells -/

namespace Cell

/-- **Blank cells** hold nothing at all: no value, an empty text or an empty
    collection. -/
def isBlank : Cell → Bool
  | empty => true
  | text s => s.isEmpty
  | list items => items.isEmpty
  | object members => members.isEmpty
  | _ => false

/-- **Numbers** in any of the three forms. A decimal that is not a number is none. -/
def isNumber : Cell → Bool
  | int _ => true
  | float _ => true
  | decimal d => !d.isNaN
  | _ => false

/-- Values that count as absent where a document may leave a member out: blank ones,
    the truth value false and every zero. -/
def isFalsy : Cell → Bool
  | bool b => !b
  | int n => n.value == 0
  | float x => x.isZero
  | decimal d => d.isZero
  | cell => cell.isBlank

@[simp] theorem isBlank_empty : isBlank empty = true := rfl

@[simp] theorem isBlank_text_empty : isBlank (text "") = true := rfl

theorem isNumber_eq_false_of_isBlank {c : Cell} (h : c.isBlank = true) : c.isNumber = false := by
  cases c <;> simp_all [isBlank, isNumber]

end Cell

end ReportCheck
