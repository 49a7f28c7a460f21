import ReportCheck.Cell
import ReportCheck.Load.Misfit

/-! # Loading values

  Documents are loaded into the types of the library piece by piece. A load yields a
  value or everything that does not fit, not only the first misfit.

  - `Loaded.build` and `Loaded.and` put a value together from its parts; the misfits of
    all parts are kept.
  - `Members.optional` loads a member of an object.
-/

namespace ReportCheck

/-- **Loaded values**, or all misfits. -/
abbrev Loaded (α : Type) := Except (List Misfit) α

namespace Loaded

variable {α β : Type}

/-- A value that does not fit. -/
def refuse (cause : Misfit.Cause) : Loaded α := .error [⟨[], cause⟩]

/-- A load of a part: its misfits lie under the name or the position of the part. -/
def under (step : String) : Loaded α → Loaded α
  | .ok value => .ok value
  | .error misfits => .error (misfits.map fun m => { m with path := step :: m.path })

/-- A value that is put together from no parts yet. -/
def build (make : α) : Loaded α := .ok make

/-- The next part of a value. -/
def and (make : Loaded (α → β)) (part : Loaded α) : Loaded β :=
  match make, part with
  | .ok f, .ok a => .ok (f a)
  | .ok _, .error misfits => .error misfits
  | .error misfits, .ok _ => .error misfits
  | .error misfits, .error more => .error (misfits ++ more)

/-- The members of an object that stands for a value of the library. -/
def model (read : Members → Loaded α) : Cell → Loaded α
  | .object members => read members
  | _ => refuse .notModel

/-- **Texts.** Nothing else is taken for a text. -/
def text : Cell → Loaded String
  | .text s => .ok s
  | _ => refuse .notText

end Loaded

namespace Members

variable {α : Type}

/-- A member that has a default. -/
def optional (members : Members) (name : String) (default : α) (read : Cell → Loaded α) :
    Loaded α :=
  match members.get? name with
  | some value => Loaded.under name (read value)
  | none => .ok default

end Members

end ReportCheck
