/-! # File paths

  Paths as the command line shows them, and what can be wrong with a file.

  - `FilePath.normal` leaves out what does not change the file: empty parts, and parts
    that mean the same folder.
-/

namespace ReportCheck

namespace FilePath

/-- The parts of a path between slashes that lead somewhere. -/
def parts (path : String) : List String :=
  (path.splitOn "/").filter fun part => part != "" && part != "."

/-- What stands before the first part: a slash for a path from the root, and two for one
    that starts with exactly two. -/
def root (path : String) : String :=
  match path.toList with
  | '/' :: '/' :: '/' :: _ => "/"
  | '/' :: '/' :: _ => "//"
  | '/' :: _ => "/"
  | _ => ""

/-- **Normal form** of a path. -/
def normal (path : String) : String :=
  let body := root path ++ "/".intercalate (parts path)
  if body.isEmpty then "." else body

end FilePath

/-- Why a file cannot be used. -/
inductive FileFault where
  | notFound
  | isFolder
  | notAFolder
  deriving DecidableEq, Repr

end ReportCheck
