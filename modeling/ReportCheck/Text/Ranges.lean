/-! # Character classes given by ranges

  A class of code points is written as the ascending list of the points where
  membership changes: it begins at the first, ends before the second, begins again
  at the third, and so on.
-/

namespace ReportCheck.Text

/-- Whether a code point lies in the class with these boundaries. -/
def inRanges : List Nat → Nat → Bool
  | lo :: hi :: rest, n =>
    if n < lo then false else if n < hi then true else inRanges rest n
  | _, _ => false

end ReportCheck.Text
