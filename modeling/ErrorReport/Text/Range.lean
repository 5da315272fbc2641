/-!
# Classes of characters as ranges

A class of characters is a list of ranges of code points, first and last included, in ascending
order; `inRanges` looks a character up.
-/

set_option autoImplicit false

namespace ErrorReport.Text

/-- Whether a character lies in one of the ranges. -/
def inRanges (table : List (Nat × Nat)) (c : Char) : Bool :=
  table.any fun range => range.1 ≤ c.toNat && c.toNat ≤ range.2

end ErrorReport.Text
