/-!
# Runs of code points

A `Run` says where a row of code points goes that are mapped one to one: every `step`-th code point
from `first` to `last` goes to the one at the same distance from `target`.
-/

set_option autoImplicit false

namespace ErrorReport.Url.Idna

/-- Code points that move by the same distance. -/
structure Run where
  /-- The first code point. -/
  first : Nat
  /-- The last one. -/
  last : Nat
  /-- The distance between neighbours, 1 or 2. -/
  step : Nat
  /-- Where the first code point goes. -/
  target : Nat

/-- Where a run sends a code point. -/
def Run.image? (r : Run) (n : Nat) : Option Nat :=
  if r.first ≤ n ∧ n ≤ r.last ∧ (n - r.first) % r.step = 0 then some (r.target + (n - r.first))
  else none

end ErrorReport.Url.Idna
