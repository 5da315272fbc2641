/-!
# Finite binary64 numbers

A `Binary64` is a finite double given by its sign, its biased exponent and its fraction.
`Binary64.ofDecimal?` is the nearest double to `digits · 10 ^ exponent`, found in exact arithmetic;
of two nearest ones the one with the even significand is taken, and what lies beyond the largest
double has none.
-/

set_option autoImplicit false

namespace ErrorReport.Json

/-- A finite double. -/
structure Binary64 where
  /-- The sign bit. -/
  negative : Bool
  /-- The biased exponent, 0 for zero and the subnormal numbers. -/
  scale : Nat
  /-- The 52 bits after the point. -/
  fraction : Nat
  scale_lt : scale < 2047
  fraction_lt : fraction < Nat.pow 2 52
  deriving DecidableEq

namespace Binary64

/-- Zero with a sign. -/
def zero (negative : Bool) : Binary64 := ⟨negative, 0, 0, by decide, by decide⟩

instance : Inhabited Binary64 := ⟨zero false⟩

/-- The magnitude is `significand · 2 ^ power`. -/
def significand (x : Binary64) : Nat := if x.scale = 0 then x.fraction else Nat.pow 2 52 + x.fraction

/-- The magnitude is `significand · 2 ^ power`. -/
def power (x : Binary64) : Int := if x.scale = 0 then -1074 else x.scale - 1075

/-- Assembles a double from a significand below `2 ^ 53` and a power of two of at least -1074; a
significand below `2 ^ 52` belongs to the lowest power only. -/
def assemble? (negative : Bool) (significand : Nat) (power : Int) : Option Binary64 :=
  if significand < Nat.pow 2 52 then
    some ⟨negative, 0, significand % Nat.pow 2 52, by decide, Nat.mod_lt _ (by decide)⟩
  else
    let scale := (power + 1075).toNat
    if h : scale < 2047 then
      some ⟨negative, scale, (significand - Nat.pow 2 52) % Nat.pow 2 52, h, Nat.mod_lt _ (by decide)⟩
    else none

/-- The quotient rounded to the nearest natural number, a half to the even neighbour. -/
def roundDiv (numerator denominator : Nat) : Nat :=
  let quotient := numerator / denominator
  let twice := 2 * (numerator % denominator)
  if twice < denominator then quotient
  else if denominator < twice then quotient + 1
  else if quotient % 2 = 0 then quotient else quotient + 1

/-- The nearest double to a positive quotient. -/
def ofQuotient? (negative : Bool) (numerator denominator : Nat) : Option Binary64 :=
  let shift (n : Nat) (by_ : Int) : Nat := n * Nat.pow 2 by_.toNat
  let estimate : Int := (Nat.log2 numerator : Int) - Nat.log2 denominator
  let exponent :=
    if shift denominator estimate ≤ shift numerator (-estimate) then estimate else estimate - 1
  let power := max (exponent - 52) (-1074)
  let rounded := roundDiv (shift numerator (-power)) (shift denominator power)
  if rounded < Nat.pow 2 53 then assemble? negative rounded power
  else assemble? negative (rounded / 2) (power + 1)

/-- The nearest double to `digits · 10 ^ exponent` with a sign; none if it is too large. -/
def ofDecimal? (negative : Bool) (digits : Nat) (exponent : Int) : Option Binary64 :=
  if digits = 0 then some (zero negative)
  else if exponent > 400 then none
  else if exponent + Nat.log2 digits < -1200 then some (zero negative)
  else ofQuotient? negative (digits * Nat.pow 10 exponent.toNat) (Nat.pow 10 (-exponent).toNat)

end Binary64

end ErrorReport.Json
