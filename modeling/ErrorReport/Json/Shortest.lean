import ErrorReport.Json.Binary64

/-!
# The shortest decimal text of a double

`shortest` finds the fewest decimal digits that read back as a given double and, of the decimals with
that many digits, the one nearest to it.  The reals that round to `m · 2 ^ q` form an interval around
it, whose ends belong to it when `m` is even; on the grid of the multiples of `10 ^ k` only the two
neighbours of the double need a test, because if any point of the grid lies in the interval then so
does one of them.

`Layout` says how the digits are laid out; `documentLayout` is the one used in documents.
-/

set_option autoImplicit false

namespace ErrorReport.Json

/-- A positive decimal `digits · 10 ^ exponent`. -/
structure Decimal where
  /-- The digits as one number. -/
  digits : Nat
  /-- The power of ten. -/
  exponent : Int
  deriving DecidableEq, Repr

namespace Decimal

/-- Drops at most `count` zeros from the end of the digits. -/
def stripZeros : Nat → Decimal → Decimal
  | 0, d => d
  | count + 1, d =>
    if d.digits % 10 = 0 then stripZeros count ⟨d.digits / 10, d.exponent + 1⟩ else d

end Decimal

namespace Binary64

/-- Both sides of the comparison of `x` quarter units of a double with `c` points of the grid
`10 ^ k`: the comparison is that of `x · unit` with `c · step`. -/
structure Scale where
  /-- A quarter of the last place of the double. -/
  unit : Nat
  /-- One step of the grid. -/
  step : Nat

/-- The scale for a power of two and a power of ten. -/
def Scale.of (power ten : Int) : Scale :=
  ⟨Nat.pow 2 (power - 2).toNat * Nat.pow 10 (-ten).toNat, Nat.pow 10 ten.toNat * Nat.pow 2 (2 - power).toNat⟩

/-- The largest `e` with `10 ^ e` at most the value, for a value other than zero. -/
def decimalExponent (x : Binary64) : Int :=
  let estimate : Int := ((Nat.log2 x.significand + x.power) * 30103) / 100000
  let atMost (e : Int) : Bool :=
    let s := Scale.of x.power e
    s.step ≤ 4 * x.significand * s.unit
  if !atMost estimate then estimate - 1
  else if atMost (estimate + 1) then estimate + 1
  else estimate

/-- Whether `c` points of the grid read back as the double. -/
def readsBack (x : Binary64) (s : Scale) (c : Nat) : Bool :=
  let m := x.significand
  let low := if x.fraction = 0 && 1 < x.scale then 4 * m - 1 else 4 * m - 2
  let high := 4 * m + 2
  if m % 2 = 0 then low * s.unit ≤ c * s.step && c * s.step ≤ high * s.unit
  else low * s.unit < c * s.step && c * s.step < high * s.unit

/-- The nearest decimal with at most `count` digits, if it reads back. -/
def withDigits? (x : Binary64) (count : Nat) : Option Decimal :=
  let ten := x.decimalExponent - count + 1
  let s := Scale.of x.power ten
  let value := 4 * x.significand * s.unit
  let below := value / s.step
  let above := below + 1
  let toBelow := value - below * s.step
  let toAbove := above * s.step - value
  let nearer := if toBelow < toAbove || (toBelow == toAbove && below % 2 == 0) then below else above
  let farther := if nearer == below then above else below
  if x.readsBack s nearer then some (Decimal.stripZeros count ⟨nearer, ten⟩)
  else if x.readsBack s farther then some (Decimal.stripZeros count ⟨farther, ten⟩)
  else none

/-- The shortest decimal that reads back; seventeen digits always suffice. -/
def shortest (x : Binary64) : Decimal :=
  ((List.range 17).findSome? fun n => x.withDigits? (n + 1)).getD ⟨0, 0⟩

end Binary64

/-- How the digits of a number are laid out. -/
structure Layout where
  /-- The lowest exponent of the first digit that is written positionally. -/
  lowest : Int
  /-- The highest one. -/
  highest : Int
  /-- What follows a whole number that is written positionally. -/
  wholeSuffix : List Char
  /-- What stands between the digits and a positive exponent. -/
  positiveMark : List Char
  /-- What stands between the digits and a negative exponent. -/
  negativeMark : List Char

/-- Numbers are positional from 0.00001 up to 10 ^ 16, and whole ones end in `.0` there; beyond, an
exponent with its sign follows. -/
def documentLayout : Layout := ⟨-5, 15, ['.', '0'], ['e', '+'], ['e', '-']⟩

/-- Writes a decimal other than zero. -/
def Layout.write (layout : Layout) (d : Decimal) : List Char :=
  let digits := Nat.toDigits 10 d.digits
  let first : Int := d.exponent + digits.length - 1
  if layout.lowest ≤ first && first ≤ layout.highest then
    if 0 ≤ d.exponent then
      digits ++ List.replicate d.exponent.toNat '0' ++ layout.wholeSuffix
    else if 0 ≤ first then
      digits.take (first.toNat + 1) ++ '.' :: digits.drop (first.toNat + 1)
    else '0' :: '.' :: List.replicate (-first - 1).toNat '0' ++ digits
  else
    let mantissa :=
      match digits with
      | [] => []
      | [digit] => [digit]
      | digit :: more => digit :: '.' :: more
    let mark := if first < 0 then layout.negativeMark else layout.positiveMark
    mantissa ++ mark ++ Nat.toDigits 10 first.natAbs

/-- The text of a double: its sign, then its shortest decimal in the layout of documents. -/
def Binary64.text (x : Binary64) : List Char :=
  let sign := if x.negative then ['-'] else []
  if x.significand = 0 then sign ++ '0' :: documentLayout.wholeSuffix
  else sign ++ documentLayout.write x.shortest

end ErrorReport.Json
