import ErrorReport.Text.Hex
import ErrorReport.Text.Split

/-!
# IPv4 addresses

In a URL an address may be written in up to four parts, each decimal, octal after a leading `0` or
hexadecimal after `0x`; the last part fills all bytes that are left.  A host whose last part is a
number is an address or an error, never a domain name.
-/

set_option autoImplicit false

namespace ErrorReport.Url.Ipv4

/-- The number that digits of a base denote; `none` if one is no digit of the base. -/
def digitsValue? (base : Nat) (digits : List Char) : Option Nat :=
  digits.foldlM (fun n c => (Text.Hex.value? c).bind fun d => if d < base then some (n * base + d) else none) 0

/-- The number that a part denotes. -/
def part? : List Char → Option Nat
  | [] => none
  | '0' :: c :: digits =>
    if c == 'x' || c == 'X' then digitsValue? 16 digits else digitsValue? 8 (c :: digits)
  | digits => digitsValue? 10 digits

/-- The parts of a host between its dots, without an empty one at the end. -/
def parts (host : List Char) : List (List Char) :=
  let all := Text.pieces (· == '.') host
  if 1 < all.length ∧ all.getLast? = some [] then all.dropLast else all

/-- Whether the last part of a host is meant as a number. -/
def endsInNumber (host : List Char) : Bool :=
  match (parts host).getLast? with
  | some last => !last.isEmpty && (last.all Char.isDigit || (part? last).isSome)
  | none => false

/-- The address that parts denote, as one number. -/
def ofParts? (numbers : List Nat) : Option Nat :=
  match numbers.getLast? with
  | none => none
  | some last =>
    let front := numbers.dropLast
    if 3 < front.length ∨ Nat.pow 256 (4 - front.length) ≤ last ∨ front.any (255 < ·) then none
    else some ((front.zipIdx.map fun (n, i) => n * Nat.pow 256 (3 - i)).foldr (· + ·) 0 + last)

/-- The address that a host denotes. -/
def read? (host : List Char) : Option Nat := ((parts host).mapM part?).bind ofParts?

/-- The four bytes of an address in decimal, with dots between them. -/
def text (address : Nat) : List Char :=
  Text.joinWith ['.'] ([3, 2, 1, 0].map fun i => Nat.toDigits 10 (address / Nat.pow 256 i % 256))

end ErrorReport.Url.Ipv4
