import ErrorReport.Text.Hex
import ErrorReport.Text.Split

/-!
# IPv6 addresses

An address is eight groups of up to four hexadecimal digits with colons between them.  A double colon
stands for as many zero groups as are missing, at least one, and the last two groups may be written as
an IPv4 address.  The printed form leaves out the first of the longest runs of zero groups.
-/

set_option autoImplicit false

namespace ErrorReport.Url.Ipv6

/-- The value of one group. -/
def group? (digits : List Char) : Option Nat :=
  if 1 ≤ digits.length ∧ digits.length ≤ 4 then
    digits.foldlM (fun n c => (Text.Hex.value? c).map (n * 16 + ·)) 0
  else none

/-- One byte in decimal without leading zeros. -/
def byte? (digits : List Char) : Option Nat :=
  if digits.isEmpty || (1 < digits.length && digits.head? == some '0') || !digits.all Char.isDigit then none
  else
    let n := digits.foldl (fun n c => n * 10 + (c.toNat - 48)) 0
    if n ≤ 255 then some n else none

/-- The two groups that an embedded IPv4 address stands for. -/
def embedded? (text : List Char) : Option (List Nat) :=
  match (Text.pieces (· == '.') text).mapM byte? with
  | some [a, b, c, d] => some [a * 256 + b, c * 256 + d]
  | _ => none

/-- The groups between single colons; the last one may be an IPv4 address. -/
def groups? : List (List Char) → Option (List Nat)
  | [] => some []
  | [last] => if last.contains '.' then embedded? last else (group? last).map ([·])
  | first :: rest => (group? first).bind fun n => (groups? rest).map (n :: ·)

/-- The groups of a text on one side of a double colon. -/
def side? (text : List Char) : Option (List Nat) :=
  if text.isEmpty then some [] else groups? (Text.pieces (· == ':') text)

/-- The eight groups of an address. -/
def read? (text : List Char) : Option (List Nat) :=
  match Text.splitOnce? [':', ':'] text with
  | some (before, after) => do
    let front ← if before.contains '.' then none else side? before
    let back ← side? after
    if front.length + back.length ≤ 7 then
      some (front ++ List.replicate (8 - front.length - back.length) 0 ++ back)
    else none
  | none => (side? text).filter (·.length == 8)

/-- How many zero groups a list starts with. -/
def leadingZeros (groups : List Nat) : Nat := (groups.takeWhile (· == 0)).length

/-- Where the first of the longest runs of zero groups starts, and how long it is. -/
def longestRun : List Nat → Nat × Nat
  | [] => (0, 0)
  | g :: rest =>
    let later := longestRun rest
    let here := leadingZeros (g :: rest)
    if later.2 ≤ here then (0, here) else (later.1 + 1, later.2)

/-- Groups in hexadecimal with colons between them. -/
def groupsText (groups : List Nat) : List Char := Text.joinWith [':'] (groups.map Text.Hex.minimal)

/-- The printed form of an address. -/
def text (groups : List Nat) : List Char :=
  let (start, length) := longestRun groups
  if length < 2 then groupsText groups
  else groupsText (groups.take start) ++ [':', ':'] ++ groupsText (groups.drop (start + length))

end ErrorReport.Url.Ipv6
