import ErrorReport.Json.Value
import ErrorReport.Text.Hex

/-!
# Reading JSON

`Value.read?` reads one JSON value and nothing else but blanks around it.  The members of an object
keep their order, and a name that occurs twice is kept twice.  A number without a fraction and an
exponent is a whole number if it fits 64 bits, signed or unsigned; every other number, `-0` among
them, is the nearest double.

Nesting is bounded by the length of the text, so the readers recurse on a budget that the text
itself provides.
-/

set_option autoImplicit false

namespace ErrorReport.Json

namespace Reader

/-- Skips the blanks of the format. -/
def skip (s : List Char) : List Char :=
  s.dropWhile fun c => c == ' ' || c == '\t' || c == '\n' || c == '\r'

/-- The code unit of four hexadecimal digits. -/
def unit? (a b c d : Char) : Option Nat := do
  let a ← Text.Hex.value? a
  let b ← Text.Hex.value? b
  let c ← Text.Hex.value? c
  let d ← Text.Hex.value? d
  pure (((a * 16 + b) * 16 + c) * 16 + d)

/-- The character of a short escape. -/
def shortEscape? (c : Char) : Option Char :=
  if c == '"' || c == '\\' || c == '/' then some c
  else if c == 'b' then some '\x08'
  else if c == 'f' then some '\x0c'
  else if c == 'n' then some '\n'
  else if c == 'r' then some '\r'
  else if c == 't' then some '\t'
  else none

/-- The characters of a string up to its closing quote, and what follows the quote. -/
def string? : List Char → Option (List Char × List Char)
  | [] => none
  | '"' :: rest => some ([], rest)
  | '\\' :: 'u' :: a :: b :: c :: d :: rest => do
    let high ← unit? a b c d
    if 0xD800 ≤ high ∧ high < 0xDC00 then
      match rest with
      | '\\' :: 'u' :: e :: f :: g :: h :: rest => do
        let low ← unit? e f g h
        if 0xDC00 ≤ low ∧ low < 0xE000 then
          let (s, rest) ← string? rest
          pure (Char.ofNat (0x10000 + (high - 0xD800) * 0x400 + (low - 0xDC00)) :: s, rest)
        else none
      | _ => none
    else if 0xDC00 ≤ high ∧ high < 0xE000 then none
    else do
      let (s, rest) ← string? rest
      pure (Char.ofNat high :: s, rest)
  | '\\' :: e :: rest => do
    let c ← shortEscape? e
    let (s, rest) ← string? rest
    pure (c :: s, rest)
  | c :: rest =>
    if c.toNat < 0x20 then none
    else do
      let (s, rest) ← string? rest
      pure (c :: s, rest)

/-- The number written by decimal digits. -/
def digitsValue (digits : List Char) : Nat :=
  digits.foldl (fun n c => n * 10 + (c.toNat - 48)) 0

/-- A run of digits that is not empty, and what follows it. -/
def digits? (s : List Char) : Option (List Char × List Char) :=
  let digits := s.takeWhile Char.isDigit
  if digits.isEmpty then none else some (digits, s.dropWhile Char.isDigit)

/-- The digits before the point: a zero alone, or a run that does not start with one. -/
def whole? : List Char → Option (List Char × List Char)
  | '0' :: rest => some (['0'], rest)
  | s => digits? s

/-- The digits after the point, if a point follows. -/
def fraction? : List Char → Option (Option (List Char) × List Char)
  | '.' :: rest => (digits? rest).map fun (digits, rest) => (some digits, rest)
  | s => some (none, s)

/-- The exponent, if one follows. -/
def exponent? (s : List Char) : Option (Option Int × List Char) :=
  let signed (rest : List Char) : Option (Option Int × List Char) :=
    match rest with
    | '+' :: rest => (digits? rest).map fun (d, rest) => (some (digitsValue d : Int), rest)
    | '-' :: rest => (digits? rest).map fun (d, rest) => (some (-(digitsValue d : Int)), rest)
    | rest => (digits? rest).map fun (d, rest) => (some (digitsValue d : Int), rest)
  match s with
  | 'e' :: rest => signed rest
  | 'E' :: rest => signed rest
  | s => some (none, s)

/-- The number for a sign, the digits around the point and an exponent. -/
def number? (negative : Bool) (whole : List Char) (fraction : Option (List Char))
    (exponent : Option Int) : Option Value :=
  let digits := digitsValue (whole ++ fraction.getD [])
  let signed : Int := if negative then -digits else digits
  if fraction.isNone && exponent.isNone && -(Nat.pow 2 63 : Nat) ≤ signed && signed < (Nat.pow 2 64 : Nat)
      && !(negative && digits == 0) then
    some (.integer signed)
  else
    let shift : Int := exponent.getD 0 - (fraction.getD []).length
    (Binary64.ofDecimal? negative digits shift).map .real

/-- Reads a number. -/
def numberAt? (s : List Char) : Option (Value × List Char) := do
  let (negative, s) := match s with
    | '-' :: rest => (true, rest)
    | s => (false, s)
  let (whole, s) ← whole? s
  let (fraction, s) ← fraction? s
  let (exponent, s) ← exponent? s
  let value ← number? negative whole fraction exponent
  pure (value, s)

mutual

/-- Reads a value from the start of the text, within a budget for its nesting. -/
def value? : Nat → List Char → Option (Value × List Char)
  | 0, _ => none
  | budget + 1, s =>
    match skip s with
    | 'n' :: 'u' :: 'l' :: 'l' :: rest => some (.null, rest)
    | 't' :: 'r' :: 'u' :: 'e' :: rest => some (.bool true, rest)
    | 'f' :: 'a' :: 'l' :: 's' :: 'e' :: rest => some (.bool false, rest)
    | '"' :: rest => (string? rest).map fun (s, rest) => (.string (String.ofList s), rest)
    | '[' :: rest =>
      match skip rest with
      | ']' :: rest => some (.array [], rest)
      | rest => (items? budget rest).map fun (items, rest) => (.array items, rest)
    | '\x7b' :: rest =>
      match skip rest with
      | '\x7d' :: rest => some (.object [], rest)
      | rest => (members? budget rest).map fun (members, rest) => (.object members, rest)
    | s => numberAt? s

/-- Reads the items of an array up to its closing bracket. -/
def items? : Nat → List Char → Option (List Value × List Char)
  | 0, _ => none
  | budget + 1, s =>
    match value? budget s with
    | none => none
    | some (item, rest) =>
      match skip rest with
      | ',' :: rest => (items? budget rest).map fun (items, rest) => (item :: items, rest)
      | ']' :: rest => some ([item], rest)
      | _ => none

/-- Reads the members of an object up to its closing brace. -/
def members? : Nat → List Char → Option (List (String × Value) × List Char)
  | 0, _ => none
  | budget + 1, s =>
    match skip s with
    | '"' :: rest =>
      match string? rest with
      | none => none
      | some (name, rest) =>
        match skip rest with
        | ':' :: rest =>
          match value? budget rest with
          | none => none
          | some (value, rest) =>
            match skip rest with
            | ',' :: rest =>
              (members? budget rest).map fun (members, rest) =>
                ((String.ofList name, value) :: members, rest)
            | '\x7d' :: rest => some ([(String.ofList name, value)], rest)
            | _ => none
        | _ => none
    | _ => none

end

end Reader

/-- Reads a text that is one JSON value. -/
def Value.read? (s : List Char) : Option Value :=
  match Reader.value? (2 * s.length + 2) s with
  | some (value, rest) => if (Reader.skip rest).isEmpty then some value else none
  | none => none

end ErrorReport.Json
