import ErrorReport.Text.Hex
import ErrorReport.Text.Utf8

/-!
# Percent escapes

A byte is escaped as `%` and two hexadecimal digits.  `Percent.encode` escapes the characters of a
class, and always those outside printable ASCII; `Percent.decode` gives the bytes that a text stands
for, a `%` without two digits after it standing for itself.
-/

set_option autoImplicit false

namespace ErrorReport.Text.Percent

/-- The escape of one byte, in upper case. -/
def escape (b : UInt8) : List Char :=
  ['%', Hex.upperDigit (b.toNat / 16), Hex.upperDigit (b.toNat % 16)]

/-- Control characters and everything outside ASCII. -/
def isUnprintable (c : Char) : Bool := c.toNat < 0x20 || 0x7F ≤ c.toNat

/-- The escaped form of a character. -/
def encodeChar (reserved : Char → Bool) (c : Char) : List Char :=
  if isUnprintable c || reserved c then (String.utf8EncodeChar c).flatMap escape else [c]

/-- Escapes the reserved characters and those that are not printable ASCII. -/
def encode (reserved : Char → Bool) (s : List Char) : List Char := s.flatMap (encodeChar reserved)

/-- The bytes a text stands for. -/
def decode : List Char → List UInt8
  | '%' :: high :: low :: rest =>
    match Hex.value? high, Hex.value? low with
    | some h, some l => UInt8.ofNat (h * 16 + l) :: decode rest
    | _, _ => utf8 ['%'] ++ decode (high :: low :: rest)
  | c :: rest => String.utf8EncodeChar c ++ decode rest
  | [] => []

/-- The text that a text with escapes stands for; malformed bytes are replaced. -/
def decodeText (s : List Char) : List Char := decodeLossy (decode s)

end ErrorReport.Text.Percent
