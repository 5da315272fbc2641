import ErrorReport.Json.Value
import ErrorReport.Json.Shortest
import ErrorReport.Text.Hex

/-!
# Writing JSON

A value is written without blanks.  In a string the quote and the backslash are escaped, the control
characters have their short escapes or four hexadecimal digits, and every other character stands for
itself.
-/

set_option autoImplicit false

namespace ErrorReport.Json

open Text (Hex.digit)

/-- The written form of one character of a string. -/
def escapedChar (c : Char) : List Char :=
  if c == '"' then ['\\', '"']
  else if c == '\\' then ['\\', '\\']
  else if c == '\x08' then ['\\', 'b']
  else if c == '\t' then ['\\', 't']
  else if c == '\n' then ['\\', 'n']
  else if c == '\x0c' then ['\\', 'f']
  else if c == '\r' then ['\\', 'r']
  else if c.toNat < 0x20 then
    ['\\', 'u', '0', '0', Text.Hex.digit (c.toNat / 16), Text.Hex.digit (c.toNat % 16)]
  else [c]

/-- A string between quotes. -/
def quotedString (s : String) : List Char := '"' :: s.toList.flatMap escapedChar ++ ['"']

/-- A whole number in decimal digits. -/
def integerText (n : Int) : List Char :=
  if n < 0 then '-' :: Nat.toDigits 10 n.natAbs else Nat.toDigits 10 n.natAbs

namespace Value

mutual

/-- The written form of a value. -/
def text : Value → List Char
  | .null => ['n', 'u', 'l', 'l']
  | .bool true => ['t', 'r', 'u', 'e']
  | .bool false => ['f', 'a', 'l', 's', 'e']
  | .integer n => integerText n
  | .real x => x.text
  | .string s => quotedString s
  | .array items => '[' :: itemsText items ++ [']']
  | .object members => '\x7b' :: membersText members ++ ['\x7d']

/-- The items of an array with commas between them. -/
def itemsText : List Value → List Char
  | [] => []
  | [item] => text item
  | item :: next :: rest => text item ++ ',' :: itemsText (next :: rest)

/-- The members of an object with commas between them. -/
def membersText : List (String × Value) → List Char
  | [] => []
  | [(name, value)] => quotedString name ++ ':' :: text value
  | (name, value) :: next :: rest =>
    quotedString name ++ ':' :: text value ++ ',' :: membersText (next :: rest)

end

/-- The written form of a value as a string. -/
def render (v : Value) : String := String.ofList v.text

end Value

end ErrorReport.Json
