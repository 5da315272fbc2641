import ErrorReport.Text.Hex
import ErrorReport.Text.Printable

/-!
# Quoted text

Diagnostics show a text between double quotes.  A quote, a backslash, the tabulator, the line feed,
the carriage return and the null character have an escape of two characters, any other character that
is not printable is written as its code point in braces, and the rest stands for itself.
-/

set_option autoImplicit false

namespace ErrorReport.Text

/-- The quoted form of one character. -/
def quotedChar (c : Char) : List Char :=
  if c == '"' then ['\\', '"']
  else if c == '\\' then ['\\', '\\']
  else if c == '\t' then ['\\', 't']
  else if c == '\n' then ['\\', 'n']
  else if c == '\r' then ['\\', 'r']
  else if c == '\x00' then ['\\', '0']
  else if isPrintable c then [c]
  else ['\\', 'u', '\x7b'] ++ Hex.minimal c.toNat ++ ['\x7d']

/-- A text between double quotes, with escapes. -/
def quoted (s : String) : String :=
  String.ofList ('"' :: s.toList.flatMap quotedChar ++ ['"'])

end ErrorReport.Text
