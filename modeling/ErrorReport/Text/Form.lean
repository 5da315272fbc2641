import ErrorReport.Text.Percent
import ErrorReport.Text.Split

/-!
# Forms

The query of a URL is a form: pairs `name=value` joined by `&`.  A blank is written as `+`, and every
byte that is neither a letter, a digit nor one of `*`, `-`, `.` and `_` is percent-escaped.
-/

set_option autoImplicit false

namespace ErrorReport.Text.Form

/-- Whether a character stands for itself in a form. -/
def isKept (c : Char) : Bool :=
  c.isAlphanum || c == '*' || c == '-' || c == '.' || c == '_'

/-- The written form of one character. -/
def encodeChar (c : Char) : List Char :=
  if c == ' ' then ['+'] else if isKept c then [c] else (String.utf8EncodeChar c).flatMap Percent.escape

/-- The written form of a name or a value. -/
def encode (s : List Char) : List Char := s.flatMap encodeChar

/-- Reads a name or a value. -/
def decode (s : List Char) : List Char :=
  Percent.decodeText (s.map fun c => if c == '+' then ' ' else c)

/-- Reads one pair; a text without `=` is a name with an empty value. -/
def readPair (s : List Char) : String × String :=
  match splitOnce? ['='] s with
  | some (name, value) => (String.ofList (decode name), String.ofList (decode value))
  | none => (String.ofList (decode s), "")

/-- Reads all pairs; nothing stands between two neighbouring `&`. -/
def read (s : List Char) : List (String × String) :=
  ((pieces (· == '&') s).filter (fun p => !p.isEmpty)).map readPair

/-- Writes one pair. -/
def writePair (pair : String × String) : List Char :=
  encode pair.1.toList ++ '=' :: encode pair.2.toList

/-- Writes all pairs. -/
def write (pairs : List (String × String)) : List Char := joinWith ['&'] (pairs.map writePair)

end ErrorReport.Text.Form
