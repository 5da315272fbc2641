import ErrorReport.Json.Printer
import ErrorReport.Text.Utf8
import ErrorReport.Writer

/-!
# Writing JSON to a writer

A value is not put together before it is written: each bracket, comma, colon, number and word is
handed to the writer on its own.  A string is handed over in the runs that need no escape and the
escapes between them.

`Value.write` writes a value.  Where the writer fails the rest of the value is not written, and the
failure is an `OutputError`.
-/

set_option autoImplicit false

namespace ErrorReport.Json

/-- Why a value was not written to its end. -/
inductive OutputError where
  /-- The writer failed. -/
  | io (reason : String)
  deriving DecidableEq, Repr

/-- The reason in words. -/
def OutputError.message : OutputError → String
  | io reason => reason

namespace Output

/-- Hands characters to the writer. -/
def put (w : Writer) (s : List Char) : Writing OutputError Unit := (w.put (Text.utf8 s)).adapt .io

/-- Hands over the characters of a string after those of `run`, which need no escape. -/
def putEscaped (w : Writer) (run : List Char) : List Char → Writing OutputError Unit
  | [] => put w run
  | c :: rest =>
    if escapedChar c = [c] then putEscaped w (run ++ [c]) rest
    else do
      put w run
      put w (escapedChar c)
      putEscaped w [] rest

/-- Hands over a string between quotes. -/
def putString (w : Writer) (s : String) : Writing OutputError Unit := do
  put w ['"']
  putEscaped w [] s.toList
  put w ['"']

end Output

namespace Value

open Output

mutual

/-- Writes a value. -/
def write (w : Writer) : Value → Writing OutputError Unit
  | .null => put w ['n', 'u', 'l', 'l']
  | .bool true => put w ['t', 'r', 'u', 'e']
  | .bool false => put w ['f', 'a', 'l', 's', 'e']
  | .integer n => put w (integerText n)
  | .real x => put w x.text
  | .string s => putString w s
  | .array items => do
    put w ['[']
    writeItems w items
    put w [']']
  | .object members => do
    put w ['\x7b']
    writeMembers w members
    put w ['\x7d']

/-- Writes the items of an array with commas between them. -/
def writeItems (w : Writer) : List Value → Writing OutputError Unit
  | [] => pure ()
  | [item] => write w item
  | item :: next :: rest => do
    write w item
    put w [',']
    writeItems w (next :: rest)

/-- Writes the members of an object with commas between them. -/
def writeMembers (w : Writer) : List (String × Value) → Writing OutputError Unit
  | [] => pure ()
  | [(name, value)] => do
    putString w name
    put w [':']
    write w value
  | (name, value) :: next :: rest => do
    putString w name
    put w [':']
    write w value
    put w [',']
    writeMembers w (next :: rest)

end

end Value

end ErrorReport.Json
