import ErrorReport.Frame
import ErrorReport.Text.Alphanumeric

/-!
# Exceptions and their chains

An `Exception` describes one error: the short name of its type, the module of the type if it is
known, the message and the frames captured for it.  A `Chain` lists an error and its causes, the
outermost error first.

`splitTypeName` tells module and short name apart, and leaves what stands in generic arguments alone.
-/

set_option autoImplicit false

namespace ErrorReport

/-- One error of a chain. -/
structure Exception where
  /-- The short name of the error's type. -/
  typeName : String
  /-- The module of the type, if it is known. -/
  modulePath : Option String
  /-- The rendered message. -/
  message : String
  /-- The frames captured for the error, innermost call first. -/
  frames : List Frame := []
  deriving DecidableEq, Repr

/-- The path of a type name: what stands before its generic arguments. -/
def typePath (name : List Char) : List Char := name.takeWhile (· != '<')

/-- Splits a type name at the last `::` outside generic arguments, unless nothing stands before it. -/
def splitTypeName (name : String) : Option String × String :=
  match Text.splitLast? [':', ':'] (typePath name.toList) with
  | some (c :: modulePath, _) =>
    (some (String.ofList (c :: modulePath)),
      String.ofList (name.toList.drop (modulePath.length + 3)))
  | _ => (none, name)

namespace Exception

/-- An error named by a type name, which may be qualified. -/
def ofTypeName (name message : String) : Exception :=
  ⟨(splitTypeName name).2, (splitTypeName name).1, message, []⟩

/-- A character that may stand in a type name. -/
def isNameChar (c : Char) : Bool := Text.isAlphanumeric c || c == '_' || c == ':'

/-- An error of unknown type: its name is the identifier that its diagnostic text starts with, or
`Error` if it starts with none. -/
def ofDiagnostic (diagnostic message : String) : Exception :=
  match diagnostic.toList.takeWhile isNameChar with
  | [] => ofTypeName "Error" message
  | c :: rest => ofTypeName (String.ofList (c :: rest)) message

end Exception

/-- An error followed by its causes, outermost first. -/
structure Chain where
  /-- The errors. -/
  exceptions : List Exception
  deriving DecidableEq, Repr

namespace Chain

/-- The chain without any error. -/
def empty : Chain := ⟨[]⟩

/-- A chain that starts with its outermost error. -/
def start (outer : Exception) : Chain := ⟨[outer]⟩

/-- Appends the next inner cause. -/
def causedBy (c : Chain) (cause : Exception) : Chain := ⟨c.exceptions ++ [cause]⟩

/-- The outermost error. -/
def outer? (c : Chain) : Option Exception := c.exceptions.head?

/-- Replaces the frames of the outermost error. -/
def withOuterFrames (c : Chain) (frames : List Frame) : Chain :=
  match c.exceptions with
  | [] => c
  | outer :: causes => ⟨{ outer with frames := frames } :: causes⟩

/-- Renames the outermost error after a type name. -/
def withOuterType (c : Chain) (name : String) : Chain :=
  match c.exceptions with
  | [] => c
  | outer :: causes =>
    ⟨{ outer with typeName := (splitTypeName name).2, modulePath := (splitTypeName name).1 } :: causes⟩

/-- How many errors the chain lists. -/
def length (c : Chain) : Nat := c.exceptions.length

/-- Whether the outermost error has a cause. -/
def hasCause (c : Chain) : Bool := 1 < c.exceptions.length

/-- How many frames the error at an index shares with its own cause. -/
def sharedWithCause (c : Chain) (index : Nat) : Nat :=
  match c.exceptions[index]?, c.exceptions[index + 1]? with
  | some exception, some cause => sharedFrames exception.frames cause.frames
  | _, _ => 0

end Chain

end ErrorReport
