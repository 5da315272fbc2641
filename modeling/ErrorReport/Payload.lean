import ErrorReport.Exception
import ErrorReport.Json.Value

/-!
# Payloads

What an event carries besides its plain fields: a message with parameters, a chain of exceptions, a
stack trace, a request over HTTP, or something of the application's own.  Each payload has a name, and
an event carries at most one payload of a name.
-/

set_option autoImplicit false

namespace ErrorReport

/-- A message and the parameters that belong into it. -/
structure MessagePayload where
  /-- The message with gaps. -/
  message : String
  /-- What belongs into the gaps; some of it may be absent. -/
  params : List (Option String)
  deriving DecidableEq, Repr

namespace MessagePayload

/-- The message of a template, unless the template has no gaps: then it equals the formatted text. -/
def ofFormatted? (template formatted : String) (params : List (Option String)) :
    Option MessagePayload :=
  if template = formatted then none else some ⟨template, params⟩

end MessagePayload

/-- The frames of one stack. -/
structure StackTrace where
  /-- The frames, innermost call first. -/
  frames : List Frame
  /-- How many of the outermost ones another stack accounts for. -/
  shared : Nat := 0
  deriving DecidableEq, Repr

namespace StackTrace

/-- A stack within another one. -/
def within (frames enclosing : List Frame) : StackTrace := ⟨frames, sharedFrames frames enclosing⟩

/-- The stack of the outermost error of a chain. -/
def ofChain (c : Chain) : StackTrace :=
  match c.outer? with
  | some outer => ⟨outer.frames, c.sharedWithCause 0⟩
  | none => ⟨[], 0⟩

end StackTrace

/-- A request over HTTP. -/
structure HttpRequest where
  url : String
  method : String
  /-- The query string, if there is one; it may be empty. -/
  query : Option String := none
  cookies : Dictionary String := ∅
  /-- The values of each header in the order they were given. -/
  headers : Dictionary (List String) := ∅
  /-- The values of each form field in the order they were given. -/
  data : Dictionary (List String) := ∅
  /-- The environment of the server. -/
  env : Dictionary String := ∅
  deriving DecidableEq

namespace HttpRequest

/-- Appends a value to those of a name. -/
def append (d : Dictionary (List String)) (name value : String) : Dictionary (List String) :=
  d.modify name fun values => values.getD [] ++ [value]

/-- Sets a cookie. -/
def withCookie (r : HttpRequest) (name value : String) : HttpRequest :=
  { r with cookies := r.cookies.insert name value }

/-- Adds a value of a header. -/
def withHeader (r : HttpRequest) (name value : String) : HttpRequest :=
  { r with headers := append r.headers name value }

/-- Adds a value of a form field. -/
def withData (r : HttpRequest) (name value : String) : HttpRequest :=
  { r with data := append r.data name value }

/-- Sets a variable of the server's environment. -/
def withEnv (r : HttpRequest) (name value : String) : HttpRequest :=
  { r with env := r.env.insert name value }

end HttpRequest

/-- What an event carries. -/
inductive Payload where
  | message (content : MessagePayload)
  | exception (content : Chain)
  | stackTrace (content : StackTrace)
  | http (content : HttpRequest)
  /-- Something of the application's own, under a name of its choice. -/
  | custom (name : String) (content : Json.Value)

namespace Payload

/-- The name of messages. -/
def messageName : String := "sentry.interfaces.Message"

/-- The name of exception chains. -/
def exceptionName : String := "sentry.interfaces.Exception"

/-- The name of stack traces. -/
def stackTraceName : String := "sentry.interfaces.Stacktrace"

/-- The name of requests. -/
def httpName : String := "sentry.interfaces.Http"

/-- The name under which an event carries a payload. -/
def name : Payload → String
  | message _ => messageName
  | exception _ => exceptionName
  | stackTrace _ => stackTraceName
  | http _ => httpName
  | custom name _ => name

end Payload

end ErrorReport
