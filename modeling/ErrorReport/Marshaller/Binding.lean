import ErrorReport.Event
import ErrorReport.FrameFilter

/-!
# Bindings

A binding writes one kind of payload as a JSON value, and refuses every other kind.  A `TraceBinding`
writes frames for the bindings of stack traces and of exception chains: outermost call first, each with
the flag `in_app`.

Members of objects are written in ascending order of their names throughout.
-/

set_option autoImplicit false

namespace ErrorReport

/-- Why an event cannot be written. -/
inductive MarshalError where
  /-- The writer failed within the document. -/
  | json (reason : String)
  /-- The writer failed outside the document. -/
  | io (reason : String)
  /-- A binding for payloads of a name met another kind of payload. -/
  | unexpectedPayload (expected : String)
  deriving DecidableEq, Repr

/-- The reason in words. -/
def MarshalError.message : MarshalError → String
  | json reason => "JSON serialization failed: " ++ reason
  | io reason => "I/O error while writing event: " ++ reason
  | unexpectedPayload expected =>
    "binding for " ++ expected ++ " received an unexpected interface type"

open Json (Value)

/-- A member with a value, if there is one. -/
def optionalMember {α : Type} (name : String) (value : α → Value) : Option α → List (String × Value)
  | some a => [(name, value a)]
  | none => []

/-- How frames are written. -/
structure TraceBinding where
  /-- Which frames belong to the application. -/
  filter : FrameFilter := FrameFilter.standard
  /-- Whether frames that another stack accounts for are marked as not of the application. -/
  hidesShared : Bool := false
  deriving DecidableEq, Repr

namespace TraceBinding

/-- One frame. -/
def frameValue (frame : Frame) (isInApp : Bool) : Value :=
  .object (optionalMember "filename" .string frame.file
    ++ [("function", .string frame.function), ("in_app", .bool isInApp)]
    ++ optionalMember "lineno" .nat frame.line
    ++ [("module", .string frame.modulePath)])

/-- Whether the frame at an index is marked as one of the application. -/
def isInApp (b : TraceBinding) (count shared index : Nat) (frame : Frame) : Bool :=
  !(b.hidesShared && count - shared ≤ index) && b.filter.isInApp frame

/-- The frames of a stack, outermost call first. -/
def frameValues (b : TraceBinding) (frames : List Frame) (shared : Nat) : List Value :=
  (frames.mapIdx fun i frame => frameValue frame (b.isInApp frames.length shared i frame)).reverse

/-- A stack. -/
def traceValue (b : TraceBinding) (frames : List Frame) (shared : Nat) : Value :=
  .object [("frames", .array (b.frameValues frames shared))]

/-- One error of a chain. -/
def exceptionValue (b : TraceBinding) (e : Exception) (shared : Nat) : Value :=
  .object (optionalMember "module" .string e.modulePath
    ++ [("stacktrace", b.traceValue e.frames shared), ("type", .string e.typeName),
      ("value", .string e.message)])

/-- A chain of errors, outermost first. -/
def chainValue (b : TraceBinding) (c : Chain) : Value :=
  .array (c.exceptions.mapIdx fun i e => b.exceptionValue e (c.sharedWithCause i))

end TraceBinding

/-- A message and its parameters. -/
def MessagePayload.value (m : MessagePayload) : Value :=
  .object [("message", .string m.message), ("params", .array (m.params.map Value.ofText?))]

namespace HttpRequest

/-- A text under each name. -/
def textsValue (d : Dictionary String) : Value := .ofDictionary (d.mapValues .string)

/-- A list of texts under each name. -/
def listsValue (d : Dictionary (List String)) : Value :=
  .ofDictionary (d.mapValues fun texts => .array (texts.map .string))

/-- A request. -/
def value (r : HttpRequest) : Value :=
  .object ([("cookies", textsValue r.cookies), ("data", listsValue r.data), ("env", textsValue r.env),
      ("headers", listsValue r.headers), ("method", .string r.method)]
    ++ optionalMember "query_string" .string r.query
    ++ [("url", .string r.url)])

end HttpRequest

/-- How a payload is written. -/
inductive Binding where
  | stackTrace (frames : TraceBinding)
  | exception (frames : TraceBinding)
  | message
  | http
  /-- A binding of the application's own. -/
  | custom (write : Payload → Except MarshalError Value)

/-- The value that a binding writes for a payload. -/
def Binding.write : Binding → Payload → Except MarshalError Value
  | stackTrace b, .stackTrace s => .ok (b.traceValue s.frames s.shared)
  | stackTrace _, _ => .error (.unexpectedPayload Payload.stackTraceName)
  | exception b, .exception c => .ok (b.chainValue c)
  | exception _, _ => .error (.unexpectedPayload Payload.exceptionName)
  | message, .message m => .ok m.value
  | message, _ => .error (.unexpectedPayload Payload.messageName)
  | http, .http r => .ok r.value
  | http, _ => .error (.unexpectedPayload Payload.httpName)
  | custom write, payload => write payload

end ErrorReport
