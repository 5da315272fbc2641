import ErrorReport.Marshaller.Binding

/-!
# What can go wrong with a transport

`Outcome` is what one call of a transport comes to: nothing, or a `TransportError`.
-/

set_option autoImplicit false

namespace ErrorReport

/-- Why an event was not sent, or a transport not opened or closed. -/
inductive TransportError where
  /-- The network failed. -/
  | io (reason : String)
  /-- The server refused without a word. -/
  | serverStatus (status : Nat)
  /-- The event could not be written. -/
  | serialization (cause : MarshalError)
  /-- There was no room in the queue. -/
  | queueFull
  /-- The transport takes no more events. -/
  | closed
  deriving DecidableEq, Repr

/-- The reason in words. -/
def TransportError.message : TransportError → String
  | io reason => "transport I/O error: " ++ reason
  | serverStatus status => "server responded with status " ++ toString status
  | serialization cause => cause.message
  | queueFull => "send queue is full; event dropped"
  | closed => "transport is closed"

/-- What one call of a transport comes to. -/
inductive Outcome where
  | done
  | failed (error : TransportError)
  deriving DecidableEq, Repr

end ErrorReport
