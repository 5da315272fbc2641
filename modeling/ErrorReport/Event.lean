import ErrorReport.Calendar
import ErrorReport.Level
import ErrorReport.Payload
import ErrorReport.Uuid

/-!
# Events

An event is one thing that is reported.  It is built by an `EventBuilder` and does not change after that.
-/

set_option autoImplicit false

namespace ErrorReport

/-- One thing that is reported. -/
structure Event where
  id : Uuid
  timestamp : Instant
  message : Option String
  level : Option Level
  logger : Option String
  platform : String
  /-- What is held responsible. -/
  culprit : Option String
  /-- The host that the event comes from. -/
  serverName : String
  tags : Dictionary String
  extra : Dictionary Json.Value
  /-- Events with the same checksum are grouped. -/
  checksum : Option String
  /-- The payloads by name. -/
  payloads : Dictionary Payload

end ErrorReport
