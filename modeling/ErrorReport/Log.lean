import ErrorReport.Level

/-!
# Log records

Operations of this library do not write a log; they return the records they would write, in order.
-/

set_option autoImplicit false

namespace ErrorReport

/-- How important a log record is. -/
inductive LogLevel where
  | trace
  | debug
  | info
  | warn
  | error
  deriving DecidableEq, Repr

namespace LogLevel

/-- The name in capitals, as a log shows it. -/
def name : LogLevel → String
  | trace => "TRACE"
  | debug => "DEBUG"
  | info => "INFO"
  | warn => "WARN"
  | error => "ERROR"

/-- The level of an event made from a log record; a log knows nothing fatal. -/
def severity : LogLevel → Level
  | trace | debug => .debug
  | info => .info
  | warn => .warning
  | error => .error

end LogLevel

/-- One record of a log. -/
structure LogRecord where
  level : LogLevel
  message : String
  deriving DecidableEq, Repr

/-- The record as one line. -/
def LogRecord.line (r : LogRecord) : String := r.level.name ++ " " ++ r.message

end ErrorReport
