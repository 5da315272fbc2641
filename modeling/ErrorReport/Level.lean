import ErrorReport.Text.Ascii
import ErrorReport.Text.Quoted

/-!
# Severity levels

The five levels of an event, from `debug` to `fatal`, in ascending order of severity.  `Level.parse?`
accepts the wire names and a few synonyms in any ASCII case.
-/

set_option autoImplicit false

namespace ErrorReport

/-- How severe an event is. -/
inductive Level where
  | debug
  | info
  | warning
  | error
  | fatal
  deriving DecidableEq, Repr, Ord

namespace Level

/-- The level of an event that says nothing about it. -/
instance : Inhabited Level := ⟨error⟩

/-- The name used in documents. -/
def name : Level → String
  | debug => "debug"
  | info => "info"
  | warning => "warning"
  | error => "error"
  | fatal => "fatal"

/-- The name used in diagnostics. -/
def label : Level → String
  | debug => "Debug"
  | info => "Info"
  | warning => "Warning"
  | error => "Error"
  | fatal => "Fatal"

/-- Reads a level name in any ASCII case. -/
def parse? (s : String) : Option Level :=
  match Text.lower s with
  | "trace" | "debug" => some debug
  | "info" => some info
  | "warn" | "warning" => some warning
  | "error" => some error
  | "fatal" | "critical" => some fatal
  | _ => none

/-- What is said of a text that names no level. -/
def unknownMessage (s : String) : String := "unknown level: " ++ Text.quoted s

/-- The more severe of two levels. -/
def max (a b : Level) : Level := if compare a b == .gt then a else b

end Level

end ErrorReport
