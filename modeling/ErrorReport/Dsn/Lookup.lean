import ErrorReport.Log
import ErrorReport.Text.Blank
import ErrorReport.Text.Shown

/-!
# Where a descriptor is looked for

A `DsnLookup` lists places that may hold a connection descriptor: variables of the environment, and
texts that the application supplies.  The first place with anything but blanks in it decides.
-/

set_option autoImplicit false

namespace ErrorReport

/-- A place that may hold a connection descriptor. -/
inductive DsnSource where
  /-- A variable of the environment. -/
  | environment (name : String)
  /-- A text from the application. -/
  | fixed (text : String)
  deriving DecidableEq, Repr

/-- The variables of an environment and their values. -/
abbrev Environment := String → Option String

namespace DsnSource

/-- The place as a log names it. -/
def description : DsnSource → String
  | environment name => "environment variable " ++ name
  | fixed _ => "fixed value"

/-- What the place holds, without blanks at the ends; `none` if that is nothing. -/
def read? (env : Environment) (source : DsnSource) : Option String :=
  let held := match source with
    | environment name => env name
    | fixed text => some text
  (held.map Text.trim).filter fun text => !text.isEmpty

/-- The place as a diagnostic shows it. -/
def shown : DsnSource → Text.Shown
  | environment name => .applied "Env" [.quote name]
  | fixed text => .applied "Fixed" [.quote text]

end DsnSource

/-- The places to look at, in order. -/
structure DsnLookup where
  sources : List DsnSource
  deriving DecidableEq, Repr

namespace DsnLookup

/-- The variable that is looked at unless something else is asked for. -/
def standardVariable : String := "SENTRY_DSN"

/-- The lookup in the standard variable alone. -/
def standard : DsnLookup := ⟨[.environment standardVariable]⟩

/-- One more place, after all others. -/
def add (l : DsnLookup) (source : DsnSource) : DsnLookup := ⟨l.sources ++ [source]⟩

/-- The first place that holds anything, and what it holds. -/
def first? (l : DsnLookup) (env : Environment) : Option (DsnSource × String) :=
  l.sources.findSome? fun source => (source.read? env).map (source, ·)

/-- What is found. -/
def find? (l : DsnLookup) (env : Environment) : Option String := (l.first? env).map (·.2)

/-- The log of a lookup. -/
def log (l : DsnLookup) (env : Environment) : List LogRecord :=
  match l.first? env with
  | some (source, _) => [⟨.debug, "DSN found in " ++ source.description⟩]
  | none => [⟨.debug, "no DSN found in " ++ toString l.sources.length ++ " configured sources"⟩]

/-- The places as a diagnostic shows them. -/
def shown (l : DsnLookup) : Text.Shown := .list (l.sources.map DsnSource.shown)

end DsnLookup

end ErrorReport
