import ErrorReport.Client
import ErrorReport.Transport.Script

/-!
# Trying out a client

A `ClientTrial` is one thread that works with one client, whose transport follows a script.  The
transport may send an event of its own through the client each time it is called.
-/

set_option autoImplicit false

namespace ErrorReport

/-- What a trial of a client is given. -/
structure ClientSetup where
  script : Script
  /-- Whether the transport sends an event of its own in each call, and which one. -/
  echo : Option Event := none
  directory : HelperDirectory

/-- A client and the thread that works with it. -/
structure ClientTrial where
  helpers : HelperSet := {}
  /-- The helpers that were registered when they were last looked up. -/
  snapshot : List String := []
  /-- Whether the thread is marked as reporting. -/
  isReporting : Bool := false
  /-- Whether the thread keeps a guard. -/
  holdsGuard : Bool := false
  /-- How often the transport was called. -/
  sends : Nat := 0
  /-- How often the transport was closed. -/
  closes : Nat := 0

namespace ClientTrial

/-- What the transport does when it is called next. -/
def nextConduct (setup : ClientSetup) (t : ClientTrial) : Conduct :=
  .does (setup.echo.toList.map fun e => .to 0 (.ok e) (.does [] (.returned .done)))
    (.returned (setup.script.result t.sends))

/-- The events that a transport was called with. -/
def handedEvents (effects : List ClientEffect) : List (Event × Bool) :=
  effects.filterMap fun
    | .handed _ event inScope => some (event, inScope)
    | .asked _ _ | .logged _ _ | .left _ _ => none

/-- The records that were written. -/
def log (effects : List ClientEffect) : List LogRecord :=
  effects.filterMap fun
    | .logged _ record => some record
    | .asked _ _ | .handed _ _ _ | .left _ _ => none

/-- Gives an event to the client, or what kept it from being built. -/
def report (setup : ClientSetup) (t : ClientTrial) (built : Except BuilderError Event) :
    List ClientEffect × ClientTrial :=
  let run := Report.run t.isReporting (.to 0 built (t.nextConduct setup))
  (run.effects,
    { t with isReporting := run.isReporting, sends := t.sends + (handedEvents run.effects).length })

/-- Captures an event made of some steps. -/
def capture (setup : ClientSetup) (s : Surroundings) (t : ClientTrial) (steps : List BuilderStep) :
    List ClientEffect × ClientTrial :=
  let (built, helpers) :=
    Client.capture t.helpers (conductsOf setup.directory t.helpers.ids) s steps
  { t with helpers := helpers }.report setup built

/-- Calls some helpers on a builder. -/
def help (setup : ClientSetup) (t : ClientTrial) (ids : List String) (b : EventBuilder) :
    EventBuilder × ClientTrial :=
  let start : HelperState := { set := t.helpers, builder := b }
  let last := (start.performAll (conductsOf setup.directory ids).flatten).2
  (last.builder, { t with helpers := last.set })

/-- Tries to enter the scope and keeps the result; what was kept before is dropped after that. -/
def enterScope (t : ClientTrial) : Bool × ClientTrial :=
  (!t.isReporting, { t with isReporting := !t.holdsGuard, holdsGuard := !t.isReporting })

/-- Drops what is kept. -/
def exitScope (t : ClientTrial) : ClientTrial :=
  { t with isReporting := t.isReporting && !t.holdsGuard, holdsGuard := false }

/-- Closes the client. -/
def close (setup : ClientSetup) (t : ClientTrial) : Outcome × ClientTrial :=
  (setup.script.closeResult, { t with closes := t.closes + 1 })

end ClientTrial

end ErrorReport
