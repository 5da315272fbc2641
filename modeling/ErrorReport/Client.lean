import ErrorReport.Client.Helpers
import ErrorReport.Log
import ErrorReport.Scope
import ErrorReport.Transport.Error

/-!
# Clients

A client builds events with the help of its helpers and hands them to its transport.  Nothing that goes
wrong gets out of it; it goes to the log instead.

A transport may itself report events while it is called, on the same client or another one.  `Conduct`
says what one call of a transport does, and `Report.run` follows a report through all calls it leads to,
with the mark that the thread has.
-/

set_option autoImplicit false

namespace ErrorReport

/-- How a call of a transport ends. -/
inductive Ending where
  | returned (outcome : Outcome)
  /-- It does not return, and neither does what called it. -/
  | brokeOff
  deriving DecidableEq, Repr

mutual

/-- What one call of a transport does: it has things reported, one after the other, and ends. -/
inductive Conduct where
  | does (reports : List Report) (ending : Ending)

/-- One event given to a client, or what kept it from being built, and what the client's transport does
with it if it gets it. -/
inductive Report where
  | to (client : Nat) (built : Except BuilderError Event) (conduct : Conduct)

end

/-- What a report leads to. -/
inductive ClientEffect where
  /-- A client is given an event. -/
  | asked (client : Nat) (event : Event)
  /-- A client's transport is called with an event; `inScope` says whether the thread is marked. -/
  | handed (client : Nat) (event : Event) (inScope : Bool)
  /-- A client writes to the log. -/
  | logged (client : Nat) (record : LogRecord)
  /-- A client is done with an event that it was given, one way or the other. -/
  | left (client : Nat) (event : Event)

/-- What some reports lead to, and how the thread is left. -/
structure ReportRun where
  effects : List ClientEffect
  /-- Whether the thread is marked as reporting. -/
  isReporting : Bool
  /-- Whether a transport broke off, and all that called it with it. -/
  isBrokenOff : Bool := false

namespace Client

/-- The record of an event dropped because the thread was reporting. -/
def droppedRecord (e : Event) : LogRecord :=
  ⟨.debug, "dropping event " ++ e.id.simple ++ " raised while reporting"⟩

/-- The record of an event that could not be built. -/
def unbuiltRecord (error : BuilderError) : LogRecord :=
  ⟨.error, "could not build event: " ++ error.message⟩

/-- The record of what a transport answered, if there is one.  A pool counts the events that it does not
take, and warns of them; they are worth no more than a note. -/
def outcomeRecord? (e : Event) : Outcome → Option LogRecord
  | .done => none
  | .failed .queueFull =>
    some ⟨.debug, "event " ++ e.id.simple ++ " not queued: " ++ TransportError.queueFull.message⟩
  | .failed .closed =>
    some ⟨.debug, "event " ++ e.id.simple ++ " not queued: " ++ TransportError.closed.message⟩
  | .failed error =>
    some ⟨.error, "an error occurred while sending event " ++ e.id.simple ++ ": " ++ error.message⟩

/-- What a client writes when its transport has ended. -/
def endingEffects (client : Nat) (e : Event) : Ending → List ClientEffect
  | .returned outcome => (outcomeRecord? e outcome).toList.map (.logged client)
  | .brokeOff => []

end Client

mutual

/-- Follows one report on a thread. -/
def Report.run (isReporting : Bool) : Report → ReportRun
  | .to client built conduct =>
    match built with
    | .error error => ⟨[.logged client (Client.unbuiltRecord error)], isReporting, false⟩
    | .ok event =>
      let entered := ReportingMark.enter isReporting
      if entered.1 then
        let call := conduct.run entered.2 client event
        -- the guard is dropped however the call ends
        ⟨.asked client event :: .handed client event entered.2 :: call.effects
            ++ [.left client event],
          ReportingMark.leave call.isReporting, call.isBrokenOff⟩
      else
        ⟨[.asked client event, .logged client (Client.droppedRecord event), .left client event],
          entered.2, false⟩

/-- Follows one call of a transport. -/
def Conduct.run (isReporting : Bool) (client : Nat) (event : Event) : Conduct → ReportRun
  | .does reports ending =>
    let inner := Report.runAll isReporting reports
    if inner.isBrokenOff then inner
    else
      ⟨inner.effects ++ Client.endingEffects client event ending, inner.isReporting,
        ending = .brokeOff⟩

/-- Follows reports one after the other, until one breaks off. -/
def Report.runAll (isReporting : Bool) : List Report → ReportRun
  | [] => ⟨[], isReporting, false⟩
  | report :: rest =>
    let first := report.run isReporting
    if first.isBrokenOff then first
    else
      let later := Report.runAll first.isReporting rest
      ⟨first.effects ++ later.effects, later.isReporting, later.isBrokenOff⟩

end

/-- Follows reports on a thread that goes on with the next group when one of a group breaks off. -/
def Report.session (isReporting : Bool) : List (List Report) → ReportRun
  | [] => ⟨[], isReporting, false⟩
  | group :: rest =>
    let first := Report.runAll isReporting group
    let later := Report.session first.isReporting rest
    ⟨first.effects ++ later.effects, later.isReporting, later.isBrokenOff⟩

namespace Client

/-- The steps that build the event of a message. -/
def messageSteps (message : String) : List BuilderStep := [.setMessage message, .setLevel .info]

/-- The steps that build the event of an error with its chain. -/
def errorSteps (message : String) (chain : Chain) : List BuilderStep :=
  [.setMessage message, .setLevel .error, .attach (.exception chain)]

/-- The builder of an event that a client captures: some steps, then its helpers, which do what
`conducts` says.  The set of helpers may change. -/
def helped (helpers : HelperSet) (conducts : List (List HelperAct)) (steps : List BuilderStep) :
    HelperState :=
  let start : HelperState := { set := helpers, builder := EventBuilder.new.run steps }
  (start.perform (.run conducts)).2

/-- The event that a client captures, and its set of helpers after that. -/
def capture (helpers : HelperSet) (conducts : List (List HelperAct)) (s : Surroundings)
    (steps : List BuilderStep) : Except BuilderError Event × HelperSet :=
  let last := helped helpers conducts steps
  ((last.builder.build s).1, last.set)

/-- A client as a diagnostic shows it. -/
def shown (helpers : HelperSet) : Text.Shown :=
  .record "Client" [("helpers", .nat helpers.ids.length)] true

end Client

end ErrorReport
