import ErrorReport.Factory
import ErrorReport.Pool.Trial

/-!
# Trying out a transport that was made

One event is sent through a `TransportSetup`, which is then closed.  A `Network` that answers takes
the place of the real one.
-/

set_option autoImplicit false

namespace ErrorReport

/-- What is at the other end of a transport. -/
structure Network where
  server : HttpServer
  sendTo : DatagramSender

/-- The marshaller of a transport, if it has one. -/
def Wire.marshaller? : Wire → Option Marshaller
  | http transport => some transport.marshaller
  | udp transport => some transport.marshaller
  | kept => none

/-- Sends an event at a time in seconds: what it comes to, and the log. -/
def Wire.send (w : Wire) (network : Network) (e : Event) (now : Int) : Outcome × List LogRecord :=
  match w with
  | http transport => transport.send network.server e now
  | udp transport => transport.send network.sendTo e now
  | kept => (.done, [])

/-- What sending one event and closing came to. -/
structure SendTrial where
  sent : Outcome
  closed : Outcome := .done
  /-- What the caller wrote to the log. -/
  log : List LogRecord

/-- Sends an event at a time in seconds and closes.  With a pool in front, the outcome of the transport
and its log are a worker's. -/
def TransportSetup.trial (setup : TransportSetup) (network : Network) (e : Event) (now : Int) :
    SendTrial :=
  let (outcome, log) := setup.wire.send network e now
  match setup.pool with
  | none => { sent := outcome, log := log }
  | some config =>
    let start : PoolTrial :=
      { pool := Pool.new config, script := { results := [outcome] }, isGated := false }
    let (sent, waiting, effects) := start.send e
    let (closed, _, later) := waiting.close
    { sent := sent, closed := closed
      log := (effects ++ later).filterMap (PoolEffect.callerRecord? config) }

end ErrorReport
