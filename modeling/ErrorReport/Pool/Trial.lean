import ErrorReport.Pool.Log
import ErrorReport.Transport.Script

/-!
# Trying out a pool

A `PoolTrial` is a pool in front of a transport that follows a script and may hold events up at a gate.
One caller works with it, and lets the workers come to rest after each thing it does.
-/

set_option autoImplicit false

namespace ErrorReport

/-- A pool, its transport and the gate. -/
structure PoolTrial where
  pool : Pool Event
  script : Script
  /-- Whether there is a gate. -/
  isGated : Bool
  /-- Whether the gate is open for good. -/
  isOpen : Bool := false
  /-- How many events may pass a closed gate. -/
  permits : Nat := 0
  /-- How many events have passed. -/
  passed : Nat := 0
  /-- Whether the pool is gone. -/
  isDropped : Bool := false

namespace PoolTrial

/-- A step of the pool, if it is possible. -/
def act (t : PoolTrial) (action : PoolAction Event) : PoolTrial × List (PoolEffect Event) :=
  match t.pool.step? action with
  | some (pool, effects) => ({ t with pool := pool }, effects)
  | none => (t, [])

/-- Those steps of the pool that are possible in their turn. -/
def actAll (t : PoolTrial) : List (PoolAction Event) → PoolTrial × List (PoolEffect Event)
  | [] => (t, [])
  | action :: rest =>
    let (next, effects) := t.act action
    let (last, later) := next.actAll rest
    (last, effects ++ later)

/-- Whether an event may pass the gate. -/
def mayPass (t : PoolTrial) : Bool := !t.isGated || t.isOpen || 0 < t.permits

/-- What a worker can do next. -/
def workerAction? (t : PoolTrial) (worker : Nat) : Worker Event → Option (PoolAction Event)
  | .waiting => if t.pool.queue.isEmpty && t.pool.hasSender then none else some (.receive worker)
  | .holding _ => some (.dispatch worker)
  | .cleared _ => some (.hand worker)
  | .sending _ => if t.mayPass then some (.deliver worker (t.script.result t.passed)) else none
  | .leaving => some (.report worker)
  | .finished | .crashed => none

/-- The next step of a worker, the first one of those that can do anything. -/
def nextAction? (t : PoolTrial) : Option (PoolAction Event) :=
  t.pool.workers.zipIdx.findSome? fun (w, i) => t.workerAction? i w

/-- The gate after a step. -/
def passGate (t : PoolTrial) : PoolAction Event → PoolTrial
  | .deliver _ _ =>
    { t with
      passed := t.passed + 1
      permits := if t.isGated && !t.isOpen then t.permits - 1 else t.permits }
  | _ => t

/-- Lets the workers do so many steps. -/
def work (t : PoolTrial) : Nat → PoolTrial × List (PoolEffect Event)
  | 0 => (t, [])
  | steps + 1 =>
    match t.nextAction? with
    | none => (t, [])
    | some action =>
      let (next, effects) := (t.passGate action).act action
      let (last, later) := next.work steps
      (last, effects ++ later)

/-- Lets the workers come to rest.  An event takes four steps at most, and a worker two to end. -/
def settle (t : PoolTrial) : PoolTrial × List (PoolEffect Event) :=
  t.work (4 * t.pool.queue.length + 6 * t.pool.workers.length)

/-- Does some steps and lets the workers come to rest. -/
def actAndSettle (t : PoolTrial) (actions : List (PoolAction Event)) :
    PoolTrial × List (PoolEffect Event) :=
  let (next, effects) := t.actAll actions
  let (last, later) := next.settle
  (last, effects ++ later)

/-- What a call of sending came to. -/
def sendOutcome (t : PoolTrial) (call : Nat) : Outcome :=
  match t.pool.sends[call]? with
  | some (.refused _ error) => .failed error
  | _ => .done

/-- Sends an event. -/
def send (t : PoolTrial) (event : Event) : Outcome × PoolTrial × List (PoolEffect Event) :=
  let call := t.pool.sends.length
  let (last, effects) := t.actAndSettle [.beginSend event, .takeHandle call 0, .enqueue call 0]
  (last.sendOutcome call, last, effects)

/-- What a call of closing came to. -/
def closeOutcome (t : PoolTrial) (call : Nat) : Outcome :=
  match t.pool.closes[call]? with
  | some (.returned outcome) => outcome
  | _ => .done

/-- Closes the pool.  Workers that can finish do so in time. -/
def close (t : PoolTrial) : Outcome × PoolTrial × List (PoolEffect Event) :=
  let call := t.pool.closes.length
  let (waiting, effects) := t.actAndSettle [.beginClose, .claim call, .dropHandle call]
  let (last, later) := waiting.actAll (List.replicate waiting.pool.reports (.takeReport call)
    ++ [.giveUp call, .abandon call, .flush call 0, .propagate call, .finish call t.script.closeResult])
  (last.closeOutcome call, last, effects ++ later)

/-- Gives up the pool, which closes it. -/
def drop (t : PoolTrial) : Outcome × PoolTrial × List (PoolEffect Event) :=
  let (outcome, last, effects) := t.close
  (outcome, { last with isDropped := true }, effects)

/-- The warning of a pool that could not be closed when it was given up. -/
def dropLog : Outcome → List LogRecord
  | .failed error => [⟨.warn, "error while closing async transport: " ++ error.message⟩]
  | .done => []

/-- Lets so many more events pass the gate. -/
def release (t : PoolTrial) (count : Nat) : PoolTrial × List (PoolEffect Event) :=
  { t with permits := t.permits + count }.settle

/-- Opens the gate. -/
def openGate (t : PoolTrial) : PoolTrial × List (PoolEffect Event) := { t with isOpen := true }.settle

/-- How often the wrapped transport was closed in the course of some steps. -/
def closings (effects : List (PoolEffect Event)) : Nat :=
  (effects.filter (· matches .closedWrapped)).length

/-- The events that the wrapped transport took. -/
def delivered (effects : List (PoolEffect Event)) : List Event :=
  effects.filterMap fun
    | .delivered event _ => some event
    | _ => none

end PoolTrial

end ErrorReport
