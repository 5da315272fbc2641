import ErrorReport.Pool.Config
import ErrorReport.Pool.DropCounter
import ErrorReport.Transport.Error

/-!
# A pool of workers behind a queue

A `Pool` stands in front of a transport: sending puts an event into a bounded queue, and workers take
events out and hand them to the wrapped transport.  Any number of calls of sending and closing run at
the same time as the workers.

`Pool.step?` is one step of one of them; a step is everything that no other can interrupt.  What others
see of a step is its list of `PoolEffect`s.  A run of a pool is a list of actions, each of which was
possible when its turn came: `Pool.run?`.
-/

set_option autoImplicit false

namespace ErrorReport

/-- Where a worker is. -/
inductive Worker (α : Type) where
  /-- It waits for the queue. -/
  | waiting
  /-- It took an event from the queue. -/
  | holding (event : α)
  /-- It found that closing has not given up, and is about to hand the event on. -/
  | cleared (event : α)
  /-- It is in the wrapped transport with an event. -/
  | sending (event : α)
  /-- It found that nothing will come any more. -/
  | leaving
  /-- It reported completion. -/
  | finished
  /-- The wrapped transport broke it. -/
  | crashed
  deriving DecidableEq, Repr

/-- Where a call of sending is. -/
inductive SendCall (α : Type) where
  | entered (event : α)
  /-- It has its own handle of the queue. -/
  | holding (event : α)
  | accepted (event : α)
  | refused (event : α) (error : TransportError)
  deriving DecidableEq, Repr

/-- Where a call of closing is. -/
inductive CloseCall where
  | entered
  /-- It is the first one. -/
  | won
  /-- It waits until so many more workers report completion. -/
  | awaiting (workers : Nat)
  /-- It gave up waiting for so many workers. -/
  | gaveUp (workers : Nat)
  | flushing
  /-- It is about to close the wrapped transport. -/
  | propagating
  /-- It is in the wrapped transport. -/
  | closingWrapped
  | returned (outcome : Outcome)
  deriving DecidableEq

/-- Why an event is refused, as a warning puts it. -/
inductive Refusal where
  | closed
  | full
  | workersGone
  deriving DecidableEq, Repr

/-- The refusal in words. -/
def Refusal.words : Refusal → String
  | closed => "is closed"
  | full => "queue full"
  | workersGone => "workers stopped"

/-- The error that a refused call returns. -/
def Refusal.error : Refusal → TransportError
  | full => .queueFull
  | closed | workersGone => .closed

/-- What a step lets others see. -/
inductive PoolEffect (α : Type) where
  /-- A call of sending returned, with its event in the queue. -/
  | accepted (event : α)
  /-- The wrapped transport is called with an event. -/
  | handed (event : α)
  /-- The wrapped transport returned. -/
  | delivered (event : α) (outcome : Outcome)
  /-- An event is thrown away because the pool gave up. -/
  | discarded (event : α)
  /-- A warning of so many events refused. -/
  | warnedOfDrops (reason : Refusal) (count : Nat)
  /-- A warning of so many workers that did not finish in time. -/
  | warnedOfBusy (workers : Nat)
  /-- The last warning of refused events. -/
  | warnedAtEnd (count : Nat)
  /-- The wrapped transport is called to close. -/
  | closedWrapped
  deriving DecidableEq

/-- A pool, all calls made of it included. -/
structure Pool (α : Type) where
  config : PoolConfig
  /-- Whether the pool still has its own handle of the queue. -/
  hasHandle : Bool := true
  /-- Whether closing has begun. -/
  isClosed : Bool := false
  /-- Whether closing gave up on workers. -/
  isAbandoned : Bool := false
  /-- What waits for a worker, oldest first. -/
  queue : List α := []
  workers : List (Worker α)
  /-- How many reports of completion nobody has taken yet. -/
  reports : Nat := 0
  sends : List (SendCall α) := []
  closes : List CloseCall := []
  drops : DropCounter
  deriving DecidableEq

/-- A step of one of those who take part. -/
inductive PoolAction (α : Type) where
  /-- A new call of sending. -/
  | beginSend (event : α)
  /-- A call of sending asks for a handle of the queue. -/
  | takeHandle (call now : Nat)
  /-- A call of sending puts its event into the queue. -/
  | enqueue (call now : Nat)
  /-- A worker takes an event or finds that nothing will come. -/
  | receive (worker : Nat)
  /-- A worker looks whether closing gave up, and discards its event if so. -/
  | dispatch (worker : Nat)
  /-- A worker hands its event to the wrapped transport. -/
  | hand (worker : Nat)
  /-- The wrapped transport returns to a worker. -/
  | deliver (worker : Nat) (outcome : Outcome)
  /-- The wrapped transport breaks a worker. -/
  | crash (worker : Nat)
  /-- A worker reports completion. -/
  | report (worker : Nat)
  /-- A new call of closing. -/
  | beginClose
  /-- A call of closing finds out whether it is the first one. -/
  | claim (call : Nat)
  /-- The first call of closing drops the pool's handle. -/
  | dropHandle (call : Nat)
  /-- It takes a report of completion. -/
  | takeReport (call : Nat)
  /-- It stops waiting. -/
  | giveUp (call : Nat)
  /-- It tells the workers to discard what is left. -/
  | abandon (call : Nat)
  /-- It warns of refused events. -/
  | flush (call now : Nat)
  /-- It closes the wrapped transport. -/
  | propagate (call : Nat)
  /-- The wrapped transport is closed, and the call returns. -/
  | finish (call : Nat) (outcome : Outcome)
  deriving DecidableEq

namespace PoolConfig

/-- How many workers there really are. -/
def workerCount (c : PoolConfig) : Nat := max 1 c.threads

/-- How many events really may wait. -/
def room (c : PoolConfig) : Nat := max 1 c.queueCapacity

end PoolConfig

namespace Pool

variable {α : Type}

/-- A new pool. -/
def new (config : PoolConfig) : Pool α where
  config := { config with threads := config.workerCount }
  workers := List.replicate config.workerCount .waiting
  drops := { interval := config.warnInterval }

/-- Whether a call of sending still has a handle of the queue. -/
def hasSender (p : Pool α) : Bool :=
  p.hasHandle || p.sends.any fun
    | .holding _ => true
    | _ => false

/-- Whether no worker reads the queue any more. -/
def workersGone (p : Pool α) : Bool := p.workers.all fun
  | .finished | .crashed => true
  | _ => false

/-- The pool with a call of sending at another place. -/
def setSend (p : Pool α) (call : Nat) (c : SendCall α) : Pool α := { p with sends := p.sends.set call c }

/-- The pool with a worker at another place. -/
def setWorker (p : Pool α) (worker : Nat) (w : Worker α) : Pool α :=
  { p with workers := p.workers.set worker w }

/-- The pool with a call of closing at another place. -/
def setClose (p : Pool α) (call : Nat) (c : CloseCall) : Pool α := { p with closes := p.closes.set call c }

/-- A call of sending is refused. -/
def refuse (p : Pool α) (call now : Nat) (event : α) (reason : Refusal) : Pool α × List (PoolEffect α) :=
  let (count, drops) := p.drops.recordDrop.warnIfDue now
  ({ p with drops := drops }.setSend call (.refused event reason.error),
    count.toList.map (.warnedOfDrops reason))

/-- A call of sending asks for a handle. -/
def takeHandle? (p : Pool α) (call now : Nat) : Option (Pool α × List (PoolEffect α)) :=
  match p.sends[call]? with
  | some (.entered event) =>
    if p.hasHandle then some (p.setSend call (.holding event), [])
    else some (p.refuse call now event .closed)
  | _ => none

/-- A call of sending puts its event into the queue. -/
def enqueue? (p : Pool α) (call now : Nat) : Option (Pool α × List (PoolEffect α)) :=
  match p.sends[call]? with
  | some (.holding event) =>
    if p.workersGone then some (p.refuse call now event .workersGone)
    else if p.config.room ≤ p.queue.length then some (p.refuse call now event .full)
    else some ({ p with queue := p.queue ++ [event] }.setSend call (.accepted event), [.accepted event])
  | _ => none

/-- A worker reads the queue. -/
def receive? (p : Pool α) (worker : Nat) : Option (Pool α × List (PoolEffect α)) :=
  match p.workers[worker]?, p.queue with
  | some .waiting, event :: rest => some ({ p with queue := rest }.setWorker worker (.holding event), [])
  | some .waiting, [] => if p.hasSender then none else some (p.setWorker worker .leaving, [])
  | _, _ => none

/-- A worker decides what becomes of its event. -/
def dispatch? (p : Pool α) (worker : Nat) : Option (Pool α × List (PoolEffect α)) :=
  match p.workers[worker]? with
  | some (.holding event) =>
    if p.isAbandoned then some (p.setWorker worker .waiting, [.discarded event])
    else some (p.setWorker worker (.cleared event), [])
  | _ => none

/-- A worker hands its event on, whatever closing has come to since the worker looked. -/
def hand? (p : Pool α) (worker : Nat) : Option (Pool α × List (PoolEffect α)) :=
  match p.workers[worker]? with
  | some (.cleared event) => some (p.setWorker worker (.sending event), [.handed event])
  | _ => none

/-- The wrapped transport returns to a worker. -/
def deliver? (p : Pool α) (worker : Nat) (outcome : Outcome) : Option (Pool α × List (PoolEffect α)) :=
  match p.workers[worker]? with
  | some (.sending event) => some (p.setWorker worker .waiting, [.delivered event outcome])
  | _ => none

/-- The wrapped transport breaks a worker. -/
def crash? (p : Pool α) (worker : Nat) : Option (Pool α × List (PoolEffect α)) :=
  match p.workers[worker]? with
  | some (.sending _) => some (p.setWorker worker .crashed, [])
  | _ => none

/-- A worker reports completion. -/
def report? (p : Pool α) (worker : Nat) : Option (Pool α × List (PoolEffect α)) :=
  match p.workers[worker]? with
  | some .leaving => some ({ p with reports := p.reports + 1 }.setWorker worker .finished, [])
  | _ => none

/-- A call of closing finds out whether it is the first one. -/
def claim? (p : Pool α) (call : Nat) : Option (Pool α × List (PoolEffect α)) :=
  match p.closes[call]? with
  | some .entered =>
    if p.isClosed then some (p.setClose call (.returned .done), [])
    else some ({ p with isClosed := true }.setClose call .won, [])
  | _ => none

/-- The first call of closing drops the pool's handle. -/
def dropHandle? (p : Pool α) (call : Nat) : Option (Pool α × List (PoolEffect α)) :=
  match p.closes[call]? with
  | some .won => some ({ p with hasHandle := false }.setClose call (.awaiting p.config.threads), [])
  | _ => none

/-- The first call of closing takes a report of completion. -/
def takeReport? (p : Pool α) (call : Nat) : Option (Pool α × List (PoolEffect α)) :=
  match p.closes[call]?, p.reports with
  | some (.awaiting (workers + 1)), reports + 1 =>
    some ({ p with reports := reports }.setClose call (.awaiting workers), [])
  | _, _ => none

/-- The first call of closing stops waiting: all workers reported, or none did in time. -/
def giveUp? (p : Pool α) (call : Nat) : Option (Pool α × List (PoolEffect α)) :=
  match p.closes[call]?, p.reports with
  | some (.awaiting 0), _ => some (p.setClose call .flushing, [])
  | some (.awaiting (workers + 1)), 0 => some (p.setClose call (.gaveUp (workers + 1)), [])
  | _, _ => none

/-- The first call of closing tells the workers to discard what is left. -/
def abandon? (p : Pool α) (call : Nat) : Option (Pool α × List (PoolEffect α)) :=
  match p.closes[call]? with
  | some (.gaveUp workers) =>
    some ({ p with isAbandoned := true }.setClose call .flushing, [.warnedOfBusy workers])
  | _ => none

/-- The first call of closing warns of refused events. -/
def flush? (p : Pool α) (call now : Nat) : Option (Pool α × List (PoolEffect α)) :=
  match p.closes[call]? with
  | some .flushing =>
    let (count, drops) := p.drops.flush now
    let next : CloseCall := if p.config.propagateClose then .propagating else .returned .done
    some ({ p with drops := drops }.setClose call next, count.toList.map .warnedAtEnd)
  | _ => none

/-- The first call of closing closes the wrapped transport. -/
def propagate? (p : Pool α) (call : Nat) : Option (Pool α × List (PoolEffect α)) :=
  match p.closes[call]? with
  | some .propagating => some (p.setClose call .closingWrapped, [.closedWrapped])
  | _ => none

/-- The wrapped transport returns to the first call of closing. -/
def finish? (p : Pool α) (call : Nat) (outcome : Outcome) : Option (Pool α × List (PoolEffect α)) :=
  match p.closes[call]? with
  | some .closingWrapped => some (p.setClose call (.returned outcome), [])
  | _ => none

/-- The pool after an action and what others see of it, if the action is possible. -/
def step? (p : Pool α) : PoolAction α → Option (Pool α × List (PoolEffect α))
  | .beginSend event => some ({ p with sends := p.sends ++ [.entered event] }, [])
  | .takeHandle call now => p.takeHandle? call now
  | .enqueue call now => p.enqueue? call now
  | .receive worker => p.receive? worker
  | .dispatch worker => p.dispatch? worker
  | .hand worker => p.hand? worker
  | .deliver worker outcome => p.deliver? worker outcome
  | .crash worker => p.crash? worker
  | .report worker => p.report? worker
  | .beginClose => some ({ p with closes := p.closes ++ [.entered] }, [])
  | .claim call => p.claim? call
  | .dropHandle call => p.dropHandle? call
  | .takeReport call => p.takeReport? call
  | .giveUp call => p.giveUp? call
  | .abandon call => p.abandon? call
  | .flush call now => p.flush? call now
  | .propagate call => p.propagate? call
  | .finish call outcome => p.finish? call outcome

/-- The pool after some actions and what others saw of them, if each was possible in its turn. -/
def run? (p : Pool α) : List (PoolAction α) → Option (Pool α × List (PoolEffect α))
  | [] => some (p, [])
  | action :: rest =>
    (p.step? action).bind fun (next, effects) =>
      (next.run? rest).map fun (last, later) => (last, effects ++ later)

/-- The log of starting a pool. -/
def startText (config : PoolConfig) : String :=
  "started " ++ toString config.workerCount ++ " async transport workers (queue capacity "
    ++ toString config.queueCapacity ++ ")"

/-- The pool as a diagnostic shows it. -/
def shown (p : Pool α) : Text.Shown :=
  .record "AsyncTransport" [("config", p.config.shown), ("closed", .bool p.isClosed)] true

end Pool

end ErrorReport
