/-!
# Counting what is dropped

Dropped events are counted, and a warning with the count since the last warning is due the first time
and then whenever the interval has passed.  `recordDrop`, `warnIfDue` and `flush` are the operations of
one caller at a time.

Several threads share a counter, and then the operations interleave: `CounterSystem.step?` is one access
of one thread to one of the cells.

Counts, times and the interval are numbers without a bound, and times and the interval are whole
milliseconds.  Left out are that cells start over at 2 to the power of 64, and that an interval with a
part of a millisecond is cut down to whole ones.
-/

set_option autoImplicit false

namespace ErrorReport

/-- Counts of dropped events; times are in whole milliseconds, and no number has a bound. -/
structure DropCounter where
  /-- The least time between two warnings. -/
  interval : Nat
  /-- When the last warning was. -/
  lastWarning : Nat := 0
  /-- Whether there was one. -/
  hasWarned : Bool := false
  /-- How many events were dropped since then. -/
  pending : Nat := 0
  /-- How many events were dropped at all. -/
  total : Nat := 0
  deriving DecidableEq, Repr

namespace DropCounter

/-- Counts one dropped event. -/
def recordDrop (c : DropCounter) : DropCounter :=
  { c with pending := c.pending + 1, total := c.total + 1 }

/-- Whether a warning is due. -/
def isDue (c : DropCounter) (now : Nat) : Bool := !c.hasWarned || c.interval ≤ now - c.lastWarning

/-- The count to warn of, if there is one. -/
def count? (c : DropCounter) : Option Nat := if 0 < c.pending then some c.pending else none

/-- The counter after a warning of all that is pending. -/
def warned (c : DropCounter) (now : Nat) : DropCounter :=
  { c with lastWarning := now, hasWarned := true, pending := 0 }

/-- The count to warn of now, if a warning is due. -/
def warnIfDue (c : DropCounter) (now : Nat) : Option Nat × DropCounter :=
  if c.isDue now then (c.count?, c.warned now) else (none, c)

/-- The count to warn of at the end, whether or not a warning is due. -/
def flush (c : DropCounter) (now : Nat) : Option Nat × DropCounter :=
  if 0 < c.pending then (c.count?, c.warned now) else (none, c)

end DropCounter

/-- How far a thread has come that counts a dropped event and warns if a warning is due. -/
inductive CounterThread where
  | idle
  /-- The pending count is raised. -/
  | raisedPending
  /-- Both counts are raised. -/
  | raisedTotal
  /-- The time is read. -/
  | knowsTime (now : Nat)
  /-- It is read whether there was a warning before. -/
  | knowsFirst (now : Nat) (isFirst : Bool)
  /-- The time of the last warning is read, and a warning is due. -/
  | isDue (now last : Nat) (isFirst : Bool)
  /-- The time of the last warning is replaced. -/
  | won (now : Nat)
  /-- It is noted that there was a warning. -/
  | marked (now : Nat)
  deriving DecidableEq, Repr

/-- A counter that several threads share. -/
structure CounterSystem where
  /-- The cells. -/
  cells : DropCounter
  /-- The threads. -/
  threads : List CounterThread
  /-- The warnings so far, the last one first: when each thread read the time, and the count. -/
  warnings : List (Nat × Nat) := []
  /-- The clock. -/
  clock : Nat := 0
  deriving DecidableEq, Repr

/-- What happens next to a shared counter. -/
inductive CounterAction where
  /-- The clock moves on. -/
  | tick (time : Nat)
  /-- A thread makes its next access. -/
  | advance (thread : Nat)
  deriving DecidableEq, Repr

namespace CounterSystem

/-- A new counter and the threads that will share it. -/
def new (threads interval : Nat) : CounterSystem where
  cells := { interval := interval }
  threads := List.replicate threads .idle

/-- The next access of a thread: the cells and the thread after it, and the count that is warned of. -/
def access (c : DropCounter) (clock : Nat) : CounterThread → DropCounter × CounterThread × Option (Nat × Nat)
  | .idle => ({ c with pending := c.pending + 1 }, .raisedPending, none)
  | .raisedPending => ({ c with total := c.total + 1 }, .raisedTotal, none)
  | .raisedTotal => (c, .knowsTime clock, none)
  | .knowsTime now => (c, .knowsFirst now !c.hasWarned, none)
  | .knowsFirst now isFirst =>
    (c, if isFirst || c.interval ≤ now - c.lastWarning then .isDue now c.lastWarning isFirst else .idle,
      none)
  | .isDue now last _ =>
    if c.lastWarning = last then ({ c with lastWarning := now }, .won now, none) else (c, .idle, none)
  | .won now => ({ c with hasWarned := true }, .marked now, none)
  | .marked now => ({ c with pending := 0 }, .idle, c.count?.map (now, ·))

/-- The system after an action; the clock does not go back. -/
def step? (s : CounterSystem) : CounterAction → Option CounterSystem
  | .tick time => if s.clock ≤ time then some { s with clock := time } else none
  | .advance thread =>
    (s.threads[thread]?).map fun t =>
      let (cells, next, warning) := access s.cells s.clock t
      { s with cells := cells, threads := s.threads.set thread next, warnings := warning.toList ++ s.warnings }

/-- The system after some actions. -/
def run? (s : CounterSystem) (actions : List CounterAction) : Option CounterSystem :=
  actions.foldlM step? s

end CounterSystem

end ErrorReport
