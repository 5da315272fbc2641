import ErrorReport.Text.Duration
import ErrorReport.Text.Shown

/-!
# Settings of a pool

How many workers a pool has, how many events wait for them, and how it closes.
-/

set_option autoImplicit false

namespace ErrorReport

/-- The settings of a pool; times are in milliseconds. -/
structure PoolConfig where
  /-- How many workers there are. -/
  threads : Nat
  /-- How many events may wait. -/
  queueCapacity : Nat := 1024
  /-- How long closing waits for the workers. -/
  shutdownTimeout : Nat := 1000
  /-- Whether closing closes the wrapped transport, too. -/
  propagateClose : Bool := true
  /-- The least time between two warnings of dropped events. -/
  warnInterval : Nat := 5000
  deriving DecidableEq, Repr

namespace PoolConfig

/-- The settings for a machine with so many processors. -/
def standard (processors : Nat) : PoolConfig := { threads := processors }

/-- Sets the number of workers; there is at least one. -/
def withThreads (c : PoolConfig) (threads : Nat) : PoolConfig := { c with threads := max 1 threads }

/-- Sets how many events may wait; there is room for at least one. -/
def withQueueCapacity (c : PoolConfig) (capacity : Nat) : PoolConfig :=
  { c with queueCapacity := max 1 capacity }

/-- The settings as a diagnostic shows them. -/
def shown (c : PoolConfig) : Text.Shown :=
  .record "AsyncTransportConfig" [("threads", .nat c.threads), ("queue_capacity", .nat c.queueCapacity),
    ("shutdown_timeout", .plain (Text.durationText c.shutdownTimeout)),
    ("propagate_close", .bool c.propagateClose),
    ("warn_interval", .plain (Text.durationText c.warnInterval))] false

end PoolConfig

end ErrorReport
