import ErrorReport.HostName

/-!
# Many callers of one cache

Any number of callers ask for the name of the host while the resolver works.  Whoever reads or changes
the cache holds its lock, and `HostNameSystem.step?` is one section under the lock, or one thing that
somebody does without it.  Requests reach the resolver through a channel with room for one.  A caller
that has to wait sleeps, and leaves the lock to the others, until the resolver wakes all that sleep or
the caller's time is up.
-/

set_option autoImplicit false

namespace ErrorReport

/-- Where the resolver is. -/
inductive Resolver where
  /-- It waits for a request. -/
  | idle
  /-- It looks for the name. -/
  | working
  /-- It could not be started, or it broke. -/
  | gone
  deriving DecidableEq, Repr

/-- Where a caller is, and until when it has patience. -/
inductive HostNameCaller where
  /-- It wants the lock for the first time. -/
  | entered (deadline : Nat)
  /-- It sleeps. -/
  | asleep (deadline : Nat)
  /-- It was woken, and wants the lock again. -/
  | woken (deadline : Nat)
  /-- It has its answer. -/
  | answered (name : String)
  deriving DecidableEq, Repr

/-- A caller after all that sleep are woken. -/
def HostNameCaller.wake : HostNameCaller → HostNameCaller
  | asleep deadline => woken deadline
  | entered deadline => entered deadline
  | woken deadline => woken deadline
  | answered name => answered name

/-- A cache, its resolver and its callers. -/
structure HostNameSystem where
  cache : HostNameCache := {}
  /-- How many requests are in the channel. -/
  requests : Nat := 0
  resolver : Resolver := .idle
  callers : List HostNameCaller := []
  clock : Nat := 0
  /-- How long a name stays fresh. -/
  lifetime : Nat
  /-- How long a caller has patience. -/
  timeout : Nat
  deriving DecidableEq, Repr

/-- A step of one of those who take part. -/
inductive HostNameAction where
  /-- The clock moves on. -/
  | tick (time : Nat)
  /-- A new caller reads the clock. -/
  | call
  /-- A caller gets the lock and looks for the name. -/
  | look (caller : Nat)
  /-- The time of a caller that sleeps is up. -/
  | timeOut (caller : Nat)
  /-- The resolver takes a request. -/
  | take
  /-- The resolver ends with a name or with nothing. -/
  | complete (found : Option String)
  /-- The resolver breaks. -/
  | breakDown
  deriving DecidableEq, Repr

namespace HostNameSystem

/-- A new system; its resolver may fail to start. -/
def new (isStarted : Bool) (lifetime timeout : Nat) : HostNameSystem where
  resolver := if isStarted then .idle else .gone
  lifetime := lifetime
  timeout := timeout

/-- How many requests the channel has room for. -/
def room : Nat := 1

/-- Whether the channel takes no more requests. -/
def isFull (s : HostNameSystem) : Bool := room ≤ s.requests

/-- Whether a caller that looks now sends a request. -/
def sends (s : HostNameSystem) : Bool := s.resolver != .gone && s.cache.asks s.clock

/-- A caller sends a request if there is need of one.  Where the channel is full, the request in it will
do. -/
def request (s : HostNameSystem) : HostNameSystem :=
  if s.sends then
    { s with
      cache := s.cache.ask s.clock
      requests := if s.isFull then s.requests else s.requests + 1 }
  else s

/-- A caller has its answer, or has to sleep. -/
def settle (s : HostNameSystem) (caller deadline : Nat) : HostNameSystem :=
  let next : HostNameCaller := if s.cache.mustWait then .asleep deadline else .answered s.cache.answer
  { s with callers := s.callers.set caller next }

/-- A caller gets the lock; it sends a request the first time only. -/
def look? (s : HostNameSystem) (caller : Nat) : Option HostNameSystem :=
  match s.callers[caller]? with
  | some (.entered deadline) => some (s.request.settle caller deadline)
  | some (.woken deadline) => some (s.settle caller deadline)
  | _ => none

/-- The time of a caller is up, and it takes what there is. -/
def timeOut? (s : HostNameSystem) (caller : Nat) : Option HostNameSystem :=
  match s.callers[caller]? with
  | some (.asleep deadline) =>
    if deadline ≤ s.clock then some { s with callers := s.callers.set caller (.answered s.cache.answer) }
    else none
  | _ => none

/-- The resolver takes a request. -/
def take? (s : HostNameSystem) : Option HostNameSystem :=
  match s.resolver, s.requests with
  | .idle, requests + 1 => some { s with resolver := .working, requests := requests }
  | _, _ => none

/-- The resolver ends, puts down what it found and wakes all that sleep. -/
def complete? (s : HostNameSystem) (found : Option String) : Option HostNameSystem :=
  match s.resolver with
  | .working =>
    some { s with
      resolver := .idle
      cache := s.cache.complete found s.clock s.lifetime
      callers := s.callers.map .wake }
  | .idle | .gone => none

/-- The system after an action, if it is possible. -/
def step? (s : HostNameSystem) : HostNameAction → Option HostNameSystem
  | .tick time => if s.clock ≤ time then some { s with clock := time } else none
  | .call => some { s with callers := s.callers ++ [.entered (s.clock + s.timeout)] }
  | .look caller => s.look? caller
  | .timeOut caller => s.timeOut? caller
  | .take => s.take?
  | .complete found => s.complete? found
  | .breakDown => if s.resolver = .working then some { s with resolver := .gone } else none

/-- The system after some actions, if each was possible in its turn. -/
def run? (s : HostNameSystem) (actions : List HostNameAction) : Option HostNameSystem :=
  actions.foldlM step? s

end HostNameSystem

end ErrorReport
