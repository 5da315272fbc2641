import ErrorReport.Dictionary

/-!
# Reporting scopes

While a thread reports an event, whatever is reported on that thread is dropped, so that reporting does
not feed itself.  A thread that enters the scope gets a guard, and leaves the scope when the guard is
dropped; a thread that is in the scope already gets none.

`ReportingMark` says what becomes of the mark of one thread.  `Scopes` holds the marks of all threads
and the results of all attempts to enter, and `ScopeAct` is what may happen to them, on one thread after
another.  `NamedScopes` keeps such results under names on one thread.
-/

set_option autoImplicit false

namespace ErrorReport

namespace ReportingMark

/-- A thread tries to enter: whether it gets a guard, and its mark after that.  The mark is set in any
case; there is no guard if it was set before. -/
def enter (isReporting : Bool) : Bool × Bool := (!isReporting, true)

/-- The mark after a guard is dropped, whatever it was. -/
def leave (_isReporting : Bool) : Bool := false

@[simp] theorem enter_true : enter true = (false, true) := rfl

@[simp] theorem enter_false : enter false = (true, true) := rfl

@[simp] theorem leave_eq (isReporting : Bool) : leave isReporting = false := rfl

end ReportingMark

/-- The result of an attempt to enter the scope. -/
structure Attempt where
  /-- The thread that made the attempt. -/
  thread : Nat
  /-- Whether it is a guard that is not dropped yet. -/
  isLive : Bool
  deriving DecidableEq, Repr

/-- The marks of the threads, and the attempts so far. -/
structure Scopes where
  /-- Whether a thread is reporting. -/
  isActive : Nat → Bool := fun _ => false
  attempts : List Attempt := []

namespace Scopes

/-- Sets the mark of a thread. -/
def mark (s : Scopes) (thread : Nat) (value : Bool) : Scopes :=
  { s with isActive := fun t => if t = thread then value else s.isActive t }

/-- A thread tries to enter. -/
def enter (s : Scopes) (thread : Nat) : Scopes :=
  let (hasGuard, value) := ReportingMark.enter (s.isActive thread)
  { s.mark thread value with attempts := s.attempts ++ [⟨thread, hasGuard⟩] }

/-- Drops the result of an attempt. -/
def drop (s : Scopes) (attempt : Nat) : Scopes :=
  match s.attempts[attempt]? with
  | some ⟨thread, true⟩ =>
    { s.mark thread (ReportingMark.leave (s.isActive thread)) with
      attempts := s.attempts.set attempt ⟨thread, false⟩ }
  | _ => s

/-- Whether an attempt was made by a thread. -/
def isOf (s : Scopes) (thread attempt : Nat) : Bool :=
  s.attempts[attempt]?.any fun a => a.thread == thread

/-- Whether the last attempt got a guard. -/
def lastEntered (s : Scopes) : Bool := (s.attempts.getLast?.map (·.isLive)).getD false

/-- A thread tries to enter, and if it gets a guard, its work breaks off, which drops the guard. -/
def breakOff (s : Scopes) (thread : Nat) : Scopes :=
  let entered := s.enter thread
  entered.drop (entered.attempts.length - 1)

end Scopes

/-- What may happen to the scope on some thread. -/
inductive ScopeAct where
  /-- A thread tries to enter, and keeps the result. -/
  | enter (thread : Nat)
  /-- The thread that made an attempt drops its result. -/
  | drop (attempt : Nat)
  /-- The work of a thread breaks off, and results that it kept are dropped on the way out. -/
  | unwind (thread : Nat) (attempts : List Nat)
  deriving DecidableEq, Repr

/-- The thread on which something happens; none, where an attempt was never made. -/
def ScopeAct.thread? (s : Scopes) : ScopeAct → Option Nat
  | enter thread | unwind thread _ => some thread
  | drop attempt => s.attempts[attempt]?.map (·.thread)

namespace Scopes

/-- The scopes after something happened.  A thread has no results but its own to drop. -/
def act (s : Scopes) : ScopeAct → Scopes
  | .enter thread => s.enter thread
  | .drop attempt => s.drop attempt
  | .unwind thread attempts => (attempts.filter (s.isOf thread)).foldl drop s

/-- The scopes after all that happened, on whatever threads. -/
def run (s : Scopes) (acts : List ScopeAct) : Scopes := acts.foldl act s

end Scopes

/-- Results of attempts on one thread, kept under names. -/
structure NamedScopes where
  scopes : Scopes := {}
  /-- The number of the attempt under each name. -/
  names : Dictionary Nat := ∅

namespace NamedScopes

/-- The thread that the names belong to. -/
def home : Nat := 0

/-- Drops what is kept under a name. -/
def release (s : NamedScopes) (name : String) : Scopes :=
  match s.names.get? name with
  | some attempt => s.scopes.drop attempt
  | none => s.scopes

/-- Whether the thread is reporting. -/
def isActive (s : NamedScopes) : Bool := s.scopes.isActive home

/-- Tries to enter, keeps the result under a name, and only then drops what was kept there. -/
def enter (s : NamedScopes) (name : String) : Bool × NamedScopes :=
  let entered := s.scopes.enter home
  let kept := { s with scopes := entered }
  (entered.lastEntered, ⟨kept.release name, s.names.insert name s.scopes.attempts.length⟩)

/-- Drops what is kept under a name, and forgets the name; the answer is whether it was known. -/
def exit (s : NamedScopes) (name : String) : Bool × NamedScopes :=
  (s.names.contains name, ⟨s.release name, s.names.erase name⟩)

/-- Whether the work of a thread that tries to enter breaks off, and the scopes after it. -/
def breakOff (s : NamedScopes) : Bool × NamedScopes :=
  ((s.scopes.enter home).lastEntered, { s with scopes := s.scopes.breakOff home })

/-- What a new thread sees: whether it is reporting, whether it can enter, and whether it is reporting
then.  It takes its guard with it when it ends. -/
def onNewThread (s : NamedScopes) (thread : Nat) : (Bool × Bool × Bool) × NamedScopes :=
  let entered := s.scopes.enter thread
  ((s.scopes.isActive thread, entered.lastEntered, entered.isActive thread),
    { s with scopes := entered.drop (entered.attempts.length - 1) })

end NamedScopes

end ErrorReport
