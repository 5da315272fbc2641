import ErrorReport.Log
import ErrorReport.Text.Duration
import ErrorReport.Text.Shown

/-!
# The name of the host

Finding out the name of the host may take long, so it is done by a resolver of its own, and a
`HostNameCache` keeps what it found.  A name that has expired is given out all the same while the
resolver looks for a newer one; only a caller that finds no name at all waits, and not for ever.

The operations here are the sections of caller and resolver that nothing interrupts:
`HostNameCache.ask`, `HostNameCache.answer` and `HostNameCache.complete`.
-/

set_option autoImplicit false

namespace ErrorReport

/-- What is known of the host's name; times are in milliseconds. -/
structure HostNameCache where
  /-- The last name found. -/
  name : Option String := none
  /-- When it expires. -/
  expiry : Option Nat := none
  /-- Whether a resolution is asked for or under way. -/
  isResolving : Bool := false
  deriving DecidableEq, Repr

namespace HostNameCache

/-- The answer where no name is known. -/
def unknown : String := "unavailable"

/-- Whether the name has not expired. -/
def isFresh (c : HostNameCache) (now : Nat) : Bool := c.expiry.any fun expiry => now < expiry

/-- Whether a caller asks for a resolution. -/
def asks (c : HostNameCache) (now : Nat) : Bool :=
  !c.isResolving && (c.name.isNone || !c.isFresh now)

/-- A caller looks for the name; it asks for a resolution if there is no fresh name and none is asked
for yet. -/
def ask (c : HostNameCache) (now : Nat) : HostNameCache :=
  if c.asks now then { c with isResolving := true } else c

/-- Whether a caller has to wait. -/
def mustWait (c : HostNameCache) : Bool := c.name.isNone && c.isResolving

/-- The answer to a caller that waits no longer. -/
def answer (c : HostNameCache) : String := c.name.getD unknown

/-- A resolution ends with a name, which expires after some time, or with nothing. -/
def complete (c : HostNameCache) (found : Option String) (now lifetime : Nat) : HostNameCache :=
  match found with
  | some name => ⟨some name, some (now + lifetime), false⟩
  | none => { c with isResolving := false }

/-- The cache as a diagnostic shows it. -/
def shown (c : HostNameCache) (timeout : Nat) : Text.Shown :=
  .record "HostnameCache" [("value", .option .quote c.name), ("resolving", .bool c.isResolving),
    ("resolution_timeout", .plain (Text.durationText timeout))] false

end HostNameCache

end ErrorReport
