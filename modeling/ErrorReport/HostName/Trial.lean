import ErrorReport.HostName

/-!
# Trying out the cache of the host's name

A `HostNameTrial` is a cache whose resolver follows a script, may be held up at a gate, and may break.
One caller works with it at a time; where no gate is in the way, the resolver is done before any time
limit.
-/

set_option autoImplicit false

namespace ErrorReport

/-- What a resolver finds. -/
inductive Finding where
  | name (name : String)
  | nothing
  /-- The resolver breaks, and the resolution never ends. -/
  | breakdown
  deriving DecidableEq, Repr

/-- A cache and a resolver that follows a script. -/
structure HostNameTrial where
  cache : HostNameCache := {}
  /-- What the resolver finds, call after call; the last finding repeats. -/
  findings : List Finding
  /-- Whether the resolver waits at a gate. -/
  isGated : Bool
  /-- How often it may pass the gate. -/
  permits : Nat := 0
  /-- How often the resolver was called. -/
  calls : Nat := 0
  /-- Whether the resolver works on a request. -/
  isWorking : Bool := false
  /-- How long a name stays fresh, in milliseconds. -/
  lifetime : Nat
  /-- How long a caller waits, in milliseconds. -/
  timeout : Nat
  deriving DecidableEq, Repr

namespace HostNameTrial

/-- What the call of the resolver that is under way finds. -/
def finding (t : HostNameTrial) : Finding :=
  ((t.findings[t.calls - 1]?).or t.findings.getLast?).getD .nothing

/-- Lets the resolver work, unless the gate is in the way. -/
def resolve (t : HostNameTrial) : HostNameTrial :=
  if !t.isWorking || (t.isGated && t.permits == 0) then t
  else
    let freed := { t with isWorking := false, permits := t.permits - 1 }
    match t.finding with
    | .name name => { freed with cache := t.cache.complete (some name) 0 t.lifetime }
    | .nothing => { freed with cache := t.cache.complete none 0 t.lifetime }
    | .breakdown => freed

/-- Asks for the name.  A caller that must wait sees what the resolver finds in time; any other caller
has its answer before the resolver starts. -/
def hostName (t : HostNameTrial) : String × HostNameTrial :=
  let asked := t.cache.ask 0
  let started := t.cache.asks 0
  let next := { t with
    cache := asked
    calls := if started then t.calls + 1 else t.calls
    isWorking := t.isWorking || started }
  let resolved := next.resolve
  if asked.mustWait && 0 < t.timeout then (resolved.cache.answer, resolved)
  else (asked.answer, resolved)

/-- Lets the resolver pass the gate once. -/
def release (t : HostNameTrial) : HostNameTrial := { t with permits := t.permits + 1 }.resolve

end HostNameTrial

end ErrorReport
