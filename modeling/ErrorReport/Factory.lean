import ErrorReport.Dsn.Lookup
import ErrorReport.Pool
import ErrorReport.Transport.Http
import ErrorReport.Transport.Udp

/-!
# Making transports from descriptors

A factory makes the transport that a connection descriptor asks for; the scheme says which one, and
options say how it works.  `Factory.standard` knows HTTP and UDP.  A `FactoryRegistry` holds factories
under names.

What a factory needs from the machine it runs on is a `Machine`.
-/

set_option autoImplicit false

namespace ErrorReport

/-- Why there is no transport for a descriptor. -/
inductive ConfigError where
  | invalidDsn (cause : DsnError)
  | unsupportedProtocol (scheme : String)
  | unknownFactory (name : String)
  | invalidOption (name value : String)
  | transport (cause : TransportError)
  deriving DecidableEq, Repr

/-- The reason in words. -/
def ConfigError.message : ConfigError → String
  | invalidDsn cause => cause.message
  | unsupportedProtocol scheme => "unsupported protocol: " ++ scheme
  | unknownFactory name => "unknown client factory: " ++ name
  | invalidOption name value => "invalid value " ++ Text.quoted value ++ " for option " ++ name
  | transport cause => "failed to create transport: " ++ cause.message

/-- What a machine offers. -/
structure Machine where
  processors : Nat
  openSocket : SocketOpener
  /-- The most places that a queue of events can have. -/
  eventPlaces : Nat
  /-- The most places that a queue of reports of completion can have. -/
  reportPlaces : Nat

/-- How events leave the program. -/
inductive Wire where
  | http (transport : HttpTransport)
  | udp (transport : UdpTransport)
  /-- They do not; they are kept. -/
  | kept

/-- A transport made for a descriptor. -/
structure TransportSetup where
  wire : Wire
  /-- The pool in front of it, if there is one. -/
  pool : Option PoolConfig := none

/-- Why making a transport ends without one. -/
inductive MakingStop where
  | failed (error : ConfigError)
  /-- The work of the caller breaks off, because no queue can have so many places. -/
  | brokeOff (places : Nat)
  deriving DecidableEq, Repr

/-- What making a transport comes to, and the log of it. -/
structure Making (α : Type) where
  result : Except MakingStop α
  log : List LogRecord := []

namespace Making

variable {α β : Type}

/-- Nothing to do. -/
def pure (a : α) : Making α := ⟨.ok a, []⟩

/-- One thing after the other, as long as nothing fails. -/
def bind (m : Making α) (next : α → Making β) : Making β :=
  match m.result with
  | .ok a => ⟨(next a).result, m.log ++ (next a).log⟩
  | .error e => ⟨.error e, m.log⟩

instance : Monad Making where
  pure := Making.pure
  bind := Making.bind

/-- Something that may fail. -/
def ofExcept (result : Except ConfigError α) : Making α := ⟨result.mapError .failed, []⟩

/-- A queue is set up, where queues can have so many places. -/
def allot (most places : Nat) : Making Unit :=
  if places ≤ most then pure () else ⟨.error (.brokeOff places), []⟩

/-- Something that is written to the log. -/
def write (log : List LogRecord) : Making Unit := ⟨.ok (), log⟩

end Making

namespace Dsn

/-- Whether an option is on: it is there, and its value is not `false`. -/
def hasFlag (d : Dsn) (name : String) : Bool :=
  (d.option? name).any fun value => !Text.sameIgnoringCase value "false"

/-- The number that decimal digits denote, with a plus sign before them or not; it must be below
2 to the power of 64. -/
def number? (text : String) : Option Nat :=
  let digits := match text.toList with
    | '+' :: rest => rest
    | all => all
  if digits.isEmpty || !digits.all Char.isDigit then none
  else
    let n := digits.foldl (fun n c => n * 10 + (c.toNat - 48)) 0
    if n < Nat.pow 2 64 then some n else none

/-- The number under an option, if the option is there. -/
def numberOption? (d : Dsn) (name : String) : Except ConfigError (Option Nat) :=
  match d.option? name with
  | none => .ok none
  | some value =>
    match number? (Text.trim value) with
    | some n => .ok (some n)
    | none => .error (.invalidOption name value)

end Dsn

/-- Makes the transport for a descriptor. -/
abbrev Factory := Machine → Dsn → Making TransportSetup

namespace Factory

/-- The name of the factory that is used unless another one is asked for. -/
def standardName : String := "default"

/-- The option with the time limit of HTTP, in milliseconds. -/
def timeoutOption : String := "raven.timeout"

/-- The flag that puts a pool in front of the transport. -/
def asyncOption : String := "raven.async"

/-- The option with the number of workers. -/
def threadsOption : String := "raven.async.threads"

/-- The option with the number of events that may wait. -/
def queueOption : String := "raven.async.queuesize"

/-- The flag that turns compression off. -/
def noCompressionOption : String := "raven.nocompression"

/-- The flag that hides frames shared with the next stack. -/
def hideSharedOption : String := "raven.stacktrace.hidecommon"

/-- The setting that accepts any name in the server's certificate. -/
def naiveSetting : String := "naive"

/-- How frames are written for a descriptor. -/
def traceBinding (d : Dsn) : TraceBinding := { hidesShared := d.hasFlag hideSharedOption }

/-- How events are written for a descriptor. -/
def marshaller (d : Dsn) : Marshaller :=
  { Marshaller.standard (traceBinding d) with compression := !d.hasFlag noCompressionOption }

/-- The transport over HTTP. -/
def httpWire (d : Dsn) : Making Wire := do
  let timeout ← Making.ofExcept (d.numberOption? timeoutOption)
  let config : HttpConfig :=
    { timeout := timeout.getD ({} : HttpConfig).timeout, bypassSecurity := d.hasSetting naiveSetting }
  Making.write (HttpTransport.creationLog config)
  pure (.http (.new d (marshaller d) config))

/-- The transport over UDP. -/
def udpWire (m : Machine) (d : Dsn) : Making Wire :=
  Making.ofExcept <|
    match UdpTransport.open? m.openSocket d (marshaller d) with
    | .ok transport => .ok (.udp transport)
    | .error cause => .error (.transport cause)

/-- The transport that the scheme asks for. -/
def wire (m : Machine) (d : Dsn) : Making Wire :=
  match d.scheme with
  | "http" | "https" => httpWire d
  | "udp" => udpWire m d
  | other => Making.ofExcept (.error (.unsupportedProtocol other))

/-- The settings of a pool, with what options say of its workers and its queue. -/
def poolConfig (m : Machine) (threads room : Option Nat) : PoolConfig :=
  let config := PoolConfig.standard m.processors
  let config := (threads.map config.withThreads).getD config
  (room.map config.withQueueCapacity).getD config

/-- Starts a pool: its queue comes first, then the one for the reports of its workers. -/
def startPool (m : Machine) (config : PoolConfig) : Making PoolConfig := do
  Making.allot m.eventPlaces config.room
  Making.allot m.reportPlaces config.workerCount
  Making.write [⟨.debug, Pool.startText config⟩]
  pure { config with threads := config.workerCount }

/-- The pool that the options ask for. -/
def pool (m : Machine) (d : Dsn) : Making (Option PoolConfig) :=
  if d.hasFlag asyncOption then do
    let threads ← Making.ofExcept (d.numberOption? threadsOption)
    let room ← Making.ofExcept (d.numberOption? queueOption)
    let started ← startPool m (poolConfig m threads room)
    pure (some started)
  else pure none

/-- The transport for a descriptor. -/
def transport (m : Machine) (d : Dsn) : Making TransportSetup := do
  let wire ← wire m d
  let pool ← pool m d
  pure ⟨wire, pool⟩

/-- The factory for HTTP and UDP. -/
def standard : Factory := fun m d => do
  let made ← transport m d
  Making.write [⟨.debug, "created " ++ d.scheme ++ " client for " ++ d.endpoint⟩]
  pure made

end Factory

/-- Factories under names. -/
structure FactoryRegistry where
  factories : Dictionary Factory

namespace FactoryRegistry

/-- The registry that a program starts with. -/
def standard : FactoryRegistry := ⟨Dictionary.empty.insert Factory.standardName Factory.standard⟩

/-- Registers a factory, in place of an earlier one of the same name. -/
def register (r : FactoryRegistry) (name : String) (factory : Factory) : FactoryRegistry :=
  ⟨r.factories.insert name factory⟩

/-- The log of registering a factory. -/
def registerLog (name : String) : List LogRecord := [⟨.info, "registering client factory " ++ name⟩]

/-- Whether there is a factory of a name. -/
def has (r : FactoryRegistry) (name : String) : Bool := r.factories.contains name

/-- The transport that a factory makes for a descriptor; the standard one does unless another is named. -/
def make (r : FactoryRegistry) (m : Machine) (d : Dsn) (chosen : Option String) :
    Making TransportSetup :=
  let name := chosen.getD Factory.standardName
  match r.factories.get? name with
  | some factory => factory m d
  | none => Making.ofExcept (.error (.unknownFactory name))

/-- The transport for the descriptor that a lookup finds, if it finds one. -/
def makeFromLookup (r : FactoryRegistry) (m : Machine) (l : DsnLookup) (env : Environment) :
    Making (Option TransportSetup) := do
  Making.write (l.log env)
  match l.find? env with
  | none => pure none
  | some text =>
    let d ← Making.ofExcept ((Dsn.read? text).mapError .invalidDsn)
    let made ← r.make m d none
    pure (some made)

end FactoryRegistry

end ErrorReport
