import ErrorReport.Dsn
import ErrorReport.Marshaller
import ErrorReport.Transport.Auth
import ErrorReport.Transport.Error

/-!
# Sending over UDP

An event is one datagram: the authentication line, an empty line and the document.  Whether a socket
can be opened, and which datagrams it takes, is up to the network the program runs in.  Both are
parameters here.
-/

set_option autoImplicit false

namespace ErrorReport

/-- The address that a host and a port stand for once a socket is open, or why none can be opened. -/
abbrev SocketOpener := (host : String) → (port : Nat) → Except String String

/-- Why a network does not take a datagram to an address, if it does not. -/
abbrev DatagramSender := (target : String) → (datagram : List UInt8) → Except String Unit

/-- A transport that sends events as datagrams. -/
structure UdpTransport where
  /-- The address of the receiver with its port. -/
  target : String
  publicKey : String
  secretKey : String
  marshaller : Marshaller

namespace UdpTransport

/-- The port of a descriptor without one. -/
def standardPort : Nat := 9001

/-- The transport for a descriptor. -/
def open? (openSocket : SocketOpener) (d : Dsn) (marshaller : Marshaller) :
    Except TransportError UdpTransport :=
  match openSocket d.host (d.port.getD standardPort) with
  | .ok target => .ok ⟨target, d.publicKey, d.secretKey, marshaller⟩
  | .error reason => .error (.io reason)

/-- The datagram that carries an event at a time in seconds. -/
def datagram? (t : UdpTransport) (e : Event) (now : Int) : Except TransportError (List UInt8) :=
  match t.marshaller.bytes? e with
  | .error cause => .error (.serialization cause)
  | .ok body =>
    .ok (Text.bytesOf (Transport.authLine t.publicKey t.secretKey now ++ "\n\n") ++ body)

/-- What sending a datagram comes to. -/
def outcome (t : UdpTransport) (sendTo : DatagramSender) (datagram : List UInt8) : Outcome :=
  match sendTo t.target datagram with
  | .ok () => .done
  | .error reason => .failed (.io reason)

/-- Sends an event at a time in seconds: what it comes to, and the log. -/
def send (t : UdpTransport) (sendTo : DatagramSender) (e : Event) (now : Int) :
    Outcome × List LogRecord :=
  match t.datagram? e now with
  | .error error => (.failed error, t.marshaller.log e)
  | .ok datagram => (t.outcome sendTo datagram, t.marshaller.log e)

/-- The transport as a diagnostic shows it. -/
def shown (t : UdpTransport) : Text.Shown :=
  .record "UdpTransport" [("target", .plain t.target), ("public_key", .quote t.publicKey)] true

end UdpTransport

end ErrorReport
