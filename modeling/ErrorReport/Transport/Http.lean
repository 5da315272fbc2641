import ErrorReport.Dsn
import ErrorReport.Marshaller
import ErrorReport.Text.Duration
import ErrorReport.Transport.Auth
import ErrorReport.Transport.Error

/-!
# Sending over HTTP

An event is posted to the store of its project.  A status from 400 on is a refusal: the server's
explanation goes to the log and settles the matter, and a refusal without one is an error.

`HttpTransport.request?` is what is sent, `HttpTransport.outcome` what a reply comes to, and
`HttpTransport.send` puts an `HttpServer` between the two.
-/

set_option autoImplicit false

namespace ErrorReport

/-- How to talk to the server. -/
structure HttpConfig where
  /-- How long to wait for a connection and for each piece of the reply, in milliseconds. -/
  timeout : Nat := 10000
  /-- Whether the name in the server's certificate may be any. -/
  bypassSecurity : Bool := false
  deriving DecidableEq, Repr

/-- The settings as a diagnostic shows them. -/
def HttpConfig.shown (c : HttpConfig) : Text.Shown :=
  .record "HttpTransportConfig" [("timeout", .plain (Text.durationText c.timeout)),
    ("bypass_security", .bool c.bypassSecurity)] false

/-- A transport that posts events to a server. -/
structure HttpTransport where
  storeUrl : String
  publicKey : String
  secretKey : String
  marshaller : Marshaller
  config : HttpConfig

/-- A request to the server. -/
structure HttpPost where
  url : String
  userAgent : String
  auth : String
  contentType : String
  body : List UInt8
  deriving DecidableEq, Repr

/-- What comes back. -/
inductive HttpReply where
  /-- A status, and the text that came with it. -/
  | answered (status : Nat) (text : String)
  /-- No answer. -/
  | failed (reason : String)
  deriving DecidableEq, Repr

/-- A server: what it answers to a request. -/
abbrev HttpServer := HttpPost → HttpReply

/-- Whether a text may stand in a header: it has no control characters but tabulators. -/
def isHeaderText (text : String) : Bool :=
  text.toList.all fun c => c == '\t' || (0x20 ≤ c.toNat && c.toNat != 0x7F)

namespace HttpPost

/-- What the first line of the request asks for; nothing, where the address is not one of the web. -/
def target? (p : HttpPost) : Option String :=
  match Url.read? p.url.toList with
  | .ok url =>
    if ["http".toList, "https".toList].contains url.scheme then some (String.ofList url.target) else none
  | .error _ => none

/-- Whether the request can be sent at all. -/
def isSendable (p : HttpPost) : Bool :=
  p.target?.isSome && [p.userAgent, p.auth, p.contentType].all isHeaderText

/-- What the request comes to; one that cannot be sent does not reach the server. -/
def exchange (p : HttpPost) (server : HttpServer) : HttpReply :=
  if p.isSendable then server p else .failed "request cannot be sent"

end HttpPost

/-- The address of the store of a descriptor's project. -/
def Dsn.storeUrl (d : Dsn) : String := d.endpoint ++ "api/" ++ d.projectId ++ "/store/"

namespace HttpTransport

/-- The transport for a descriptor. -/
def new (d : Dsn) (marshaller : Marshaller) (config : HttpConfig) : HttpTransport :=
  ⟨d.storeUrl, d.publicKey, d.secretKey, marshaller, config⟩

/-- The log of making a transport. -/
def creationLog (config : HttpConfig) : List LogRecord :=
  if config.bypassSecurity then [⟨.warn, "TLS host name verification is disabled"⟩] else []

/-- The request that carries an event at a time in seconds. -/
def request? (t : HttpTransport) (e : Event) (now : Int) : Except TransportError HttpPost :=
  match t.marshaller.bytes? e with
  | .error cause => .error (.serialization cause)
  | .ok body =>
    .ok ⟨t.storeUrl, Transport.clientName, Transport.authLine t.publicKey t.secretKey now,
      t.marshaller.contentType, body⟩

/-- The longest explanation that is read, in bytes. -/
def longestText : Nat := 10 * 1024 * 1024

/-- The explanation of a refusal; one that is too long is none. -/
def explanation (text : String) : String :=
  if longestText < text.utf8ByteSize then "" else Text.trim text

/-- The log record of a refusal that the server explained. -/
def refusal (e : Event) (status : Nat) (explanation : String) : LogRecord :=
  ⟨.error, "event " ++ e.id.simple ++ " rejected by server (" ++ toString status ++ "): " ++ explanation⟩

/-- What a reply comes to, and the log. -/
def outcome (e : Event) : HttpReply → Outcome × List LogRecord
  | .failed reason => (.failed (.io reason), [])
  | .answered status text =>
    if status < 400 then (.done, [])
    else if (explanation text).isEmpty then (.failed (.serverStatus status), [])
    else (.done, [refusal e status (explanation text)])

/-- Sends an event at a time in seconds: what it comes to, and the log. -/
def send (t : HttpTransport) (server : HttpServer) (e : Event) (now : Int) : Outcome × List LogRecord :=
  let (result, log) :=
    match t.request? e now with
    | .error error => (.failed error, [])
    | .ok post => outcome e (post.exchange server)
  (result, t.marshaller.log e ++ log)

/-- The transport as a diagnostic shows it. -/
def shown (t : HttpTransport) : Text.Shown :=
  .record "HttpTransport" [("store_url", .quote t.storeUrl), ("public_key", .quote t.publicKey)] true

end HttpTransport

end ErrorReport
