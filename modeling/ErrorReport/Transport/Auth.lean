import ErrorReport.Checksum.Sha256
import ErrorReport.Text.Utf8

/-!
# The authentication line

Every report carries one line that names the protocol, the client, the time and both keys, and signs the
time and the public key with the secret one.
-/

set_option autoImplicit false

namespace ErrorReport.Transport

/-- The version of the protocol. -/
def protocolVersion : String := "3"

/-- How the client calls itself. -/
def clientName : String := "raven-rs/3.1"

/-- The time in seconds and the public key, signed with the secret key. -/
def signature (publicKey secretKey : String) (timestamp : Int) : String :=
  String.ofList (Text.Hex.ofBytes (Checksum.Sha256.hmac (Text.bytesOf secretKey)
    (Text.bytesOf (toString timestamp ++ " " ++ publicKey))))

/-- The authentication line for two keys and a time in seconds. -/
def authLine (publicKey secretKey : String) (timestamp : Int) : String :=
  "Sentry sentry_version=" ++ protocolVersion ++ ",sentry_client=" ++ clientName
    ++ ",sentry_timestamp=" ++ toString timestamp ++ ",sentry_key=" ++ publicKey
    ++ ",sentry_secret=" ++ secretKey
    ++ ",sentry_signature=" ++ signature publicKey secretKey timestamp

end ErrorReport.Transport
