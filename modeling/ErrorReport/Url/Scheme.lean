/-!
# Sorts of schemes

A scheme decides how the rest of a URL is read: whether its host is looked up, whether it is that of a
file, and whether a backslash counts as a slash.
-/

set_option autoImplicit false

namespace ErrorReport.Url

/-- The sorts of schemes. -/
inductive SchemeKind where
  /-- Hosts of this scheme are looked up, and this is its usual port. -/
  | network (port : Nat)
  | file
  | other
  deriving DecidableEq, Repr

/-- The sort of a scheme. -/
def SchemeKind.ofScheme (scheme : List Char) : SchemeKind :=
  match String.ofList scheme with
  | "http" | "ws" => .network 80
  | "https" | "wss" => .network 443
  | "ftp" => .network 21
  | "file" => .file
  | _ => .other

/-- Whether a backslash counts as a slash. -/
def SchemeKind.isSpecial : SchemeKind → Bool
  | .network _ | .file => true
  | .other => false

/-- A slash, or a backslash where it counts as one. -/
def SchemeKind.isSlash (kind : SchemeKind) (c : Char) : Bool := c == '/' || (kind.isSpecial && c == '\\')

/-- A character that ends the part with host and port. -/
def SchemeKind.endsAuthority (kind : SchemeKind) (c : Char) : Bool := kind.isSlash c || c == '?' || c == '#'

end ErrorReport.Url
