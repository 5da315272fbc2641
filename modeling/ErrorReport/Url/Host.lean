import ErrorReport.Text.Percent
import ErrorReport.Url.Idna
import ErrorReport.Url.Ipv4
import ErrorReport.Url.Ipv6

/-!
# Hosts

The host of a URL is a name or an address.  Where the scheme is one of those that look names up,
`Host.ofDomain?` makes a domain name or an address of the written text; for every other scheme
`Host.ofOpaque?` takes the text as it is.

`UrlError` lists all that can be wrong with a URL.
-/

set_option autoImplicit false

namespace ErrorReport

/-- Why a text is no URL. -/
inductive UrlError where
  | noScheme
  | emptyHost
  | invalidPort
  | invalidIpv4
  | invalidIpv6
  | invalidDomainCharacter
  | invalidInternationalName
  deriving DecidableEq, Repr

/-- The reason in words. -/
def UrlError.message : UrlError → String
  | noScheme => "relative URL without a base"
  | emptyHost => "empty host"
  | invalidPort => "invalid port number"
  | invalidIpv4 => "invalid IPv4 address"
  | invalidIpv6 => "invalid IPv6 address"
  | invalidDomainCharacter => "invalid domain character"
  | invalidInternationalName => "invalid international domain name"

/-- The host of a URL. -/
inductive Host where
  /-- A name. -/
  | name (text : List Char)
  /-- An address of four bytes, as one number. -/
  | ipv4 (address : Nat)
  /-- An address of eight groups. -/
  | ipv6 (groups : List Nat)
  deriving DecidableEq, Repr

namespace Host

/-- The host as it stands in a URL. -/
def text : Host → List Char
  | name text => text
  | ipv4 address => Url.Ipv4.text address
  | ipv6 groups => '[' :: Url.Ipv6.text groups ++ [']']

/-- Reads what follows an opening bracket: an IPv6 address and a closing one. -/
def ofBracketed? (rest : List Char) : Except UrlError Host :=
  match rest.reverse with
  | ']' :: address =>
    match Url.Ipv6.read? address.reverse with
    | some groups => .ok (ipv6 groups)
    | none => .error .invalidIpv6
  | _ => .error .invalidIpv6

/-- Reads a name that can be looked up, or an address. -/
def ofAscii? (ascii : List Char) : Except UrlError Host :=
  if ascii.isEmpty then .error .emptyHost
  else if Url.Ipv4.endsInNumber ascii then
    match Url.Ipv4.read? ascii with
    | some address => .ok (ipv4 address)
    | none => .error .invalidIpv4
  else .ok (name ascii)

/-- Reads a host whose name can be looked up. -/
def ofDomain? : List Char → Except UrlError Host
  | '[' :: rest => ofBracketed? rest
  | written =>
    match (Text.decode? (Text.Percent.decode written)).bind Url.Idna.toAscii? with
    | some ascii => ofAscii? ascii
    | none => .error .invalidInternationalName

/-- A character that ends or confuses a host. -/
def isForbidden (c : Char) : Bool :=
  ['\x00', '\t', '\n', '\r', ' ', '#', '/', ':', '<', '>', '?', '@', '[', '\\', ']', '^', '|'].contains c

/-- Reads a host whose name means nothing in general. -/
def ofOpaque? : List Char → Except UrlError Host
  | '[' :: rest => ofBracketed? rest
  | written =>
    if written.any isForbidden then .error .invalidDomainCharacter
    else .ok (name (Text.Percent.encode (fun _ => false) written))

end Host

end ErrorReport
