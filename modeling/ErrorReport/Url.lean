import ErrorReport.Text.Blank
import ErrorReport.Text.Form
import ErrorReport.Text.Percent
import ErrorReport.Url.Host
import ErrorReport.Url.Path
import ErrorReport.Url.Scheme

/-!
# URLs

`Url.read?` reads an absolute URL.  Schemes are of three sorts: the ones whose hosts are looked up,
files, and all others.  Blanks and control characters at the ends are dropped, and line breaks and
tabulators anywhere.

It reads as a reader in common use does, which departs from the standard for the web in three things.
Behind a scheme of the third sort a backslash directly behind a port ends the port, and user info that
says nothing may stand where no host follows; the standard fails on both.  And in a path of any scheme
`..` does not go back over the name of a drive, which the standard has for files only.

The components of a `Url` are kept as they were written, escapes included; only the scheme is in lower
case, the host in its printed form, a port that the scheme implies left out, and the path followed.
-/

set_option autoImplicit false

namespace ErrorReport

/-- A URL. -/
structure Url where
  /-- The scheme in lower case. -/
  scheme : List Char
  /-- The name in front of the host, as written. -/
  user : List Char := []
  /-- What follows the name after a colon, as written; never empty. -/
  password : Option (List Char) := none
  /-- The host. -/
  host : Option Host := none
  /-- The port, unless the scheme implies it. -/
  port : Option Nat := none
  /-- The segments of the path, as written. -/
  path : List (List Char) := []
  /-- What follows the question mark. -/
  query : Option (List Char) := none
  /-- What follows the number sign. -/
  fragment : Option (List Char) := none
  deriving DecidableEq, Repr

namespace Url

/-- The text without the blanks and control characters at its ends and without line breaks and
tabulators. -/
def cleaned (text : List Char) : List Char :=
  (Text.trimBy (fun c => decide (c.toNat ≤ 0x20)) text).filter fun c => c != '\t' && c != '\n' && c != '\r'

/-- A character of a scheme. -/
def isSchemeChar (c : Char) : Bool := c.isAlphanum || c == '+' || c == '-' || c == '.'

/-- The scheme in lower case and what follows its colon. -/
def splitScheme? (text : List Char) : Option (List Char × List Char) :=
  match text, text.dropWhile isSchemeChar with
  | first :: _, ':' :: rest =>
    if first.isAlpha then some ((text.takeWhile isSchemeChar).map Char.toLower, rest) else none
  | _, _ => none

/-- Who is to be asked for: the part of a URL before the last `@` in front of the host. -/
structure Credentials where
  user : List Char := []
  password : Option (List Char) := none

/-- Reads a name and a password; an empty password is none. -/
def Credentials.read (text : List Char) : Credentials :=
  match Text.splitOnce? [':'] text with
  | some (user, []) => ⟨user, none⟩
  | some (user, password) => ⟨user, some password⟩
  | none => ⟨text, none⟩

/-- Whether there is neither a name nor a password. -/
def Credentials.isEmpty (c : Credentials) : Bool := c.user.isEmpty && c.password.isNone

/-- The credentials and what follows them. -/
def splitCredentials? (kind : SchemeKind) (text : List Char) :
    Except UrlError (Credentials × List Char) :=
  let authority := text.takeWhile fun c => !kind.endsAuthority c
  let rest := text.dropWhile fun c => !kind.endsAuthority c
  match Text.splitLast? ['@'] authority with
  | none => .ok (⟨[], none⟩, text)
  | some ([], []) => if rest.isEmpty then .ok (⟨[], none⟩, rest) else .error .emptyHost
  | some (written, host) => .ok (.read written, host ++ rest)

/-- The text of a host and what follows it: a colon within brackets belongs to the host. -/
def splitHost (kind : SchemeKind) : (inBrackets : Bool) → List Char → List Char × List Char
  | _, [] => ([], [])
  | inBrackets, c :: rest =>
    if kind.endsAuthority c || (c == ':' && !inBrackets) then ([], c :: rest)
    else
      let (host, after) := splitHost kind (c == '[' || (inBrackets && c != ']')) rest
      (c :: host, after)

/-- Reads a host; a scheme of no special sort may do without. -/
def host? (kind : SchemeKind) (written : List Char) : Except UrlError (Option Host) :=
  if kind.isSpecial then
    if written.isEmpty then .error .emptyHost else (Host.ofDomain? written).map some
  else if written.isEmpty then .ok none
  else (Host.ofOpaque? written).map some

/-- Reads decimal digits as a port; `none` where there are none. -/
def portNumber? (kind : SchemeKind) (digits : List Char) : Except UrlError (Option Nat) :=
  let n := digits.foldl (fun n c => n * 10 + (c.toNat - 48)) 0
  if 65535 < n then .error .invalidPort
  else if digits.isEmpty || kind = .network n then .ok none
  else .ok (some n)

/-- Reads the port after a host, and what follows it. -/
def splitPort? (kind : SchemeKind) : List Char → Except UrlError (Option Nat × List Char)
  | ':' :: rest =>
    let after := rest.dropWhile Char.isDigit
    if after.head?.all fun c => c == '/' || c == '\\' || c == '?' || c == '#' then
      (portNumber? kind (rest.takeWhile Char.isDigit)).map (·, after)
    else .error .invalidPort
  | rest => .ok (none, rest)

/-- Reads the segments of a path that follows a host. -/
def segments (kind : SchemeKind) (text : List Char) : List (List Char) :=
  match text with
  | [] => if kind.isSpecial then [[]] else []
  | c :: rest => Path.follow (Text.pieces kind.isSlash (if kind.isSlash c then rest else text))

/-- The query and the fragment. -/
def splitQuery : List Char → Option (List Char) × Option (List Char)
  | '?' :: rest =>
    match Text.splitOnce? ['#'] rest with
    | some (query, fragment) => (some query, some fragment)
    | none => (some rest, none)
  | '#' :: fragment => (none, some fragment)
  | _ => (none, none)

/-- A character that ends the path. -/
def endsPath (c : Char) : Bool := c == '?' || c == '#'

/-- The URL with the path, query and fragment that a text gives. -/
def withRest (url : Url) (kind : SchemeKind) (text : List Char) : Url :=
  let (query, fragment) := splitQuery (text.dropWhile fun c => !endsPath c)
  { url with
    path := segments kind (text.takeWhile fun c => !endsPath c)
    query := query, fragment := fragment }

/-- Reads what follows the two slashes before a host. -/
def ofAuthority? (scheme : List Char) (kind : SchemeKind) (text : List Char) : Except UrlError Url := do
  let (credentials, afterUser) ← splitCredentials? kind text
  let (written, afterHost) := splitHost kind false afterUser
  let host ← host? kind written
  if host.isNone && afterHost.head? == some ':' then .error .emptyHost
  else
    let (port, rest) ← splitPort? kind afterHost
    if host.isNone && !credentials.isEmpty then .error .emptyHost
    else
      .ok <| withRest
        { scheme := scheme, user := credentials.user, password := credentials.password,
          host := host, port := port } kind rest

/-- Reads what follows the two slashes of a file: a host without credentials and port.  The host of
this very machine is not named, and a drive has no host. -/
def ofFile? (scheme : List Char) (text : List Char) : Except UrlError Url := do
  let written := text.takeWhile fun c => !SchemeKind.file.endsAuthority c
  let rest := text.dropWhile fun c => !SchemeKind.file.endsAuthority c
  if written.isEmpty || Path.isDrive written then .ok (withRest { scheme := scheme } .file text)
  else
    let host ← Host.ofDomain? written
    let url := withRest { scheme := scheme, host := some host } .file rest
    if host = .name "localhost".toList || url.path.head?.any Path.isDrive then
      .ok { url with host := none }
    else .ok url

/-- Reads an absolute URL. -/
def read? (text : List Char) : Except UrlError Url :=
  match splitScheme? (cleaned text) with
  | none => .error .noScheme
  | some (scheme, rest) =>
    match SchemeKind.ofScheme scheme, rest with
    | .network port, rest => ofAuthority? scheme (.network port) (rest.dropWhile (SchemeKind.network port).isSlash)
    | .file, a :: b :: text =>
      if SchemeKind.file.isSlash a && SchemeKind.file.isSlash b then ofFile? scheme text
      else .ok (withRest { scheme := scheme } .file (a :: b :: text))
    | .other, '/' :: '/' :: text => ofAuthority? scheme .other text
    | kind, rest => .ok (withRest { scheme := scheme } kind rest)

/-- A character that is escaped in the path of a request. -/
def isReservedInPath (c : Char) : Bool :=
  [' ', '"', '#', '<', '>', '?', '\x60', '\x7b', '\x7d'].contains c

/-- A character that is escaped in the query of a request. -/
def isReservedInQuery (c : Char) : Bool := [' ', '"', '#', '<', '>', '\''].contains c

/-- What a request for a URL asks for: the path and the query, with escapes. -/
def target (url : Url) : List Char :=
  (url.path.flatMap fun segment => '/' :: Text.Percent.encode isReservedInPath segment)
    ++ match url.query with
      | some query => '?' :: Text.Percent.encode isReservedInQuery query
      | none => []

/-- The pairs of the query. -/
def options (url : Url) : List (String × String) := Text.Form.read (url.query.getD [])

end Url

end ErrorReport
