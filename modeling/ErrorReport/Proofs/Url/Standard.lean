import ErrorReport.Url
import Mathlib.Data.List.DropRight

/-!
# The standard for URLs

The standard for URLs describes a machine that goes over a text character by character and is in one
of several states.  `Standard.parse` is that machine, with no other URL to start from.  Each state is
a function of what is left of the text, and where the standard sets its pointer back, a state hands
on what it had put into its buffer.

Only what decides on failure is there: the machine collects no parts, and stops where a path starts,
because from there on it cannot fail.  What it takes for a host goes to `Host.ofDomain?` or
`Host.ofOpaque?`, as it does in `Url.read?`.

`Url.read?` accepts more than the standard in two places, both of them behind a scheme that is not
special: a backslash directly behind a port ends the port, as it does behind a special scheme, and
user info that says nothing may stand where no host follows, if it is a colon, or if it is empty and
the text ends with it.  `Standard.Failure.IsForgiven` describes these two.
-/

set_option autoImplicit false

namespace ErrorReport.Url

namespace Standard

/-! ## The machine -/

/-- Why the machine fails. -/
inductive Failure where
  /-- There is no scheme, and no other URL to take one from. -/
  | schemeMissing
  /-- Between user info and the end of the authority there is no host. -/
  | hostMissingBehindUser (isSpecial : Bool) (user rest : List Char)
  /-- There is no host in front of a port, or behind a special scheme. -/
  | hostMissing
  | hostInvalid (reason : UrlError)
  /-- The digits of a port are followed by something that does not end it. -/
  | portInvalid (digits : List Char) (found : Char)
  | portOutOfRange
  deriving DecidableEq, Repr

/-- The schemes that are special. -/
def specialSchemes : List String := ["ftp", "file", "http", "https", "ws", "wss"]

/-- A character that ends a host or a port, as the end of the text does. -/
def ends (isSpecial : Bool) (c : Char) : Bool :=
  ['/', '?', '#'].contains c || (isSpecial && c == '\\')

/-- The end of a port. -/
def portEnd (digits : List Char) : Except Failure Unit :=
  if 65535 < Nat.ofDigitChars 10 digits 0 then .error .portOutOfRange else .ok ()

/-- The state for a port. -/
def port (isSpecial : Bool) (buffer : List Char) : List Char → Except Failure Unit
  | [] => portEnd buffer
  | c :: rest =>
    if c.isDigit then port isSpecial (buffer ++ [c]) rest
    else if ends isSpecial c then portEnd buffer
    else .error (.portInvalid buffer c)

/-- A host is a name to be looked up, or stands for itself. -/
def hostParser (isSpecial : Bool) (text : List Char) : Except Failure Unit :=
  match if isSpecial then Host.ofDomain? text else Host.ofOpaque? text with
  | .ok _ => .ok ()
  | .error reason => .error (.hostInvalid reason)

/-- The end of a host with no port. -/
def hostEnd (isSpecial : Bool) (buffer : List Char) : Except Failure Unit :=
  if isSpecial && buffer.isEmpty then .error .hostMissing else hostParser isSpecial buffer

/-- The end of a host in front of a port. -/
def hostColon (isSpecial : Bool) (buffer rest : List Char) : Except Failure Unit :=
  if buffer.isEmpty then .error .hostMissing
  else (hostParser isSpecial buffer).bind fun () => port isSpecial [] rest

/-- The state for a host. -/
def host (isSpecial inBrackets : Bool) (buffer : List Char) : List Char → Except Failure Unit
  | [] => hostEnd isSpecial buffer
  | c :: rest =>
    if c = ':' ∧ inBrackets = false then hostColon isSpecial buffer rest
    else if ends isSpecial c then hostEnd isSpecial buffer
    else
      host isSpecial (if c = '[' then true else if c = ']' then false else inBrackets)
        (buffer ++ [c]) rest

/-- The end of an authority: the host is read from where the user info ended. -/
def authorityEnd (isSpecial : Bool) (user : Option (List Char)) (buffer rest : List Char) :
    Except Failure Unit :=
  match user with
  | some user =>
    if buffer.isEmpty then .error (.hostMissingBehindUser isSpecial user rest)
    else host isSpecial false [] (buffer ++ rest)
  | none => host isSpecial false [] (buffer ++ rest)

/-- The user info up to a mark, where the earlier ones were not the last. -/
def joined (user : Option (List Char)) (buffer : List Char) : List Char :=
  match user with
  | some user => user ++ '@' :: buffer
  | none => buffer

/-- The state for user info and what follows it. -/
def authority (isSpecial : Bool) (user : Option (List Char)) (buffer : List Char) :
    List Char → Except Failure Unit
  | [] => authorityEnd isSpecial user buffer []
  | c :: rest =>
    if c = '@' then authority isSpecial (some (joined user buffer)) [] rest
    else if ends isSpecial c then authorityEnd isSpecial user buffer (c :: rest)
    else authority isSpecial user (buffer ++ [c]) rest

/-- The state for more slashes than there should be. -/
def ignoreSlashes : List Char → Except Failure Unit
  | [] => authority true none [] []
  | c :: rest =>
    if c = '/' ∨ c = '\\' then ignoreSlashes rest else authority true none [] (c :: rest)

/-- The state behind a special scheme. -/
def specialAuthoritySlashes : List Char → Except Failure Unit
  | '/' :: '/' :: rest => ignoreSlashes rest
  | rest => ignoreSlashes rest

/-- The state behind one slash, where the scheme is not special. -/
def pathOrAuthority : List Char → Except Failure Unit
  | '/' :: rest => authority false none [] rest
  | _ => .ok ()

/-- The end of the host of a file. -/
def fileHostEnd (buffer : List Char) : Except Failure Unit :=
  if Path.isDrive buffer || buffer.isEmpty then .ok () else hostParser true buffer

/-- The state for the host of a file. -/
def fileHost (buffer : List Char) : List Char → Except Failure Unit
  | [] => fileHostEnd buffer
  | c :: rest => if ends true c then fileHostEnd buffer else fileHost (buffer ++ [c]) rest

/-- The states for the two slashes behind the scheme of files. -/
def file : List Char → Except Failure Unit
  | a :: b :: rest =>
    if (a = '/' ∨ a = '\\') ∧ (b = '/' ∨ b = '\\') then fileHost [] rest else .ok ()
  | _ => .ok ()

/-- The end of a scheme that is not special; with no slash behind it, all the rest is a path. -/
def plainSchemeEnd : List Char → Except Failure Unit
  | '/' :: rest => pathOrAuthority rest
  | _ => .ok ()

/-- The end of a scheme. -/
def schemeEnd (scheme : String) (rest : List Char) : Except Failure Unit :=
  if scheme = "file" then file rest
  else if scheme ∈ specialSchemes then specialAuthoritySlashes rest
  else plainSchemeEnd rest

/-- The state for a scheme. -/
def scheme (buffer : List Char) : List Char → Except Failure Unit
  | [] => .error .schemeMissing
  | c :: rest =>
    if c.isAlphanum || ['+', '-', '.'].contains c then scheme (buffer ++ [c.toLower]) rest
    else if c = ':' then schemeEnd (String.ofList buffer) rest
    else .error .schemeMissing

/-- The first state. -/
def schemeStart : List Char → Except Failure Unit
  | [] => .error .schemeMissing
  | c :: rest => if c.isAlpha then scheme [c.toLower] rest else .error .schemeMissing

/-- Takes away what is not read: controls and blanks at the ends, and tabulators and line breaks. -/
def stripped (text : List Char) : List Char :=
  ((text.dropWhile fun c => c.toNat ≤ 0x20).rdropWhile fun c => c.toNat ≤ 0x20).filter
    fun c => c ∉ ['\t', '\n', '\r']

/-- **The standard for URLs.** -/
def parse (text : List Char) : Except Failure Unit := schemeStart (stripped text)

/-- The failures that the reader passes over. -/
def Failure.IsForgiven : Failure → Prop
  | hostMissingBehindUser isSpecial user rest =>
    isSpecial = false ∧ (user = [':'] ∨ user = [] ∧ rest = [])
  | portInvalid digits found => found = '\\' ∧ Nat.ofDigitChars 10 digits 0 ≤ 65535
  | schemeMissing | hostMissing | hostInvalid _ | portOutOfRange => False

/-- The standard fails on a text, and not in a way that is forgiven. -/
def Refuses (text : List Char) : Prop := ∃ failure, parse text = .error failure ∧ ¬failure.IsForgiven

end Standard

end ErrorReport.Url
