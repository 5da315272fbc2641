import ErrorReport.Text.Split
import ErrorReport.Url.Punycode
import ErrorReport.Url.Idna.Mapping
import ErrorReport.Url.Idna.Label

/-!
# International domain names

`Idna.toAscii?` turns the domain name of a URL into the ASCII form under which it is looked up: its
characters are mapped and composed, labels written in Punycode are read, each label is checked, and
labels with characters outside ASCII are written in Punycode.  A plain ASCII name is only put into
lower case.  Either way the outcome must be free of the characters that delimit parts of a URL.
-/

set_option autoImplicit false

namespace ErrorReport.Url.Idna

/-- A character that no domain name may hold. -/
def isForbidden (c : Char) : Bool :=
  c.toNat ≤ 0x20 || c.toNat == 0x7F || ['%', '#', '/', ':', '<', '>', '?', '@', '[', '\\', ']', '^', '|'].contains c

/-- The mark of a label written in Punycode. -/
def mark : List Char := ['x', 'n', '-', '-']

/-- Whether a text is all ASCII. -/
def isAscii (s : List Char) : Bool := s.all (·.toNat < 128)

/-- The labels of a name. -/
def labels (name : List Char) : List (List Char) := Text.pieces (· == '.') name

/-- Whether a name needs no more than lower case: ASCII without a label in Punycode. -/
def isPlain (name : List Char) : Bool :=
  isAscii name && (labels name).all fun label => !mark.isPrefixOf (label.map Char.toLower)

/-- The characters that a mapped label stands for, if the label is in order by itself. -/
def labelText? (label : List Char) : Option (List Char) :=
  match mark.isPrefixOf? label with
  | some code =>
    (Punycode.decode? code).filter fun text =>
      !isAscii text && !mark.isPrefixOf text && composed text == text
        && text.all (fun c => map? c == some [c]) && isSound text
  | none => if isSound label then some label else none

/-- The ASCII form of a label. -/
def labelAscii (label : List Char) : List Char :=
  if isAscii label then label else mark ++ Punycode.encode label

/-- The ASCII form of a name that needs more than lower case. -/
def fullAscii? (name : List Char) : Option (List Char) := do
  let mapped ← name.mapM map?
  let texts ← (labels (composed mapped.flatten)).mapM labelText?
  if texts.any (·.any isRightToLeft) && !texts.all isDirected then none
  else if texts.any (·.any isForbidden) then none
  else some (Text.joinWith ['.'] (texts.map labelAscii))

/-- The ASCII form of a domain name. -/
def toAscii? (name : List Char) : Option (List Char) :=
  if isPlain name then
    if name.any isForbidden then none else some (name.map Char.toLower)
  else fullAscii? name

end ErrorReport.Url.Idna
