import ErrorReport.Text.Range
import ErrorReport.Url.Idna.Table.Allowed
import ErrorReport.Url.Idna.Table.Alphabets
import ErrorReport.Url.Idna.Table.Ideographs
import ErrorReport.Url.Idna.Table.Supplementary

/-!
# Mapping the characters of a domain name

Before a domain name is looked at, each of its characters is mapped: capitals to small letters,
compatibility forms to the plain characters, and some characters to nothing.  Characters without a
mapping are not allowed.
-/

set_option autoImplicit false

namespace ErrorReport.Url.Idna

/-- Whether a character above ASCII stays as it is. -/
def isKept (c : Char) : Bool :=
  if c.toNat < 0x3000 then Text.inRanges allowedLow c else Text.inRanges allowedHigh c

/-- The runs to search for a code point. -/
def runsFor (n : Nat) : List Run :=
  if n < 0x2000 then alphabetRuns
  else if n < 0x3000 then symbolRuns
  else if n < 0xFB00 then ideographRuns
  else if n < 0x10000 then presentationRuns
  else if n < 0x2F800 then supplementaryRuns
  else compatibilityRuns

/-- The sequences to search for a code point. -/
def sequencesFor (n : Nat) : List (Nat × List Nat) :=
  if n < 0x3000 then alphabetSequences
  else if n < 0xFB00 then ideographSequences
  else if n < 0x10000 then presentationSequences
  else supplementarySequences

/-- What a character above ASCII becomes. -/
def mapHigh? (c : Char) : Option (List Char) :=
  if isKept c then some [c]
  else if Text.inRanges ignoredRanges c then some []
  else
    match (runsFor c.toNat).findSome? (·.image? c.toNat) with
    | some n => some [Char.ofNat n]
    | none => ((sequencesFor c.toNat).lookup c.toNat).map (·.map Char.ofNat)

/-- What a character becomes; `none` where it is not allowed. -/
def map? (c : Char) : Option (List Char) :=
  if c.toNat < 128 then some [c.toLower] else mapHigh? c

end ErrorReport.Url.Idna
