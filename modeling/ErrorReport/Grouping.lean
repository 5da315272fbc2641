import ErrorReport.Checksum.Crc32
import ErrorReport.Checksum.Sha256
import ErrorReport.Exception

/-!
# Grouping

The backend groups events that carry the same checksum.  The checksum is taken of a signature: for an
error with a cause, one line for each frame of each error; otherwise the location of the call site.
Without either there is no signature, and grouping is left to the backend.
-/

set_option autoImplicit false

namespace ErrorReport

/-- The hash functions for signatures. -/
inductive Hasher where
  /-- Eight upper-case hexadecimal digits; the default. -/
  | crc32
  /-- Sixty-four lower-case hexadecimal digits. -/
  | sha256
  /-- A hash function of the application's own. -/
  | custom (hash : String → String)

/-- The checksum of a signature. -/
def Hasher.checksum (h : Hasher) (signature : String) : String :=
  match h with
  | crc32 => String.ofList (Checksum.Crc32.text (Text.bytesOf signature))
  | sha256 => String.ofList (Checksum.Sha256.text (Text.bytesOf signature))
  | custom hash => hash signature

namespace Grouping

/-- The default checksum. -/
def checksum (signature : String) : String := Hasher.crc32.checksum signature

/-- The line of a frame; an unknown file is written `null` and an unknown line `-1`. -/
def frameLine (f : Frame) : String :=
  f.modulePath ++ f.function ++ f.file.getD "null" ++ (f.line.map toString).getD "-1" ++ "\n"

/-- Appends the lines of some frames to a text. -/
def appendLines (text : String) (frames : List Frame) : String :=
  frames.foldl (fun text f => text ++ frameLine f) text

/-- The lines of all frames of a chain, outermost error first. -/
def chainSignature (c : Chain) : String :=
  c.exceptions.foldl (fun text e => appendLines text e.frames) ""

/-- The signature of an event that reports a chain from a call site. -/
def signature? (chain : Option Chain) (callSite : Option Frame) : Option String :=
  match chain.filter (·.hasCause), callSite with
  | some chain, _ => some (chainSignature chain)
  | none, some site => some site.location
  | none, none => none

end Grouping

end ErrorReport
