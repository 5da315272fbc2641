import ErrorReport.Text.Hex
import ErrorReport.Text.Utf8

/-!
# The cyclic redundancy check CRC-32

The reflected polynomial is EDB88320, the register starts with all bits set and all bits are flipped
at the end.  `step` feeds one bit, `byte` eight of them.
-/

set_option autoImplicit false

namespace ErrorReport.Checksum.Crc32

/-- The polynomial, lowest power in the highest bit. -/
def polynomial : BitVec 32 := 0xEDB88320#32

/-- Shifts the register by one bit. -/
def step (register : BitVec 32) : BitVec 32 :=
  if register.getLsbD 0 then (register >>> 1) ^^^ polynomial else register >>> 1

/-- Shifts the register by several bits. -/
def steps : Nat → BitVec 32 → BitVec 32
  | 0, register => register
  | count + 1, register => steps count (step register)

/-- Feeds one byte. -/
def byte (register : BitVec 32) (b : UInt8) : BitVec 32 :=
  steps 8 (register ^^^ b.toBitVec.setWidth 32)

/-- Feeds bytes one after the other. -/
def feed (register : BitVec 32) (bytes : List UInt8) : BitVec 32 := bytes.foldl byte register

/-- The check of a list of bytes. -/
def sum (bytes : List UInt8) : BitVec 32 := ~~~(feed 0xFFFFFFFF#32 bytes)

/-- The check as eight upper-case digits. -/
def text (bytes : List UInt8) : List Char := Text.Hex.fixed Text.Hex.upperDigit 8 (sum bytes).toNat

end ErrorReport.Checksum.Crc32
