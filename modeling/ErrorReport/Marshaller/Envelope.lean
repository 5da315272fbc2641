import ErrorReport.Text.Utf8

/-!
# Envelopes

A compressed document travels as text: a zlib stream in Base64.  `Envelope.zlib` is a stream of stored
blocks, which every reader of such streams accepts; how short another writer makes the stream is not
part of the format.
-/

set_option autoImplicit false

namespace ErrorReport.Envelope

/-- The two sums of a zlib stream's checksum, after some bytes. -/
def adlerSums (bytes : List UInt8) : Nat × Nat :=
  bytes.foldl (fun s b => ((s.1 + b.toNat) % 65521, (s.2 + (s.1 + b.toNat) % 65521) % 65521)) (1, 0)

/-- The checksum at the end of a zlib stream, as four bytes. -/
def adler (bytes : List UInt8) : List UInt8 :=
  let (a, b) := adlerSums bytes
  [UInt8.ofNat (b / 256), UInt8.ofNat (b % 256), UInt8.ofNat (a / 256), UInt8.ofNat (a % 256)]

/-- A number in two bytes, the low one first. -/
def twoBytes (n : Nat) : List UInt8 := [UInt8.ofNat (n % 256), UInt8.ofNat (n / 256 % 256)]

/-- How many bytes a stored block holds at most. -/
def blockSize : Nat := 65535

/-- Bytes in stored blocks. -/
def blocks (bytes : List UInt8) : List UInt8 :=
  let head := bytes.take blockSize
  let header (isLast : UInt8) := isLast :: twoBytes head.length ++ twoBytes (65535 - head.length)
  if bytes.length ≤ blockSize then header 1 ++ head
  else header 0 ++ head ++ blocks (bytes.drop blockSize)
termination_by bytes.length
decreasing_by
  simp only [List.length_drop, blockSize] at *
  omega

/-- A zlib stream that inflates to the bytes. -/
def zlib (bytes : List UInt8) : List UInt8 := [0x78, 0x01] ++ blocks bytes ++ adler bytes

/-- The digit for a value below sixty-four. -/
def base64Digit (n : Nat) : UInt8 :=
  if n < 26 then UInt8.ofNat (65 + n)
  else if n < 52 then UInt8.ofNat (71 + n)
  else if n < 62 then UInt8.ofNat (n - 4)
  else if n = 62 then 43
  else 47

/-- Base64 with padding. -/
def base64 : List UInt8 → List UInt8
  | a :: b :: c :: rest =>
    let n := a.toNat * 65536 + b.toNat * 256 + c.toNat
    base64Digit (n / 262144) :: base64Digit (n / 4096 % 64) :: base64Digit (n / 64 % 64)
      :: base64Digit (n % 64) :: base64 rest
  | [a, b] =>
    let n := a.toNat * 256 + b.toNat
    [base64Digit (n / 1024), base64Digit (n / 16 % 64), base64Digit (n * 4 % 64), 61]
  | [a] => [base64Digit (a.toNat / 4), base64Digit (a.toNat * 16 % 64), 61, 61]
  | [] => []

/-- A document in its envelope. -/
def wrap (document : List UInt8) : List UInt8 := base64 (zlib document)

end ErrorReport.Envelope
