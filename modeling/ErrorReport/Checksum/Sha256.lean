import ErrorReport.Text.Hex

/-!
# The hash SHA-256 and its keyed form

The message is padded to blocks of sixteen words, each block is expanded to a schedule of sixty-four
words, and as many rounds mix the schedule into eight registers.  `hmac` is the keyed hash built from
two passes over a padded key.
-/

set_option autoImplicit false

namespace ErrorReport.Checksum.Sha256

/-- The eight registers. -/
structure Registers where
  a : UInt32
  b : UInt32
  c : UInt32
  d : UInt32
  e : UInt32
  f : UInt32
  g : UInt32
  h : UInt32
  deriving DecidableEq, Repr, Inhabited

/-- Adds register by register. -/
def Registers.add (x y : Registers) : Registers :=
  ⟨x.a + y.a, x.b + y.b, x.c + y.c, x.d + y.d, x.e + y.e, x.f + y.f, x.g + y.g, x.h + y.h⟩

/-- The fractional parts of the square roots of the first eight primes. -/
def initial : Registers :=
  ⟨0x6a09e667, 0xbb67ae85, 0x3c6ef372, 0xa54ff53a, 0x510e527f, 0x9b05688c, 0x1f83d9ab, 0x5be0cd19⟩

/-- The fractional parts of the cube roots of the first sixty-four primes. -/
def roundConstants : List UInt32 := [
  0x428a2f98, 0x71374491, 0xb5c0fbcf, 0xe9b5dba5, 0x3956c25b, 0x59f111f1, 0x923f82a4, 0xab1c5ed5,
  0xd807aa98, 0x12835b01, 0x243185be, 0x550c7dc3, 0x72be5d74, 0x80deb1fe, 0x9bdc06a7, 0xc19bf174,
  0xe49b69c1, 0xefbe4786, 0x0fc19dc6, 0x240ca1cc, 0x2de92c6f, 0x4a7484aa, 0x5cb0a9dc, 0x76f988da,
  0x983e5152, 0xa831c66d, 0xb00327c8, 0xbf597fc7, 0xc6e00bf3, 0xd5a79147, 0x06ca6351, 0x14292967,
  0x27b70a85, 0x2e1b2138, 0x4d2c6dfc, 0x53380d13, 0x650a7354, 0x766a0abb, 0x81c2c92e, 0x92722c85,
  0xa2bfe8a1, 0xa81a664b, 0xc24b8b70, 0xc76c51a3, 0xd192e819, 0xd6990624, 0xf40e3585, 0x106aa070,
  0x19a4c116, 0x1e376c08, 0x2748774c, 0x34b0bcb5, 0x391c0cb3, 0x4ed8aa4a, 0x5b9cca4f, 0x682e6ff3,
  0x748f82ee, 0x78a5636f, 0x84c87814, 0x8cc70208, 0x90befffa, 0xa4506ceb, 0xbef9a3f7, 0xc67178f2]

/-- Rotation to the right. -/
def rotr (x : UInt32) (n : UInt32) : UInt32 := (x >>> n) ||| (x <<< (32 - n))

/-- One round with a round constant and a word of the schedule. -/
def round (r : Registers) (k w : UInt32) : Registers :=
  let s1 := rotr r.e 6 ^^^ rotr r.e 11 ^^^ rotr r.e 25
  let choice := (r.e &&& r.f) ^^^ (~~~r.e &&& r.g)
  let t1 := r.h + s1 + choice + k + w
  let s0 := rotr r.a 2 ^^^ rotr r.a 13 ^^^ rotr r.a 22
  let majority := (r.a &&& r.b) ^^^ (r.a &&& r.c) ^^^ (r.b &&& r.c)
  ⟨t1 + (s0 + majority), r.a, r.b, r.c, r.d + t1, r.e, r.f, r.g⟩

/-- The rounds with the remaining constants; the schedule is extended by one word a round, so that
only the last sixteen words are kept. -/
def rounds (r : Registers) : List UInt32 → List UInt32 → Registers
  | k :: ks, w :: window =>
    let next :=
      match window[0]?, window[8]?, window[13]? with
      | some w1, some w9, some w14 =>
        let s0 := rotr w1 7 ^^^ rotr w1 18 ^^^ (w1 >>> 3)
        let s1 := rotr w14 17 ^^^ rotr w14 19 ^^^ (w14 >>> 10)
        w + s0 + w9 + s1
      | _, _, _ => 0
    rounds (round r k w) ks (window ++ [next])
  | _, _ => r

/-- Four bytes to a word, the highest byte first. -/
def words : List UInt8 → List UInt32
  | a :: b :: c :: d :: rest =>
    ((a.toUInt32 <<< 24) ||| (b.toUInt32 <<< 16) ||| (c.toUInt32 <<< 8) ||| d.toUInt32) :: words rest
  | _ => []

/-- A number as `count` bytes, the highest first. -/
def bigEndian (count n : Nat) : List UInt8 :=
  match count with
  | 0 => []
  | count + 1 => bigEndian count (n / 256) ++ [UInt8.ofNat (n % 256)]

@[simp] theorem length_bigEndian (count n : Nat) : (bigEndian count n).length = count := by
  induction count generalizing n with
  | zero => rfl
  | succ count ih => rw [bigEndian, List.length_append, ih, List.length_singleton]

/-- The message with its end mark, zeros up to a whole number of blocks, and its length in bits. -/
def padded (message : List UInt8) : List UInt8 :=
  let zeros := (119 - message.length % 64) % 64
  message ++ 0x80 :: List.replicate zeros 0 ++ bigEndian 8 (8 * message.length)

/-- Mixes the blocks into the registers, sixteen words at a time. -/
def blocks (r : Registers) : Nat → List UInt32 → Registers
  | 0, _ => r
  | count + 1, ws => blocks (r.add (rounds r roundConstants (ws.take 16))) count (ws.drop 16)

/-- The thirty-two bytes of the hash. -/
def digest (message : List UInt8) : List UInt8 :=
  let p := padded message
  let r := blocks initial (p.length / 64) (words p)
  [r.a, r.b, r.c, r.d, r.e, r.f, r.g, r.h].flatMap fun w => bigEndian 4 w.toNat

@[simp] theorem length_digest (message : List UInt8) : (digest message).length = 32 := by
  simp [digest]

/-- The hash in hexadecimal digits. -/
def text (message : List UInt8) : List Char := Text.Hex.ofBytes (digest message)

/-- A key of one block: a longer one is hashed first, then zeros are appended. -/
def blockKey (key : List UInt8) : List UInt8 :=
  let key := if 64 < key.length then digest key else key
  key ++ List.replicate (64 - key.length) 0

/-- The keyed hash HMAC-SHA-256. -/
def hmac (key message : List UInt8) : List UInt8 :=
  let key := blockKey key
  digest (key.map (· ^^^ 0x5C) ++ digest (key.map (· ^^^ 0x36) ++ message))

@[simp] theorem length_hmac (key message : List UInt8) : (hmac key message).length = 32 :=
  length_digest _

end ErrorReport.Checksum.Sha256
